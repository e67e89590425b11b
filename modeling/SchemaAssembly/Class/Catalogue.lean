import SchemaAssembly.Assoc

/-! The modules that exist without being defined, as tables of names. -/

namespace SchemaAssembly.Library

def words (lines : List String) : List String :=
  lines.flatMap (·.splitOn " ")

/-- The names of further modules: the classes, and the other objects. A class with a name of its own has it after
a colon. -/
def catalogue : Assoc (List String × List String) :=
  [("abc",
      ["ABC ABCMeta abstractclassmethod abstractproperty abstractstaticmethod"],
      ["abstractmethod get_cache_token update_abstractmethods"]),
    ("argparse",
      ["Action ArgumentDefaultsHelpFormatter ArgumentError ArgumentParser ArgumentTypeError",
       "BooleanOptionalAction FileType HelpFormatter MetavarTypeHelpFormatter Namespace",
       "RawDescriptionHelpFormatter RawTextHelpFormatter"],
      ["ONE_OR_MORE OPTIONAL PARSER REMAINDER SUPPRESS ZERO_OR_MORE ngettext warnings"]),
    ("array",
      ["ArrayType:array array"],
      ["typecodes"]),
    ("ast",
      ["AST Add And AnnAssign Assert Assign AsyncFor AsyncFunctionDef AsyncWith Attribute AugAssign AugLoad",
       "AugStore Await BinOp BitAnd BitOr BitXor BoolOp Break Bytes Call ClassDef Compare Constant Continue Del",
       "Delete Dict DictComp Div Ellipsis Eq ExceptHandler Expr Expression ExtSlice FloorDiv For FormattedValue",
       "FunctionDef FunctionType GeneratorExp Global Gt GtE If IfExp Import ImportFrom In Index IntEnum",
       "Interactive Invert Is IsNot JoinedStr LShift Lambda List ListComp Load Lt LtE MatMult Match MatchAs",
       "MatchClass MatchMapping MatchOr MatchSequence MatchSingleton MatchStar MatchValue Mod Module Mult Name",
       "NameConstant NamedExpr NodeTransformer NodeVisitor Nonlocal Not NotEq NotIn Num Or Param Pass Pow",
       "RShift Raise Return Set SetComp Slice Starred Store Str Sub Subscript Suite Try TryStar Tuple",
       "TypeIgnore UAdd USub UnaryOp While With Yield YieldFrom alias arg arguments auto boolop cmpop",
       "comprehension excepthandler expr expr_context keyword match_case mod nullcontext operator pattern slice",
       "stmt type_ignore unaryop withitem"],
      ["contextmanager copy_location dump fix_missing_locations get_docstring get_source_segment",
       "increment_lineno iter_child_nodes iter_fields literal_eval main parse sys unparse walk"]),
    ("asyncio",
      ["AbstractChildWatcher AbstractEventLoop AbstractEventLoopPolicy AbstractServer Barrier BaseEventLoop",
       "BaseProtocol BaseTransport BoundedSemaphore BrokenBarrierError BufferedProtocol CancelledError",
       "Condition DatagramProtocol DatagramTransport DefaultEventLoopPolicy:_UnixDefaultEventLoopPolicy Event",
       "FastChildWatcher Future Handle IncompleteReadError InvalidStateError LifoQueue LimitOverrunError Lock",
       "MultiLoopChildWatcher PidfdChildWatcher PriorityQueue Protocol Queue QueueEmpty QueueFull ReadTransport",
       "Runner SafeChildWatcher SelectorEventLoop:_UnixSelectorEventLoop Semaphore SendfileNotAvailableError",
       "Server StreamReader StreamReaderProtocol StreamWriter SubprocessProtocol SubprocessTransport Task",
       "TaskGroup ThreadedChildWatcher Timeout TimeoutError TimerHandle Transport WriteTransport"],
      ["all_tasks as_completed base_events base_futures base_subprocess base_tasks constants coroutines",
       "create_subprocess_exec create_subprocess_shell create_task current_task ensure_future events exceptions",
       "format_helpers futures gather get_child_watcher get_event_loop get_event_loop_policy get_running_loop",
       "iscoroutine iscoroutinefunction isfuture locks log mixins new_event_loop open_connection",
       "open_unix_connection protocols queues run run_coroutine_threadsafe runners selector_events",
       "set_child_watcher set_event_loop set_event_loop_policy shield sleep sslproto staggered start_server",
       "start_unix_server streams subprocess sys taskgroups tasks threads timeout timeout_at timeouts to_thread",
       "transports trsock unix_events wait wait_for wrap_future"]),
    ("base64",
      [],
      ["MAXBINSIZE MAXLINESIZE a85decode a85encode b16decode b16encode b32decode b32encode b32hexdecode",
       "b32hexencode b64decode b64encode b85decode b85encode binascii bytes_types decode decodebytes encode",
       "encodebytes main re standard_b64decode standard_b64encode struct test urlsafe_b64decode",
       "urlsafe_b64encode"]),
    ("bisect",
      [],
      ["bisect bisect_left bisect_right insort insort_left insort_right"]),
    ("bz2",
      ["BZ2Compressor BZ2Decompressor BZ2File"],
      ["compress decompress io open os"]),
    ("calendar",
      ["Calendar HTMLCalendar IllegalMonthError IllegalWeekdayError LocaleHTMLCalendar LocaleTextCalendar",
       "TextCalendar different_locale error:ValueError repeat"],
      ["EPOCH FRIDAY February January MONDAY SATURDAY SUNDAY THURSDAY TUESDAY WEDNESDAY c calendar datetime",
       "day_abbr day_name firstweekday format formatstring isleap leapdays main mdays month month_abbr",
       "month_name monthcalendar monthrange prcal prmonth prweek setfirstweekday sys timegm week weekday",
       "weekheader"]),
    ("cmath",
      [],
      ["acos acosh asin asinh atan atanh cos cosh e exp inf infj isclose isfinite isinf isnan log log10 nan",
       "nanj phase pi polar rect sin sinh sqrt tan tanh tau"]),
    ("cmd",
      ["Cmd"],
      ["IDENTCHARS PROMPT string sys"]),
    ("codecs",
      ["BufferedIncrementalDecoder BufferedIncrementalEncoder Codec CodecInfo IncrementalDecoder",
       "IncrementalEncoder StreamReader StreamReaderWriter StreamRecoder StreamWriter"],
      ["BOM BOM32_BE BOM32_LE BOM64_BE BOM64_LE BOM_BE BOM_LE BOM_UTF16 BOM_UTF16_BE BOM_UTF16_LE BOM_UTF32",
       "BOM_UTF32_BE BOM_UTF32_LE BOM_UTF8 EncodedFile ascii_decode ascii_encode backslashreplace_errors",
       "builtins charmap_build charmap_decode charmap_encode decode encode escape_decode escape_encode",
       "getdecoder getencoder getincrementaldecoder getincrementalencoder getreader getwriter ignore_errors",
       "iterdecode iterencode latin_1_decode latin_1_encode lookup lookup_error make_encoding_map",
       "make_identity_dict namereplace_errors open raw_unicode_escape_decode raw_unicode_escape_encode",
       "readbuffer_encode register register_error replace_errors strict_errors sys unicode_escape_decode",
       "unicode_escape_encode unregister utf_16_be_decode utf_16_be_encode utf_16_decode utf_16_encode",
       "utf_16_ex_decode utf_16_le_decode utf_16_le_encode utf_32_be_decode utf_32_be_encode utf_32_decode",
       "utf_32_encode utf_32_ex_decode utf_32_le_decode utf_32_le_encode utf_7_decode utf_7_encode",
       "utf_8_decode utf_8_encode xmlcharrefreplace_errors"]),
    ("collections",
      ["ChainMap Counter OrderedDict UserDict UserList UserString defaultdict deque"],
      ["abc namedtuple"]),
    ("concurrent",
      [],
      []),
    ("concurrent.futures",
      ["BrokenExecutor CancelledError Executor Future InvalidStateError TimeoutError"],
      ["ALL_COMPLETED FIRST_COMPLETED FIRST_EXCEPTION as_completed wait"]),
    ("configparser",
      ["BasicInterpolation ConfigParser ConverterMapping DuplicateOptionError DuplicateSectionError Error",
       "ExtendedInterpolation Interpolation InterpolationDepthError InterpolationError",
       "InterpolationMissingOptionError InterpolationSyntaxError LegacyInterpolation",
       "MissingSectionHeaderError MutableMapping NoOptionError NoSectionError ParsingError RawConfigParser",
       "SafeConfigParser SectionProxy"],
      ["DEFAULTSECT MAX_INTERPOLATION_DEPTH functools io itertools os re sys warnings"]),
    ("contextlib",
      ["AbstractAsyncContextManager AbstractContextManager AsyncContextDecorator AsyncExitStack",
       "ContextDecorator ExitStack GenericAlias MethodType:method aclosing chdir closing deque nullcontext",
       "redirect_stderr redirect_stdout suppress"],
      ["abc asynccontextmanager contextmanager os sys wraps"]),
    ("contextvars",
      ["Context ContextVar Token"],
      ["copy_context"]),
    ("copy",
      ["Error error:Error"],
      ["copy deepcopy dispatch_table"]),
    ("copyreg",
      [],
      ["add_extension clear_extension_cache constructor dispatch_table pickle pickle_complex pickle_union",
       "remove_extension"]),
    ("csv",
      ["Dialect DictReader DictWriter Error Sniffer StringIO excel excel_tab unix_dialect"],
      ["QUOTE_ALL QUOTE_MINIMAL QUOTE_NONE QUOTE_NONNUMERIC field_size_limit get_dialect list_dialects re",
       "reader register_dialect unregister_dialect writer"]),
    ("dataclasses",
      ["Field FrozenInstanceError FunctionType:function GenericAlias InitVar"],
      ["KW_ONLY MISSING abc asdict astuple builtins copy dataclass field fields functools inspect is_dataclass",
       "itertools keyword make_dataclass re replace sys types"]),
    ("datetime",
      ["date datetime time timedelta timezone tzinfo"],
      ["MAXYEAR MINYEAR UTC datetime_CAPI sys"]),
    ("decimal",
      ["Clamped Context ConversionSyntax Decimal DecimalException DecimalTuple DivisionByZero",
       "DivisionImpossible DivisionUndefined FloatOperation Inexact InvalidContext InvalidOperation Overflow",
       "Rounded Subnormal Underflow"],
      ["BasicContext DefaultContext ExtendedContext HAVE_CONTEXTVAR HAVE_THREADS MAX_EMAX MAX_PREC MIN_EMIN",
       "MIN_ETINY ROUND_05UP ROUND_CEILING ROUND_DOWN ROUND_FLOOR ROUND_HALF_DOWN ROUND_HALF_EVEN ROUND_HALF_UP",
       "ROUND_UP getcontext localcontext setcontext"]),
    ("email",
      [],
      ["message_from_binary_file message_from_bytes message_from_file message_from_string"]),
    ("email.message",
      ["BytesIO Charset EmailMessage MIMEPart Message Policy StringIO"],
      ["SEMISPACE binascii compat32 decode_b errors quopri re tspecials utils"]),
    ("enum",
      ["DynamicClassAttribute Enum EnumCheck EnumMeta:EnumType EnumType Flag FlagBoundary IntEnum IntFlag",
       "MappingProxyType:mappingproxy ReprEnum StrEnum auto member nonmember property verify"],
      ["CONFORM CONTINUOUS EJECT KEEP NAMED_FLAGS STRICT UNIQUE bin bltns global_enum global_enum_repr",
       "global_flag_repr global_str pickle_by_enum_name pickle_by_global_name reduce show_flag_values sys",
       "unique"]),
    ("errno",
      [],
      ["E2BIG EACCES EADDRINUSE EADDRNOTAVAIL EADV EAFNOSUPPORT EAGAIN EALREADY EBADE EBADF EBADFD EBADMSG",
       "EBADR EBADRQC EBADSLT EBFONT EBUSY ECANCELED ECHILD ECHRNG ECOMM ECONNABORTED ECONNREFUSED",
       "ECONNRESET EDEADLK EDEADLOCK EDESTADDRREQ EDOM EDOTDOT EDQUOT EEXIST EFAULT EFBIG EHOSTDOWN",
       "EHOSTUNREACH EIDRM EILSEQ EINPROGRESS EINTR EINVAL EIO EISCONN EISDIR EISNAM EKEYEXPIRED",
       "EKEYREJECTED EKEYREVOKED EL2HLT EL2NSYNC EL3HLT EL3RST ELIBACC ELIBBAD ELIBEXEC ELIBMAX ELIBSCN",
       "ELNRNG ELOOP EMEDIUMTYPE EMFILE EMLINK EMSGSIZE EMULTIHOP ENAMETOOLONG ENAVAIL ENETDOWN ENETRESET",
       "ENETUNREACH ENFILE ENOANO ENOBUFS ENOCSI ENODATA ENODEV ENOENT ENOEXEC ENOKEY ENOLCK ENOLINK",
       "ENOMEDIUM ENOMEM ENOMSG ENONET ENOPKG ENOPROTOOPT ENOSPC ENOSR ENOSTR ENOSYS ENOTBLK ENOTCONN",
       "ENOTDIR ENOTEMPTY ENOTNAM ENOTRECOVERABLE ENOTSOCK ENOTSUP ENOTTY ENOTUNIQ ENXIO EOPNOTSUPP",
       "EOVERFLOW EOWNERDEAD EPERM EPFNOSUPPORT EPIPE EPROTO EPROTONOSUPPORT EPROTOTYPE ERANGE EREMCHG",
       "EREMOTE EREMOTEIO ERESTART ERFKILL EROFS ESHUTDOWN ESOCKTNOSUPPORT ESPIPE ESRCH ESRMNT ESTALE",
       "ESTRPIPE ETIME ETIMEDOUT ETOOMANYREFS ETXTBSY EUCLEAN EUNATCH EUSERS EWOULDBLOCK EXDEV EXFULL",
       "errorcode"]),
    ("fnmatch",
      [],
      ["filter fnmatch fnmatchcase functools os posixpath re translate"]),
    ("fractions",
      ["Decimal Fraction"],
      ["math numbers operator re sys"]),
    ("functools",
      ["GenericAlias RLock cached_property partial partialmethod singledispatchmethod"],
      ["WRAPPER_ASSIGNMENTS WRAPPER_UPDATES cache cmp_to_key get_cache_token lru_cache namedtuple",
       "recursive_repr reduce singledispatch total_ordering update_wrapper wraps"]),
    ("gc",
      [],
      ["callbacks collect disable enable freeze garbage get_count get_debug get_freeze_count get_objects",
       "get_referents get_referrers get_stats get_threshold is_finalized is_tracked isenabled set_debug",
       "set_threshold unfreeze"]),
    ("getopt",
      ["GetoptError error:GetoptError"],
      ["do_longs do_shorts getopt gnu_getopt long_has_args os short_has_arg"]),
    ("getpass",
      ["GetPassWarning"],
      ["contextlib fallback_getpass getpass getuser io os sys termios unix_getpass warnings win_getpass"]),
    ("gettext",
      ["GNUTranslations NullTranslations"],
      ["Catalog bindtextdomain c2py dgettext dngettext dnpgettext dpgettext find gettext install ngettext",
       "npgettext operator os pgettext re sys textdomain"]),
    ("glob",
      [],
      ["contextlib escape fnmatch glob glob0 glob1 has_magic iglob itertools magic_check magic_check_bytes os",
       "re stat sys"]),
    ("graphlib",
      ["CycleError GenericAlias TopologicalSorter"],
      []),
    ("gzip",
      ["BadGzipFile GzipFile"],
      ["FCOMMENT FEXTRA FHCRC FNAME FTEXT READ WRITE builtins compress decompress io main open os struct sys",
       "time write32u zlib"]),
    ("hashlib",
      ["blake2b blake2s"],
      ["algorithms_available algorithms_guaranteed file_digest md5 new pbkdf2_hmac scrypt sha1 sha224 sha256",
       "sha384 sha3_224 sha3_256 sha3_384 sha3_512 sha512 shake_128 shake_256"]),
    ("heapq",
      [],
      ["heapify heappop heappush heappushpop heapreplace merge nlargest nsmallest"]),
    ("html",
      [],
      ["entities escape unescape"]),
    ("html.parser",
      ["HTMLParser"],
      ["attrfind_tolerant charref commentclose endendtag endtagfind entityref incomplete interesting_normal",
       "locatestarttagend_tolerant piclose re starttagopen tagfind_tolerant unescape"]),
    ("http",
      ["HTTPMethod HTTPStatus IntEnum StrEnum"],
      []),
    ("http.client",
      ["BadStatusLine CannotSendHeader CannotSendRequest HTTPConnection HTTPException HTTPMessage",
       "HTTPResponse HTTPSConnection ImproperConnectionState IncompleteRead InvalidURL LineTooLong",
       "NotConnected RemoteDisconnected ResponseNotReady UnimplementedFileMode UnknownProtocol",
       "UnknownTransferEncoding error:HTTPException"],
      ["ACCEPTED ALREADY_REPORTED BAD_GATEWAY BAD_REQUEST CONFLICT CONTINUE CREATED EARLY_HINTS",
       "EXPECTATION_FAILED FAILED_DEPENDENCY FORBIDDEN FOUND GATEWAY_TIMEOUT GONE HTTPS_PORT HTTP_PORT",
       "HTTP_VERSION_NOT_SUPPORTED IM_A_TEAPOT IM_USED INSUFFICIENT_STORAGE INTERNAL_SERVER_ERROR",
       "LENGTH_REQUIRED LOCKED LOOP_DETECTED METHOD_NOT_ALLOWED MISDIRECTED_REQUEST MOVED_PERMANENTLY",
       "MULTIPLE_CHOICES MULTI_STATUS NETWORK_AUTHENTICATION_REQUIRED NON_AUTHORITATIVE_INFORMATION",
       "NOT_ACCEPTABLE NOT_EXTENDED NOT_FOUND NOT_IMPLEMENTED NOT_MODIFIED NO_CONTENT OK PARTIAL_CONTENT",
       "PAYMENT_REQUIRED PERMANENT_REDIRECT PRECONDITION_FAILED PRECONDITION_REQUIRED PROCESSING",
       "PROXY_AUTHENTICATION_REQUIRED REQUESTED_RANGE_NOT_SATISFIABLE REQUEST_ENTITY_TOO_LARGE",
       "REQUEST_HEADER_FIELDS_TOO_LARGE REQUEST_TIMEOUT REQUEST_URI_TOO_LONG RESET_CONTENT SEE_OTHER",
       "SERVICE_UNAVAILABLE SWITCHING_PROTOCOLS TEMPORARY_REDIRECT TOO_EARLY TOO_MANY_REQUESTS UNAUTHORIZED",
       "UNAVAILABLE_FOR_LEGAL_REASONS UNPROCESSABLE_ENTITY UNSUPPORTED_MEDIA_TYPE UPGRADE_REQUIRED USE_PROXY",
       "VARIANT_ALSO_NEGOTIATES collections email errno http io parse_headers re responses socket ssl sys",
       "urlsplit"]),
    ("http.cookies",
      ["BaseCookie CookieError Morsel SimpleCookie"],
      ["re string types"]),
    ("http.server",
      ["BaseHTTPRequestHandler CGIHTTPRequestHandler HTTPServer HTTPStatus SimpleHTTPRequestHandler",
       "ThreadingHTTPServer"],
      ["DEFAULT_ERROR_CONTENT_TYPE DEFAULT_ERROR_MESSAGE copy datetime email executable html http io",
       "itertools mimetypes nobody nobody_uid os posixpath select shutil socket socketserver sys test time",
       "urllib"]),
    ("importlib",
      [],
      ["find_loader import_module invalidate_caches machinery reload sys warnings"]),
    ("inspect",
      ["ArgInfo Arguments Attribute BlockFinder BoundArguments ClassFoundException ClosureVars EndOfBlock",
       "FrameInfo FullArgSpec OrderedDict Parameter Signature Traceback attrgetter"],
      ["abc ast builtins classify_class_attrs cleandoc collections currentframe dis enum findsource",
       "formatannotation formatannotationrelativeto formatargvalues functools get_annotations getabsfile",
       "getargs getargvalues getattr_static getblock getcallargs getclasstree getclosurevars getcomments",
       "getcoroutinelocals getcoroutinestate getdoc getfile getframeinfo getfullargspec getgeneratorlocals",
       "getgeneratorstate getinnerframes getlineno getmembers getmembers_static getmodule getmodulename getmro",
       "getouterframes getsource getsourcefile getsourcelines importlib indentsize isabstract isasyncgen",
       "isasyncgenfunction isawaitable isbuiltin isclass iscode iscoroutine iscoroutinefunction",
       "isdatadescriptor isframe isfunction isgenerator isgeneratorfunction isgetsetdescriptor iskeyword",
       "ismemberdescriptor ismethod ismethoddescriptor ismethodwrapper ismodule isroutine istraceback itertools",
       "linecache modulesbyfile namedtuple os re signature stack sys token tokenize trace types unwrap walktree"]),
    ("io",
      ["BlockingIOError BufferedIOBase BufferedRWPair BufferedRandom BufferedReader BufferedWriter BytesIO",
       "FileIO IOBase IncrementalNewlineDecoder RawIOBase StringIO TextIOBase TextIOWrapper",
       "UnsupportedOperation"],
      ["DEFAULT_BUFFER_SIZE SEEK_CUR SEEK_END SEEK_SET abc open open_code text_encoding"]),
    ("ipaddress",
      ["AddressValueError IPv4Address IPv4Interface IPv4Network IPv6Address IPv6Interface IPv6Network",
       "NetmaskValueError"],
      ["IPV4LENGTH IPV6LENGTH collapse_addresses functools get_mixed_type_key ip_address ip_interface",
       "ip_network summarize_address_range v4_int_to_packed v6_int_to_packed"]),
    ("itertools",
      ["accumulate chain combinations combinations_with_replacement compress count cycle dropwhile filterfalse",
       "groupby islice pairwise permutations product repeat starmap takewhile zip_longest"],
      ["tee"]),
    ("json",
      ["JSONDecodeError JSONDecoder JSONEncoder"],
      ["codecs decoder detect_encoding dump dumps encoder load loads scanner"]),
    ("json.decoder",
      ["JSONDecodeError JSONDecoder"],
      ["BACKSLASH FLAGS JSONArray JSONObject NaN NegInf PosInf STRINGCHUNK WHITESPACE WHITESPACE_STR",
       "c_scanstring py_scanstring re scanner scanstring"]),
    ("json.encoder",
      ["JSONEncoder c_make_encoder:Encoder"],
      ["ESCAPE ESCAPE_ASCII ESCAPE_DCT HAS_UTF8 INFINITY c_encode_basestring c_encode_basestring_ascii",
       "encode_basestring encode_basestring_ascii py_encode_basestring py_encode_basestring_ascii re"]),
    ("keyword",
      [],
      ["iskeyword issoftkeyword kwlist softkwlist"]),
    ("linecache",
      [],
      ["cache checkcache clearcache functools getline getlines lazycache os sys tokenize updatecache"]),
    ("locale",
      ["Error"],
      ["ABDAY_1 ABDAY_2 ABDAY_3 ABDAY_4 ABDAY_5 ABDAY_6 ABDAY_7 ABMON_1 ABMON_10 ABMON_11 ABMON_12 ABMON_2",
       "ABMON_3 ABMON_4 ABMON_5 ABMON_6 ABMON_7 ABMON_8 ABMON_9 ALT_DIGITS AM_STR CHAR_MAX CODESET CRNCYSTR",
       "DAY_1 DAY_2 DAY_3 DAY_4 DAY_5 DAY_6 DAY_7 D_FMT D_T_FMT ERA ERA_D_FMT ERA_D_T_FMT ERA_T_FMT LC_ALL",
       "LC_COLLATE LC_CTYPE LC_MESSAGES LC_MONETARY LC_NUMERIC LC_TIME MON_1 MON_10 MON_11 MON_12 MON_2",
       "MON_3 MON_4 MON_5 MON_6 MON_7 MON_8 MON_9 NOEXPR PM_STR RADIXCHAR THOUSEP T_FMT T_FMT_AMPM YESEXPR",
       "atof atoi bind_textdomain_codeset bindtextdomain currency dcgettext delocalize dgettext encodings",
       "format format_string functools getdefaultlocale getencoding getlocale getpreferredencoding gettext",
       "locale_alias locale_encoding_alias localeconv localize nl_langinfo normalize re resetlocale",
       "setlocale str strcoll strxfrm sys textdomain windows_locale"]),
    ("logging",
      ["BufferingFormatter FileHandler Filter Filterer Formatter GenericAlias Handler LogRecord Logger",
       "LoggerAdapter Manager NullHandler PercentStyle PlaceHolder RootLogger StrFormatStyle StreamHandler",
       "StringTemplateStyle Template"],
      ["BASIC_FORMAT CRITICAL DEBUG ERROR FATAL INFO NOTSET WARN WARNING addLevelName atexit basicConfig",
       "captureWarnings collections critical currentframe debug disable error exception fatal getLevelName",
       "getLevelNamesMapping getLogRecordFactory getLogger getLoggerClass info io lastResort log",
       "logMultiprocessing logProcesses logThreads makeLogRecord os raiseExceptions re root setLogRecordFactory",
       "setLoggerClass shutdown sys threading time traceback warn warning warnings weakref"]),
    ("math",
      [],
      ["acos acosh asin asinh atan atan2 atanh cbrt ceil comb copysign cos cosh degrees dist e erf erfc exp",
       "exp2 expm1 fabs factorial floor fmod frexp fsum gamma gcd hypot inf isclose isfinite isinf isnan isqrt",
       "lcm ldexp lgamma log log10 log1p log2 modf nan nextafter perm pi pow prod radians remainder sin sinh",
       "sqrt tan tanh tau trunc ulp"]),
    ("mimetypes",
      ["MimeTypes"],
      ["add_type common_types encodings_map guess_all_extensions guess_extension guess_type init inited",
       "knownfiles os posixpath read_mime_types suffix_map sys types_map urllib"]),
    ("multiprocessing",
      ["AuthenticationError BufferTooShort Process ProcessError TimeoutError"],
      ["Array Barrier BoundedSemaphore Condition Event JoinableQueue Lock Manager Pipe Pool Queue RLock",
       "RawArray RawValue SUBDEBUG SUBWARNING Semaphore SimpleQueue Value active_children",
       "allow_connection_pickling context cpu_count current_process freeze_support get_all_start_methods",
       "get_context get_logger get_start_method log_to_stderr parent_process process reducer reduction",
       "set_executable set_forkserver_preload set_start_method sys"]),
    ("numbers",
      ["ABCMeta Complex Integral Number Rational Real"],
      ["abstractmethod"]),
    ("operator",
      ["attrgetter itemgetter methodcaller"],
      ["abs add and_ call concat contains countOf delitem eq floordiv ge getitem gt iadd iand iconcat ifloordiv",
       "ilshift imatmul imod imul index indexOf inv invert ior ipow irshift is_ is_not isub itruediv ixor le",
       "length_hint lshift lt matmul mod mul ne neg not_ or_ pos pow rshift setitem sub truediv truth xor"]),
    ("optparse",
      ["AmbiguousOptionError BadOptionError HelpFormatter IndentedHelpFormatter OptParseError Option",
       "OptionConflictError OptionContainer OptionError OptionGroup OptionParser OptionValueError",
       "TitledHelpFormatter Values make_option:Option"],
      ["NO_DEFAULT SUPPRESS_HELP SUPPRESS_USAGE check_builtin check_choice gettext ngettext os sys textwrap"]),
    ("os",
      ["DirEntry GenericAlias Mapping MutableMapping PathLike error:OSError sched_param stat_result",
       "statvfs_result terminal_size times_result uname_result waitid_result"],
      ["abc abort access altsep chdir chmod chown chroot close closerange confstr confstr_names cpu_count",
       "ctermid curdir defpath device_encoding devnull dup dup2 environ environb eventfd eventfd_read",
       "eventfd_write execl execle execlp execlpe execv execve execvp execvpe extsep fchdir fchmod fchown",
       "fdatasync fdopen fork forkpty fpathconf fsdecode fsencode fspath fstat fstatvfs fsync ftruncate fwalk",
       "get_blocking get_exec_path get_inheritable get_terminal_size getcwd getcwdb getegid getenv getenvb",
       "geteuid getgid getgrouplist getgroups getloadavg getlogin getpgid getpgrp getpid getppid getpriority",
       "getresgid getresuid getsid getuid getxattr initgroups isatty kill killpg lchown linesep link listdir",
       "listxattr lockf login_tty lseek lstat major makedev makedirs minor mkdir mkfifo mknod name nice open",
       "openpty pardir path pathconf pathconf_names pathsep pipe pipe2 popen posix_fadvise posix_fallocate",
       "posix_spawn posix_spawnp pread preadv putenv pwrite pwritev read readlink readv register_at_fork remove",
       "removedirs removexattr rename renames replace rmdir scandir sched_get_priority_max",
       "sched_get_priority_min sched_getaffinity sched_getparam sched_getscheduler sched_rr_get_interval",
       "sched_setaffinity sched_setparam sched_setscheduler sched_yield sendfile sep set_blocking",
       "set_inheritable setegid seteuid setgid setgroups setpgid setpgrp setpriority setregid setresgid",
       "setresuid setreuid setsid setuid setxattr spawnl spawnle spawnlp spawnlpe spawnv spawnve spawnvp",
       "spawnvpe splice st stat statvfs strerror supports_bytes_environ supports_dir_fd supports_effective_ids",
       "supports_fd supports_follow_symlinks symlink sync sys sysconf sysconf_names system tcgetpgrp tcsetpgrp",
       "times truncate ttyname umask uname unlink unsetenv urandom utime wait wait3 wait4 waitid waitpid",
       "waitstatus_to_exitcode walk write writev"]),
    ("os.path",
      [],
      ["abspath altsep basename commonpath commonprefix curdir defpath devnull dirname exists expanduser",
       "expandvars extsep genericpath getatime getctime getmtime getsize isabs isdir isfile islink ismount join",
       "lexists normcase normpath os pardir pathsep realpath relpath samefile sameopenfile samestat sep split",
       "splitdrive splitext stat supports_unicode_filenames sys"]),
    ("pathlib",
      ["Path PosixPath PurePath PurePosixPath PureWindowsPath Sequence WindowsPath attrgetter"],
      ["EBADF ELOOP ENOENT ENOTDIR S_ISBLK S_ISCHR S_ISDIR S_ISFIFO S_ISLNK S_ISREG S_ISSOCK fnmatch functools",
       "io ntpath os posixpath re sys urlquote_from_bytes warnings"]),
    ("pickle",
      ["FunctionType:function PickleBuffer PickleError Pickler PicklingError Unpickler UnpicklingError islice",
       "partial"],
      ["bytes_types codecs compatible_formats decode_long dispatch_table dump dumps encode_long format_version",
       "io load loads maxsize pack re sys unpack whichmodule"]),
    ("pprint",
      ["PrettyPrinter"],
      ["isreadable isrecursive pformat pp pprint re saferepr"]),
    ("queue",
      ["Empty Full LifoQueue PriorityQueue Queue SimpleQueue deque"],
      ["heappop heappush threading time types"]),
    ("random",
      ["Random SystemRandom"],
      ["BPF LOG4 NV_MAGICCONST RECIP_BPF SG_MAGICCONST TWOPI betavariate choice choices expovariate",
       "gammavariate gauss getrandbits getstate lognormvariate normalvariate paretovariate randbytes randint",
       "random randrange sample seed setstate shuffle triangular uniform vonmisesvariate weibullvariate"]),
    ("re",
      ["Match Pattern RegexFlag Scanner error"],
      ["A ASCII DEBUG DOTALL I IGNORECASE L LOCALE M MULTILINE NOFLAG S T TEMPLATE U UNICODE VERBOSE X compile",
       "copyreg enum escape findall finditer fullmatch functools match purge search split sub subn template"]),
    ("sched",
      ["Event count scheduler"],
      ["heapq namedtuple threading time"]),
    ("secrets",
      ["SystemRandom"],
      ["DEFAULT_ENTROPY base64 binascii choice compare_digest randbelow randbits token_bytes token_hex",
       "token_urlsafe"]),
    ("select",
      ["epoll error:OSError"],
      ["EPOLLERR EPOLLET EPOLLHUP EPOLLIN EPOLLMSG EPOLLONESHOT EPOLLOUT EPOLLPRI EPOLLRDBAND EPOLLRDHUP",
       "EPOLLRDNORM EPOLLWRBAND EPOLLWRNORM EPOLL_CLOEXEC PIPE_BUF POLLERR POLLHUP POLLIN POLLMSG POLLNVAL",
       "POLLOUT POLLPRI POLLRDBAND POLLRDHUP POLLRDNORM POLLWRBAND POLLWRNORM poll select"]),
    ("selectors",
      ["ABCMeta BaseSelector DefaultSelector:EpollSelector EpollSelector Mapping PollSelector SelectSelector",
       "SelectorKey"],
      ["EVENT_READ EVENT_WRITE abstractmethod math namedtuple select sys"]),
    ("shelve",
      ["BsdDbShelf BytesIO DbfilenameShelf Pickler Shelf Unpickler"],
      ["DEFAULT_PROTOCOL collections open"]),
    ("shlex",
      ["StringIO deque shlex"],
      ["join os quote re split sys"]),
    ("shutil",
      ["Error ExecError ReadError RegistryError SameFileError SpecialFileError"],
      ["COPY_BUFSIZE chown collections copy copy2 copyfile copyfileobj copymode copystat copytree disk_usage",
       "errno fnmatch get_archive_formats get_terminal_size get_unpack_formats ignore_patterns make_archive",
       "move nt os posix register_archive_format register_unpack_format rmtree stat sys unpack_archive",
       "unregister_archive_format unregister_unpack_format which"]),
    ("signal",
      ["Handlers ItimerError:itimer_error Sigmasks Signals struct_siginfo"],
      ["ITIMER_PROF ITIMER_REAL ITIMER_VIRTUAL NSIG SIGABRT SIGALRM SIGBUS SIGCHLD SIGCLD SIGCONT SIGFPE",
       "SIGHUP SIGILL SIGINT SIGIO SIGIOT SIGKILL SIGPIPE SIGPOLL SIGPROF SIGPWR SIGQUIT SIGRTMAX SIGRTMIN",
       "SIGSEGV SIGSTKFLT SIGSTOP SIGSYS SIGTERM SIGTRAP SIGTSTP SIGTTIN SIGTTOU SIGURG SIGUSR1 SIGUSR2",
       "SIGVTALRM SIGWINCH SIGXCPU SIGXFSZ SIG_BLOCK SIG_DFL SIG_IGN SIG_SETMASK SIG_UNBLOCK alarm",
       "default_int_handler getitimer getsignal pause pthread_kill pthread_sigmask raise_signal",
       "set_wakeup_fd setitimer siginterrupt signal sigpending sigtimedwait sigwait sigwaitinfo strsignal",
       "valid_signals"]),
    ("smtplib",
      ["LMTP SMTP SMTPAuthenticationError SMTPConnectError SMTPDataError SMTPException SMTPHeloError",
       "SMTPNotSupportedError SMTPRecipientsRefused SMTPResponseException SMTPSenderRefused",
       "SMTPServerDisconnected SMTP_SSL"],
      ["CRLF LMTP_PORT OLDSTYLE_AUTH SMTP_PORT SMTP_SSL_PORT bCRLF base64 copy datetime email encode_base64",
       "hmac io quoteaddr quotedata re socket ssl sys"]),
    ("socketserver",
      ["BaseRequestHandler BaseServer BufferedIOBase DatagramRequestHandler ForkingMixIn ForkingTCPServer",
       "ForkingUDPServer StreamRequestHandler TCPServer ThreadingMixIn ThreadingTCPServer ThreadingUDPServer",
       "ThreadingUnixDatagramServer ThreadingUnixStreamServer UDPServer UnixDatagramServer UnixStreamServer"],
      ["os selectors socket sys threading time"]),
    ("stat",
      [],
      ["FILE_ATTRIBUTE_ARCHIVE FILE_ATTRIBUTE_COMPRESSED FILE_ATTRIBUTE_DEVICE FILE_ATTRIBUTE_DIRECTORY",
       "FILE_ATTRIBUTE_ENCRYPTED FILE_ATTRIBUTE_HIDDEN FILE_ATTRIBUTE_INTEGRITY_STREAM FILE_ATTRIBUTE_NORMAL",
       "FILE_ATTRIBUTE_NOT_CONTENT_INDEXED FILE_ATTRIBUTE_NO_SCRUB_DATA FILE_ATTRIBUTE_OFFLINE",
       "FILE_ATTRIBUTE_READONLY FILE_ATTRIBUTE_REPARSE_POINT FILE_ATTRIBUTE_SPARSE_FILE",
       "FILE_ATTRIBUTE_SYSTEM FILE_ATTRIBUTE_TEMPORARY FILE_ATTRIBUTE_VIRTUAL SF_APPEND SF_ARCHIVED",
       "SF_IMMUTABLE SF_NOUNLINK SF_SNAPSHOT ST_ATIME ST_CTIME ST_DEV ST_GID ST_INO ST_MODE ST_MTIME",
       "ST_NLINK ST_SIZE ST_UID S_ENFMT S_IEXEC S_IFBLK S_IFCHR S_IFDIR S_IFDOOR S_IFIFO S_IFLNK S_IFMT",
       "S_IFPORT S_IFREG S_IFSOCK S_IFWHT S_IMODE S_IREAD S_IRGRP S_IROTH S_IRUSR S_IRWXG S_IRWXO S_IRWXU",
       "S_ISBLK S_ISCHR S_ISDIR S_ISDOOR S_ISFIFO S_ISGID S_ISLNK S_ISPORT S_ISREG S_ISSOCK S_ISUID S_ISVTX",
       "S_ISWHT S_IWGRP S_IWOTH S_IWRITE S_IWUSR S_IXGRP S_IXOTH S_IXUSR UF_APPEND UF_COMPRESSED UF_HIDDEN",
       "UF_IMMUTABLE UF_NODUMP UF_NOUNLINK UF_OPAQUE filemode"]),
    ("statistics",
      ["Counter Decimal Fraction LinearRegression NormalDist StatisticsError defaultdict groupby repeat"],
      ["bisect_left bisect_right correlation covariance erf exp fabs fmean fsum geometric_mean harmonic_mean",
       "hypot linear_regression log math mean median median_grouped median_high median_low mode mul multimode",
       "namedtuple numbers pstdev pvariance quantiles random reduce sqrt stdev sys tau variance"]),
    ("string",
      ["Formatter Template"],
      ["ascii_letters ascii_lowercase ascii_uppercase capwords digits hexdigits octdigits printable punctuation",
       "whitespace"]),
    ("struct",
      ["Struct error"],
      ["calcsize iter_unpack pack pack_into unpack unpack_from"]),
    ("subprocess",
      ["CalledProcessError CompletedProcess Popen SubprocessError TimeoutExpired"],
      ["DEVNULL PIPE STDOUT builtins call check_call check_output contextlib errno fcntl getoutput",
       "getstatusoutput io list2cmdline locale os run select selectors signal sys threading time types warnings"]),
    ("sys",
      [],
      ["abiflags addaudithook api_version argv audit base_exec_prefix base_prefix breakpointhook",
       "builtin_module_names byteorder call_tracing copyright displayhook dont_write_bytecode exc_info",
       "excepthook exception exec_prefix executable exit flags float_info float_repr_style get_asyncgen_hooks",
       "get_coroutine_origin_tracking_depth get_int_max_str_digits getallocatedblocks getdefaultencoding",
       "getdlopenflags getfilesystemencodeerrors getfilesystemencoding getprofile getrecursionlimit getrefcount",
       "getsizeof getswitchinterval gettrace hash_info hexversion implementation int_info intern is_finalizing",
       "maxsize maxunicode meta_path modules orig_argv path path_hooks path_importer_cache platform platlibdir",
       "prefix pycache_prefix set_asyncgen_hooks set_coroutine_origin_tracking_depth set_int_max_str_digits",
       "setdlopenflags setprofile setrecursionlimit setswitchinterval settrace stderr stdin stdlib_module_names",
       "stdout thread_info unraisablehook version version_info warnoptions"]),
    ("tarfile",
      ["AbsoluteLinkError AbsolutePathError CompressionError EOFHeaderError EmptyHeaderError ExFileObject",
       "ExtractError FilterError HeaderError InvalidHeaderError LinkOutsideDestinationError",
       "OutsideDestinationError ReadError SpecialFileError StreamError SubsequentHeaderError TarError",
       "TarFile TarInfo TruncatedHeaderError"],
      ["AREGTYPE BLKTYPE BLOCKSIZE CHRTYPE CONTTYPE DEFAULT_FORMAT DIRTYPE ENCODING FIFOTYPE",
       "GNUTYPE_LONGLINK GNUTYPE_LONGNAME GNUTYPE_SPARSE GNU_FORMAT GNU_MAGIC GNU_TYPES LENGTH_LINK",
       "LENGTH_NAME LENGTH_PREFIX LNKTYPE NUL PAX_FIELDS PAX_FORMAT PAX_NAME_FIELDS PAX_NUMBER_FIELDS",
       "POSIX_MAGIC RECORDSIZE REGTYPE REGULAR_TYPES SOLARIS_XHDTYPE SUPPORTED_TYPES SYMTYPE USTAR_FORMAT",
       "XGLTYPE XHDTYPE bltn_open calc_chksums copy copyfileobj data_filter fully_trusted_filter grp io",
       "is_tarfile itn main nti nts open os pwd re shutil stat stn struct symlink_exception sys tar_filter",
       "time version warnings"]),
    ("tempfile",
      ["SpooledTemporaryFile TemporaryDirectory"],
      ["NamedTemporaryFile TMP_MAX TemporaryFile gettempdir gettempdirb gettempprefix gettempprefixb mkdtemp",
       "mkstemp mktemp tempdir template"]),
    ("textwrap",
      ["TextWrapper"],
      ["dedent fill indent re shorten wrap"]),
    ("threading",
      ["Barrier BoundedSemaphore BrokenBarrierError Condition Event ExceptHookArgs:_ExceptHookArgs Semaphore",
       "Thread ThreadError:RuntimeError Timer WeakSet local:_local"],
      ["Lock RLock TIMEOUT_MAX activeCount active_count currentThread current_thread enumerate excepthook",
       "functools get_ident get_native_id getprofile gettrace main_thread setprofile settrace stack_size"]),
    ("time",
      ["struct_time"],
      ["altzone asctime clock_getres clock_gettime clock_gettime_ns clock_settime clock_settime_ns ctime",
       "daylight get_clock_info gmtime localtime mktime monotonic monotonic_ns perf_counter perf_counter_ns",
       "process_time process_time_ns pthread_getcpuclockid sleep strftime strptime thread_time thread_time_ns",
       "time time_ns timezone tzname tzset"]),
    ("timeit",
      ["Timer"],
      ["default_number default_repeat default_timer dummy_src_name gc itertools main reindent repeat sys",
       "template time timeit"]),
    ("token",
      [],
      ["AMPER AMPEREQUAL ASYNC AT ATEQUAL AWAIT CIRCUMFLEX CIRCUMFLEXEQUAL COLON COLONEQUAL COMMA COMMENT",
       "DEDENT DOT DOUBLESLASH DOUBLESLASHEQUAL DOUBLESTAR DOUBLESTAREQUAL ELLIPSIS ENCODING ENDMARKER",
       "EQEQUAL EQUAL ERRORTOKEN EXACT_TOKEN_TYPES GREATER GREATEREQUAL INDENT ISEOF ISNONTERMINAL",
       "ISTERMINAL LBRACE LEFTSHIFT LEFTSHIFTEQUAL LESS LESSEQUAL LPAR LSQB MINEQUAL MINUS NAME NEWLINE NL",
       "NOTEQUAL NT_OFFSET NUMBER N_TOKENS OP PERCENT PERCENTEQUAL PLUS PLUSEQUAL RARROW RBRACE RIGHTSHIFT",
       "RIGHTSHIFTEQUAL RPAR RSQB SEMI SLASH SLASHEQUAL SOFT_KEYWORD STAR STAREQUAL STRING TILDE",
       "TYPE_COMMENT TYPE_IGNORE VBAR VBAREQUAL tok_name"]),
    ("tokenize",
      ["StopTokenizing TextIOWrapper TokenError TokenInfo Untokenizer"],
      ["AMPER AMPEREQUAL ASYNC AT ATEQUAL AWAIT BOM_UTF8 Binnumber CIRCUMFLEX CIRCUMFLEXEQUAL COLON",
       "COLONEQUAL COMMA COMMENT Comment ContStr DEDENT DOT DOUBLESLASH DOUBLESLASHEQUAL DOUBLESTAR",
       "DOUBLESTAREQUAL Decnumber Double Double3 ELLIPSIS ENCODING ENDMARKER EQEQUAL EQUAL ERRORTOKEN",
       "EXACT_TOKEN_TYPES Expfloat Exponent Floatnumber Funny GREATER GREATEREQUAL Hexnumber INDENT ISEOF",
       "ISNONTERMINAL ISTERMINAL Ignore Imagnumber Intnumber LBRACE LEFTSHIFT LEFTSHIFTEQUAL LESS LESSEQUAL",
       "LPAR LSQB MINEQUAL MINUS NAME NEWLINE NL NOTEQUAL NT_OFFSET NUMBER N_TOKENS Name Number OP Octnumber",
       "PERCENT PERCENTEQUAL PLUS PLUSEQUAL PlainToken Pointfloat PseudoExtras PseudoToken RARROW RBRACE",
       "RIGHTSHIFT RIGHTSHIFTEQUAL RPAR RSQB SEMI SLASH SLASHEQUAL SOFT_KEYWORD STAR STAREQUAL STRING Single",
       "Single3 Special String StringPrefix TILDE TYPE_COMMENT TYPE_IGNORE Token Triple VBAR VBAREQUAL",
       "Whitespace any blank_re collections cookie_re detect_encoding endpats functools generate_tokens",
       "group lookup main maybe open re single_quoted sys tabsize tok_name tokenize triple_quoted untokenize"]),
    ("tomllib",
      ["TOMLDecodeError"],
      ["load loads"]),
    ("traceback",
      ["FrameSummary StackSummary TracebackException suppress"],
      ["clear_frames collections extract_stack extract_tb format_exc format_exception format_exception_only",
       "format_list format_stack format_tb itertools linecache print_exc print_exception print_last print_list",
       "print_stack print_tb sys textwrap walk_stack walk_tb"]),
    ("types",
      ["AsyncGeneratorType:async_generator BuiltinFunctionType:builtin_function_or_method",
       "BuiltinMethodType:builtin_function_or_method CellType:cell",
       "ClassMethodDescriptorType:classmethod_descriptor CodeType:code CoroutineType:coroutine",
       "DynamicClassAttribute EllipsisType:ellipsis FrameType:frame FunctionType:function",
       "GeneratorType:generator GenericAlias GetSetDescriptorType:getset_descriptor LambdaType:function",
       "MappingProxyType:mappingproxy MemberDescriptorType:member_descriptor",
       "MethodDescriptorType:method_descriptor MethodType:method MethodWrapperType:method-wrapper",
       "ModuleType:module NoneType NotImplementedType SimpleNamespace TracebackType:traceback UnionType",
       "WrapperDescriptorType:wrapper_descriptor"],
      ["coroutine new_class prepare_class resolve_bases"]),
    ("unicodedata",
      ["UCD"],
      ["bidirectional category combining decimal decomposition digit east_asian_width is_normalized lookup",
       "mirrored name normalize numeric ucd_3_2_0 unidata_version"]),
    ("unittest",
      ["BaseTestSuite FunctionTestCase IsolatedAsyncioTestCase SkipTest TestCase TestLoader TestProgram",
       "TestResult TestSuite TextTestResult TextTestRunner main:TestProgram"],
      ["addModuleCleanup case defaultTestLoader doModuleCleanups enterModuleContext expectedFailure",
       "findTestCases getTestCaseNames installHandler load_tests loader makeSuite registerResult removeHandler",
       "removeResult result runner signals skip skipIf skipUnless suite util"]),
    ("urllib",
      [],
      ["parse"]),
    ("urllib.error",
      ["ContentTooShortError HTTPError URLError"],
      ["io urllib"]),
    ("urllib.parse",
      ["DefragResult DefragResultBytes ParseResult ParseResultBytes ResultBase:_NetlocResultMixinStr",
       "SplitResult SplitResultBytes"],
      ["clear_cache functools ipaddress namedtuple non_hierarchical parse_qs parse_qsl quote quote_from_bytes",
       "quote_plus re scheme_chars splitattr splithost splitnport splitpasswd splitport splitquery splittag",
       "splittype splituser splitvalue sys to_bytes types unquote unquote_plus unquote_to_bytes unwrap",
       "urldefrag urlencode urljoin urlparse urlsplit urlunparse urlunsplit uses_fragment uses_netloc",
       "uses_params uses_query uses_relative warnings"]),
    ("urllib.request",
      ["AbstractBasicAuthHandler AbstractDigestAuthHandler AbstractHTTPHandler BaseHandler CacheFTPHandler",
       "ContentTooShortError DataHandler FTPHandler FancyURLopener FileHandler HTTPBasicAuthHandler",
       "HTTPCookieProcessor HTTPDefaultErrorHandler HTTPDigestAuthHandler HTTPError HTTPErrorProcessor",
       "HTTPHandler HTTPPasswordMgr HTTPPasswordMgrWithDefaultRealm HTTPPasswordMgrWithPriorAuth",
       "HTTPRedirectHandler HTTPSHandler OpenerDirector ProxyBasicAuthHandler ProxyDigestAuthHandler",
       "ProxyHandler Request URLError URLopener UnknownHandler addclosehook addinfourl ftpwrapper"],
      ["MAXFTPCACHE base64 bisect build_opener contextlib email ftpcache ftperrors getproxies",
       "getproxies_environment hashlib http install_opener io localhost noheaders os parse_http_list",
       "parse_keqv_list pathname2url posixpath proxy_bypass proxy_bypass_environment quote re request_host",
       "socket ssl string sys tempfile thishost time unquote unquote_to_bytes unwrap url2pathname urlcleanup",
       "urljoin urlopen urlparse urlretrieve urlsplit urlunparse warnings"]),
    ("uuid",
      ["Enum SafeUUID UUID bytes_:bytes int_:int"],
      ["NAMESPACE_DNS NAMESPACE_OID NAMESPACE_URL NAMESPACE_X500 RESERVED_FUTURE RESERVED_MICROSOFT",
       "RESERVED_NCS RFC_4122 getnode os platform sys uuid1 uuid3 uuid4 uuid5"]),
    ("warnings",
      ["WarningMessage catch_warnings"],
      ["defaultaction filters filterwarnings formatwarning onceregistry resetwarnings showwarning simplefilter",
       "sys warn warn_explicit"]),
    ("wave",
      ["Error Wave_read Wave_write"],
      ["WAVE_FORMAT_PCM builtins namedtuple open struct sys"]),
    ("weakref",
      ["CallableProxyType KeyedRef ProxyType ReferenceType WeakKeyDictionary WeakMethod WeakSet",
       "WeakValueDictionary finalize ref:ReferenceType"],
      ["ProxyTypes getweakrefcount getweakrefs itertools proxy sys"]),
    ("xml",
      [],
      []),
    ("xml.etree",
      [],
      []),
    ("xml.etree.ElementTree",
      ["C14NWriterTarget Element ElementTree ParseError QName TreeBuilder XMLParser XMLPullParser"],
      ["Comment ElementPath HTML_EMPTY PI ProcessingInstruction SubElement VERSION XML XMLID canonicalize",
       "collections contextlib dump fromstring fromstringlist indent io iselement iterparse parse re",
       "register_namespace sys tostring tostringlist warnings weakref"]),
    ("zipfile",
      ["BadZipFile BadZipfile:BadZipFile CompleteDirs FastLookup LZMACompressor LZMADecompressor",
       "LargeZipFile Path PyZipFile ZipExtFile ZipFile ZipInfo error:BadZipFile"],
      ["BZIP2_VERSION DEFAULT_VERSION LZMA_VERSION MAX_EXTRACT_VERSION ZIP64_LIMIT ZIP64_VERSION ZIP_BZIP2",
       "ZIP_DEFLATED ZIP_FILECOUNT_LIMIT ZIP_LZMA ZIP_MAX_COMMENT ZIP_STORED binascii bz2 compressor_names",
       "contextlib crc32 importlib io is_zipfile itertools lzma main os pathlib posixpath re shutil",
       "sizeCentralDir sizeEndCentDir sizeEndCentDir64 sizeEndCentDir64Locator sizeFileHeader stat",
       "stringCentralDir stringEndArchive stringEndArchive64 stringEndArchive64Locator stringFileHeader",
       "struct structCentralDir structEndArchive structEndArchive64 structEndArchive64Locator",
       "structFileHeader sys threading time zlib"]),
    ("zlib",
      ["error"],
      ["adler32 compress compressobj crc32 decompress decompressobj"]),
    ("zoneinfo",
      ["InvalidTZPathWarning ZoneInfo ZoneInfoNotFoundError"],
      ["TZPATH available_timezones reset_tzpath"])]

end SchemaAssembly.Library
