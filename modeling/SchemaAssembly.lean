import SchemaAssembly.Session
import SchemaAssembly.Proofs.Attempt
import SchemaAssembly.Proofs.ParameterRole
import SchemaAssembly.Proofs.ArgumentRouting
import SchemaAssembly.Proofs.CallBinding
import SchemaAssembly.Proofs.CallByName
import SchemaAssembly.Proofs.ErrorMasking
import SchemaAssembly.Proofs.Registration
import SchemaAssembly.Proofs.EffectiveDefinition
import SchemaAssembly.Proofs.ExposedNames
import SchemaAssembly.Proofs.SchemaBuild
import SchemaAssembly.Proofs.Generation
import SchemaAssembly.Proofs.OptionalArguments
import SchemaAssembly.Proofs.OperationMerge
import SchemaAssembly.Proofs.SchemaTypes
import SchemaAssembly.Proofs.Sealing
import SchemaAssembly.Proofs.Ownership
import SchemaAssembly.Proofs.RegistryHistory
import SchemaAssembly.Proofs.CompilationLookup
import SchemaAssembly.Proofs.BackwardReference
import SchemaAssembly.Proofs.RegistrationOrder
import SchemaAssembly.Proofs.Diagnostics
import SchemaAssembly.Proofs.WellFormedSignature
import SchemaAssembly.Proofs.ParameterOutcome
import SchemaAssembly.Proofs.AnnotationResolution
import SchemaAssembly.Proofs.FieldExposure
import SchemaAssembly.Proofs.OperationPrecedence
import SchemaAssembly.Proofs.InstanceMaking
import SchemaAssembly.Proofs.CallRouting
import SchemaAssembly.Proofs.AnnotationReading
import SchemaAssembly.Proofs.OptionalDeclaration
import SchemaAssembly.Proofs.ListLayers
import SchemaAssembly.Proofs.MetadataPlacement
import SchemaAssembly.Proofs.EvaluationFaults
import SchemaAssembly.Proofs.CamelCase
import SchemaAssembly.Proofs.TypeInference
import SchemaAssembly.Proofs.ContainerFields
import SchemaAssembly.Proofs.EquivalentSpellings
import SchemaAssembly.Proofs.EnvironmentFlags
import SchemaAssembly.Class.Decorated
import SchemaAssembly.Proofs.StackedDecorators
