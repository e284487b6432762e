import SchemaQueries.Main
import SchemaQueries.Proofs.Derivation.Locality
import SchemaQueries.Proofs.Derivation.OperationNames
import SchemaQueries.Proofs.Derivation.RootFields
import SchemaQueries.Proofs.Derivation.Sources
import SchemaQueries.Proofs.Derivation.Walks
import SchemaQueries.Proofs.Introspection.FirstBadType
import SchemaQueries.Proofs.Introspection.Loading
import SchemaQueries.Proofs.Introspection.Rereading
import SchemaQueries.Proofs.Json.Decoding
import SchemaQueries.Proofs.Options.Precedence
import SchemaQueries.Proofs.Output.Calls
import SchemaQueries.Proofs.Output.SideBySide
import SchemaQueries.Proofs.Output.UpToDate
import SchemaQueries.Proofs.Query.Indentation
import SchemaQueries.Proofs.Query.RoundTrip
import SchemaQueries.Proofs.Run.Confinement
import SchemaQueries.Proofs.Run.Repeating
import SchemaQueries.Proofs.Sdl.Reloading
