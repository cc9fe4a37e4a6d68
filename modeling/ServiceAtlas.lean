import ServiceAtlas.Main
import ServiceAtlas.Settings.Members
import ServiceAtlas.Proofs.OrderedMap
import ServiceAtlas.Proofs.Survey
import ServiceAtlas.Proofs.Catalog
import ServiceAtlas.Proofs.Conservation
import ServiceAtlas.Proofs.Collaborators
import ServiceAtlas.Proofs.Reordering
import ServiceAtlas.Proofs.Literal
import ServiceAtlas.Proofs.Identifiers
import ServiceAtlas.Proofs.Completion
import ServiceAtlas.Proofs.Nesting
import ServiceAtlas.Proofs.Infrastructure
import ServiceAtlas.Proofs.Java.Lexing
import ServiceAtlas.Proofs.Java.Naming
import ServiceAtlas.Proofs.Java.Spelling
import ServiceAtlas.Proofs.Java.WrittenValue
import ServiceAtlas.Proofs.Java.Written
import ServiceAtlas.Proofs.Java.Scanning
import ServiceAtlas.Proofs.Java.MarkReading
import ServiceAtlas.Proofs.Java.TypeReading
import ServiceAtlas.Proofs.Java.ParameterReading
import ServiceAtlas.Proofs.Java.MemberReading
import ServiceAtlas.Proofs.Java.DeclarationReading
import ServiceAtlas.Proofs.Java.RoundTrip
import ServiceAtlas.Proofs.Repetition
import ServiceAtlas.Proofs.Operations
import ServiceAtlas.Proofs.RawForm
import ServiceAtlas.Proofs.FileTree
import ServiceAtlas.Proofs.Listing
import ServiceAtlas.Proofs.Atomicity
import ServiceAtlas.Proofs.Resolution
import ServiceAtlas.Proofs.ResponseSchemas
import ServiceAtlas.Proofs.Grouping
import ServiceAtlas.Proofs.Interleaving
import ServiceAtlas.Proofs.Rooting
import ServiceAtlas.Proofs.LastWrite
import ServiceAtlas.Proofs.Joining
import ServiceAtlas.Proofs.Allocation
import ServiceAtlas.Proofs.MapReading
import ServiceAtlas.Proofs.MapIdentifiers
import ServiceAtlas.Proofs.MapFrames
import ServiceAtlas.Proofs.Spacing
import ServiceAtlas.Proofs.TableReading
import ServiceAtlas.Proofs.EndpointRows
import ServiceAtlas.Proofs.ModelSections
import ServiceAtlas.Proofs.Javadoc.RoundTrip
import ServiceAtlas.Proofs.Summary
import ServiceAtlas.Proofs.Requirement
import ServiceAtlas.Proofs.Javadoc.Indentation
import ServiceAtlas.Proofs.Java.UnitReading
import ServiceAtlas.Proofs.Java.TypePlaces
import ServiceAtlas.Proofs.MarkOrder
import ServiceAtlas.Proofs.Precedence
import ServiceAtlas.Proofs.Accessors
import ServiceAtlas.Proofs.Rounding
import ServiceAtlas.Proofs.NumericBounds
import ServiceAtlas.Proofs.Unquoting
import ServiceAtlas.Proofs.FlagValues
import ServiceAtlas.Proofs.Utf8
import ServiceAtlas.Proofs.Loading
import ServiceAtlas.Proofs.Sources
import ServiceAtlas.Proofs.Attachment
import ServiceAtlas.Proofs.TypeNotation
import ServiceAtlas.Proofs.LengthBounds
import ServiceAtlas.Proofs.ControllerGroups
