import ProtoApi.Annotations
import ProtoApi.Binary64
import ProtoApi.Build.AutoPopulation
import ProtoApi.Build.Comments
import ProtoApi.Build.Context
import ProtoApi.Build.Methods
import ProtoApi.Build.PackageName
import ProtoApi.Build.Pagination
import ProtoApi.Build.Pipeline
import ProtoApi.Build.References
import ProtoApi.Build.Targets
import ProtoApi.Build.Types
import ProtoApi.Command.Arguments
import ProtoApi.Command.FileTree
import ProtoApi.Command.Path
import ProtoApi.Command.Run
import ProtoApi.Decoder.Basic
import ProtoApi.Decoder.Error
import ProtoApi.Decoder.Record
import ProtoApi.Descriptor.Declarations
import ProtoApi.Descriptor.Format
import ProtoApi.Diagnostic
import ProtoApi.EnumAlias
import ProtoApi.FieldType
import ProtoApi.Http.PathTemplate
import ProtoApi.Http.PathTemplate.Written
import ProtoApi.Http.RoutingTemplate
import ProtoApi.Http.Rule
import ProtoApi.Json.Fault
import ProtoApi.Json.Number
import ProtoApi.Json.Token
import ProtoApi.Json.Tree
import ProtoApi.Json.Value
import ProtoApi.Json.Writer
import ProtoApi.Main
import ProtoApi.Mixin.Bundled
import ProtoApi.Mixin.Catalog
import ProtoApi.Mixin.Composition
import ProtoApi.Mixin.Plan
import ProtoApi.Model.Api
import ProtoApi.Model.Digest
import ProtoApi.Model.Entities
import ProtoApi.Model.Format
import ProtoApi.Model.Id
import ProtoApi.Model.Keyed
import ProtoApi.Model.Registry
import ProtoApi.Proofs.Build.Agreement
import ProtoApi.Proofs.Build.Declared
import ProtoApi.Proofs.Build.FileOrder
import ProtoApi.Proofs.Build.Methods
import ProtoApi.Proofs.Build.Names
import ProtoApi.Proofs.Build.Phases
import ProtoApi.Proofs.Build.RegistrationOrder
import ProtoApi.Proofs.Build.Services
import ProtoApi.Proofs.Build.Types
import ProtoApi.Proofs.Build.WellFormed
import ProtoApi.Proofs.Decoder.ReadsBack
import ProtoApi.Proofs.EnumAlias
import ProtoApi.Proofs.Except
import ProtoApi.Proofs.Json.Scanning
import ProtoApi.Proofs.Json.Written
import ProtoApi.Proofs.Mixin.Fallback
import ProtoApi.Proofs.Mixin.Loading
import ProtoApi.Proofs.Model.RoundTrip
import ProtoApi.Proofs.Registry.WellFormed
import ProtoApi.Proofs.Table
import ProtoApi.ServiceConfig
import ProtoApi.Sha256
import ProtoApi.Table
import ProtoApi.Text.CodePoints
import ProtoApi.Text.Lowercase
import ProtoApi.Text.Quoted
import ProtoApi.Text.Unprinted
import ProtoApi.Text.Uppercase
import ProtoApi.Proofs.Mixin.Additions
import ProtoApi.Proofs.Mixin.Selection
import ProtoApi.Proofs.Mixin.Growth
import ProtoApi.Proofs.Mixin.Accounting
import ProtoApi.Proofs.Build.Documentation
import ProtoApi.Proofs.Build.Locations
import ProtoApi.Proofs.Build.Registered
import ProtoApi.Proofs.Build.Comments
import ProtoApi.Proofs.Build.Outcome
import ProtoApi.Proofs.Build.References
import ProtoApi.Proofs.Build.RequestOrder
import ProtoApi.Proofs.Build.Kept
import ProtoApi.Proofs.Build.Origin
import ProtoApi.Proofs.Build.MethodTypes
import ProtoApi.Proofs.Build.StrayComments
import ProtoApi.Proofs.Build.LongRunning
import ProtoApi.Proofs.Build.LastDeclaration
import ProtoApi.Proofs.Http.Cutting
import ProtoApi.Proofs.Http.PathTemplate
import ProtoApi.Proofs.Build.Positions
import ProtoApi.Proofs.Json.Width
import ProtoApi.Proofs.Descriptor.Width
import ProtoApi.Proofs.Command.FileTree
import ProtoApi.Proofs.Command.Run
import ProtoApi.Proofs.Spelling.Texts
import ProtoApi.Proofs.Mixin.Turns
import ProtoApi.Proofs.Mixin.Blame
import ProtoApi.Proofs.Build.Requests
import ProtoApi.Proofs.Build.FieldTypes
import ProtoApi.Proofs.EnumAlias.Choice
import ProtoApi.Proofs.Build.Oneofs
import ProtoApi.Proofs.Build.MethodOutcomes
import ProtoApi.Proofs.Http.Binding
import ProtoApi.Proofs.Http.RoutingTemplate
import ProtoApi.Proofs.Build.ReferenceWalk
import ProtoApi.Proofs.Build.Pagination
import ProtoApi.Proofs.Build.AutoPopulation
import ProtoApi.Proofs.Build.Finishing
import ProtoApi.Proofs.Build.Faults
import ProtoApi.Proofs.Build.PackageName
import ProtoApi.Proofs.Command.Sources
import ProtoApi.Proofs.Build.RandomIds
import ProtoApi.Proofs.Build.CommentLines
