import Varlink.Address
import Varlink.Arena
import Varlink.Arena.Rendering
import Varlink.Arena.Resolution
import Varlink.Binary64
import Varlink.Binary64.Shortest
import Varlink.Client
import Varlink.Client.DocComment
import Varlink.Client.MemberType
import Varlink.Client.Name
import Varlink.Client.Outline
import Varlink.Client.Rust
import Varlink.Client.RustModule
import Varlink.Client.RustName
import Varlink.Client.TypeScript
import Varlink.CommandLine
import Varlink.Connection
import Varlink.Connection.Error
import Varlink.Document
import Varlink.Document.Error
import Varlink.Document.Reader
import Varlink.Document.Source
import Varlink.Event
import Varlink.Found
import Varlink.Graph
import Varlink.Input
import Varlink.Interface
import Varlink.Interface.Error
import Varlink.Interface.Linking
import Varlink.Interface.Naming
import Varlink.Interface.Numbering
import Varlink.Interface.Printer
import Varlink.Interface.Source
import Varlink.Json
import Varlink.Json.Bytes
import Varlink.Json.Error
import Varlink.Json.Number
import Varlink.Json.Reader
import Varlink.Json.Record
import Varlink.Json.Strings
import Varlink.Json.Writer
import Varlink.Layout
import Varlink.Location
import Varlink.Logged
import Varlink.Reply
import Varlink.Run
import Varlink.Run.Definition
import Varlink.Run.Error
import Varlink.Run.Host
import Varlink.Service
import Varlink.SystemError
import Varlink.Text.Alphanumeric
import Varlink.Text.Case
import Varlink.Text.CharRange
import Varlink.Text.Identifier
import Varlink.Text.Printable
import Varlink.Text.Quoted
import Varlink.Text.Words
import Varlink.Token
import Varlink.TypeExpr
import Varlink.World
import Varlink.World.Folder
import Varlink.Main
import Varlink.Proofs.Document.Grammar
import Varlink.Proofs.Document.Printing
import Varlink.Proofs.Document.Recognition
import Varlink.Proofs.Document.TypeReading
import Varlink.Proofs.Interface.Declarations
import Varlink.Proofs.Interface.Discovery
import Varlink.Proofs.Interface.Linking
import Varlink.Proofs.Interface.Places
import Varlink.Proofs.Interface.RoundTrip
import Varlink.Proofs.Interface.Table
import Varlink.Proofs.Interface.TypeGraph
import Varlink.Proofs.Interface.Unfolding
import Varlink.Proofs.Outcome
import Varlink.Proofs.Token
import Varlink.Proofs.TypeExpr
import Varlink.Proofs.Connection
import Varlink.Proofs.Client.Boxing
import Varlink.Proofs.Document.Reordering
import Varlink.Proofs.Interface.Naming
import Varlink.Proofs.Interface.Renumbering
import Varlink.Proofs.Interface.Failures
import Varlink.Proofs.Interface.Trivia
import Varlink.Proofs.Run.Batch
import Varlink.Proofs.Client.Closure
import Varlink.Proofs.Connection.Requests
import Varlink.Proofs.Run.Confinement
import Varlink.Proofs.Interface.Nesting
import Varlink.Proofs.Client.Scopes
import Varlink.Proofs.Client.Exports
import Varlink.Proofs.Client.Mentions
import Varlink.Proofs.Arena
import Varlink.Proofs.Arena.Lowering
import Varlink.Proofs.Arena.Filling
import Varlink.Proofs.Arena.Naming
import Varlink.Proofs.Arena.Assembly
import Varlink.Proofs.Arena.Rendering
import Varlink.Proofs.Arena.Safety
import Varlink.Proofs.Token.Division
import Varlink.Proofs.Cursor
import Varlink.Proofs.Location
import Varlink.Proofs.Document.Writable
import Varlink.Proofs.Interface.Writable
import Varlink.Proofs.Client.StringLiteral
import Varlink.Proofs.Client.Spans
import Varlink.Proofs.Client.Literals
import Varlink.Proofs.Interface.Levels
import Varlink.Proofs.Document.Depth
import Varlink.Proofs.Interface.NestingLimit
import Varlink.Proofs.Arena.FreeName
import Varlink.Proofs.Client.ReadBack
import Varlink.Proofs.Client.TypeSyntax
import Varlink.Proofs.Client.TypeTexts
import Varlink.Proofs.Document.Stopping
import Varlink.Proofs.Document.TypeStopping
import Varlink.Proofs.Document.MemberStopping
import Varlink.Proofs.Document.CorrectPrefix
import Varlink.Proofs.Json.Skipping
import Varlink.Proofs.Json.Order
import Varlink.Proofs.Reply
import Varlink.Proofs.Service
import Varlink.Proofs.Interface.Layers
import Varlink.Proofs.Arena.References
import Varlink.Proofs.Arena.Walks
