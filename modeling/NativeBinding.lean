import NativeBinding.Codec.Decode
import NativeBinding.Codec.Encode
import NativeBinding.Codec.Entry
import NativeBinding.Codec.Shown
import NativeBinding.Codec.Size
import NativeBinding.CommandLine.FileTree
import NativeBinding.CommandLine.Options
import NativeBinding.CommandLine.Path
import NativeBinding.CommandLine.Run
import NativeBinding.Config
import NativeBinding.Definition.Body
import NativeBinding.Definition.Clause
import NativeBinding.Definition.Comment
import NativeBinding.Definition.Read
import NativeBinding.Definition.Scan
import NativeBinding.Definition.Stray
import NativeBinding.Definition.SyntaxError
import NativeBinding.Emitted.BufferEntry
import NativeBinding.Emitted.Codec
import NativeBinding.Emitted.Declaration
import NativeBinding.Emitted.EnumClass
import NativeBinding.Emitted.Expr
import NativeBinding.Emitted.ForeignType
import NativeBinding.Emitted.HostType
import NativeBinding.Emitted.Hygiene
import NativeBinding.Emitted.Loading
import NativeBinding.Emitted.Names
import NativeBinding.Emitted.OptionalHelpers
import NativeBinding.Emitted.Passing
import NativeBinding.Emitted.Preamble
import NativeBinding.Emitted.RecordClass
import NativeBinding.Emitted.Source
import NativeBinding.Emitted.Support
import NativeBinding.Emitted.Wrapper
import NativeBinding.Fault
import NativeBinding.Interface.Model
import NativeBinding.Interface.Spelling
import NativeBinding.Interface.TypeRef
import NativeBinding.Interface.Unsupported
import NativeBinding.Main
import NativeBinding.Proofs.Codec.Accept
import NativeBinding.Proofs.Codec.Decode
import NativeBinding.Proofs.Codec.Encode
import NativeBinding.Proofs.Codec.Filled
import NativeBinding.Proofs.Codec.Layout
import NativeBinding.Proofs.Codec.Nested
import NativeBinding.Proofs.Codec.Short
import NativeBinding.Proofs.Codec.Sized
import NativeBinding.Proofs.CommandLine.FileTree
import NativeBinding.Proofs.CommandLine.Written
import NativeBinding.Proofs.Definition.Bodies
import NativeBinding.Proofs.Definition.Clauses
import NativeBinding.Proofs.Definition.Comments
import NativeBinding.Proofs.Definition.Contents
import NativeBinding.Proofs.Definition.Coverage
import NativeBinding.Proofs.Definition.Declared
import NativeBinding.Proofs.Definition.Disjoint
import NativeBinding.Proofs.Definition.FirstStray
import NativeBinding.Proofs.Definition.Formed
import NativeBinding.Proofs.Definition.Ignored
import NativeBinding.Proofs.Definition.Lines
import NativeBinding.Proofs.Definition.Located
import NativeBinding.Proofs.Definition.Matching
import NativeBinding.Proofs.Definition.Placement
import NativeBinding.Proofs.Definition.Ranges
import NativeBinding.Proofs.Definition.Relaid
import NativeBinding.Proofs.Definition.Rereading
import NativeBinding.Proofs.Definition.Respacing
import NativeBinding.Proofs.Definition.RoundTrip
import NativeBinding.Proofs.Definition.Scanning
import NativeBinding.Proofs.Definition.Shapes
import NativeBinding.Proofs.Definition.Symbols
import NativeBinding.Proofs.Definition.Words
import NativeBinding.Proofs.Emitted.Accepted
import NativeBinding.Proofs.Emitted.Bound
import NativeBinding.Proofs.Emitted.Boundary
import NativeBinding.Proofs.Emitted.Closed
import NativeBinding.Proofs.Emitted.Convention
import NativeBinding.Proofs.Emitted.Distinct
import NativeBinding.Proofs.Emitted.Entries
import NativeBinding.Proofs.Emitted.Evaluated
import NativeBinding.Proofs.Emitted.Executed
import NativeBinding.Proofs.Emitted.Helpers
import NativeBinding.Proofs.Emitted.Hygiene
import NativeBinding.Proofs.Emitted.Identifiers
import NativeBinding.Proofs.Emitted.Idents
import NativeBinding.Proofs.Emitted.Refused
import NativeBinding.Proofs.Emitted.Rendered
import NativeBinding.Proofs.Emitted.Scope
import NativeBinding.Proofs.Emitted.Scopes
import NativeBinding.Proofs.Emitted.Semantics
import NativeBinding.Proofs.Emitted.Settling
import NativeBinding.Proofs.Emitted.Spine
import NativeBinding.Proofs.Emitted.Wrapped
import NativeBinding.Proofs.Interface.Nesting
import NativeBinding.Proofs.Sequence
import NativeBinding.Proofs.Session.Alike
import NativeBinding.Proofs.Session.Arguments
import NativeBinding.Proofs.Session.Calling
import NativeBinding.Proofs.Session.Custody
import NativeBinding.Proofs.Session.Events
import NativeBinding.Proofs.Session.Exchange
import NativeBinding.Proofs.Session.Independent
import NativeBinding.Proofs.Session.Ledger
import NativeBinding.Proofs.Session.Library
import NativeBinding.Proofs.Session.Lifting
import NativeBinding.Proofs.Session.Mirrored
import NativeBinding.Proofs.Session.Ownership
import NativeBinding.Proofs.Session.Packing
import NativeBinding.Proofs.Session.Parted
import NativeBinding.Proofs.Session.Plain
import NativeBinding.Proofs.Session.Renumbering
import NativeBinding.Proofs.Session.Sizing
import NativeBinding.Proofs.Session.Spoiled
import NativeBinding.Proofs.Session.Texts
import NativeBinding.Proofs.Session.Transfer
import NativeBinding.Proofs.Session.Unhidden
import NativeBinding.Proofs.Text.Bytes
import NativeBinding.Proofs.Text.Classes
import NativeBinding.Proofs.Text.Pieces
import NativeBinding.Proofs.Text.Spacing
import NativeBinding.Proofs.Wire.Append
import NativeBinding.Proofs.Wire.Exact
import NativeBinding.Proofs.Wire.Narrow
import NativeBinding.Proofs.Wire.Nearest
import NativeBinding.Proofs.Wire.Room
import NativeBinding.Proofs.Wire.Short
import NativeBinding.Proofs.Wire.Take
import NativeBinding.Proofs.Wire.Tape
import NativeBinding.Report
import NativeBinding.Script.Classes
import NativeBinding.Script.Component
import NativeBinding.Script.Evaluate
import NativeBinding.Script.Invoke
import NativeBinding.Script.Layout
import NativeBinding.Script.Load
import NativeBinding.Script.Lookup
import NativeBinding.Script.Memory
import NativeBinding.Script.Native
import NativeBinding.Script.Object
import NativeBinding.Script.Operate
import NativeBinding.Script.Parse
import NativeBinding.Script.Scope
import NativeBinding.Script.Show
import NativeBinding.Script.Steps
import NativeBinding.Script.Table
import NativeBinding.Script.Term
import NativeBinding.Script.Token
import NativeBinding.Session.Call
import NativeBinding.Session.Library
import NativeBinding.Session.Literal
import NativeBinding.Session.Ownership
import NativeBinding.Session.Program
import NativeBinding.Session.StandIn
import NativeBinding.Session.Step
import NativeBinding.Text.Blank
import NativeBinding.Text.Decomposition
import NativeBinding.Text.Identifier
import NativeBinding.Text.Name
import NativeBinding.Text.Normal
import NativeBinding.Text.Printable
import NativeBinding.Text.Quoted
import NativeBinding.Text.Runs
import NativeBinding.Text.Shortest
import NativeBinding.Text.Upper
import NativeBinding.Text.Utf8
import NativeBinding.Text.Word
import NativeBinding.Value
import NativeBinding.Wire.Arithmetic
import NativeBinding.Wire.Binary
import NativeBinding.Wire.Reader
import NativeBinding.Wire.Word
import NativeBinding.Wire.Writer
