import Reshape.Calendar.Moment
import Reshape.Call.Dispatch
import Reshape.CommandLine.Basic
import Reshape.Compile.Basic
import Reshape.Decimal.Layout
import Reshape.Json.Coercion
import Reshape.Json.Equality
import Reshape.Json.Printer
import Reshape.Json.Reader
import Reshape.Main
import Reshape.PathQuery.Basic
import Reshape.Pattern.Reader
import Reshape.Program.Stored
import Reshape.Proofs.Replay.Chain
import Reshape.Proofs.Replay.Relocation
import Reshape.Proofs.Tree.Address
import Reshape.Proofs.Tree.Lens
import Reshape.Proofs.Tree.Matches
import Reshape.Proofs.Tree.Visits
import Reshape.Proofs.Tree.Within
import Reshape.Query.Printer
import Reshape.Query.Reader
import Reshape.Replay.Run
import Reshape.Settings
import Reshape.Tree.Revision
import Reshape.Yaml.Document
import Reshape.Yaml.Printer
import Reshape.Proofs.Compile.Collected
import Reshape.Proofs.Compile.Inlining
import Reshape.Proofs.Compile.RuleOrder
import Reshape.Proofs.Tree.Apart
import Reshape.Proofs.Tree.Identical
import Reshape.Proofs.Replay.Commutation
import Reshape.Proofs.Compile.Cleaned
import Reshape.Proofs.Compile.Captured
import Reshape.Proofs.Decimal.Digits
import Reshape.Proofs.Query.Tokens
import Reshape.Proofs.Query.Scanning
import Reshape.Proofs.Query.Printed
import Reshape.Proofs.Query.Rereading
import Reshape.Proofs.Query.Readable
import Reshape.Proofs.Query.Roundtrip
import Reshape.Proofs.Query.Plain
import Reshape.Proofs.Compile.Sending
import Reshape.Proofs.Compile.SpreadTable
import Reshape.Proofs.Compile.Acceptance
import Reshape.Proofs.Compile.Asked
import Reshape.Proofs.Compile.Reordering
import Reshape.Proofs.Replay.Frame
import Reshape.Proofs.Tree.Frame
import Reshape.Proofs.Tree.Resolution
import Reshape.Proofs.Program.Stored
import Reshape.Proofs.Call.Failure
import Reshape.Proofs.Replay.Safety
import Reshape.Proofs.Replay.CallShape
import Reshape.Proofs.Tree.Stopping
import Reshape.Proofs.Replay.Runs
import Reshape.Proofs.Tree.Members
import Reshape.Proofs.Replay.Stopping
import Reshape.Proofs.Replay.Restructuring
import Reshape.Proofs.Replay.References
import Reshape.Proofs.Replay.NullPassing
import Reshape.Proofs.Text.Classes
import Reshape.Proofs.Replay.Substitution
import Reshape.Proofs.PathQuery.BareNames
import Reshape.Proofs.PathQuery.DottedIndices
import Reshape.Proofs.PathQuery.Stretches
import Reshape.Proofs.PathQuery.Idempotence
import Reshape.Proofs.PathQuery.Footing
import Reshape.Proofs.PathQuery.Reading
import Reshape.Proofs.PathQuery.Readers
import Reshape.Proofs.PathQuery.Meaning
import Reshape.Proofs.PathQuery.Quotations
import Reshape.Proofs.Compile.Interleaving
import Reshape.Proofs.Call.Writing
import Reshape.Proofs.Call.Flattening
import Reshape.Proofs.Text.Occurrences
import Reshape.Proofs.Call.Splitting
import Reshape.Proofs.Call.Slicing
import Reshape.Proofs.Decimal.Encoding
import Reshape.Proofs.Decimal.Nearest
import Reshape.Proofs.Call.Equality
import Reshape.Proofs.Decimal.Shortest
import Reshape.Proofs.Call.IntegerText
import Reshape.Proofs.Call.Radix
import Reshape.Proofs.Call.Switching
import Reshape.Proofs.Call.IntegerArgument
import Reshape.Proofs.Call.Searching
import Reshape.Proofs.Call.Building
import Reshape.Proofs.Tree.Joining
import Reshape.Proofs.Tree.Overwriting
import Reshape.Proofs.Call.Nesting
import Reshape.Proofs.Program.Expressed
