import StackLisp.Text.Blank
import StackLisp.Text.Lines
import StackLisp.Text.Paint
import StackLisp.Token.Basic
import StackLisp.Token.Lexeme
import StackLisp.Token.Stream
import StackLisp.Token.Literal
import StackLisp.Expr.Basic
import StackLisp.Expr.Printer
import StackLisp.Expr.Reader
import StackLisp.Text.Quoted
import StackLisp.Code.Module
import StackLisp.Operator
import StackLisp.Trace
import StackLisp.Lowering
import StackLisp.Evaluation
import StackLisp.Draw.Expr
import StackLisp.Draw.Code
import StackLisp.CommandLine.Run
import StackLisp.Fixture.Check
import StackLisp.Main
import StackLisp.Proofs.Lowering.Faults
import StackLisp.Proofs.Lowering.Lowers
import StackLisp.Proofs.Lowering.Meaning
import StackLisp.Proofs.Lowering.Sequence
import StackLisp.Proofs.Lowering.Heights
import StackLisp.Proofs.Lowering.Depth
import StackLisp.Proofs.Lowering.Restriction
import StackLisp.Proofs.Lowering.Events
import StackLisp.Proofs.Lowering.Trees
import StackLisp.Proofs.Lowering.Tables
import StackLisp.Proofs.Lowering.Exact
import StackLisp.Proofs.Reading.Steps
import StackLisp.Proofs.Reading.Symbols
import StackLisp.Proofs.Token.Decoding
import StackLisp.Proofs.Reading.FlatPass
import StackLisp.Proofs.Reading.Items
import StackLisp.Proofs.Reading.RoundTrip
import StackLisp.Proofs.Reading.Canonical
import StackLisp.Proofs.Reading.Joining
import StackLisp.Proofs.Reading.Balance
import StackLisp.Proofs.Reading.Literals
import StackLisp.Proofs.Token.Encoding
import StackLisp.Proofs.Token.First
import StackLisp.Proofs.Token.Rules
import StackLisp.Proofs.Token.Marks
import StackLisp.Proofs.Token.Scan
import StackLisp.Proofs.Token.Interleaving
import StackLisp.Proofs.Token.Tiling
import StackLisp.Proofs.Code.Traps
import StackLisp.Proofs.Code.Frame
import StackLisp.Proofs.Code.Validation
import StackLisp.Proofs.Text.Lines
import StackLisp.Proofs.Code.Text
import StackLisp.Proofs.Session.Drawing
import StackLisp.Proofs.Session.Modes
import StackLisp.Proofs.Session.Labels
import StackLisp.Proofs.CommandLine.Editing
import StackLisp.Proofs.CommandLine.Loop
import StackLisp.Proofs.Draw.Expr
import StackLisp.Proofs.Fixture.Sections
import StackLisp.Proofs.Fixture.Weaving
import StackLisp.Proofs.Fixture.Resting
import StackLisp.Proofs.Reading.Rendering
import StackLisp.Proofs.Fixture.Regeneration
