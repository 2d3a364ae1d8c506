import GoldFront.Text.Basic
import GoldFront.Text.Quoted
import GoldFront.Text.Alphanumeric
import GoldFront.Token.Cursor
import GoldFront.Binary64.Basic
import GoldFront.Value.Dictionary
import GoldFront.Contract.Registry
import GoldFront.Report.Diagnostic
import GoldFront.Report.Layout
import GoldFront.Pattern.Bracket
import GoldFront.Pattern.Piece
import GoldFront.Session.Filter
import GoldFront.Session.Prompt
import GoldFront.Command.Arguments
import GoldFront.Command.Program
import GoldFront.Main
import GoldFront.Proofs.Text.Slice
import GoldFront.Proofs.Text.Quoted
import GoldFront.Proofs.Token.Lexeme
import GoldFront.Proofs.Token.Reading
import GoldFront.Proofs.Token.Diagnostics
import GoldFront.Proofs.Token.Grammar
import GoldFront.Proofs.Token.Calls
import GoldFront.Proofs.Token.Concatenation
import GoldFront.Proofs.Token.SideBySide
import GoldFront.Proofs.Session.Prompt
import GoldFront.Proofs.Session.Trimming
import GoldFront.Proofs.Binary64.Units
import GoldFront.Proofs.Value.Dictionary
import GoldFront.Proofs.Value.Equality
import GoldFront.Proofs.Binary64.Rounding
import GoldFront.Proofs.Binary64.Decimal
import GoldFront.Proofs.Value.Literal
import GoldFront.Proofs.Value.Unambiguous
import GoldFront.Proofs.Contract.Call
import GoldFront.Proofs.Contract.Registry
import GoldFront.Proofs.Contract.Standard
import GoldFront.Proofs.Contract.Alike
import GoldFront.Proofs.Contract.Signature
import GoldFront.Proofs.Command.Program
import GoldFront.Proofs.Report.SourceLine
import GoldFront.Proofs.Report.Layout
import GoldFront.Proofs.Report.Fault
import GoldFront.Proofs.Report.Colour
