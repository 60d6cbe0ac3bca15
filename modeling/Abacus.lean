import Abacus.Command
import Abacus.Console
import Abacus.Diagnostic
import Abacus.Expr
import Abacus.Expr.Climb
import Abacus.Expr.Eval
import Abacus.Expr.Parser
import Abacus.Host
import Abacus.Interpret
import Abacus.Literal
import Abacus.Main
import Abacus.Program
import Abacus.Report
import Abacus.Report.Label
import Abacus.Script
import Abacus.Session
import Abacus.Text.Blank
import Abacus.Text.Bytes
import Abacus.Text.CodeRange
import Abacus.Text.Decimal
import Abacus.Text.Lines
import Abacus.Text.Printable
import Abacus.Text.Quotes
import Abacus.Text.Width
import Abacus.Token
import Abacus.Token.Cursor
import Abacus.Proofs.Derivable
import Abacus.Proofs.Recognition
import Abacus.Proofs.Acceptance
import Abacus.Proofs.Layout
import Abacus.Proofs.Scanning
import Abacus.Proofs.Composition
import Abacus.Proofs.Height
import Abacus.Proofs.Tiling
import Abacus.Proofs.Encoding
import Abacus.Proofs.Coverage
import Abacus.Proofs.Accounting
import Abacus.Proofs.Lines
import Abacus.Proofs.Writing
import Abacus.Proofs.Transcript
import Abacus.Proofs.Rendering
import Abacus.Proofs.Places
import Abacus.Proofs.Failure
import Abacus.Proofs.Exactness
import Abacus.Proofs.Channels
import Abacus.Proofs.Viability
import Abacus.Proofs.Frames
import Abacus.Proofs.TreeOrFault
import Abacus.Proofs.Balance
import Abacus.Proofs.Order
import Abacus.Proofs.BadLiterals
import Abacus.Proofs.GivingUp
import Abacus.Proofs.Numeration
import Abacus.Proofs.Calculation
import Abacus.Proofs.Unambiguity
import Abacus.Proofs.Labelling
import Abacus.Proofs.Streaming
import Abacus.Proofs.Truncation
import Abacus.Proofs.Additivity
import Abacus.Proofs.Shapes
import Abacus.Proofs.Suffixes
import Abacus.Proofs.PlainForm
import Abacus.Proofs.Recursion
import Abacus.Proofs.Termination
import Abacus.Proofs.Hosting
