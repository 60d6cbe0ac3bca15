import Abacus.Text.Decimal
import Abacus.Token

/-!
# What can be wrong with a line

A line that is no single expression is answered with *faults*.  A fault has a
*cause* and the place of the token it was found at.  The cause decides all
that is said about it: whether it is an error of syntax or of usage, the
message, and the help that goes with it.

A *diagnostic* is a fault as it is shown, with its texts in place of the cause.
The plain form and the drawn form of errors are functions of diagnostics, so
they can show any message and any place.
-/

namespace Abacus

/-- The most levels that an expression may have. -/
def depthLimit : Nat := 256

/-- Why a line is refused. -/
inductive Cause
  /-- An illegal token stands where an operand has to begin. -/
  | illegal (text : String)
  /-- A token that begins no operand stands where an operand has to begin. -/
  | noOperand (found : Token.Kind)
  /-- The text of a number is no integer literal. -/
  | badLiteral (text : String)
  /-- Another token stands where a parenthesis has to be closed. -/
  | unclosed (found : Token.Kind)
  /-- The expression has more levels than are allowed. -/
  | tooDeep
  /-- The line holds this many expressions instead of one. -/
  | surplus (count : Nat)
deriving DecidableEq, Repr

/-- The two kinds of error that a line can have. -/
inductive Diagnostic.Kind
  /-- The line is no sequence of expressions. -/
  | syntactic
  /-- The line is a sequence of expressions, but of more than one. -/
  | usage
deriving DecidableEq, Repr

/-- The heading under which errors of a kind are shown. -/
def Diagnostic.Kind.heading : Diagnostic.Kind → String
  | syntactic => "Syntax Error"
  | usage => "Usage Error"

namespace Cause

/-- The kind of error that a cause is. -/
def kind : Cause → Diagnostic.Kind
  | surplus _ => .usage
  | _ => .syntactic

/-- What is said about a cause. -/
def message : Cause → String
  | illegal text => "Illegal token: " ++ text
  | noOperand found => "no prefix parse function for " ++ found.name ++ " found"
  | badLiteral text => "could not parse \"" ++ text ++ "\" as integer"
  | unclosed found =>
    "expected next token to be " ++ Token.Kind.closing.name ++ ", got " ++ found.name ++ " instead"
  | tooDeep => "expression nested too deeply"
  | surplus count => "expected a single expression, found " ++ Text.Decimal.nat count

/-- How to avoid a cause, where there is something to say. -/
def help? : Cause → Option String
  | illegal _ => some "only integers and the operators + - * / ( ) are recognized"
  | noOperand _ => none
  | badLiteral _ => some "integers must fit in 64 bits and use valid digits for their base"
  | unclosed _ => some "every '(' must be closed by a matching ')'"
  | tooDeep =>
    some ("expressions may be at most " ++ Text.Decimal.nat depthLimit ++ " levels deep")
  | surplus _ => some "enter one expression per line, joined by operators"

end Cause

/-- Something wrong at a place of a line. -/
structure Fault where
  /-- What is wrong. -/
  cause : Cause
  /-- Where it is wrong. -/
  span : Span
deriving DecidableEq, Repr

/-- An error as it is shown. -/
structure Diagnostic where
  /-- The kind of error. -/
  kind : Diagnostic.Kind
  /-- The bytes of the line that are in error. -/
  span : Span
  /-- What is wrong. -/
  message : String
  /-- How to avoid it. -/
  help? : Option String
deriving DecidableEq, Repr

/-- A fault as it is shown. -/
def Fault.diagnostic (f : Fault) : Diagnostic :=
  ⟨f.cause.kind, f.span, f.cause.message, f.cause.help?⟩

namespace Diagnostic

/-- Diagnostics as plain text: a heading, which the first one chooses, and a line for each
message. -/
def plain (ds : List Diagnostic) : String :=
  let kind := (ds.head?.map Diagnostic.kind).getD .syntactic
  kind.heading ++ ":\n" ++ String.join (ds.map fun d => "\t-" ++ d.message ++ "\n")

end Diagnostic

end Abacus
