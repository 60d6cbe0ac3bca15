import Abacus.Expr.Eval
import Abacus.Expr.Parser

/-!
# The answer to a line

A line is read and evaluated by itself.  It has no answer if it holds nothing
but blanks.  If anything is wrong with its syntax, all of that is told.  If it
holds several expressions, that is told at the second one.  Otherwise the
answer is that of the one expression, and a failed evaluation is an answer too.
-/

namespace Abacus

/-- The fault of a line of this many expressions, with this one the second. -/
def surplusFault (count : Nat) (second : Expr) : Fault :=
  ⟨.surplus count, second.token.span⟩

/-- The answer to a line, nothing if it is blank, or what is wrong with it. -/
def interpret (source : String) : Except (List Fault) (Option Answer) :=
  let (exprs, parser) := (Parser.ofString source).line
  if parser.faults ≠ [] then .error parser.faults
  else
    match exprs with
    | [] => .ok none
    | [e] => .ok (some e.eval)
    | _ :: second :: _ => .error [surplusFault exprs.length second]

end Abacus
