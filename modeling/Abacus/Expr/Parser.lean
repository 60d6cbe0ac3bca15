import Abacus.Expr.Climb
import Abacus.Token.Cursor

/-!
# Parsers

A *parser* stands at a place in the tokens of a line and keeps what it found
wrong so far.  It can be made at any place of a line, and be asked for an
expression or for all expressions that are left.  Once it has given up for want
of room it finds nothing more.
-/

namespace Abacus

/-- A parser at a place in a line. -/
structure Parser where
  /-- The tokens that were not used yet, without the end mark. -/
  unread : List Token
  /-- The end mark of the line. -/
  mark : Token
  /-- The number of levels that the parser is inside of. -/
  depth : Nat
  /-- What was wrong so far. -/
  faults : List Fault
  /-- Whether the rest of the line was skipped because there was no room. -/
  abandoned : Bool
deriving DecidableEq, Repr

namespace Parser

/-- A parser of what comes after a place in a line. -/
def ofCursor (c : Cursor) : Parser :=
  ⟨c.tokens, c.mark, 0, [], false⟩

/-- A parser of a line. -/
def ofString (source : String) : Parser :=
  ofCursor (.ofString source)

/-- The number of levels that are left. -/
def room (p : Parser) : Nat :=
  depthLimit - p.depth

/-- Reads an expression whose operators bind tighter than a bound.  A parser that gave up only
passes over a token. -/
def expression (bound : Precedence) (p : Parser) : Option Expr × Parser :=
  if p.abandoned then
    (none, { p with unread := p.unread.tail })
  else
    let o := Climb.expression p.mark p.room bound p.unread
    (o.expr?, { p with
      unread := o.rest, faults := p.faults ++ o.faults, abandoned := o.abandoned })

/-- Reads all expressions that are left.  A parser that gave up only passes over what is left. -/
def line (p : Parser) : List Expr × Parser :=
  if p.abandoned then
    ([], { p with unread := [] })
  else
    let r := Climb.line p.mark p.room p.unread
    (r.exprs, { p with unread := [], faults := p.faults ++ r.faults, abandoned := r.abandoned })

end Parser

end Abacus
