import Abacus.Interpret
import Abacus.Proofs.Acceptance

/-!
# Places do not matter to reading

The reader of expressions copies the places of tokens into trees and faults, and
never looks at them.  So it commutes with every map of places, whatever the map
does: reading tokens that were moved gives what reading them gives, moved
(`expression_relocate`, `line_relocate`).  Nothing is assumed of the map.

The map that sends all places to one makes tokens *bare*.  The answer to a text
depends on its bare tokens alone, but for the places of faults
(`mapError_bare_interpret`).
-/

namespace Abacus

variable (f : Span → Span)

/-! ## Moving -/

/-- The token at another place. -/
def Token.relocate (t : Token) : Token :=
  ⟨t.kind, t.text, f t.span⟩

@[simp] theorem Token.relocate_kind (t : Token) : (t.relocate f).kind = t.kind := rfl

@[simp] theorem Token.relocate_text (t : Token) : (t.relocate f).text = t.text := rfl

@[simp] theorem Token.relocate_span (t : Token) : (t.relocate f).span = f t.span := rfl

/-- The tree of tokens at other places. -/
def Expr.relocate : Expr → Expr
  | int token value => int (token.relocate f) value
  | unary token operator operand => unary (token.relocate f) operator operand.relocate
  | binary token operator left right =>
    binary (token.relocate f) operator left.relocate right.relocate

theorem Expr.token_relocate (e : Expr) : (e.relocate f).token = e.token.relocate f := by
  cases e <;> rfl

/-- The canonical form does not show places. -/
theorem Expr.render_relocate (e : Expr) : (e.relocate f).render = e.render := by
  induction e with
  | int => rfl
  | unary token operator operand ih => simp only [Expr.relocate, Expr.render, ih]
  | binary token operator left right ihl ihr => simp only [Expr.relocate, Expr.render, ihl, ihr]

/-- Evaluation does not look at tokens. -/
theorem Expr.eval_relocate (e : Expr) : (e.relocate f).eval = e.eval := by
  induction e with
  | int => rfl
  | unary token operator operand ih => simp only [Expr.relocate, Expr.eval, ih]
  | binary token operator left right ihl ihr => simp only [Expr.relocate, Expr.eval, ihl, ihr]

/-- The fault at another place. -/
def Fault.relocate (fault : Fault) : Fault :=
  ⟨fault.cause, f fault.span⟩

/-! ## Reading what was moved -/

namespace Climb

def Outcome.relocate (o : Outcome) : Outcome :=
  ⟨o.expr?.map (.relocate f), o.faults.map (.relocate f), f o.last, o.rest.map (.relocate f),
    o.abandoned⟩

theorem front_relocate (mark : Token) (ts : List Token) :
    front (mark.relocate f) (ts.map (.relocate f)) = (front mark ts).relocate f := by
  cases ts <;> rfl

theorem giveUp_relocate (mark : Token) (fs : List Fault) (place : Span) :
    giveUp (mark.relocate f) (fs.map (.relocate f)) (f place) =
      (giveUp mark fs place).relocate f := by
  simp [giveUp, Outcome.relocate, Fault.relocate]

theorem refuse_relocate (t : Token) (rest : List Token) :
    refuse (t.relocate f) (rest.map (.relocate f)) = (refuse t rest).relocate f := rfl

theorem literal_relocate (t : Token) (rest : List Token) :
    literal (t.relocate f) (rest.map (.relocate f)) = (literal t rest).relocate f := by
  cases h : Literal.value? t.text with
  | none => simp [literal, Outcome.relocate, Fault.relocate, h]
  | some value => simp [literal, Outcome.relocate, Expr.relocate, h]

theorem negate_relocate (t : Token) (o : Outcome) :
    (o.relocate f).negate (t.relocate f) = (o.negate t).relocate f := by
  cases h : o.expr? with
  | none => simp [Outcome.negate, Outcome.relocate, h]
  | some e => simp [Outcome.negate, Outcome.relocate, Expr.relocate, h]

theorem close_relocate (mark : Token) (o : Outcome) :
    (o.relocate f).close (mark.relocate f) = (o.close mark).relocate f := by
  have same : front (mark.relocate f) (o.relocate f).rest = (front mark o.rest).relocate f :=
    front_relocate f mark o.rest
  have kind : (front (mark.relocate f) (o.relocate f).rest).kind = (front mark o.rest).kind := by
    rw [same, Token.relocate_kind]
  by_cases closed : (front mark o.rest).kind = .closing
  · rw [close_of_closing closed, close_of_closing (kind.trans closed), same]
    simp [Outcome.relocate, List.map_tail]
  · have open' : (front (mark.relocate f) (o.relocate f).rest).kind ≠ .closing := by
      rw [kind]
      exact closed
    cases going : o.abandoned with
    | true =>
      rw [close_of_abandoned closed going, close_of_abandoned open' going]
      rfl
    | false =>
      rw [close_of_ne_closing closed going, close_of_ne_closing open' going, same]
      simp [Outcome.relocate, Fault.relocate]

theorem join_relocate (t : Token) (left right : Outcome) :
    (left.relocate f).join (t.relocate f) (right.relocate f) = (left.join t right).relocate f := by
  cases hl : left.expr? with
  | none => simp [Outcome.join, Outcome.relocate, hl]
  | some l =>
    cases hr : right.expr? with
    | none => simp [Outcome.join, Outcome.relocate, hl, hr]
    | some r => simp [Outcome.join, Outcome.relocate, Expr.relocate, hl, hr]

theorem outcome_relocate_rest {o : Outcome} {t : Token} {ts : List Token}
    (next : o.rest = t :: ts) : (o.relocate f).rest = t.relocate f :: ts.map (.relocate f) := by
  rw [Outcome.relocate, next, List.map_cons]

theorem nextRank_relocate (ts : List Token) : nextRank (ts.map (.relocate f)) = nextRank ts := by
  cases ts <;> rfl

theorem relocate_invariant (mark : Token) :
    Invariant mark
      (fun room bound ts o =>
        expression (mark.relocate f) room bound (ts.map (.relocate f)) = o.relocate f)
      (fun room bound left o =>
        fold (mark.relocate f) room bound (left.relocate f) = o.relocate f) where
  lacking bound ts := by
    rw [expression, front_relocate]
    exact giveUp_relocate f mark [] _
  missing room bound := by
    rw [List.map_nil, expression]
    exact refuse_relocate f mark []
  refused room bound t ts starts := by
    rw [List.map_cons, expression_refuse _ (by exact starts), refuse_relocate]
  number room bound t ts o kind gone := by
    rw [List.map_cons, expression_number _ (by exact kind), literal_relocate, gone]
  minus room bound t ts o kind inner gone := by
    rw [List.map_cons, expression_minus _ (by exact kind), inner, negate_relocate, gone]
  opening room bound t ts o kind inner gone := by
    rw [List.map_cons, expression_opening _ (by exact kind), inner, close_relocate, gone]
  stop room bound left stops := by
    rw [← nextRank_relocate f] at stops
    exact fold_of_nextRank_le stops
  full bound left t ts next lt := by
    rw [fold_zero (outcome_relocate_rest f next) lt]
    exact giveUp_relocate f mark left.faults left.last
  step room bound left t ts o next lt right gone := by
    rw [fold_succ (outcome_relocate_rest f next) lt, Token.relocate_kind, right, join_relocate,
      gone]

/-- Reading an expression commutes with moving. -/
theorem expression_relocate (mark : Token) (room : Nat) (bound : Precedence) (ts : List Token) :
    expression (mark.relocate f) room bound (ts.map (.relocate f)) =
      (expression mark room bound ts).relocate f :=
  (relocate_invariant f mark).expression room bound ts

def Reading.relocate (r : Reading) : Reading :=
  ⟨r.exprs.map (.relocate f), r.faults.map (.relocate f), r.abandoned⟩

theorem cons_relocate (o : Outcome) (r : Reading) :
    Reading.cons (o.relocate f) (r.relocate f) = (Reading.cons o r).relocate f := by
  cases h : o.expr? with
  | none => simp [Reading.cons, Reading.relocate, Outcome.relocate, h]
  | some e => simp [Reading.cons, Reading.relocate, Outcome.relocate, h]

/-- Reading a line commutes with moving. -/
theorem line_relocate (mark : Token) (room : Nat) (ts : List Token) :
    line (mark.relocate f) room (ts.map (.relocate f)) = (line mark room ts).relocate f := by
  induction ts using line.induct mark room with
  | case1 =>
    rw [List.map_nil, line, line]
    rfl
  | case2 t ts o ih =>
    have moved : o.relocate f =
        expression (mark.relocate f) room .lowest ((t :: ts).map (.relocate f)) :=
      (expression_relocate f mark room .lowest (t :: ts)).symm
    rw [line_of_ne_nil _ _ (by simp), ← moved]
    rw [line_of_ne_nil mark room (List.cons_ne_nil t ts)]
    rw [← cons_relocate]
    exact congrArg (Reading.cons (o.relocate f)) ih

end Climb

/-! ## Answers -/

/-- The answer that a reading leads to. -/
def Climb.Reading.verdict (r : Reading) : Except (List Fault) (Option Answer) :=
  if r.faults ≠ [] then .error r.faults
  else
    match r.exprs with
    | [] => .ok none
    | [e] => .ok (some e.eval)
    | _ :: second :: _ => .error [surplusFault r.exprs.length second]

theorem interpret_eq_verdict (source : String) :
    interpret source = (Parser.reading source).verdict := rfl

theorem surplusFault_relocate (count : Nat) (second : Expr) :
    surplusFault count (second.relocate f) = (surplusFault count second).relocate f := by
  rw [surplusFault, Expr.token_relocate]
  rfl

/-- Moving the tokens of a reading moves the faults of its answer, and nothing else. -/
theorem Climb.Reading.verdict_relocate (r : Reading) :
    (r.relocate f).verdict = r.verdict.mapError (List.map (.relocate f)) := by
  obtain ⟨exprs, faults, abandoned⟩ := r
  cases faults with
  | cons fault fs => rfl
  | nil =>
    cases exprs with
    | nil => rfl
    | cons e es =>
      cases es with
      | nil => exact congrArg (Except.ok <| some ·) (Expr.eval_relocate f e)
      | cons second es =>
        have moved := surplusFault_relocate f (e :: second :: es).length second
        have count : ((e :: second :: es).map (Expr.relocate f)).length =
          (e :: second :: es).length := List.length_map _
        exact congrArg (Except.error [·]) (count ▸ moved)

/-! ## Bare tokens -/

/-- The token without its place. -/
def Token.bare : Token → Token :=
  .relocate fun _ => ⟨0, 0⟩

/-- The tree without the places of its tokens. -/
def Expr.bare : Expr → Expr :=
  .relocate fun _ => ⟨0, 0⟩

/-- The fault without its place. -/
def Fault.bare : Fault → Fault :=
  .relocate fun _ => ⟨0, 0⟩

/-- The end mark without its place. -/
def Token.bareMark : Token :=
  ⟨.eof, "", ⟨0, 0⟩⟩

/-- The tokens of some characters, without their places. -/
def bareTokens (cs : List Char) : List Token :=
  (Cursor.tokens ⟨0, cs⟩).map .bare

/-- What the parser of a text reads depends on its bare tokens alone, but for places. -/
theorem Parser.reading_relocate_bare (source : String) :
    (Parser.reading source).relocate (fun _ => ⟨0, 0⟩) =
      Climb.line .bareMark depthLimit (bareTokens source.toList) :=
  (Climb.line_relocate (fun _ => ⟨0, 0⟩) (Cursor.ofString source).mark depthLimit
    (Cursor.ofString source).tokens).symm

/-- The answer to a text depends on its bare tokens alone, but for the places of faults. -/
theorem mapError_bare_interpret (source : String) :
    (interpret source).mapError (List.map .bare) =
      (Climb.line .bareMark depthLimit (bareTokens source.toList)).verdict := by
  rw [interpret_eq_verdict, ← Parser.reading_relocate_bare]
  exact (Climb.Reading.verdict_relocate _ _).symm

end Abacus
