import Abacus.Proofs.Stages

/-!
# The first fault is at the first hopeless token

Some tokens are a *sentence* if they are the tokens of a line and all numbers among
them are literals, however deep it is nested.  They are *viable* if a sentence
begins with them.  The first fault that is noted, unless it is want of room, is at
the token with which the tokens cease to be viable, or at the end mark if all of
them are viable and are no sentence (`first_fault_at_first_hopeless`).

Stages decide both.  Tokens are a sentence exactly if they have no offence
(`isSentence_iff`).  One direction reads them with as much room as their phrases
need.  The other reads them with more room than there are tokens, which is never
wanting (`roomy_line`), so that reading finds no fault and hence a line.

From every stage there is a way to end: an operand if one has to come, and then
closing parentheses (`Stage.ending`).  So tokens that may come are viable.
-/

namespace Abacus

open Climb

/-- The tokens are those of a line, with literals for numbers, whatever room it takes. -/
def IsSentence (ts : List Token) : Prop :=
  ∃ ps, Grammatical ts ps

/-- The tokens can be gone on with to a sentence. -/
def Viable (ts : List Token) : Prop :=
  ∃ more, IsSentence (ts ++ more)

/-! ## Enough room -/

namespace Climb

theorem length_expression_rest_le (mark : Token) (room : Nat) (bound : Precedence)
    (ts : List Token) : (expression mark room bound ts).rest.length ≤ ts.length :=
  ((expression_rest_suffix mark room bound ts).trans (List.tail_suffix ts)).length_le

/-- Every level is taken by a token, so that more room than there are tokens is never wanting. -/
theorem room_invariant (mark : Token) :
    Invariant mark (fun room _ ts o => ts.length < room → Every (· ≠ .tooDeep) o.faults)
      (fun room _ left o => left.rest.length < room → Every (· ≠ .tooDeep) left.faults →
        Every (· ≠ .tooDeep) o.faults) where
  lacking bound ts := by
    intro enough
    exact absurd enough (Nat.not_lt_zero _)
  missing room bound := by
    intro _
    exact every_refuse (by simp) (by simp) mark []
  refused room bound t ts _ := by
    intro _
    exact every_refuse (by simp) (by simp) t ts
  number room bound t ts o _ gone := by
    intro enough
    refine gone ?_ (every_literal (by simp) t ts)
    rw [literal_rest]
    exact Nat.lt_of_succ_lt_succ enough
  minus room bound t ts o _ inner gone := by
    intro enough
    have less := Nat.lt_of_succ_lt_succ enough
    exact gone (Nat.lt_of_le_of_lt (length_expression_rest_le mark room .sign ts) less)
      (inner less)
  opening room bound t ts o _ inner gone := by
    intro enough
    have less := Nat.lt_of_succ_lt_succ enough
    have left := (Outcome.close_rest_suffix mark (expression mark room .lowest ts)).length_le
    have rest := length_expression_rest_le mark room .lowest ts
    exact gone (Nat.lt_of_le_of_lt (Nat.le_trans left rest) less)
      ((inner less).close (by simp) mark)
  stop room bound left _ := by
    intro _ going
    exact going
  full bound left t ts next _ := by
    intro enough
    exact absurd enough (Nat.not_lt_zero _)
  step room bound left t ts o next _ right gone := by
    intro enough going
    rw [next] at enough
    have less := Nat.lt_of_succ_lt_succ enough
    exact gone (Nat.lt_of_le_of_lt (length_expression_rest_le mark room _ ts) less)
      (going.append (right less))

/-- A line is not given up if there is more room than there are tokens. -/
theorem roomy_line (mark : Token) (room : Nat) (ts : List Token) (enough : ts.length < room) :
    Every (· ≠ .tooDeep) (line mark room ts).faults := by
  induction ts using line.induct mark room with
  | case1 =>
    rw [line]
    exact .nil
  | case2 t ts o ih =>
    have less : o.rest.length < room :=
      Nat.lt_of_le_of_lt (length_expression_rest_le mark room .lowest (t :: ts)) enough
    rw [line]
    exact ((room_invariant mark).expression room .lowest (t :: ts) enough).append (ih less)

/-- Some room is enough for every phrase. -/
theorem exists_room (ps : List Phrase) : ∃ room, ∀ p ∈ ps, p.need ≤ room := by
  induction ps with
  | nil => exact ⟨0, fun p mem => by cases mem⟩
  | cons p ps ih =>
    obtain ⟨room, enough⟩ := ih
    refine ⟨max p.need room, ?_⟩
    intro q mem
    cases List.mem_cons.1 mem with
    | inl same =>
      rw [same]
      exact Nat.le_max_left ..
    | inr later => exact Nat.le_trans (enough q later) (Nat.le_max_right ..)

end Climb

/-! ## Sentences -/

theorem isSentence_of_faults_eq_nil {mark : Token} (eof : mark.kind = .eof) {room : Nat}
    {ts : List Token} (clean : (Climb.line mark room ts).faults = []) : IsSentence ts := by
  obtain ⟨ps, isLine, tokens, good⟩ := exists_isLine_of_faults_eq_nil eof room ts clean
  refine ⟨ps, isLine, tokens, ?_⟩
  intro t mem number
  rw [tokens] at mem
  obtain ⟨p, inside, mem⟩ := List.mem_flatMap.1 mem
  exact (isLine.sums p inside).isSome_value? (good p inside).1 t mem number

/-- Tokens are a sentence exactly if they have no offence. -/
theorem isSentence_iff {mark : Token} (eof : mark.kind = .eof) (ts : List Token) :
    IsSentence ts ↔ Stage.offence mark .start ts = none := by
  constructor
  · rintro ⟨ps, grammatical⟩
    obtain ⟨room, enough⟩ := exists_room ps
    have clean : (Climb.line mark room ts).faults = [] := by
      rw [grammatical.tokens, line_eq_of_isLine mark grammatical.line enough]
      exact List.flatMap_eq_nil_iff.2 grammatical.faults_eq_nil
    exact (line_tracks eof room ts).1 clean
  · intro sound
    have roomy := roomy_line mark (ts.length + 1) ts (Nat.lt_succ_self _)
    cases faults : (Climb.line mark (ts.length + 1) ts).faults with
    | nil => exact isSentence_of_faults_eq_nil eof faults
    | cons f fs =>
      have told := (line_tracks eof (ts.length + 1) ts).2 f (by rw [faults]; rfl)
      rcases told with tooDeep | offends
      · exact absurd tooDeep (roomy f (by simp [faults]))
      · rw [sound] at offends
        cases offends

namespace Stage

/-! ## Ways to end -/

/-- Tokens that end a line after a stage. -/
def ending : Stage → List Token
  | start => []
  | operand opened => ⟨.number, "1", ⟨0, 0⟩⟩ :: List.replicate opened ⟨.closing, ")", ⟨0, 0⟩⟩
  | operator opened => List.replicate opened ⟨.closing, ")", ⟨0, 0⟩⟩

theorem offence_closings (mark : Token) (opened : Nat) :
    offence mark (operator opened) (List.replicate opened ⟨.closing, ")", ⟨0, 0⟩⟩) = none := by
  induction opened with
  | zero => rfl
  | succ opened ih =>
    rw [List.replicate_succ, offence_cons_of_some (next_operator_closing rfl opened)]
    exact ih

theorem offence_ending (mark : Token) (s : Stage) : offence mark s s.ending = none := by
  cases s with
  | start => rfl
  | operand opened =>
    have one : Literal.value? "1" = some 1 := by decide
    have next : (operand opened).next ⟨.number, "1", ⟨0, 0⟩⟩ = some (operator opened) := by
      simp [Stage.next, enter, one]
    rw [ending, offence_cons_of_some next]
    exact offence_closings mark opened
  | operator opened => exact offence_closings mark opened

/-- Tokens that may come are viable. -/
theorem viable_of_run {mark : Token} (eof : mark.kind = .eof) {us : List Token} {s : Stage}
    (h : Stage.start.run us = some s) : Viable us := by
  refine ⟨s.ending, (isSentence_iff eof _).2 ?_⟩
  rw [offence_append_of_run h]
  exact offence_ending mark s

/-- Tokens are not viable with one more that may not come. -/
theorem not_viable_of_next_eq_none {mark : Token} (eof : mark.kind = .eof) {us : List Token}
    {s : Stage} {t : Token} (h : Stage.start.run us = some s) (refuses : s.next t = none) :
    ¬ Viable (us ++ [t]) := by
  rintro ⟨more, sentence⟩
  rw [List.append_assoc, List.singleton_append, isSentence_iff eof, offence_append_of_run h,
    offence_cons_of_none refuses] at sentence
  cases sentence

end Stage

/-! ## The first fault -/

namespace Parser

/-- The first fault that the parser finds in a text, unless it is want of room, is at a token such
that those before it are viable and those up to it are not, or at the end mark if all tokens are
viable and are no sentence. -/
theorem first_fault_at_first_hopeless {source : String} {f : Fault}
    (told : (ofString source).line.2.faults.head? = some f) (shallow : f.cause ≠ .tooDeep) :
    (∃ before t after, (Cursor.ofString source).tokens = before ++ t :: after ∧
      f.span = t.span ∧ Viable before ∧ ¬ Viable (before ++ [t])) ∨
    (f.span = (Cursor.ofString source).mark.span ∧ Viable (Cursor.ofString source).tokens ∧
      ¬ IsSentence (Cursor.ofString source).tokens) := by
  have eof : (Cursor.ofString source).mark.kind = .eof := rfl
  have offends : Stage.offence (Cursor.ofString source).mark .start
      (Cursor.ofString source).tokens = some f.span :=
    ((line_tracks eof depthLimit _).2 f told).resolve_left shallow
  rcases Stage.of_offence_eq_some offends with
    ⟨before, t, after, s, parts, place, passes, refuses⟩ | ⟨place, s, passes, -⟩
  · exact .inl ⟨before, t, after, parts, place, Stage.viable_of_run eof passes,
      Stage.not_viable_of_next_eq_none eof passes refuses⟩
  · refine .inr ⟨place, Stage.viable_of_run eof passes, ?_⟩
    rw [isSentence_iff eof, offends]
    intro offended
    cases offended

/-- The parenthesis has to be closed where another number stands. -/
theorem first_fault_at_second_number :
    let f : Fault := ⟨.unclosed .number, ⟨5, 6⟩⟩
    (ofString "2*(1 3) %").line.2.faults.head? = some f ∧ f.cause ≠ .tooDeep ∧
      ∃ before t after, (Cursor.ofString "2*(1 3) %").tokens = before ++ t :: after ∧
        f.span = t.span ∧ Viable before ∧ ¬ Viable (before ++ [t]) := by
  intro f
  have told : (ofString "2*(1 3) %").line.2.faults.head? = some f := by decide +kernel
  have shallow : f.cause ≠ .tooDeep := by decide
  refine ⟨told, shallow, (first_fault_at_first_hopeless told shallow).resolve_right ?_⟩
  rintro ⟨place, -⟩
  exact absurd place (by decide +kernel)

end Parser

end Abacus
