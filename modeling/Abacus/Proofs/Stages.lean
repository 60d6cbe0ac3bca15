import Abacus.Proofs.Acceptance

/-!
# What may come next in a line

Whether a token may come next in a line depends on little of what came before: on
the number of parentheses that are open, and on whether an operand has to come or
has just ended.  This is a *stage*.  A stage knows nothing of precedence, because
precedence groups the tokens of a line and rules none of them out.

The *offence* of some tokens after a stage is the place of the first token that may
not come, or of the end mark if the line may not end there.

The reader of expressions *tracks* stages (`tracks_invariant`).  If it finds an
operand, the offence is that of the tokens that are left after an operand.  And
the first fault that it notes is at the offence, unless it is want of room.  The
cases that carry the content are those of parentheses.  What stands in them is
read with one more open, and where it ended no operator follows, as the bound
is the lowest one, so that anything but a closing parenthesis is an offence.
-/

namespace Abacus

/-- What was read of a line, as far as it matters for what may come next. -/
inductive Stage
  /-- Nothing was read. -/
  | start
  /-- An operand has to come. -/
  | operand (opened : Nat)
  /-- An operand has ended. -/
  | operator (opened : Nat)
deriving DecidableEq, Repr

namespace Stage

/-- The stage after a token that begins an operand. -/
def enter (opened : Nat) (t : Token) : Option Stage :=
  match t.kind with
  | .number => if (Literal.value? t.text).isSome then some (operator opened) else none
  | .minus => some (operand opened)
  | .opening => some (operand (opened + 1))
  | _ => none

/-- The stage after a token that follows an operand and is no operator.  It begins another
expression, or closes a parenthesis. -/
def leave : Nat → Token → Option Stage
  | 0, t => enter 0 t
  | opened + 1, t => if t.kind = .closing then some (operator opened) else none

/-- The stage after a token, if it may come. -/
def next : Stage → Token → Option Stage
  | start, t => enter 0 t
  | operand opened, t => enter opened t
  | operator opened, t =>
    if 0 < (Precedence.ofKind t.kind).rank then some (operand opened) else leave opened t

/-- Whether the line may end. -/
def isFinal : Stage → Bool
  | operator 0 => true
  | start => true
  | _ => false

/-- The stage after some tokens, if they may come. -/
def run : Stage → List Token → Option Stage
  | s, [] => some s
  | s, t :: ts => (s.next t).bind (run · ts)

/-- The place of the first token that may not come, or of the end mark if the line may not end. -/
def offence (mark : Token) : Stage → List Token → Option Span
  | s, [] => if s.isFinal then none else some mark.span
  | s, t :: ts =>
    match s.next t with
    | none => some t.span
    | some s' => offence mark s' ts

/-! ## Single tokens -/

section

variable {t : Token}

theorem enter_number (kind : t.kind = .number) (opened : Nat) :
    enter opened t =
      if (Literal.value? t.text).isSome then some (operator opened) else none := by
  simp only [enter, kind]

theorem enter_minus (kind : t.kind = .minus) (opened : Nat) :
    enter opened t = some (operand opened) := by
  simp only [enter, kind]

theorem enter_opening (kind : t.kind = .opening) (opened : Nat) :
    enter opened t = some (operand (opened + 1)) := by
  simp only [enter, kind]

theorem enter_eq_none (kind : ¬ Climb.Starts t.kind) (opened : Nat) : enter opened t = none := by
  unfold Climb.Starts at kind
  unfold enter
  split
  · exact absurd (.inl ‹_›) kind
  · exact absurd (.inr (.inl ‹_›)) kind
  · exact absurd (.inr (.inr ‹_›)) kind
  · rfl

theorem next_operator_of_binds (binds : 0 < (Precedence.ofKind t.kind).rank) (opened : Nat) :
    (operator opened).next t = some (operand opened) := by
  rw [next, if_pos binds]

theorem next_operator_zero (lax : ¬ 0 < (Precedence.ofKind t.kind).rank) :
    (operator 0).next t = enter 0 t := by
  rw [next, if_neg lax]
  rfl

theorem next_operator_closing (kind : t.kind = .closing) (opened : Nat) :
    (operator (opened + 1)).next t = some (operator opened) := by
  simp [next, leave, kind, Precedence.ofKind, Precedence.rank]

theorem next_operator_of_ne_closing (lax : ¬ 0 < (Precedence.ofKind t.kind).rank)
    (kind : t.kind ≠ .closing) (opened : Nat) : (operator (opened + 1)).next t = none := by
  rw [next, if_neg lax]
  exact if_neg kind

end

/-! ## Offences -/

section

variable {mark t : Token} {s s' : Stage} {ts : List Token}

theorem offence_cons_of_none (h : s.next t = none) (ts : List Token) :
    offence mark s (t :: ts) = some t.span := by
  rw [offence, h]

theorem offence_cons_of_some (h : s.next t = some s') (ts : List Token) :
    offence mark s (t :: ts) = offence mark s' ts := by
  rw [offence, h]

/-- Tokens that may come can be passed over. -/
theorem offence_append_of_run {us : List Token} (h : s.run us = some s') (ts : List Token) :
    offence mark s (us ++ ts) = offence mark s' ts := by
  induction us generalizing s with
  | nil =>
    cases h
    rfl
  | cons u us ih =>
    obtain ⟨s'', next, rest⟩ := Option.bind_eq_some_iff.1 h
    rw [List.cons_append, offence_cons_of_some next]
    exact ih rest

/-- An offence is at a token that may not come after those before it, or at the end mark if all may
come and the line may not end. -/
theorem of_offence_eq_some {place : Span} (h : offence mark s ts = some place) :
    (∃ before t after s', ts = before ++ t :: after ∧ place = t.span ∧
      s.run before = some s' ∧ s'.next t = none) ∨
    (place = mark.span ∧ ∃ s', s.run ts = some s' ∧ s'.isFinal = false) := by
  induction ts generalizing s with
  | nil =>
    rw [offence] at h
    split at h
    · cases h
    next final =>
      cases h
      exact .inr ⟨rfl, s, rfl, Bool.not_eq_true _ ▸ final⟩
  | cons t ts ih =>
    cases next : s.next t with
    | none =>
      rw [offence_cons_of_none next] at h
      cases h
      exact .inl ⟨[], t, ts, s, rfl, rfl, rfl, next⟩
    | some s' =>
      rw [offence_cons_of_some next] at h
      have first (us : List Token) : s.run (t :: us) = s'.run us := by rw [run, next]; rfl
      rcases ih h with
        ⟨before, u, after, last, rfl, place, passes, refuses⟩ | ⟨place, last, passes, final⟩
      · exact .inl ⟨t :: before, u, after, last, rfl, place, (first before).trans passes, refuses⟩
      · exact .inr ⟨place, last, (first ts).trans passes, final⟩

end

end Stage

open Stage

namespace Climb

/-! ## Tracking -/

/-- The outcome agrees with an offence that lies ahead: what is left after an operand has it, or the
first fault is at it, unless that is want of room. -/
structure Outcome.Tracks (mark : Token) (opened : Nat) (o : Outcome) (ahead : Option Span) :
    Prop where
  /-- Without a fault, the offence is that of the tokens that are left. -/
  clean : o.faults = [] → o.abandoned = false ∧ offence mark (.operator opened) o.rest = ahead
  /-- The first fault is want of room or at the offence. -/
  first : ∀ f, o.faults.head? = some f → f.cause = .tooDeep ∨ ahead = some f.span

theorem Outcome.Tracks.of_head? {mark : Token} {opened : Nat} {o : Outcome} {ahead : Option Span}
    {f : Fault} (told : o.faults.head? = some f) (h : f.cause = .tooDeep ∨ ahead = some f.span) :
    o.Tracks mark opened ahead where
  clean faultless := by rw [faultless] at told; cases told
  first g told' := by
    rw [told] at told'
    cases told'
    exact h

/-- Faults noted later do not matter. -/
theorem Outcome.Tracks.of_faults_append {mark : Token} {n m : Nat} {left o : Outcome}
    {ahead : Option Span} (h : left.Tracks mark n ahead) (faulty : left.faults ≠ [])
    {fs : List Fault} (more : o.faults = left.faults ++ fs) : o.Tracks mark m ahead := by
  obtain ⟨f, gs, faults⟩ := List.exists_cons_of_ne_nil faulty
  have told : left.faults.head? = some f := by rw [faults]; rfl
  exact .of_head? (by rw [more, faults]; rfl) (h.first f told)

theorem giveUp_tracks {mark : Token} {opened : Nat} (place : Span) (ahead : Option Span) :
    (giveUp mark [] place).Tracks mark opened ahead :=
  .of_head? rfl (.inl rfl)

theorem refuse_tracks {mark t : Token} {opened : Nat} {rest : List Token} {ahead : Option Span}
    (h : ahead = some t.span) : (refuse t rest).Tracks mark opened ahead :=
  .of_head? rfl (.inr h)

theorem literal_tracks {mark t : Token} (kind : t.kind = .number) (opened : Nat)
    (ts : List Token) :
    (literal t ts).Tracks mark opened (offence mark (.operand opened) (t :: ts)) := by
  have next : (Stage.operand opened).next t = _ := enter_number kind opened
  unfold literal
  cases value : Literal.value? t.text with
  | none =>
    rw [value] at next
    exact .of_head? rfl (.inr (offence_cons_of_none next ts))
  | some n =>
    rw [value] at next
    exact ⟨fun _ => ⟨rfl, (offence_cons_of_some next ts).symm⟩, fun f told => by cases told⟩

/-- Where an expression without a fault has ended, no tighter operator follows. -/
theorem nextRank_rest_of_faults_eq_nil {mark : Token} (eof : mark.kind = .eof) {room : Nat}
    {bound : Precedence} {ts : List Token} (clean : (expression mark room bound ts).faults = []) :
    nextRank (expression mark room bound ts).rest ≤ bound.rank := by
  rcases expression_settles eof room bound ts with ⟨p, -, -, stops⟩ | failed
  · exact stops
  · exact absurd clean failed.2

/-- Closing a parenthesis tracks stages with one parenthesis less. -/
theorem Outcome.Tracks.close {mark : Token} (eof : mark.kind = .eof) {opened : Nat} {o : Outcome}
    {ahead : Option Span} (h : o.Tracks mark (opened + 1) ahead)
    (stops : o.faults = [] → nextRank o.rest ≤ Precedence.lowest.rank) :
    (o.close mark).Tracks mark opened ahead := by
  by_cases clean : o.faults = []
  · obtain ⟨going, left⟩ := h.clean clean
    by_cases closed : (front mark o.rest).kind = .closing
    · obtain ⟨closing, ts, rest, kind⟩ := exists_closing_of_front eof closed
      rw [close_of_closing closed]
      rw [rest, offence_cons_of_some (next_operator_closing kind opened)] at left
      refine ⟨fun _ => ⟨going, ?_⟩, fun f told => by simp [clean] at told⟩
      rw [rest]
      exact left
    · rw [close_of_ne_closing closed going, clean]
      refine .of_head? rfl (.inr ?_)
      rw [← left]
      cases rest : o.rest with
      | nil => rfl
      | cons t ts =>
        have lax : ¬ 0 < (Precedence.ofKind t.kind).rank := by
          have le := stops clean
          rw [rest] at le
          exact Nat.not_lt.2 le
        rw [rest] at closed
        exact offence_cons_of_none (next_operator_of_ne_closing lax closed opened) ts
  · by_cases closed : (front mark o.rest).kind = .closing
    · rw [close_of_closing closed]
      exact h.of_faults_append clean (List.append_nil _).symm
    · cases going : o.abandoned with
      | true =>
        rw [close_of_abandoned closed going]
        exact h.of_faults_append clean (List.append_nil _).symm
      | false =>
        rw [close_of_ne_closing closed going]
        exact h.of_faults_append clean rfl

/-- Joining two expressions tracks stages if the right one does so after the operator. -/
theorem Outcome.Tracks.join {mark t : Token} {opened : Nat} {left right : Outcome}
    {ts : List Token} {ahead : Option Span} (hl : left.Tracks mark opened ahead)
    (next : left.rest = t :: ts) (binds : 0 < (Precedence.ofKind t.kind).rank)
    (hr : right.Tracks mark opened (offence mark (.operand opened) ts)) :
    (left.join t right).Tracks mark opened ahead := by
  by_cases clean : left.faults = []
  · obtain ⟨-, offends⟩ := hl.clean clean
    rw [next, offence_cons_of_some (next_operator_of_binds binds opened)] at offends
    have faults : (left.join t right).faults = right.faults := by
      rw [Outcome.join, clean, List.nil_append]
    rw [offends] at hr
    exact ⟨fun faultless => hr.clean (faults ▸ faultless),
      fun f told => hr.first f (faults ▸ told)⟩
  · exact hl.of_faults_append clean rfl

/-- Reading an expression tracks stages, step by step. -/
theorem tracks_invariant {mark : Token} (eof : mark.kind = .eof) :
    Invariant mark
      (fun _ _ ts o => ∀ opened, o.Tracks mark opened (offence mark (.operand opened) ts))
      (fun _ _ left o => ∀ opened ahead, left.Tracks mark opened ahead →
        o.Tracks mark opened ahead) where
  lacking bound ts := by
    intro opened
    exact giveUp_tracks _ _
  missing room bound := by
    intro opened
    exact refuse_tracks rfl
  refused room bound t ts starts := by
    intro opened
    have refuses : (Stage.operand opened).next t = none := enter_eq_none starts opened
    exact refuse_tracks (offence_cons_of_none refuses ts)
  number room bound t ts o kind gone := by
    intro opened
    exact gone opened _ (literal_tracks kind opened ts)
  minus room bound t ts o kind inner gone := by
    intro opened
    rw [offence_cons_of_some (s := .operand opened) (enter_minus kind opened)]
    refine gone opened _ ?_
    exact ⟨(inner opened).clean, (inner opened).first⟩
  opening room bound t ts o kind inner gone := by
    intro opened
    rw [offence_cons_of_some (s := .operand opened) (enter_opening kind opened)]
    exact gone opened _ ((inner (opened + 1)).close eof (nextRank_rest_of_faults_eq_nil eof))
  stop room bound left stops := by
    intro opened ahead tracks
    exact tracks
  full bound left t ts next lt := by
    intro opened ahead tracks
    by_cases clean : left.faults = []
    · rw [clean]
      exact giveUp_tracks _ _
    · exact tracks.of_faults_append clean rfl
  step room bound left t ts o next lt right gone := by
    intro opened ahead tracks
    exact gone opened ahead
      (tracks.join next (Nat.lt_of_le_of_lt (Nat.zero_le _) lt) (right opened))

/-- After an expression a line goes on as it begins, unless an operator follows. -/
theorem offence_operator_zero {mark : Token} {ts : List Token} (stops : nextRank ts ≤ 0) :
    offence mark (.operator 0) ts = offence mark .start ts := by
  cases ts with
  | nil => rfl
  | cons t ts =>
    have same : (Stage.operator 0).next t = Stage.start.next t :=
      next_operator_zero (Nat.not_lt.2 stops)
    rw [offence, offence, same]

theorem faults_line_cons (mark : Token) (room : Nat) (t : Token) (ts : List Token) :
    (line mark room (t :: ts)).faults = (expression mark room .lowest (t :: ts)).faults ++
      (line mark room (expression mark room .lowest (t :: ts)).rest).faults := by
  rw [line]
  rfl

/-- Reading a line tracks stages: without a fault there is no offence, and the first fault is want
of room or at the offence. -/
theorem line_tracks {mark : Token} (eof : mark.kind = .eof) (room : Nat) (ts : List Token) :
    ((line mark room ts).faults = [] → offence mark .start ts = none) ∧
    ∀ f, (line mark room ts).faults.head? = some f →
      f.cause = .tooDeep ∨ offence mark .start ts = some f.span := by
  induction ts using line.induct mark room with
  | case1 =>
    rw [line]
    exact ⟨fun _ => rfl, fun f told => by cases told⟩
  | case2 t ts o ih =>
    have tracks : o.Tracks mark 0 (offence mark .start (t :: ts)) :=
      (tracks_invariant eof).expression room .lowest (t :: ts) 0
    rw [faults_line_cons]
    cases faults : o.faults with
    | nil =>
      have stops : nextRank o.rest ≤ 0 := nextRank_rest_of_faults_eq_nil eof faults
      have same := (tracks.clean faults).2
      rw [offence_operator_zero stops] at same
      rw [List.nil_append, ← same]
      exact ih
    | cons f fs =>
      constructor
      · intro clean
        cases clean
      · intro g told
        cases told
        exact tracks.first f (by rw [faults]; rfl)

end Climb

end Abacus
