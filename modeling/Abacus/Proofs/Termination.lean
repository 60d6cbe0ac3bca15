import Abacus.Proofs.Coverage
import Abacus.Proofs.GivingUp
import Abacus.Proofs.Viability

/-!
# Every call ends and keeps to its frame

The reader of expressions is a recursion on the levels that are left.  It would end
without a limit to them as well, because every call inside of another one has fewer
unread tokens.  `Call.descending` is a reader that recurs on the unread tokens alone.
A call inside of another one gives nothing in it unless fewer tokens are unread, and
then the other one gives nothing either.  `Call.descending_eq` says that this never
happens.  There are two reasons.

* A number, a sign, a parenthesis and an operator are used up before anything else is
  read, and none of them is the end mark, which is never used up.
* Going on after an operand begins where the operand ends, and no operand leaves more
  than was there (`length_expression_rest_le`).

*Places.*  The reader stops at one of the tokens that it is given, or at the end mark,
and leaves those after it (`Outcome.StopsIn`).  The tokens that are left come from the
cursor that passed over the others (`Cursor.tokens_skip`).

*Lines.*  A line is read by asking for expressions until nothing is left, at most as
often as there are tokens (`exists_expressions_eq_line`).  So it keeps to the frame
that each of the expressions keeps to (`line_frame`).

`Parser.calls_end_within_frame` puts these together for a parser anywhere in a text.
-/

namespace Abacus

namespace Climb

/-! ## Recursion on the unread tokens -/

/-- A call of the reader. -/
inductive Call
  /-- Reads an expression. -/
  | expression (room : Nat) (bound : Precedence) (ts : List Token)
  /-- Goes on after an expression. -/
  | fold (room : Nat) (bound : Precedence) (left : Outcome)

namespace Call

/-- The tokens that are unread when the call is made. -/
def unread : Call → List Token
  | expression _ _ ts => ts
  | fold _ _ left => left.rest

/-- What the call gives. -/
def outcome (mark : Token) : Call → Outcome
  | expression room bound ts => Climb.expression mark room bound ts
  | fold room bound left => Climb.fold mark room bound left

/-- What one call does, given the function to call.  It gives nothing if a call that it makes gives
nothing. -/
def body (mark : Token) (call : Call → Option Outcome) : Call → Option Outcome
  | expression 0 _ ts => some (giveUp mark [] (front mark ts).span)
  | expression (_ + 1) _ [] => some (refuse mark [])
  | expression (room + 1) bound (t :: ts) =>
    match t.kind with
    | .number => call (fold room bound (literal t ts))
    | .minus => do
      let operand ← call (expression room .sign ts)
      call (fold room bound (operand.negate t))
    | .opening => do
      let inner ← call (expression room .lowest ts)
      call (fold room bound (inner.close mark))
    | _ => some (refuse t ts)
  | fold room bound left =>
    match tighter? bound left.rest, room with
    | none, _ => some left
    | some _, 0 => some (giveUp mark left.faults left.last)
    | some (t, ts), room + 1 => do
      let right ← call (expression room (.ofKind t.kind) ts)
      call (fold room bound (left.join t right))

/-- Reads by recursion on the unread tokens.  A call inside of another one gives nothing unless
fewer tokens are unread than are in that one. -/
def descending (mark : Token) (c : Call) : Option Outcome :=
  c.body mark fun d => if _h : d.unread.length < c.unread.length then descending mark d else none
termination_by c.unread.length

section

variable {mark : Token} {call : Call → Option Outcome} {size room : Nat} {bound : Precedence}

/-- The function to call gives what the reader gives where fewer tokens are unread than a number
says.  Nothing is known of what it gives elsewhere. -/
def AgreesBelow (mark : Token) (size : Nat) (call : Call → Option Outcome) : Prop :=
  ∀ d, d.unread.length < size → call d = some (d.outcome mark)

/-- Of two calls, the second one is for what the first one gave. -/
theorem AgreesBelow.bind_eq (agrees : AgreesBelow mark size call) (next : Outcome → Call)
    {d : Call} (first : d.unread.length < size)
    (second : (next (d.outcome mark)).unread.length < size) :
    (call d >>= fun o => call (next o)) = some ((next (d.outcome mark)).outcome mark) := by
  rw [agrees d first]
  exact agrees _ second

theorem body_expression_cons {t : Token} {ts : List Token}
    (agrees : AgreesBelow mark (t :: ts).length call) :
    (expression (room + 1) bound (t :: ts)).body mark call =
      some (Climb.expression mark (room + 1) bound (t :: ts)) := by
  have used : ts.length < (t :: ts).length := Nat.lt_succ_self ts.length
  by_cases starts : Starts t.kind
  · rcases starts with kind | kind | kind
    · have rest : (literal t ts).rest.length < (t :: ts).length := by
        rw [literal_rest]
        exact used
      rw [expression_number ts kind]
      simp only [body, kind]
      exact agrees (fold room bound (literal t ts)) rest
    · have rest := length_expression_rest_le mark room .sign ts
      rw [expression_minus ts kind]
      simp only [body, kind]
      exact agrees.bind_eq (fun o => fold room bound (o.negate t)) used
        (Nat.lt_of_le_of_lt rest used)
    · have rest := length_expression_rest_le mark room .lowest ts
      have closed :=
        (Outcome.close_rest_suffix mark (Climb.expression mark room .lowest ts)).length_le
      rw [expression_opening ts kind]
      simp only [body, kind]
      exact agrees.bind_eq (fun o => fold room bound (o.close mark)) used
        (Nat.lt_of_le_of_lt (Nat.le_trans closed rest) used)
  · rw [expression_refuse ts starts]
    simp only [body]
    split
    · exact absurd (.inl ‹_›) starts
    · exact absurd (.inr (.inl ‹_›)) starts
    · exact absurd (.inr (.inr ‹_›)) starts
    · rfl

theorem body_fold {left : Outcome} (agrees : AgreesBelow mark left.rest.length call) :
    (fold room bound left).body mark call = some (Climb.fold mark room bound left) := by
  rcases nextRank_le_or bound left.rest with stops | ⟨t, ts, next, lt⟩
  · simp only [body, tighter?_eq_none stops, fold_of_nextRank_le stops]
  · cases room with
    | zero => simp only [body, next, tighter?_cons ts lt, fold_zero next lt]
    | succ room =>
      have used : ts.length < left.rest.length := by
        rw [next]
        exact Nat.lt_succ_self ts.length
      have rest := length_expression_rest_le mark room (.ofKind t.kind) ts
      rw [fold_succ next lt]
      simp only [body, next, tighter?_cons ts lt]
      exact agrees.bind_eq (fun o => fold room bound (left.join t o)) used
        (Nat.lt_of_le_of_lt rest used)

/-- A call makes calls with fewer unread tokens only, and gives what the reader gives if those
do. -/
theorem body_eq {c : Call} (agrees : AgreesBelow mark c.unread.length call) :
    c.body mark call = some (c.outcome mark) := by
  match c with
  | expression 0 bound ts => simp only [body, outcome, Climb.expression]
  | expression (room + 1) bound [] => simp only [body, outcome, Climb.expression]
  | expression (room + 1) bound (t :: ts) => exact body_expression_cons agrees
  | fold room bound left => exact body_fold agrees

/-- Recursion on the unread tokens gives what the reader gives. -/
theorem descending_eq (mark : Token) (c : Call) : c.descending mark = some (c.outcome mark) := by
  induction count : c.unread.length using Nat.strongRecOn generalizing c with
  | ind count' ih =>
    rw [descending]
    refine body_eq fun d less => ?_
    rw [dif_pos less]
    exact ih _ (count ▸ less) d rfl

end

end Call

/-! ## Where the reader stops -/

/-- The last token used is one of those given, or the end mark, and what is left begins after it. -/
def Outcome.StopsIn (mark : Token) (ts : List Token) (o : Outcome) : Prop :=
  ∃ n, o.last = (front mark (ts.drop n)).span ∧ o.rest = ts.drop (n + 1)

section

variable {mark t : Token} {ts us : List Token} {o : Outcome}

theorem giveUp_stopsIn (fs : List Fault) (place : Span) :
    (giveUp mark fs place).StopsIn mark ts := by
  refine ⟨ts.length, ?_, ?_⟩
  · rw [List.drop_length]
    rfl
  · rw [List.drop_eq_nil_of_le (Nat.le_succ _)]
    rfl

theorem refuse_stopsIn : (refuse t ts).StopsIn mark (t :: ts) :=
  ⟨0, rfl, rfl⟩

theorem literal_stopsIn : (literal t ts).StopsIn mark (t :: ts) := by
  refine ⟨0, ?_, literal_rest t ts⟩
  unfold literal
  split <;> rfl

theorem Outcome.StopsIn.cons (h : o.StopsIn mark ts) : o.StopsIn mark (t :: ts) := by
  obtain ⟨n, last, rest⟩ := h
  exact ⟨n + 1, last, rest⟩

theorem Outcome.StopsIn.close (h : o.StopsIn mark ts) : (o.close mark).StopsIn mark ts := by
  obtain ⟨n, last, rest⟩ := h
  by_cases closed : (front mark o.rest).kind = .closing
  · rw [close_of_closing closed, rest, List.tail_drop]
    exact ⟨n + 1, rfl, rfl⟩
  · rw [Outcome.close, if_neg closed]
    split <;> exact ⟨n, last, rest⟩

/-- A left operand stops at a token, its operator follows, and the right operand after that. -/
theorem Outcome.StopsIn.join {left right : Outcome} (hl : left.StopsIn mark ts)
    (next : left.rest = t :: us) (hr : right.StopsIn mark us) :
    (left.join t right).StopsIn mark ts := by
  obtain ⟨n, -, restL⟩ := hl
  obtain ⟨m, last, rest⟩ := hr
  have after : us = ts.drop (n + 2) := by
    rw [← List.tail_drop, ← restL, next, List.tail_cons]
  refine ⟨n + 2 + m, ?_, ?_⟩
  · rw [← List.drop_drop, ← after]
    exact last
  · rw [Nat.add_assoc, ← List.drop_drop, ← after]
    exact rest

end

/-- The reader stops in the tokens that it is given, step by step. -/
theorem stops_invariant (mark : Token) :
    Invariant mark (fun _ _ ts o => o.StopsIn mark ts)
      (fun _ _ left o => ∀ ts, left.StopsIn mark ts → o.StopsIn mark ts) where
  lacking _ ts := giveUp_stopsIn [] (front mark ts).span
  missing _ _ := ⟨0, rfl, rfl⟩
  refused _ _ _ _ _ := refuse_stopsIn
  number _ _ t ts _ _ gone := gone (t :: ts) literal_stopsIn
  minus _ _ t ts _ _ inner gone := gone (t :: ts) inner.cons
  opening _ _ t ts _ _ inner gone := gone (t :: ts) inner.close.cons
  stop _ _ _ _ := fun _ stops => stops
  full _ left _ _ _ _ := fun _ _ => giveUp_stopsIn left.faults left.last
  step _ _ _ _ _ _ next _ right gone := fun ts stops => gone ts (stops.join next right)

theorem expression_stopsIn (mark : Token) (room : Nat) (bound : Precedence) (ts : List Token) :
    (expression mark room bound ts).StopsIn mark ts :=
  (stops_invariant mark).expression room bound ts

end Climb

/-! ## The tokens from a cursor on -/

namespace Cursor

variable {source : String} {c : Cursor}

/-- The end mark is the same wherever a cursor stands in a text. -/
theorem IsAt.mark_eq (h : c.IsAt source) : c.mark = (ofString source).mark := by
  obtain ⟨before, text, offset⟩ := h
  rw [mark_ofString, Text.utf8ByteSize_eq_byteLength, text, Text.byteLength_append, ← offset]
  rfl

/-- Where only blanks are left, the end comes after them. -/
theorem skipBlanks_eq_finish (exhausted : c.skipBlanks.rest = []) : c.skipBlanks = c.finish := by
  have blank : c.rest.dropWhile Text.isBlank = [] := exhausted
  have parts := List.takeWhile_append_dropWhile (p := Text.isBlank) (l := c.rest)
  rw [blank, List.append_nil] at parts
  rw [skipBlanks, finish, blank, parts]

/-- The next token is the first one of those that come, or the end mark if none does. -/
theorem next_fst (c : Cursor) : c.next.1 = Climb.front c.mark c.tokens := by
  rw [tokens.eq_def]
  split
  next exhausted =>
    rw [next, exhausted, skipBlanks_eq_finish exhausted]
    rfl
  next => rfl

theorem tokens_next (c : Cursor) : c.next.2.tokens = c.tokens.tail := by
  rw [tokens.eq_def c]
  split
  next exhausted =>
    rw [next, exhausted, skipBlanks_eq_finish exhausted]
    exact tokens_nil _
  next => rfl

/-- After some tokens come the others. -/
theorem tokens_skip (c : Cursor) (n : Nat) : (c.skip n).tokens = c.tokens.drop n := by
  induction n generalizing c with
  | zero => rfl
  | succ n ih => rw [skip, ih, tokens_next, List.drop_tail]

end Cursor

namespace Parser

/-! ## Expressions until nothing is left -/

variable {p : Parser}

/-- Asking for any number of expressions keeps a parser in its frame. -/
theorem expressions_frame (n : Nat) (p : Parser) : p.Frame (p.expressions n).2 := by
  induction n generalizing p with
  | zero => exact .refl p
  | succ n ih => exact (expression_frame p .lowest).trans (ih (p.expression .lowest).2)

/-- Reading a line is asking for expressions for as long as a token is left, which is at most as
often as there are tokens. -/
theorem exists_expressions_eq_line (eof : p.mark.kind = .eof) :
    ∃ n ≤ p.unread.length, p.expressions n = p.line ∧
      ∀ k < n, (p.expressions k).2.unread ≠ [] := by
  induction p using byExpressions with
  | done p exhausted =>
    refine ⟨0, Nat.zero_le _, (line_of_unread_eq_nil exhausted).symm, ?_⟩
    intro k before
    exact absurd before (Nat.not_lt_zero k)
  | step p left ih =>
    have eof' : (p.expression .lowest).2.mark.kind = .eof := by
      rw [(expression_frame p .lowest).mark]
      exact eof
    obtain ⟨n, few, line, going⟩ := ih eof'
    refine ⟨n + 1, Nat.lt_of_le_of_lt few (length_unread_expression_lt left .lowest), ?_, ?_⟩
    · rw [line_of_unread_ne_nil eof left, ← line]
      rfl
    · rintro (_ | k) before
      · exact left
      · exact going k (Nat.lt_of_succ_lt_succ before)

theorem line_frame (eof : p.mark.kind = .eof) : p.Frame p.line.2 := by
  obtain ⟨n, -, line, -⟩ := exists_expressions_eq_line eof
  rw [← line]
  exact expressions_frame n p

theorem line_unread (p : Parser) : p.line.2.unread = [] := by
  rw [line]
  split <;> rfl

/-- A parser of tokens of which none is an end mark stands at the end mark exactly if none of them
is left. -/
theorem current_kind_eq_eof_iff (eof : p.mark.kind = .eof)
    (proper : ∀ t ∈ p.unread, t.kind ≠ .eof) : p.current.kind = .eof ↔ p.unread = [] := by
  cases unread : p.unread with
  | nil => simp [current, unread, Climb.front, eof]
  | cons t ts =>
    have kind : t.kind ≠ .eof := proper t (unread ▸ List.mem_cons_self)
    simp [current, unread, Climb.front, kind]

/-- A parser that stands where a cursor does passes over some tokens when it is asked for an
expression.  The one after them is the last one used, and those that come after that are left. -/
theorem exists_skip_of_expression {source : String} {c : Cursor} (stands : c.IsAt source)
    (unread : p.unread = c.tokens) (mark : p.mark = c.mark) (bound : Precedence) :
    ∃ n, (p.expression bound).2.unread = (c.skip (n + 1)).tokens ∧
      if p.abandoned then n = 0
      else (Climb.expression p.mark p.room bound p.unread).last = (c.skip n).next.1.span := by
  cases going : p.abandoned with
  | true =>
    refine ⟨0, ?_, rfl⟩
    rw [expression_of_abandoned going, Cursor.tokens_skip, unread]
    exact List.drop_one.symm
  | false =>
    obtain ⟨n, last, rest⟩ := Climb.expression_stopsIn p.mark p.room bound p.unread
    refine ⟨n, ?_, ?_⟩
    · rw [expression_of_going going, Cursor.tokens_skip, ← unread]
      exact rest
    · rw [Cursor.next_fst, Cursor.tokens_skip, (Cursor.skip_isAt stands n).mark_eq,
        ← stands.mark_eq, ← unread, ← mark]
      exact last

/-- Reading a line is asking for expressions for as long as the parser does not stand at the end
mark.  It leaves the parser there, and asking for a line again changes nothing. -/
theorem exists_expressions_until_eof (eof : p.mark.kind = .eof)
    (proper : ∀ t ∈ p.unread, t.kind ≠ .eof) :
    ∃ n ≤ p.unread.length, p.expressions n = p.line ∧
      (∀ k < n, (p.expressions k).2.current.kind ≠ .eof) ∧
      p.Frame p.line.2 ∧ p.line.2.current.kind = .eof ∧ p.line.2.line = ([], p.line.2) := by
  obtain ⟨n, few, line, left⟩ := exists_expressions_eq_line eof
  have keeps := line_frame eof
  refine ⟨n, few, line, ?_, keeps, ?_, line_of_unread_eq_nil (line_unread p)⟩
  · intro k before
    have frame := expressions_frame k p
    have going := current_kind_eq_eof_iff (frame.mark ▸ eof)
      fun t mem => proper t (frame.unread.subset mem)
    exact fun ended => left k before (going.1 ended)
  · rw [current, line_unread]
    show p.line.2.mark.kind = .eof
    rw [keeps.mark]
    exact eof

/-- A parser stands after any number of tokens of a text, at any depth, after any faults, and may
have given up.

It is asked for an expression with any bound.  Reading it ends, because recursion on the unread
tokens alone gives the same.  The parser keeps to its frame: its depth is what it was, the faults
told before come first, and it does not go on after it gave up.  Some number of tokens is passed
over, the one after them is the last one used, and the tokens that come after that are left.  A
parser that gave up passes over no more than the token that it stands at.

Reading the line ends, too.  It is asking for expressions for as long as the parser does not stand
at the end mark, and at most as often as there are tokens.  It keeps to the frame, so that the depth
is what it was, and leaves the parser at the end mark.  Asked for a line again, the parser gives no
tree, and nothing about it changes. -/
theorem calls_end_within_frame (source : String) (pulled depth : Nat) (faults : List Fault)
    (abandoned : Bool) :
    let c := (Cursor.ofString source).skip pulled
    let p : Parser := ⟨c.tokens, c.mark, depth, faults, abandoned⟩
    (∀ bound,
      let o := Climb.expression p.mark p.room bound p.unread
      (Climb.Call.expression p.room bound p.unread).descending p.mark = some o ∧
      p.Frame (p.expression bound).2 ∧
      ∃ n, (p.expression bound).2.unread = (c.skip (n + 1)).tokens ∧
        if abandoned then n = 0 else o.last = (c.skip n).next.1.span) ∧
    ∃ n ≤ p.unread.length, p.expressions n = p.line ∧
      (∀ k < n, (p.expressions k).2.current.kind ≠ .eof) ∧
      p.Frame p.line.2 ∧ p.line.2.current.kind = .eof ∧ p.line.2.line = ([], p.line.2) := by
  intro c p
  have stands : c.IsAt source := Cursor.skip_isAt (Cursor.ofString_isAt source) pulled
  have eof : p.mark.kind = .eof := rfl
  have proper : ∀ t ∈ p.unread, t.kind ≠ .eof :=
    fun t mem => ((Cursor.tokens_tiles c.offset c.rest).isLexeme t mem).kind_ne_eof
  constructor
  · intro bound o
    exact ⟨Climb.Call.descending_eq .., expression_frame p bound,
      exists_skip_of_expression stands rfl rfl bound⟩
  · exact exists_expressions_until_eof eof proper

end Parser

end Abacus
