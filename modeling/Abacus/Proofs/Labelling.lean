import Abacus.Proofs.Channels
import Abacus.Proofs.Coverage
import Abacus.Report

/-!
# Faults have labels that can be drawn

A report draws a label under the part of the text that a fault is about.  For a
text that is answered with faults there always is such a part, it is not empty,
and it begins and ends between characters (`Report.labels_are_drawable`).

Two things are put together.

* Every fault is found *at* a token, and its cause says what that token is.  A
  token that is left is one of the text, and so is the last one used, which is
  where an operator without room is told (`located_invariant`).
* The label of a fault at a token of the text is the range of the token, and that
  of a fault at the end mark is the last character.  There is one, because a text
  without characters is blank and has no faults.

For a diagnostic made by hand there may be no such label.  Its report fails
exactly if its place ends before it begins and begins inside of the text
(`Report.render?_eq_none_iff`).
-/

namespace Abacus

open Climb Text

/-! ## Faults and their tokens -/

/-- What a cause says of the token that it is found at. -/
def Cause.Concerns (t : Token) : Cause → Prop
  | illegal text => t.kind = .illegal ∧ t.text = text
  | noOperand found => t.kind = found
  | badLiteral text => t.kind = .number ∧ t.text = text
  | unclosed found => t.kind = found
  | tooDeep => True
  | surplus _ => t.kind ≠ .eof

/-- The fault has the place of a token, and its cause says what the token is. -/
def Fault.IsAt (f : Fault) (t : Token) : Prop :=
  f.span = t.span ∧ f.cause.Concerns t

namespace Climb

theorem concerns_refusal (t : Token) : (refusal t).Concerns t := by
  unfold refusal
  split
  next illegal => exact ⟨illegal, rfl⟩
  next => rfl

/-- An outcome is about some tokens and the mark after them. -/
structure Outcome.Located (mark : Token) (all : List Token) (o : Outcome) : Prop where
  /-- Each fault is at one of them. -/
  faults : ∀ f ∈ o.faults, ∃ t ∈ all ++ [mark], f.IsAt t
  /-- The last token used is one of them. -/
  last : ∃ t ∈ all ++ [mark], o.last = t.span
  /-- The tokens left are some of them. -/
  rest : o.rest ⊆ all

section

variable {mark t : Token} {all ts : List Token} {o : Outcome}

theorem front_mem (known : ts ⊆ all) : front mark ts ∈ all ++ [mark] := by
  cases ts with
  | nil => exact List.mem_append_right all (List.mem_singleton_self mark)
  | cons t ts => exact List.mem_append_left [mark] (known List.mem_cons_self)

/-- Giving up is told at the place of one of the tokens. -/
theorem giveUp_located {fs : List Fault} {place : Span}
    (faults : ∀ f ∈ fs, ∃ t ∈ all ++ [mark], f.IsAt t)
    (token : ∃ t ∈ all ++ [mark], place = t.span) : (giveUp mark fs place).Located mark all where
  faults f mem := by
    rcases List.mem_append.1 mem with earlier | last
    · exact faults f earlier
    · cases List.mem_singleton.1 last
      obtain ⟨t, known, span⟩ := token
      exact ⟨t, known, span, trivial⟩
  last := ⟨mark, front_mem (List.nil_subset all), rfl⟩
  rest := List.nil_subset all

/-- What is read from a single token is told at it. -/
theorem located_of_single (token : t ∈ all ++ [mark]) (known : ts ⊆ all) (rest : o.rest = ts)
    (last : o.last = t.span) (faults : ∀ f ∈ o.faults, f.IsAt t) : o.Located mark all where
  faults f mem := ⟨t, token, faults f mem⟩
  last := ⟨t, token, last⟩
  rest := rest ▸ known

theorem refuse_located (token : t ∈ all ++ [mark]) (known : ts ⊆ all) :
    (refuse t ts).Located mark all := by
  refine located_of_single token known rfl rfl ?_
  intro f mem
  cases List.mem_singleton.1 mem
  exact ⟨rfl, concerns_refusal t⟩

theorem literal_located (kind : t.kind = .number) (known : t :: ts ⊆ all) :
    (literal t ts).Located mark all := by
  have token : t ∈ all ++ [mark] := front_mem known
  have left : ts ⊆ all := (List.cons_subset.1 known).2
  unfold literal
  split
  · exact located_of_single token left rfl rfl (by simp)
  · refine located_of_single token left rfl rfl ?_
    intro f mem
    cases List.mem_singleton.1 mem
    exact ⟨rfl, kind, rfl⟩

theorem Outcome.Located.negate (h : o.Located mark all) (sign : Token) :
    (o.negate sign).Located mark all :=
  { h with }

/-- A parenthesis that is not closed is told at the next token. -/
theorem Outcome.Located.close (h : o.Located mark all) : (o.close mark).Located mark all := by
  have next : front mark o.rest ∈ all ++ [mark] := front_mem h.rest
  by_cases closed : (front mark o.rest).kind = .closing
  · rw [close_of_closing closed]
    exact { h with
      last := ⟨_, next, rfl⟩
      rest := fun t mem => h.rest (List.mem_of_mem_tail mem) }
  · cases going : o.abandoned with
    | true =>
      rw [close_of_abandoned closed going]
      exact { h with }
    | false =>
      rw [close_of_ne_closing closed going]
      refine { h with faults := ?_ }
      intro f mem
      rcases List.mem_append.1 mem with earlier | last
      · exact h.faults f earlier
      · cases List.mem_singleton.1 last
        exact ⟨_, next, rfl, rfl⟩

theorem Outcome.Located.join {left right : Outcome} (hl : left.Located mark all)
    (hr : right.Located mark all) (operator : Token) :
    (left.join operator right).Located mark all where
  faults f mem := by
    rcases List.mem_append.1 mem with earlier | later
    · exact hl.faults f earlier
    · exact hr.faults f later
  last := hr.last
  rest := hr.rest

end

/-- Reading an expression tells faults at tokens, step by step. -/
theorem located_invariant (mark : Token) (all : List Token) :
    Invariant mark (fun _ _ ts o => ts ⊆ all → o.Located mark all)
      (fun _ _ left o => left.Located mark all → o.Located mark all) where
  lacking _ ts := fun known => giveUp_located (by simp) ⟨front mark ts, front_mem known, rfl⟩
  missing _ _ := fun known => refuse_located (front_mem known) known
  refused _ _ t ts _ := fun known => refuse_located (front_mem known) (List.cons_subset.1 known).2
  number _ _ _ _ _ kind gone := fun known => gone (literal_located kind known)
  minus _ _ t _ _ _ inner gone := fun known =>
    gone ((inner (List.cons_subset.1 known).2).negate t)
  opening _ _ _ _ _ _ inner gone := fun known => gone (inner (List.cons_subset.1 known).2).close
  stop _ _ _ _ := fun left => left
  full _ _ _ _ _ _ := fun left => giveUp_located left.faults left.last
  step _ _ left t ts _ next _ right gone := by
    intro located
    have known : t :: ts ⊆ all := next ▸ located.rest
    exact gone (located.join (right (List.cons_subset.1 known).2) t)

/-- Each fault of a line is at one of its tokens or at the mark. -/
theorem exists_isAt_of_mem_line {mark : Token} {all : List Token} (room : Nat) {ts : List Token}
    (known : ts ⊆ all) : ∀ f ∈ (line mark room ts).faults, ∃ t ∈ all ++ [mark], f.IsAt t := by
  induction ts using line.induct mark room with
  | case1 =>
    rw [line]
    simp
  | case2 t ts o ih =>
    have located : o.Located mark all :=
      (located_invariant mark all).expression room .lowest (t :: ts) known
    rw [line]
    intro f mem
    rcases List.mem_append.1 mem with earlier | later
    · exact located.faults f earlier
    · exact ih located.rest f later

end Climb

/-- A token of a text is none of its end mark. -/
theorem kind_ne_eof_of_mem_tokens {source : String} {t : Token}
    (mem : t ∈ (Cursor.ofString source).tokens) : t.kind ≠ .eof :=
  ((Cursor.tokens_tiles 0 source.toList).isLexeme t mem).kind_ne_eof

theorem Cause.concerns_of_usage {c : Cause} (usage : c.kind = .usage) {t : Token}
    (visible : t.kind ≠ .eof) : c.Concerns t := by
  cases c with
  | surplus count => exact visible
  | _ => cases usage

/-- Each fault that a text is answered with is at one of its tokens or at the end mark. -/
theorem exists_isAt_of_interpret {source : String} {fs : List Fault}
    (answer : interpret source = .error fs) {f : Fault} (mem : f ∈ fs) :
    ∃ t ∈ (Cursor.ofString source).scan, f.IsAt t := by
  obtain ⟨way, answers⟩ := exists_answersBy source
  cases answers with
  | blank other => simp [answer] at other
  | value other => simp [answer] at other
  | failure other => simp [answer] at other
  | faulty told _ _ =>
    rw [answer] at told
    cases told
    rw [Parser.line_ofString_faults] at mem
    exact exists_isAt_of_mem_line depthLimit (List.Subset.refl _) f mem
  | @surplus fault second told _ _ _ usage _ place inside =>
    rw [answer] at told
    cases told
    cases List.mem_singleton.1 mem
    exact ⟨second.token, List.mem_append_left _ inside, place,
      Cause.concerns_of_usage usage (kind_ne_eof_of_mem_tokens inside)⟩

/-! ## Labels -/

namespace Report

/-- A label that can be drawn under a text. -/
structure Drawable (source : String) (label : Span) : Prop where
  /-- It is not empty. -/
  nonempty : label.start < label.stop
  /-- It lies in the text. -/
  inside : label.stop ≤ source.utf8ByteSize
  /-- It begins and ends between characters. -/
  boundary : String.Pos.Raw.IsValid source ⟨label.start⟩ ∧
    String.Pos.Raw.IsValid source ⟨label.stop⟩

section

variable {source : List Char} {place : Span}

/-- A place inside of a source is its own label. -/
theorem labelSpan_of_stop_le (start : place.start < byteLength source)
    (stop : place.stop ≤ byteLength source) : labelSpan source place = place := by
  rw [labelSpan, if_pos start, Nat.min_eq_left stop]

/-- A place after a source is labelled at the last character. -/
theorem labelSpan_of_le_start {before : List Char} {last : Char} (parts : source = before ++ [last])
    (past : byteLength source ≤ place.start) :
    labelSpan source place = ⟨byteLength before, byteLength source⟩ := by
  rw [labelSpan, if_neg (Nat.not_lt.2 past), parts, List.dropLast_concat]

/-- A label is backwards exactly if the place is and begins in the source. -/
theorem stop_labelSpan_lt_start_iff :
    (labelSpan source place).stop < (labelSpan source place).start ↔
      place.stop < place.start ∧ place.start < byteLength source := by
  by_cases inside : place.start < byteLength source
  · rw [labelSpan, if_pos inside]
    simp only
    omega
  · obtain ⟨last, parts⟩ := List.dropLast_prefix source
    have length := congrArg byteLength parts
    rw [byteLength_append] at length
    rw [labelSpan, if_neg inside]
    simp only
    omega

theorem label?_eq_none_iff :
    label? source place = none ↔
      (labelSpan source place).stop < (labelSpan source place).start := by
  rw [label?]
  split
  next ordered => simpa using ordered
  next backwards => simpa using backwards

end

/-- The report of a diagnostic of a text fails exactly if the place of the diagnostic ends before it
begins, and begins in the text. -/
theorem render?_eq_none_iff {coloured : Bool} {name? : Option String} {source : String}
    {d : Diagnostic} : render? coloured name? source d = none ↔
      d.span.stop < d.span.start ∧ d.span.start < source.utf8ByteSize := by
  rw [render?, Option.map_eq_none_iff, label?_eq_none_iff, stop_labelSpan_lt_start_iff,
    utf8ByteSize_eq_byteLength]

variable {source : String}

/-- There is a report of a diagnostic whose label can be drawn. -/
theorem Drawable.isSome_render? {d : Diagnostic}
    (h : Drawable source (labelSpan source.toList d.span)) (coloured : Bool)
    (name? : Option String) : (render? coloured name? source d).isSome := by
  rw [Option.isSome_iff_ne_none]
  intro fails
  rw [render?_eq_none_iff, utf8ByteSize_eq_byteLength, ← stop_labelSpan_lt_start_iff] at fails
  exact absurd h.nonempty (Nat.lt_asymm fails)

/-- A token of a text is its own label. -/
theorem labelSpan_token {t : Token} (mem : t ∈ (Cursor.ofString source).tokens) :
    labelSpan source.toList t.span = t.span := by
  have covers : Covers source (Cursor.ofString source).tokens :=
    (Cursor.tokens_tiles 0 source.toList).covers
  obtain ⟨nonempty, inside⟩ := covers.range t mem
  rw [utf8ByteSize_eq_byteLength] at inside
  exact labelSpan_of_stop_le (Nat.lt_of_lt_of_le nonempty inside) inside

theorem drawable_token {t : Token} (mem : t ∈ (Cursor.ofString source).tokens) :
    Drawable source t.span := by
  have covers : Covers source (Cursor.ofString source).tokens :=
    (Cursor.tokens_tiles 0 source.toList).covers
  exact ⟨(covers.range t mem).1, (covers.range t mem).2, covers.boundary t mem⟩

/-- The end mark of a text is labelled at the last character. -/
theorem labelSpan_mark {before : List Char} {last : Char}
    (parts : source.toList = before ++ [last]) :
    labelSpan source.toList (Cursor.ofString source).mark.span =
      ⟨byteLength before, source.utf8ByteSize⟩ := by
  rw [Cursor.mark_ofString, utf8ByteSize_eq_byteLength]
  exact labelSpan_of_le_start parts (Nat.le_refl _)

theorem drawable_last {before : List Char} {last : Char}
    (parts : source.toList = before ++ [last]) :
    Drawable source ⟨byteLength before, source.utf8ByteSize⟩ where
  nonempty := by
    have positive := last.utf8Size_pos
    rw [utf8ByteSize_eq_byteLength, parts]
    simp only [byteLength_append, byteLength_cons, byteLength_nil]
    omega
  inside := Nat.le_refl _
  boundary := by
    refine ⟨isValid_of_append parts, ?_⟩
    rw [utf8ByteSize_eq_byteLength]
    exact isValid_of_append (List.append_nil _).symm

/-- A text that is answered with faults has a last character. -/
theorem exists_last_of_interpret {fs : List Fault} (answer : interpret source = .error fs) :
    ∃ before last, source.toList = before ++ [last] := by
  rcases List.eq_nil_or_concat source.toList with empty | ⟨before, last, parts⟩
  · have unanswered : interpret source = .ok none := by
      rw [interpret_eq_ok_none_iff, empty]
      simp
    rw [answer] at unanswered
    cases unanswered
  · exact ⟨before, last, by simpa using parts⟩

/-- Each fault that a text is answered with is at a token, and its label can be drawn.  The label is
the range of the token, or the last character at the end mark, and so there is a report of the
fault.  The report of any diagnostic fails only if its place is backwards and begins in the text. -/
theorem labels_are_drawable (source : String) :
    (∀ fs, interpret source = .error fs → ∀ f ∈ fs,
      ∃ t ∈ (Cursor.ofString source).scan, f.IsAt t ∧
        Drawable source (labelSpan source.toList f.span) ∧
        (t.kind ≠ .eof → labelSpan source.toList f.span = t.span) ∧
        (t.kind = .eof → ∃ before last, source.toList = before ++ [last] ∧
          labelSpan source.toList f.span = ⟨byteLength before, source.utf8ByteSize⟩) ∧
        ∀ coloured name?, (render? coloured name? source f.diagnostic).isSome) ∧
    ∀ coloured name? d, render? coloured name? source d = none ↔
      d.span.stop < d.span.start ∧ d.span.start < source.utf8ByteSize := by
  refine ⟨?_, fun coloured name? d => render?_eq_none_iff⟩
  intro fs answer f mem
  obtain ⟨t, scanned, isAt⟩ := exists_isAt_of_interpret answer mem
  rcases List.mem_append.1 scanned with token | mark
  · have label : labelSpan source.toList f.span = t.span := by
      rw [isAt.1, labelSpan_token token]
    have drawable : Drawable source (labelSpan source.toList f.span) :=
      label ▸ drawable_token token
    exact ⟨t, scanned, isAt, drawable, fun _ => label,
      fun ends => absurd ends (kind_ne_eof_of_mem_tokens token), drawable.isSome_render?⟩
  · cases List.mem_singleton.1 mark
    obtain ⟨before, last, parts⟩ := exists_last_of_interpret answer
    have label : labelSpan source.toList f.span = ⟨byteLength before, source.utf8ByteSize⟩ := by
      rw [isAt.1, labelSpan_mark parts]
    have drawable : Drawable source (labelSpan source.toList f.span) :=
      label ▸ drawable_last parts
    exact ⟨_, scanned, isAt, drawable, fun visible => absurd rfl visible,
      fun _ => ⟨before, last, parts, label⟩, drawable.isSome_render?⟩

/-- An operand that is illegal and of two bytes, in a group that the end of the line leaves open. -/
theorem labels_are_drawable_in_open_group :
    interpret "(1+é" = .error [⟨.illegal "é", ⟨3, 5⟩⟩, ⟨.unclosed .eof, ⟨5, 6⟩⟩] ∧
      labelSpan "(1+é".toList ⟨5, 6⟩ = ⟨3, 5⟩ ∧ Drawable "(1+é" ⟨3, 5⟩ := by
  have answer : interpret "(1+é" =
      .error [⟨.illegal "é", ⟨3, 5⟩⟩, ⟨.unclosed .eof, ⟨5, 6⟩⟩] := by
    decide +kernel
  have label : labelSpan "(1+é".toList ⟨5, 6⟩ = ⟨3, 5⟩ := by
    decide
  obtain ⟨-, -, -, drawable, -⟩ :=
    (labels_are_drawable "(1+é").1 _ answer ⟨.unclosed .eof, ⟨5, 6⟩⟩ (by simp)
  exact ⟨answer, label, label ▸ drawable⟩

end Report

end Abacus
