import Mathlib.Data.List.Forall2
import Abacus.Proofs.Writing

/-!
# Places only say where

Two texts whose tokens agree in kind and text are laid out differently and read
alike.  Their trees differ in places only.  So do their faults, and each fault of
one is at the token with the same index as that of the other.  The answers agree
in the same way, and a plain run cannot tell the texts apart (`alike_of_scan`).

The tokens of a text are the *numbered* tokens, whose places are their indices,
moved to where the text has them.  Reading commutes with moving, and numbered
tokens depend on kinds and texts alone.  So both texts are read as one reading
of numbered tokens, moved in two ways.
-/

namespace Abacus

open Climb

/-! ## Numbered tokens -/

/-- The index of a token, as a place. -/
def Span.ofIndex (i : Nat) : Span :=
  ⟨i, i⟩

/-- The tokens with their indices for places. -/
def numbered (ts : List Token) : List Token :=
  ts.mapIdx fun i t => t.relocate fun _ => .ofIndex i

/-- The place of the token with an index, or of the mark if there is none. -/
def placeAt (mark : Token) (ts : List Token) (index : Span) : Span :=
  (ts[index.start]?.getD mark).span

/-- Tokens are numbered tokens, moved to their places. -/
theorem relocate_numbered (mark : Token) (ts : List Token) :
    (numbered ts).map (.relocate (placeAt mark ts)) = ts := by
  refine List.ext_getElem? fun i => ?_
  rw [numbered, List.getElem?_map, List.getElem?_mapIdx]
  cases at' : ts[i]? with
  | none => rfl
  | some t => simp [Token.relocate, Span.ofIndex, placeAt, at']

theorem numbered_map_bare (ts : List Token) : numbered (ts.map .bare) = numbered ts := by
  refine List.ext_getElem? fun i => ?_
  rw [numbered, numbered, List.getElem?_mapIdx, List.getElem?_mapIdx, List.getElem?_map]
  cases ts[i]? <;> rfl

theorem placeAt_length (mark : Token) (ts : List Token) :
    placeAt mark ts (.ofIndex ts.length) = mark.span := by
  simp [placeAt, Span.ofIndex]

/-- The reading of bare tokens at their indices. -/
def numberedReading (ts : List Token) : Reading :=
  Climb.line ⟨.eof, "", .ofIndex ts.length⟩ depthLimit (numbered ts)

theorem Cursor.getElem?_scan_min (c : Cursor) (i : Nat) :
    c.scan[min i c.tokens.length]? = some (c.tokens[i]?.getD c.mark) := by
  rcases Nat.lt_or_ge i c.tokens.length with inside | past
  · rw [Nat.min_eq_left inside.le, Cursor.scan, List.getElem?_append_left inside,
      List.getElem?_eq_getElem inside, Option.getD_some]
  · rw [Nat.min_eq_right past, Cursor.scan, List.getElem?_concat_length,
      List.getElem?_eq_none past, Option.getD_none]

namespace Parser

/-- The place in a text of the token with an index. -/
def placeIn (source : String) : Span → Span :=
  placeAt (Cursor.ofString source).mark (Cursor.ofString source).tokens

/-- What the parser of a text reads is what it reads in the numbered tokens, moved to the places of
the text. -/
theorem reading_eq_relocate (source : String) :
    reading source = (numberedReading (bareTokens source.toList)).relocate (placeIn source) := by
  have same : bareTokens source.toList = (Cursor.ofString source).tokens.map .bare := rfl
  have mark : (Cursor.ofString source).mark =
      Token.relocate (placeIn source)
        ⟨.eof, "", .ofIndex (Cursor.ofString source).tokens.length⟩ := by
    rw [Token.relocate, placeIn, placeAt_length]
    rfl
  rw [numberedReading, same, numbered_map_bare, List.length_map, ← line_relocate, ← mark, placeIn,
    relocate_numbered]
  rfl

/-! ## Tokens with one index -/

variable {a b : String}

/-- Two places are those of tokens with one index. -/
def SameIndex (a b : String) (s r : Span) : Prop :=
  ∃ (i : Nat) (t u : Token), (Cursor.ofString a).scan[i]? = some t ∧
    (Cursor.ofString b).scan[i]? = some u ∧ s = t.span ∧ r = u.span

theorem sameIndex_placeIn
    (length : (Cursor.ofString a).tokens.length = (Cursor.ofString b).tokens.length)
    (index : Span) : SameIndex a b (placeIn a index) (placeIn b index) := by
  have inA := (Cursor.ofString a).getElem?_scan_min index.start
  have inB := (Cursor.ofString b).getElem?_scan_min index.start
  rw [← length] at inB
  exact ⟨_, _, _, inA, inB, rfl, rfl⟩

/-! ## Texts that are read alike -/

/-- Two faults have the same cause, so that they are of one kind and say the same, and are at tokens
with one index. -/
def SameFault (a b : String) (f g : Fault) : Prop :=
  f.cause = g.cause ∧ SameIndex a b f.span g.span

/-- Two answers are the same but for the places of faults. -/
inductive SameAnswer (a b : String) :
    Except (List Fault) (Option Answer) → Except (List Fault) (Option Answer) → Prop
  /-- Answers are the same if they are equal. -/
  | ok (answer? : Option Answer) : SameAnswer a b (.ok answer?) (.ok answer?)
  /-- Faults are the same if each is the same as the other with its index. -/
  | error {fs gs : List Fault} : List.Forall₂ (SameFault a b) fs gs →
      SameAnswer a b (.error fs) (.error gs)

/-- Two texts are read alike. -/
structure Alike (a b : String) : Prop where
  /-- They have the same trees, but for places. -/
  trees : (ofString a).line.1.map Expr.bare = (ofString b).line.1.map Expr.bare
  /-- They have the same faults in the same order, but for places. -/
  faults : List.Forall₂ (SameFault a b) (ofString a).line.2.faults (ofString b).line.2.faults
  /-- They have the same answer. -/
  answer : SameAnswer a b (interpret a) (interpret b)
  /-- Plain runs of them do the same on every console, whatever the texts are called. -/
  run : ∀ nameA? nameB?, runLine .plain nameA? a = runLine .plain nameB? b

theorem forall₂_sameFault_relocate
    (length : (Cursor.ofString a).tokens.length = (Cursor.ofString b).tokens.length)
    (fs : List Fault) :
    List.Forall₂ (SameFault a b) (fs.map (.relocate (placeIn a)))
      (fs.map (.relocate (placeIn b))) := by
  rw [List.forall₂_map_left_iff, List.forall₂_map_right_iff]
  exact List.forall₂_same.2 fun f _ => ⟨rfl, sameIndex_placeIn length f.span⟩

/-- Both readings are one reading of numbered tokens, moved in two ways. -/
theorem alike_of_bareTokens (same : bareTokens a.toList = bareTokens b.toList) : Alike a b := by
  have length : (Cursor.ofString a).tokens.length = (Cursor.ofString b).tokens.length := by
    have count := congrArg List.length same
    rwa [bareTokens, bareTokens, List.length_map, List.length_map] at count
  have readA := reading_eq_relocate a
  have readB := same ▸ reading_eq_relocate b
  refine ⟨?_, ?_, ?_, ?_⟩
  · have bare := (reading_relocate_bare a).trans (same ▸ (reading_relocate_bare b).symm)
    exact congrArg Reading.exprs bare
  · rw [line_ofString_faults, line_ofString_faults, readA, readB]
    exact forall₂_sameFault_relocate length _
  · rw [interpret_eq_verdict, interpret_eq_verdict, readA, readB, Reading.verdict_relocate,
      Reading.verdict_relocate]
    cases (numberedReading (bareTokens a.toList)).verdict with
    | ok answer? => exact .ok answer?
    | error fs => exact .error (forall₂_sameFault_relocate length fs)
  · intro nameA? nameB?
    rw [runLine_plain_eq, runLine_plain_eq, plainText_interpret_congr same,
      isWell_interpret_congr same]

/-- Texts whose tokens agree in kind and text are read alike. -/
theorem alike_of_scan
    (same : (Cursor.ofString a).scan.map (fun t => (t.kind, t.text)) =
      (Cursor.ofString b).scan.map (fun t => (t.kind, t.text))) : Alike a b := by
  apply alike_of_bareTokens
  have bare := congrArg (List.map fun face => (⟨face.1, face.2, ⟨0, 0⟩⟩ : Token)) same
  rw [List.map_map, List.map_map, Cursor.scan, Cursor.scan, List.map_append, List.map_append]
    at bare
  exact List.append_cancel_right bare

/-- A parenthesis that is not closed and a missing operand, with and without blanks. -/
theorem alike_of_scan_blanks :
    (ofString "(1 2+").line.2.faults.map Fault.span = [⟨3, 4⟩, ⟨5, 6⟩] ∧
      (ofString " ( 1\t2 +  ").line.2.faults.map Fault.span = [⟨5, 6⟩, ⟨10, 11⟩] ∧
      Alike "(1 2+" " ( 1\t2 +  " := by
  have same : (Cursor.ofString "(1 2+").scan.map (fun t => (t.kind, t.text)) =
      (Cursor.ofString " ( 1\t2 +  ").scan.map (fun t => (t.kind, t.text)) := by
    decide +kernel
  exact ⟨by decide +kernel, by decide +kernel, alike_of_scan same⟩

end Parser

end Abacus
