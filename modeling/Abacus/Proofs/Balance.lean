import Abacus.Proofs.Accounting

/-!
# Parentheses balance

Every parenthesis of a text is matched by another one or told to be wrong.  An
opening one that is not closed is told where the closing one is missing, and a
closing one that closes nothing is told where it stands instead of an operand.
So the opening ones that are closed are as many as the closing ones that close
something (`Parser.parentheses_balance`), whatever else is wrong with the text.

The argument keeps account as for the faults of tokens.  The *excess* of tokens
or of faults is the number of opening parentheses less that of closing ones, among
them or told to be wrong.  Whichever way the reader takes, the excess of its tokens
is that of the faults told and of the tokens left (`balances_invariant`).  A closing
parenthesis is passed over in two roles only, as the end of a group and as the
first token of an operand, and an opening one in one.
-/

namespace Abacus

/-! ## Excess -/

/-- Whether a cause is a parenthesis that is not closed. -/
def Cause.isUnclosed : Cause → Bool
  | unclosed _ => true
  | _ => false

/-- How many more of some tokens are opening parentheses than closing ones. -/
def excess (ts : List Token) : Int :=
  ts.countP (·.kind = .opening) - ts.countP (·.kind = .closing)

/-- How many more of some faults tell of an opening parenthesis than of a closing one. -/
def excessTold (fs : List Fault) : Int :=
  fs.countP (·.cause.isUnclosed) - fs.countP (·.cause = .noOperand .closing)

@[simp] theorem excessTold_append (fs gs : List Fault) :
    excessTold (fs ++ gs) = excessTold fs + excessTold gs := by
  simp only [excessTold, List.countP_append]
  omega

section

variable {t : Token}

theorem excess_cons_opening (kind : t.kind = .opening) (ts : List Token) :
    excess (t :: ts) = 1 + excess ts := by
  rw [excess, excess, List.countP_cons_of_pos (by simp [kind]),
    List.countP_cons_of_neg (by simp [kind])]
  omega

theorem excess_cons_closing (kind : t.kind = .closing) (ts : List Token) :
    excess (t :: ts) = -1 + excess ts := by
  rw [excess, excess, List.countP_cons_of_neg (by simp [kind]),
    List.countP_cons_of_pos (by simp [kind])]
  omega

theorem excess_cons_of_ne (opening : t.kind ≠ .opening) (closing : t.kind ≠ .closing)
    (ts : List Token) : excess (t :: ts) = excess ts := by
  simp [excess, opening, closing]

end

theorem excessTold_unclosed (found : Token.Kind) (place : Span) :
    excessTold [⟨.unclosed found, place⟩] = 1 := rfl

theorem excessTold_stray (place : Span) : excessTold [⟨.noOperand .closing, place⟩] = -1 := rfl

namespace Climb

/-! ## Keeping the balance -/

/-- The reader gave up, or what it told and what is left have some excess together. -/
def Outcome.Balances (o : Outcome) (n : Int) : Prop :=
  GaveUp o.faults ∨ (o.abandoned = false ∧ excessTold o.faults + excess o.rest = n)

theorem refuse_balances {t : Token} (starts : ¬ Starts t.kind) (ts : List Token) :
    (refuse t ts).Balances (excess (t :: ts)) := by
  refine .inr ⟨rfl, ?_⟩
  have opening : t.kind ≠ .opening := fun kind => starts (.inr (.inr kind))
  by_cases closing : t.kind = .closing
  · have stray : refusal t = .noOperand .closing := by simp [refusal, closing]
    rw [excess_cons_closing closing, refuse, stray, excessTold_stray]
  · have other : excessTold (refuse t ts).faults = 0 := by
      simp only [refuse, refusal]
      split <;> simp [excessTold, Cause.isUnclosed, closing]
    rw [excess_cons_of_ne opening closing, other, Int.zero_add]
    rfl

theorem literal_balances {t : Token} (kind : t.kind = .number) (ts : List Token) :
    (literal t ts).Balances (excess (t :: ts)) := by
  rw [excess_cons_of_ne (by simp [kind]) (by simp [kind])]
  cases value : Literal.value? t.text with
  | none => exact .inr (by simp [literal, value, excessTold, Cause.isUnclosed])
  | some n => exact .inr (by simp [literal, value, excessTold])

/-- Closing a group, or telling that it is not closed, makes up for the parenthesis that opened
it. -/
theorem Outcome.Balances.close {o : Outcome} {n : Int} (h : o.Balances n) {mark : Token}
    (eof : mark.kind = .eof) : (o.close mark).Balances (1 + n) := by
  rcases h with gaveUp | ⟨going, balance⟩
  · refine .inl ?_
    unfold Outcome.close
    split
    · exact gaveUp
    · split
      · exact gaveUp
      · exact gaveUp.append_left _
  · by_cases closed : (front mark o.rest).kind = .closing
    · obtain ⟨closing, ts, rest, kind⟩ := exists_closing_of_front eof closed
      rw [close_of_closing closed]
      rw [rest, excess_cons_closing kind] at balance
      refine .inr ⟨going, ?_⟩
      simp only [rest, List.tail_cons]
      omega
    · rw [close_of_ne_closing closed going]
      refine .inr ⟨going, ?_⟩
      simp only [excessTold_append, excessTold_unclosed]
      omega

/-- Joining two expressions adds up what was told of them. -/
theorem Outcome.Balances.join {left right : Outcome} {n : Int} {t : Token} {ts : List Token}
    (hl : left.Balances n) (hr : right.Balances (excess ts)) (next : left.rest = t :: ts)
    (operator : 0 < (Precedence.ofKind t.kind).rank) : (left.join t right).Balances n := by
  rcases hl with gaveUp | ⟨-, balanceL⟩
  · exact .inl (gaveUp.append_left _)
  · rcases hr with gaveUp | ⟨going, balanceR⟩
    · exact .inl (gaveUp.append_right _)
    · have opening : t.kind ≠ .opening := Precedence.ne_of_binds operator rfl
      have closing : t.kind ≠ .closing := Precedence.ne_of_binds operator rfl
      rw [next, excess_cons_of_ne opening closing] at balanceL
      refine .inr ⟨going, ?_⟩
      simp only [Outcome.join, excessTold_append]
      omega

/-- Reading an expression keeps the balance of its tokens, step by step. -/
theorem balances_invariant {mark : Token} (eof : mark.kind = .eof) :
    Invariant mark (fun _ _ ts o => o.Balances (excess ts))
      (fun _ _ left o => ∀ n, left.Balances n → o.Balances n) where
  lacking _ ts := .inl (giveUp_gaveUp mark [] (front mark ts).span)
  missing _ _ := by
    refine .inr ⟨rfl, ?_⟩
    simp [refuse, refusal, eof, excessTold, Cause.isUnclosed]
  refused _ _ t ts starts := refuse_balances starts ts
  number _ _ t ts o kind gone := gone _ (literal_balances kind ts)
  minus _ _ t ts o kind inner gone := by
    rw [excess_cons_of_ne (by simp [kind]) (by simp [kind])]
    exact gone _ inner
  opening _ _ t ts o kind inner gone := by
    rw [excess_cons_opening kind]
    exact gone _ (inner.close eof)
  stop _ _ left _ := fun _ balances => balances
  full _ left t ts _ _ := fun _ _ => .inl (giveUp_gaveUp mark left.faults left.last)
  step _ bound left t ts o next lt right gone := by
    intro n balances
    exact gone n (balances.join right next (Nat.lt_of_le_of_lt (Nat.zero_le _) lt))

/-- Reading a line tells the excess of its tokens, unless it gives up. -/
theorem excessTold_line {mark : Token} (eof : mark.kind = .eof) (room : Nat) (ts : List Token) :
    GaveUp (line mark room ts).faults ∨ excessTold (line mark room ts).faults = excess ts := by
  induction ts using line.induct mark room with
  | case1 =>
    rw [line]
    exact .inr rfl
  | case2 t ts o ih =>
    rw [line]
    rcases (balances_invariant eof).expression room .lowest (t :: ts) with
      gaveUp | ⟨-, balance⟩
    · exact .inl (gaveUp.append_left _)
    · rcases ih with gaveUp | later
      · exact .inl (gaveUp.append_right _)
      · refine .inr ?_
        rw [← balance, ← later]
        exact excessTold_append _ _

end Climb

/-! ## Messages -/

/-- Only where a parenthesis is not closed another token is told to be expected.  A surplus is told
of in words that begin alike, up to the tenth letter. -/
theorem quotes_unclosed_iff {c : Cause} :
    Quotes "expected next token to be ), got " " instead" c.message ↔ c.isUnclosed = true := by
  constructor
  · intro quotes
    have initial : c.initial = 'e' := quotes.initial_eq (by decide)
    cases c with
    | unclosed found => rfl
    | illegal | noOperand | badLiteral => cases initial
    | tooDeep =>
      have letters := quotes.take_eq (n := 10) (by decide)
      exact absurd letters (by decide)
    | surplus count =>
      have letters := quotes.take_eq (n := 10) (by decide)
      have message : (Cause.surplus count).message =
        "expected a single expression, found " ++ Text.Decimal.nat count := rfl
      rw [message, take_toList_append (by decide)] at letters
      exact absurd letters (by decide)
  · intro unclosed
    cases c with
    | unclosed found => exact ⟨found.name, rfl⟩
    | illegal | noOperand | badLiteral | tooDeep | surplus => cases unclosed

/-- Only a closing parenthesis instead of an operand is told to be one. -/
theorem message_eq_stray_iff {c : Cause} :
    c.message = "no prefix parse function for ) found" ↔ c = .noOperand .closing := by
  constructor
  · intro message
    have initial : c.initial = 'n' := by
      have head := c.head?_message
      rw [message] at head
      exact (Option.some.inj head).symm
    cases c with
    | noOperand found =>
      cases found with
      | closing => rfl
      | illegal | eof | number | plus | minus | times | divide | opening =>
        exact absurd message (by decide)
    | illegal | badLiteral | unclosed | tooDeep | surplus => cases initial
  · rintro rfl
    rfl

namespace Parser

theorem excess_scan (source : String) :
    excess (Cursor.ofString source).scan = excess (Cursor.ofString source).tokens := by
  have mark : excess [(Cursor.ofString source).mark] = 0 := rfl
  simp only [excess, Cursor.scan, List.countP_append] at mark ⊢
  omega

/-- Told faults are counted by their messages. -/
theorem countP_told {tells : Diagnostic → Bool} (cause : Cause → Bool)
    (h : ∀ f : Fault, tells f.diagnostic = cause f.cause) (source : String) :
    (told source).countP tells = (reading source).faults.countP (cause ·.cause) := by
  rw [told, line_ofString_faults, List.countP_map]
  exact List.countP_congr fun f _ => by rw [Function.comp_apply, h]

/-- There are as many opening parentheses in a text, without those told not to be closed, as closing
ones, without those told to stand where an operand has to. -/
theorem parentheses_balance (source : String)
    (shallow : ∀ d ∈ told source, d.message ≠ "expression nested too deeply") :
    ((Cursor.ofString source).scan.countP (·.kind = .opening) : Int) -
        (told source).countP
          (fun d => Quotes "expected next token to be ), got " " instead" d.message) =
      (Cursor.ofString source).scan.countP (·.kind = .closing) -
        (told source).countP (fun d => d.message = "no prefix parse function for ) found") := by
  have eof : (Cursor.ofString source).mark.kind = .eof := rfl
  have balance : excessTold (reading source).faults = excess (Cursor.ofString source).scan := by
    rw [excess_scan]
    refine (Climb.excessTold_line eof depthLimit _).resolve_left fun gaveUp => ?_
    obtain ⟨d, mem, message⟩ := gaveUp_iff.1 gaveUp
    exact shallow d mem message
  have unclosed (f : Fault) :
      decide (Quotes "expected next token to be ), got " " instead" f.diagnostic.message) =
        f.cause.isUnclosed := by
    simp [Fault.diagnostic, quotes_unclosed_iff]
  have stray (f : Fault) : decide (f.diagnostic.message = "no prefix parse function for ) found") =
      decide (f.cause = .noOperand .closing) := by
    simp [Fault.diagnostic, message_eq_stray_iff]
  rw [countP_told Cause.isUnclosed unclosed, countP_told (· = .noOperand .closing) stray]
  simp only [excess, excessTold] at balance
  omega

/-- Of five opening parentheses two are closed, and of three closing ones one is stray. -/
theorem parentheses_balance_in_recovery :
    (∀ d ∈ told "(2*()-(08))-(3(", d.message ≠ "expression nested too deeply") ∧
      (Cursor.ofString "(2*()-(08))-(3(").scan.countP (·.kind = .opening) = 5 ∧
      (Cursor.ofString "(2*()-(08))-(3(").scan.countP (·.kind = .closing) = 3 ∧
      (told "(2*()-(08))-(3(").countP
        (fun d => Quotes "expected next token to be ), got " " instead" d.message) = 3 ∧
      (told "(2*()-(08))-(3(").countP
        (fun d => d.message = "no prefix parse function for ) found") = 1 := by
  have shallow : ∀ d ∈ told "(2*()-(08))-(3(", d.message ≠ "expression nested too deeply" := by
    decide +kernel
  have openings :
      (Cursor.ofString "(2*()-(08))-(3(").scan.countP (·.kind = .opening) = 5 := by
    decide +kernel
  have closings :
      (Cursor.ofString "(2*()-(08))-(3(").scan.countP (·.kind = .closing) = 3 := by
    decide +kernel
  have unclosed : (told "(2*()-(08))-(3(").countP
      (fun d => Quotes "expected next token to be ), got " " instead" d.message) = 3 := by
    decide +kernel
  have balance := parentheses_balance "(2*()-(08))-(3(" shallow
  rw [openings, closings, unclosed] at balance
  exact ⟨shallow, openings, closings, unclosed, by omega⟩

end Parser

end Abacus
