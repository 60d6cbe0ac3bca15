import Abacus.Proofs.Acceptance

/-!
# Faults of tokens are told once

Two faults are those of a token by itself: it is illegal, or it is a number and
no literal.  What a token *owes* is its fault, if it has one.  The reader of
expressions passes over tokens in many ways, some of them after other faults.
But whichever way it takes, what it told of these two kinds and what the tokens
that are left owe is what all tokens owed, unless it gave up (`accounts_invariant`).
No token is passed over as the first of an operand twice, and the tokens that are
passed over in other roles, operators and closing parentheses, owe nothing.

At the end of a line nothing is left, so the faults told are those owed, in order
(`lexical_line`).  `told_lexical_faults` says the same of the messages.
-/

namespace Abacus

/-! ## What tokens owe -/

/-- The fault of a token by itself. -/
def Token.fault? (t : Token) : Option Fault :=
  match t.kind with
  | .illegal => some ⟨.illegal t.text, t.span⟩
  | .number => if Literal.value? t.text = none then some ⟨.badLiteral t.text, t.span⟩ else none
  | _ => none

namespace Token

variable {t : Token}

theorem fault?_of_illegal (kind : t.kind = .illegal) :
    t.fault? = some ⟨.illegal t.text, t.span⟩ := by
  rw [fault?, kind]

theorem fault?_of_badLiteral (kind : t.kind = .number) (value : Literal.value? t.text = none) :
    t.fault? = some ⟨.badLiteral t.text, t.span⟩ := by
  rw [fault?, kind]
  exact if_pos value

theorem fault?_of_literal {n : Int64} (kind : t.kind = .number)
    (value : Literal.value? t.text = some n) : t.fault? = none := by
  rw [fault?, kind]
  exact if_neg (by simp [value])

theorem fault?_of_ne (illegal : t.kind ≠ .illegal) (number : t.kind ≠ .number) :
    t.fault? = none := by
  unfold fault?
  split
  · contradiction
  · contradiction
  · rfl

theorem fault?_eq_some {f : Fault} (h : t.fault? = some f) :
    (t.kind = .illegal ∧ f = ⟨.illegal t.text, t.span⟩) ∨
      (t.kind = .number ∧ Literal.value? t.text = none ∧ f = ⟨.badLiteral t.text, t.span⟩) := by
  unfold fault? at h
  split at h
  next kind =>
    cases h
    exact .inl ⟨kind, rfl⟩
  next kind =>
    split at h
    next value =>
      cases h
      exact .inr ⟨kind, value, rfl⟩
    next => cases h
  next => cases h

end Token

/-- Whether a cause is that of a token by itself. -/
def Cause.isLexical : Cause → Bool
  | illegal _ => true
  | badLiteral _ => true
  | _ => false

/-- Those of some faults that are faults of tokens by themselves. -/
def lexical (fs : List Fault) : List Fault :=
  fs.filter (·.cause.isLexical)

@[simp] theorem lexical_append (fs gs : List Fault) :
    lexical (fs ++ gs) = lexical fs ++ lexical gs :=
  List.filter_append ..

/-- What some tokens owe. -/
def owed (ts : List Token) : List Fault :=
  ts.filterMap Token.fault?

theorem owed_cons_of_none {t : Token} (h : t.fault? = none) (ts : List Token) :
    owed (t :: ts) = owed ts :=
  List.filterMap_cons_none h

theorem owed_cons_of_some {t : Token} {f : Fault} (h : t.fault? = some f) (ts : List Token) :
    owed (t :: ts) = f :: owed ts :=
  List.filterMap_cons_some h

theorem fault?_of_operator {t : Token} (operator : 0 < (Precedence.ofKind t.kind).rank) :
    t.fault? = none :=
  Token.fault?_of_ne (Precedence.ne_of_binds operator rfl) (Precedence.ne_of_binds operator rfl)

namespace Climb

/-! ## Accounting -/

/-- Want of room is among some faults. -/
def GaveUp (fs : List Fault) : Prop :=
  ∃ f ∈ fs, f.cause = .tooDeep

theorem GaveUp.append_left {fs : List Fault} (h : GaveUp fs) (gs : List Fault) :
    GaveUp (fs ++ gs) := by
  obtain ⟨f, mem, cause⟩ := h
  exact ⟨f, List.mem_append_left gs mem, cause⟩

theorem GaveUp.append_right {gs : List Fault} (h : GaveUp gs) (fs : List Fault) :
    GaveUp (fs ++ gs) := by
  obtain ⟨f, mem, cause⟩ := h
  exact ⟨f, List.mem_append_right fs mem, cause⟩

theorem giveUp_gaveUp (mark : Token) (fs : List Fault) (place : Span) :
    GaveUp (giveUp mark fs place).faults :=
  ⟨_, List.mem_append_right fs (List.mem_singleton_self _), rfl⟩

/-- The reader gave up, or what it told and what is still owed are these faults. -/
def Outcome.Accounts (o : Outcome) (fs : List Fault) : Prop :=
  GaveUp o.faults ∨ lexical o.faults ++ owed o.rest = fs

theorem refuse_accounts {t : Token} (starts : ¬ Starts t.kind) (ts : List Token) :
    (refuse t ts).Accounts (owed (t :: ts)) := by
  refine .inr ?_
  by_cases kind : t.kind = .illegal
  · rw [owed_cons_of_some (Token.fault?_of_illegal kind)]
    simp [refuse, refusal, kind, lexical, Cause.isLexical]
  · have number : t.kind ≠ .number := fun number => starts (.inl number)
    rw [owed_cons_of_none (Token.fault?_of_ne kind number)]
    simp [refuse, refusal, kind, lexical, Cause.isLexical]

theorem literal_accounts {t : Token} (kind : t.kind = .number) (ts : List Token) :
    (literal t ts).Accounts (owed (t :: ts)) := by
  refine .inr ?_
  cases value : Literal.value? t.text with
  | none =>
    rw [owed_cons_of_some (Token.fault?_of_badLiteral kind value)]
    simp [literal, value, lexical, Cause.isLexical]
  | some n =>
    rw [owed_cons_of_none (Token.fault?_of_literal kind value)]
    simp [literal, value, lexical]

/-- Closing a parenthesis owes nothing, nor does telling that it is not closed.  What is told then
is not of the token that stands there, which is left and still owes its own. -/
theorem Outcome.Accounts.close {o : Outcome} {fs : List Fault} (h : o.Accounts fs) {mark : Token}
    (eof : mark.kind = .eof) : (o.close mark).Accounts fs := by
  by_cases closed : (front mark o.rest).kind = .closing
  · obtain ⟨closing, ts, rest, kind⟩ := exists_closing_of_front eof closed
    have fault : closing.fault? = none :=
      Token.fault?_of_ne (by simp [kind]) (by simp [kind])
    rw [Outcome.Accounts, rest, owed_cons_of_none fault] at h
    rw [close_of_closing closed, Outcome.Accounts, rest]
    exact h
  · cases going : o.abandoned with
    | true =>
      rw [close_of_abandoned closed going]
      exact h
    | false =>
      rw [close_of_ne_closing closed going]
      rcases h with gaveUp | accounts
      · exact .inl (gaveUp.append_left _)
      · refine .inr ?_
        rw [lexical_append, List.append_assoc]
        exact accounts

/-- Joining two expressions joins their accounts. -/
theorem Outcome.Accounts.join {left right : Outcome} {fs : List Fault} {t : Token}
    {ts : List Token} (hl : left.Accounts fs) (hr : right.Accounts (owed ts))
    (next : left.rest = t :: ts) (operator : 0 < (Precedence.ofKind t.kind).rank) :
    (left.join t right).Accounts fs := by
  rcases hl with gaveUp | accountsL
  · exact .inl (gaveUp.append_left _)
  · rcases hr with gaveUp | accountsR
    · exact .inl (gaveUp.append_right _)
    · rw [next, owed_cons_of_none (fault?_of_operator operator)] at accountsL
      refine .inr ?_
      show lexical (left.faults ++ right.faults) ++ owed right.rest = fs
      rw [lexical_append, List.append_assoc, accountsR, accountsL]

/-- Reading an expression keeps account of what its tokens owe, step by step. -/
theorem accounts_invariant {mark : Token} (eof : mark.kind = .eof) :
    Invariant mark (fun _ _ ts o => o.Accounts (owed ts))
      (fun _ _ left o => ∀ fs, left.Accounts fs → o.Accounts fs) where
  lacking _ ts := .inl (giveUp_gaveUp mark [] (front mark ts).span)
  missing _ _ := by
    refine .inr ?_
    simp [refuse, refusal, eof, lexical, Cause.isLexical]
  refused _ _ t ts starts := refuse_accounts starts ts
  number _ _ t ts o kind gone := gone _ (literal_accounts kind ts)
  minus _ _ t ts o kind inner gone := by
    rw [owed_cons_of_none (Token.fault?_of_ne (by simp [kind]) (by simp [kind]))]
    exact gone _ inner
  opening _ _ t ts o kind inner gone := by
    rw [owed_cons_of_none (Token.fault?_of_ne (by simp [kind]) (by simp [kind]))]
    exact gone _ (inner.close eof)
  stop _ _ left _ := fun _ accounts => accounts
  full _ left t ts _ _ := fun _ _ => .inl (giveUp_gaveUp mark left.faults left.last)
  step _ bound left t ts o next lt right gone := by
    intro fs accounts
    exact gone fs (accounts.join right next (Nat.lt_of_le_of_lt (Nat.zero_le _) lt))

/-- Reading a line tells what its tokens owe, in order, unless it gives up. -/
theorem lexical_line {mark : Token} (eof : mark.kind = .eof) (room : Nat) (ts : List Token) :
    GaveUp (line mark room ts).faults ∨ lexical (line mark room ts).faults = owed ts := by
  induction ts using line.induct mark room with
  | case1 =>
    rw [line]
    exact .inr rfl
  | case2 t ts o ih =>
    rw [line]
    rcases (accounts_invariant eof).expression room .lowest (t :: ts) with gaveUp | accounts
    · exact .inl (gaveUp.append_left _)
    · rcases ih with gaveUp | later
      · exact .inl (gaveUp.append_right _)
      · refine .inr ?_
        rw [← accounts, ← later]
        exact lexical_append _ _

end Climb

/-! ## Messages -/

/-- A message quotes some words between two given texts. -/
def Quotes (before after message : String) : Prop :=
  ∃ words, message = before ++ words ++ after

theorem quotes_iff {before after message : String} :
    Quotes before after message ↔ before.toList <+: message.toList ∧
      after.toList <:+ message.toList.drop before.toList.length := by
  constructor
  · rintro ⟨words, rfl⟩
    rw [String.toList_append, String.toList_append, List.append_assoc, List.drop_left]
    exact ⟨List.prefix_append _ _, List.suffix_append _ _⟩
  · rintro ⟨first, words, last⟩
    refine ⟨.ofList words, ?_⟩
    rw [← String.toList_inj, String.toList_append, String.toList_append, String.toList_ofList,
      List.append_assoc, last]
    exact (List.prefix_iff_eq_append.1 first).symm

instance (before after message : String) : Decidable (Quotes before after message) :=
  decidable_of_iff _ quotes_iff.symm

theorem head?_toList_append {a : String} {c : Char} (h : a.toList.head? = some c) (b : String) :
    (a ++ b).toList.head? = some c := by
  rw [String.toList_append, List.head?_append, h, Option.some_or]

/-- The first letter of what is said about a cause. -/
def Cause.initial : Cause → Char
  | illegal _ => 'I'
  | noOperand _ => 'n'
  | badLiteral _ => 'c'
  | unclosed _ => 'e'
  | tooDeep => 'e'
  | surplus _ => 'e'

theorem Cause.head?_message (c : Cause) : c.message.toList.head? = some c.initial := by
  cases c with
  | illegal text => exact head?_toList_append rfl text
  | noOperand found => exact head?_toList_append (head?_toList_append rfl _) _
  | badLiteral text => exact head?_toList_append (head?_toList_append rfl _) _
  | unclosed found =>
    exact head?_toList_append (head?_toList_append (head?_toList_append
      (head?_toList_append rfl _) _) _) _
  | tooDeep => decide
  | surplus count => exact head?_toList_append rfl _

theorem Quotes.initial_eq {before after : String} {c : Cause} (h : Quotes before after c.message)
    {first : Char} (initial : before.toList.head? = some first) : c.initial = first := by
  obtain ⟨words, quotes⟩ := h
  have head := head?_toList_append (head?_toList_append initial words) after
  rw [← quotes, c.head?_message] at head
  exact Option.some.inj head

/-- Only an illegal token is told to be one. -/
theorem quotes_illegal_iff {c : Cause} :
    Quotes "Illegal token: " "" c.message ↔ ∃ text, c = .illegal text := by
  constructor
  · intro quotes
    have initial : c.initial = 'I' := quotes.initial_eq (by decide)
    cases c with
    | illegal text => exact ⟨text, rfl⟩
    | noOperand | badLiteral | unclosed | tooDeep | surplus => cases initial
  · rintro ⟨text, rfl⟩
    exact ⟨text, (String.append_empty).symm⟩

/-- Only a number that is no literal is told to be none. -/
theorem quotes_badLiteral_iff {c : Cause} :
    Quotes "could not parse \"" "\" as integer" c.message ↔ ∃ text, c = .badLiteral text := by
  constructor
  · intro quotes
    have initial : c.initial = 'c' := quotes.initial_eq (by decide)
    cases c with
    | badLiteral text => exact ⟨text, rfl⟩
    | illegal | noOperand | unclosed | tooDeep | surplus => cases initial
  · rintro ⟨text, rfl⟩
    exact ⟨text, rfl⟩

theorem take_toList_append {a : String} {n : Nat} (h : n ≤ a.toList.length) (b : String) :
    (a ++ b).toList.take n = a.toList.take n := by
  rw [String.toList_append, List.take_append_of_le_length h]

theorem Quotes.take_eq {before after message : String} (h : Quotes before after message) {n : Nat}
    (le : n ≤ before.toList.length) : message.toList.take n = before.toList.take n := by
  obtain ⟨words, rfl⟩ := h
  rw [String.append_assoc, take_toList_append le]

/-- Only want of room is told to be nesting that is too deep. -/
theorem message_eq_tooDeep_iff {c : Cause} :
    c.message = "expression nested too deeply" ↔ c = .tooDeep := by
  constructor
  · intro message
    have initial : c.initial = 'e' := by
      have head := c.head?_message
      rw [message] at head
      exact (Option.some.inj head).symm
    cases c with
    | tooDeep => rfl
    | illegal | noOperand | badLiteral => cases initial
    | unclosed found =>
      have quotes : Quotes "expected next token to be ), got " " instead"
          (Cause.unclosed found).message := ⟨found.name, rfl⟩
      rw [message] at quotes
      exact absurd (quotes.take_eq (n := 6) (by decide)) (by decide)
    | surplus count =>
      have quotes : Quotes "expected a single expression, found " ""
          (Cause.surplus count).message := ⟨_, String.append_empty.symm⟩
      rw [message] at quotes
      exact absurd (quotes.take_eq (n := 6) (by decide)) (by decide)
  · rintro rfl
    rfl

/-! ## The messages of a text -/

/-- Those of the faults owed that say something are the faults of the tokens that owe them. -/
theorem filter_owed {tells : Fault → Bool} (owes : Token → Bool) {fault : Token → Fault}
    (h : ∀ t : Token, t.fault?.filter tells = if owes t then some (fault t) else none)
    (ts : List Token) : (owed ts).filter tells = (ts.filter owes).map fault := by
  calc
    (owed ts).filter tells = ts.filterMap fun t => t.fault?.filter tells := List.filter_filterMap
    _ = ts.filterMap fun t => if owes t then some (fault t) else none := by simp only [h]
    _ = (ts.filter owes).filterMap fun t => some (fault t) := List.filterMap_filter.symm
    _ = (ts.filter owes).map fault := by rw [List.filterMap_eq_map']

theorem filter_quotes_illegal (t : Token) :
    (t.fault?.filter fun f => Quotes "Illegal token: " "" f.cause.message) =
      if t.kind = .illegal then some ⟨.illegal t.text, t.span⟩ else none := by
  by_cases kind : t.kind = .illegal
  · have quotes : Quotes "Illegal token: " "" (Cause.illegal t.text).message :=
      quotes_illegal_iff.2 ⟨t.text, rfl⟩
    rw [Token.fault?_of_illegal kind, if_pos kind, Option.filter_some,
      if_pos (decide_eq_true quotes)]
  · rw [if_neg kind, Option.filter_eq_none_iff]
    intro f fault quotes
    obtain ⟨text, cause⟩ := quotes_illegal_iff.1 (of_decide_eq_true quotes)
    rcases Token.fault?_eq_some fault with ⟨illegal, -⟩ | ⟨-, -, rfl⟩
    · exact kind illegal
    · cases cause

theorem filter_quotes_badLiteral (t : Token) :
    (t.fault?.filter fun f => Quotes "could not parse \"" "\" as integer" f.cause.message) =
      if t.kind = .number ∧ Literal.value? t.text = none then some ⟨.badLiteral t.text, t.span⟩
      else none := by
  by_cases bad : t.kind = .number ∧ Literal.value? t.text = none
  · have quotes : Quotes "could not parse \"" "\" as integer" (Cause.badLiteral t.text).message :=
      quotes_badLiteral_iff.2 ⟨t.text, rfl⟩
    rw [Token.fault?_of_badLiteral bad.1 bad.2, if_pos bad, Option.filter_some,
      if_pos (decide_eq_true quotes)]
  · rw [if_neg bad, Option.filter_eq_none_iff]
    intro f fault quotes
    obtain ⟨text, cause⟩ := quotes_badLiteral_iff.1 (of_decide_eq_true quotes)
    rcases Token.fault?_eq_some fault with ⟨-, rfl⟩ | ⟨kind, value, -⟩
    · cases cause
    · exact bad ⟨kind, value⟩

namespace Parser

/-- What the parser of a text tells of it. -/
def told (source : String) : List Diagnostic :=
  (ofString source).line.2.faults.map Fault.diagnostic

/-- The parser of a text gives up exactly if it tells so. -/
theorem gaveUp_iff {source : String} :
    Climb.GaveUp (reading source).faults ↔
      ∃ d ∈ told source, d.message = "expression nested too deeply" := by
  constructor
  · rintro ⟨f, mem, cause⟩
    exact ⟨f.diagnostic, List.mem_map_of_mem mem, message_eq_tooDeep_iff.2 cause⟩
  · rintro ⟨d, mem, message⟩
    obtain ⟨f, inside, rfl⟩ := List.mem_map.1 mem
    exact ⟨f, inside, message_eq_tooDeep_iff.1 message⟩

/-- Messages that only faults of tokens have are those of the faults owed, if these are told. -/
theorem filter_told {source before after : String}
    (tells : lexical (reading source).faults = owed (Cursor.ofString source).tokens)
    (only : ∀ c : Cause, Quotes before after c.message → c.isLexical = true) :
    (told source).filter (fun d => Quotes before after d.message) =
      ((owed (Cursor.ofString source).tokens).filter
        fun f => Quotes before after f.cause.message).map Fault.diagnostic := by
  rw [told, line_ofString_faults, List.filter_map, ← tells, lexical, List.filter_filter]
  refine congrArg _ (List.filter_congr ?_)
  intro f _
  by_cases quotes : Quotes before after f.cause.message
  · have same : Quotes before after f.diagnostic.message := quotes
    simp [quotes, same, only f.cause quotes]
  · have same : ¬ Quotes before after f.diagnostic.message := quotes
    simp [quotes, same]

/-- The faults of the tokens of a text are told once each, in order and at their places, and no
others are told in the same words, if the parser does not give up.  An illegal token is told to be
one wherever it stands, and a number is told to be no literal exactly if it is none. -/
theorem told_lexical_faults (source : String)
    (shallow : ∀ d ∈ told source, d.message ≠ "expression nested too deeply") :
    (((told source).filter fun d => Quotes "Illegal token: " "" d.message).map
        fun d => (d.message, d.span)) =
      ((Cursor.ofString source).scan.filter fun t => t.kind = .illegal).map
        (fun t => ("Illegal token: " ++ t.text, t.span)) ∧
    (((told source).filter fun d => Quotes "could not parse \"" "\" as integer" d.message).map
        fun d => (d.message, d.span)) =
      ((Cursor.ofString source).scan.filter
          fun t => t.kind = .number ∧ Literal.value? t.text = none).map
        (fun t => ("could not parse \"" ++ t.text ++ "\" as integer", t.span)) := by
  have eof : (Cursor.ofString source).mark.kind = .eof := rfl
  have tells : lexical (reading source).faults = owed (Cursor.ofString source).tokens := by
    rcases Climb.lexical_line eof depthLimit (Cursor.ofString source).tokens with gaveUp | tells
    · obtain ⟨f, mem, cause⟩ := gaveUp
      have message : f.diagnostic.message = "expression nested too deeply" := by
        rw [Fault.diagnostic, cause]
        rfl
      exact absurd message (shallow _ (List.mem_map_of_mem mem))
    · exact tells
  have scan (owes : Token → Bool) (mark : owes (Cursor.ofString source).mark = false) :
      (Cursor.ofString source).scan.filter owes = (Cursor.ofString source).tokens.filter owes := by
    rw [Cursor.scan, List.filter_append, List.filter_cons_of_neg (by simp [mark]), List.filter_nil,
      List.append_nil]
  constructor
  · have only (c : Cause) (quotes : Quotes "Illegal token: " "" c.message) :
        c.isLexical = true := by
      obtain ⟨text, rfl⟩ := quotes_illegal_iff.1 quotes
      rfl
    rw [filter_told tells only, scan _ rfl, filter_owed (fun t => t.kind = .illegal)
      (fun t => by simpa using filter_quotes_illegal t), List.map_map, List.map_map]
    rfl
  · have only (c : Cause) (quotes : Quotes "could not parse \"" "\" as integer" c.message) :
        c.isLexical = true := by
      obtain ⟨text, rfl⟩ := quotes_badLiteral_iff.1 quotes
      rfl
    rw [filter_told tells only, scan _ rfl,
      filter_owed (fun t => t.kind = .number ∧ Literal.value? t.text = none)
        (fun t => by simpa using filter_quotes_badLiteral t), List.map_map, List.map_map]
    rfl

/-- An illegal character where a parenthesis should close, bad literals on both sides of an
operator, and one after an operand that fails. -/
theorem told_lexical_faults_in_recovery :
    (((told "(1 % 08) 1_*0x $").filter fun d => Quotes "Illegal token: " "" d.message).map
        fun d => (d.message, d.span)) =
      [("Illegal token: %", ⟨3, 4⟩), ("Illegal token: $", ⟨15, 16⟩)] ∧
    (((told "(1 % 08) 1_*0x $").filter
        fun d => Quotes "could not parse \"" "\" as integer" d.message).map
        fun d => (d.message, d.span)) =
      [("could not parse \"08\" as integer", ⟨5, 7⟩),
        ("could not parse \"1_\" as integer", ⟨9, 11⟩),
        ("could not parse \"0x\" as integer", ⟨12, 14⟩)] := by
  have shallow : ∀ d ∈ told "(1 % 08) 1_*0x $", d.message ≠ "expression nested too deeply" := by
    decide +kernel
  obtain ⟨illegal, bad⟩ := told_lexical_faults "(1 % 08) 1_*0x $" shallow
  exact ⟨illegal.trans (by decide +kernel), bad.trans (by decide +kernel)⟩

end Parser

end Abacus
