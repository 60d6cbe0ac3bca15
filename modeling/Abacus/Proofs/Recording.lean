import Abacus.Console
import Abacus.Proofs.Encoding
import Mathlib.Control.Monad.Basic

/-!
# What a task leaves

The *record* of a task is what it leaves where there is no end to the room: the
bytes on standard output, the text on standard error, and how it ends.

A task *leaves* a record if the room of a console decides only how far it gets.
With room for all bytes it leaves the record and nothing else.  Without, it writes
the first bytes, as many as there is room for, notes no more than the first part of
the text, and fails for the reason that the output gives.

Writing, noting and failing leave records, and so do tasks made of such tasks.
`Leaves.bind` carries this: where the room ends in the second task, it ends after
all that the first one wrote, and where it ends in the first one, nothing of the
second one is done.
-/

namespace Abacus

variable {α β : Type}

/-! ## Consoles -/

namespace Console

/-- The console after a text was noted. -/
def hear (text : String) (k : Console) : Console :=
  { k with err := k.err ++ text }

@[simp] theorem put_empty (k : Console) : k.put #[] = k := by
  cases k with
  | mk out err room? reason => cases room? <;> simp [put]

@[simp] theorem hear_empty (k : Console) : k.hear "" = k := by
  cases k with
  | mk out err room? reason => simp [hear]

theorem put_append (k : Console) (xs ys : Array UInt8) :
    k.put (xs ++ ys) = (k.put xs).put ys := by
  cases k with
  | mk out err room? reason => cases room? <;> simp [put, Nat.sub_add_eq]

theorem hear_append (k : Console) (a b : String) : k.hear (a ++ b) = (k.hear a).hear b := by
  rw [hear, hear, hear, String.append_assoc]

theorem put_hear (k : Console) (bytes : Array UInt8) (text : String) :
    (k.hear text).put bytes = (k.put bytes).hear text := rfl

/-- Bytes fit together exactly if the first ones do and then the others. -/
theorem fits_append_iff (k : Console) (xs ys : Array UInt8) :
    k.fits (xs ++ ys).size = true ↔ k.fits xs.size = true ∧ (k.put xs).fits ys.size = true := by
  cases k with
  | mk out err room? reason =>
    cases room? with
    | none => simp [fits, put]
    | some n =>
      simp only [fits, put, Option.map_some, Option.all_some, decide_eq_true_eq,
        Array.size_append]
      omega

/-- Nothing fits everywhere. -/
theorem fits_zero (k : Console) : k.fits 0 = true := by
  cases room? : k.room? with
  | none => exact fits_of_room?_eq_none room? 0
  | some room => exact (fits_iff_of_room?_eq_some room? 0).2 (Nat.zero_le room)

/-- Where bytes do not fit, the room has an end, and they are more than it. -/
theorem exists_room_of_not_fits {k : Console} {size : Nat} (full : k.fits size = false) :
    ∃ room, k.room? = some room ∧ room < size := by
  cases room? : k.room? with
  | none => simp [fits_of_room?_eq_none room?] at full
  | some room =>
    refine ⟨room, rfl, Nat.lt_of_not_le fun le => ?_⟩
    rw [(fits_iff_of_room?_eq_some room? size).2 le] at full
    cases full

/-- The bytes of a part that does not fit and of what follows it fit as far as those of the part. -/
theorem put_take_of_not_fits {k : Console} {xs : Array UInt8} (full : k.fits xs.size = false)
    (ys : Array UInt8) :
    k.put ((xs ++ ys).take (k.room?.getD 0)) = k.put (xs.take (k.room?.getD 0)) := by
  obtain ⟨room, room?, lt⟩ := exists_room_of_not_fits full
  rw [room?, Option.getD_some, Array.take_eq_extract, Array.extract_append,
    Nat.sub_eq_zero_of_le (Nat.le_of_lt lt), Array.extract_zero, Array.append_empty,
    Array.take_eq_extract]

/-- The bytes of a part that fits and of what follows it fit as far as they do after the part. -/
theorem put_take_of_fits {k : Console} {xs ys : Array UInt8} (room : k.fits xs.size = true)
    (full : (k.put xs).fits ys.size = false) :
    k.put ((xs ++ ys).take (k.room?.getD 0)) =
      (k.put xs).put (ys.take ((k.put xs).room?.getD 0)) := by
  cases room? : k.room? with
  | none =>
    have endless : (k.put xs).room? = none := by rw [put, room?, Option.map_none]
    simp [fits_of_room?_eq_none endless] at full
  | some n =>
    have le : xs.size ≤ n := (fits_iff_of_room?_eq_some room? _).1 room
    have left : (k.put xs).room? = some (n - xs.size) := by rw [put, room?, Option.map_some]
    rw [left, Option.getD_some, Option.getD_some, ← put_append, Array.take_eq_extract,
      Array.extract_append, Array.extract_eq_self_of_le le, Nat.zero_sub, Array.take_eq_extract]

end Console

/-! ## Records -/

/-- What a task leaves, and how it ends. -/
structure Record (α : Type) where
  /-- The bytes on standard output. -/
  out : Array UInt8
  /-- The text on standard error. -/
  err : String
  /-- The result, or why there is none. -/
  ending : Except Failure α
deriving DecidableEq

namespace Record

/-- The record with bytes and a text left before. -/
def prepend (bytes : Array UInt8) (text : String) (r : Record α) : Record α :=
  ⟨bytes ++ r.out, text ++ r.err, r.ending⟩

/-- How a task ends that leaves the record on a console. -/
def result (r : Record α) (k : Console) : EStateM.Result Failure Console α :=
  match r.ending with
  | .ok a => .ok a ((k.put r.out).hear r.err)
  | .error e => .error e ((k.put r.out).hear r.err)

theorem result_prepend (bytes : Array UInt8) (text : String) (r : Record α) (k : Console) :
    (r.prepend bytes text).result k = r.result ((k.put bytes).hear text) := by
  cases r with
  | mk out err ending =>
    cases ending <;>
      simp only [result, prepend, Console.put_append, Console.hear_append, Console.put_hear]

end Record

namespace Task

/-- What a task leaves on a console, with what was there before. -/
def recordOn (k : Console) (t : Task α) : Record α :=
  match t k with
  | .ok a k => ⟨k.out, k.err, .ok a⟩
  | .error e k => ⟨k.out, k.err, .error e⟩

/-- What a task leaves if there is no end to the room. -/
def record (t : Task α) : Record α :=
  t.recordOn .endless

/-- The task leaves a record, as far as there is room for its bytes. -/
structure Leaves (t : Task α) (r : Record α) : Prop where
  /-- On a console with room it leaves the whole record. -/
  whole : ∀ k : Console, k.fits r.out.size = true → t k = r.result k
  /-- On any other it writes as many bytes as there is room for, notes a first part of the text,
  and fails. -/
  cut : ∀ k : Console, k.fits r.out.size = false → ∃ noted more, r.err = noted ++ more ∧
    t k = .error (.refused k.reason) ((k.put (r.out.take (k.room?.getD 0))).hear noted)

/-- Nothing is done after a task that fails. -/
theorem bind_eq_error {t : Task α} {k k' : Console} {e : Failure} (fails : t k = .error e k')
    (f : α → Task β) : (t >>= f) k = .error e k' := by
  show EStateM.bind t f k = _
  rw [EStateM.bind, fails]

namespace Leaves

variable {t : Task α} {f : α → Task β}

theorem pure (a : α) : Leaves (Pure.pure a) ⟨#[], "", .ok a⟩ where
  whole k _ := by
    simp only [Record.result, Console.put_empty, Console.hear_empty]
    rfl
  cut k full := by
    simp [Console.fits_zero] at full

theorem throw (e : Failure) : Leaves (MonadExcept.throw e : Task α) ⟨#[], "", .error e⟩ where
  whole k _ := by
    simp only [Record.result, Console.put_empty, Console.hear_empty]
    rfl
  cut k full := by
    simp [Console.fits_zero] at full

theorem write (text : String) : Leaves (Abacus.write text) ⟨Text.encode text, "", .ok ()⟩ where
  whole k room := by
    simp only [Record.result, Console.hear_empty]
    exact write_of_fits room
  cut k full := by
    refine ⟨"", "", rfl, ?_⟩
    rw [Console.hear_empty]
    exact write_of_not_fits full

theorem note (text : String) : Leaves (Abacus.note text) ⟨#[], text, .ok ()⟩ where
  whole k _ := by
    simp only [Record.result, Console.put_empty]
    rfl
  cut k full := by
    simp [Console.fits_zero] at full

/-- A task that fails leaves what it left, and nothing of what would follow. -/
theorem bind_error {bytes : Array UInt8} {text : String} {e : Failure}
    (first : t.Leaves ⟨bytes, text, .error e⟩) (f : α → Task β) :
    Leaves (t >>= f) ⟨bytes, text, .error e⟩ where
  whole k room := bind_eq_error (first.whole k room) f
  cut k full := by
    obtain ⟨noted, more, parts, stops⟩ := first.cut k full
    exact ⟨noted, more, parts, bind_eq_error stops f⟩

/-- A task and what follows it leave their records one after the other.  Room that does not end in
the task has held all of it where it ends in what follows. -/
theorem bind {bytes : Array UInt8} {text : String} {a : α} {r : Record β}
    (first : t.Leaves ⟨bytes, text, .ok a⟩) (second : (f a).Leaves r) :
    Leaves (t >>= f) (r.prepend bytes text) where
  whole k room := by
    obtain ⟨here, there⟩ := (Console.fits_append_iff k bytes r.out).1 room
    show EStateM.bind t f k = _
    rw [EStateM.bind, first.whole k here, Record.result_prepend]
    exact second.whole ((k.put bytes).hear text) there
  cut k full := by
    show ∃ noted more, text ++ r.err = noted ++ more ∧ EStateM.bind t f k =
      .error (.refused k.reason) ((k.put ((bytes ++ r.out).take (k.room?.getD 0))).hear noted)
    cases here : k.fits bytes.size with
    | false =>
      obtain ⟨noted, more, parts, stops⟩ := first.cut k here
      have parts : text = noted ++ more := parts
      refine ⟨noted, more ++ r.err, by rw [parts, String.append_assoc], ?_⟩
      rw [Console.put_take_of_not_fits here]
      exact bind_eq_error stops f
    | true =>
      have there : (k.put bytes).fits r.out.size = false := by
        rw [← Bool.not_eq_true] at full ⊢
        exact fun room => full ((Console.fits_append_iff k bytes r.out).2 ⟨here, room⟩)
      obtain ⟨noted, more, parts, stops⟩ := second.cut ((k.put bytes).hear text) there
      refine ⟨text ++ noted, more, by rw [parts, String.append_assoc], ?_⟩
      rw [EStateM.bind, first.whole k here, Console.put_take_of_fits here there,
        Console.hear_append]
      exact stops

theorem andThen {bytes : Array UInt8} {text : String} {a : α} {u : Task β} {r : Record β}
    (first : t.Leaves ⟨bytes, text, .ok a⟩) (second : u.Leaves r) :
    Leaves (t >>= fun _ => u) (r.prepend bytes text) :=
  first.bind second

/-- A task that tells to go on leaves its record before what is gone on with. -/
theorem goOn {ask : Task Bool} {bytes : Array UInt8} {text : String} {u v : Task β} {r : Record β}
    (first : ask.Leaves ⟨bytes, text, .ok true⟩) (second : u.Leaves r) :
    Leaves (do if ← ask then u else v) (r.prepend bytes text) :=
  first.bind second

/-- A change of the result changes nothing else. -/
theorem map {bytes : Array UInt8} {text : String} {a : α}
    (first : t.Leaves ⟨bytes, text, .ok a⟩) (g : α → β) :
    Leaves (t >>= fun x => Pure.pure (g x)) ⟨bytes, text, .ok (g a)⟩ := by
  have both := first.bind (f := fun x => Pure.pure (g x)) (pure (g a))
  rwa [Record.prepend, Array.append_empty, String.append_empty] at both

/-- A task leaves a record if it is made of tasks that do. -/
theorem exists_bind (first : ∃ r, t.Leaves r) (second : ∀ a, ∃ r, (f a).Leaves r) :
    ∃ r, Leaves (t >>= f) r := by
  obtain ⟨⟨bytes, text, ending⟩, first⟩ := first
  cases ending with
  | error e => exact ⟨_, first.bind_error f⟩
  | ok a =>
    obtain ⟨r, second⟩ := second a
    exact ⟨_, first.bind second⟩

/-- Noting something for each of some things notes one after another. -/
theorem forM_note {ι : Type} (g : ι → String) (xs : List ι) :
    Leaves (xs.forM fun x => Abacus.note (g x)) ⟨#[], String.join (xs.map g), .ok ()⟩ := by
  induction xs with
  | nil => exact pure ()
  | cons x xs ih =>
    have both := (note (g x)).bind (f := fun _ => xs.forM fun x => Abacus.note (g x)) ih
    rw [List.map_cons, String.join_cons]
    exact both

/-! ## Consoles on which nothing was left before -/

variable {r : Record α} {k : Console}

theorem recordOn_of_fits (leaves : t.Leaves r) (out : k.out = #[]) (err : k.err = "")
    (room : k.fits r.out.size = true) : t.recordOn k = r := by
  rw [recordOn, leaves.whole k room]
  cases r with
  | mk bytes text ending =>
    cases ending <;> simp [Record.result, Console.put, Console.hear, out, err]

/-- The record is what the task leaves where there is no end to the room. -/
theorem record_eq (leaves : t.Leaves r) : t.record = r :=
  leaves.recordOn_of_fits rfl rfl rfl

theorem recordOn_of_not_fits (leaves : t.Leaves r) (out : k.out = #[]) (err : k.err = "")
    (full : k.fits r.out.size = false) : ∃ noted more, r.err = noted ++ more ∧
      t.recordOn k = ⟨r.out.take (k.room?.getD 0), noted, .error (.refused k.reason)⟩ := by
  obtain ⟨noted, more, parts, stops⟩ := leaves.cut k full
  refine ⟨noted, more, parts, ?_⟩
  rw [recordOn, stops]
  simp [Console.put, Console.hear, out, err]

end Leaves

end Task

end Abacus
