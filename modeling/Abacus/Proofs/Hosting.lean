import Abacus.Program
import Abacus.Proofs.Streaming

/-!
# The program in memory

A session and a script are recursions, on the input and on the lines.  What the
program runs are the loops of `Host`, which perform task by task and read the input
byte by byte.  In memory they are the same.

*Sessions.*  Reading a line takes it off the input (`readLine_apply`), so the loop
of a session is the recursion on the input by the induction on lines
(`onInput_session`).

*Scripts.*  The loop goes through the lines as the recursion does
(`onInput_runLines`).

`Program.perform_interactive` and `Program.perform_script` say this of the program.
-/

namespace Abacus

namespace InMemory

open Session

variable {α β : Type} {files : String → Program.File} {input : List UInt8}

/-! ## Steps in memory -/

theorem bind_apply (x : InMemory α) (f : α → InMemory β) (input : List UInt8) (k : Console) :
    (x >>= f) input k =
      match x input k with
      | (.ok (a, rest), k) => f a rest k
      | (.error e, k) => (.error e, k) := by
  simp only [bind, StateT.bind, ExceptT.bind, ExceptT.mk, ExceptT.bindCont]
  rcases x input k with ⟨_ | _, k⟩ <;> rfl

theorem tryCatch_apply (x : InMemory α) (f : Failure → InMemory α) (input : List UInt8)
    (k : Console) :
    tryCatch x f input k =
      match x input k with
      | (.ok a, k) => (.ok a, k)
      | (.error e, k) => f e input k := by
  simp only [tryCatch, tryCatchThe, MonadExceptOf.tryCatch, ExceptT.tryCatch, ExceptT.mk, bind,
    StateT.bind]
  rcases x input k with ⟨_ | _, k⟩ <;> rfl

theorem task_apply (t : Task α) (input : List UInt8) (k : Console) :
    (Host.inMemory files).task t input k =
      match t k with
      | .ok a k => (.ok (a, input), k)
      | .error e k => (.error e, k) := rfl

theorem onInput_map (f : α → β) (x : InMemory α) (input : List UInt8) :
    (f <$> x).onInput input = f <$> x.onInput input := by
  funext k
  rw [map_eq_pure_bind, onInput, bind_apply]
  show _ = EStateM.map f (x.onInput input) k
  rw [EStateM.map, onInput]
  rcases x input k with ⟨_ | _, k⟩ <;> rfl

theorem onInput_task_bind (t : Task α) (f : α → InMemory β) (input : List UInt8) :
    ((Host.inMemory files).task t >>= f).onInput input =
      t >>= fun a => (f a).onInput input := by
  funext k
  show _ = EStateM.bind t (fun a => (f a).onInput input) k
  rw [onInput, bind_apply, task_apply, EStateM.bind]
  cases t k <;> rfl

theorem onInput_task (t : Task α) (input : List UInt8) :
    ((Host.inMemory files).task t).onInput input = t := by
  funext k
  rw [onInput, task_apply]
  cases t k <;> rfl

theorem onInput_tryCatch (x : InMemory α) (f : Failure → InMemory α) (input : List UInt8) :
    (tryCatch x f).onInput input =
      tryCatch (x.onInput input) fun e => (f e).onInput input := by
  funext k
  rw [onInput, tryCatch_apply]
  show _ = EStateM.tryCatch (x.onInput input) (fun e => (f e).onInput input) k
  rw [EStateM.tryCatch, onInput]
  rcases x input k with ⟨_ | _, k⟩ <;> rfl

/-! ## Lines of the input -/

/-- A loop in memory goes round once more, or ends. -/
theorem repeatM_apply {γ : Type} [Nonempty β] (f : γ → InMemory (γ ⊕ β)) (c : γ) :
    repeatM f c = f c >>= fun next => next.elim (repeatM f) pure := by
  have : Nonempty Console := ⟨.endless⟩
  rw [repeatM_eq_of_monadTail, repeatM.body]
  congr 1
  funext next
  cases next <;> rfl

theorem readOn_apply (line : Array UInt8) (input : List UInt8) (k : Console) :
    (Host.inMemory files).readOn line input k =
      (.ok (input.head?.elim (.inr line) fun b =>
        if b = 10 then .inr (line.push b) else .inl (line.push b), input.tail), k) := by
  cases input <;> rfl

theorem repeatM_readOn (line : Array UInt8) (input : List UInt8) (k : Console) :
    repeatM (Host.inMemory files).readOn line input k =
      (.ok (line ++ (firstLine input).toArray, afterLine input), k) := by
  induction input generalizing line with
  | nil =>
    rw [repeatM_apply, bind_apply, readOn_apply]
    show (Except.ok (line, []), k) = (.ok (line ++ #[], []), k)
    rw [Array.append_empty]
  | cons b bs ih =>
    rw [repeatM_apply, bind_apply, readOn_apply, firstLine_cons, afterLine_cons]
    by_cases ends : b = 10
    · rw [if_pos ends, if_pos ends]
      simp only [List.head?_cons, Option.elim_some, if_pos ends]
      rfl
    · rw [if_neg ends, if_neg ends]
      simp only [List.head?_cons, Option.elim_some, if_neg ends, Sum.elim_inl, List.tail_cons, ih]
      simp

/-- Reading a line takes it off the input. -/
theorem readLine_apply (input : List UInt8) (k : Console) :
    (Host.inMemory files).readLine input k = (.ok (firstLine input, afterLine input), k) := by
  rw [Host.readLine, map_eq_pure_bind, bind_apply, repeatM_readOn, Array.empty_append]
  rfl

theorem onInput_readLine_bind (f : List UInt8 → InMemory β) (input : List UInt8) :
    ((Host.inMemory files).readLine >>= f).onInput input =
      (f (firstLine input)).onInput (afterLine input) := by
  funext k
  rw [onInput, bind_apply, readLine_apply]
  rfl

/-! ## What the program does -/

/-- A session is a turn, and the session again if it goes on. -/
theorem session_eq (style : Style) :
    (Host.inMemory files).session style = (Host.inMemory files).turn style >>= fun going =>
      if going then (Host.inMemory files).session style else pure () := by
  refine (repeatM_apply _ ()).trans ?_
  rw [bind_assoc]
  congr 1
  funext going
  cases going <;> rfl

/-- A session on the host is the recursion on the input. -/
theorem onInput_session (style : Style) (input : List UInt8) :
    ((Host.inMemory files).session style).onInput input = run style input := by
  induction input using byFirstLine with
  | nil =>
    rw [session_eq, Host.turn, bind_assoc, onInput_task_bind, run]
    congr 1
    funext _
    rw [bind_assoc, onInput_readLine_bind]
    show (((Host.inMemory files).task (write "\n") >>= fun _ => pure false) >>= fun going =>
      if going then (Host.inMemory files).session style else pure ()).onInput [] = write "\n"
    rw [bind_assoc, onInput_task_bind]
    exact bind_pure (write "\n")
  | line input nonempty ih =>
    obtain ⟨b, bs, line⟩ := List.exists_cons_of_ne_nil (firstLine_ne_nil nonempty)
    rw [session_eq, Host.turn, bind_assoc, onInput_task_bind, run_of_ne_nil style nonempty]
    congr 1
    funext _
    rw [bind_assoc, onInput_readLine_bind, line, Host.answer, onInput_task_bind]
    congr 1
    funext going
    cases going with
    | false => rfl
    | true => exact ih

/-- Running a script on the host is the recursion on its lines. -/
theorem onInput_runLines (style : Style) (name : String) (number : Nat) (sources : List String)
    (input : List UInt8) :
    ((Host.inMemory files).runLines style name number sources).onInput input =
      runLines style name number sources := by
  induction sources generalizing number with
  | nil => rfl
  | cons source sources ih =>
    rw [Host.runLines, onInput_task_bind, runLines]
    congr 1
    funext ok
    rw [← map_eq_pure_bind, onInput_map, ih, map_eq_pure_bind]

theorem onInput_runScript (style : Style) (name source : String) (input : List UInt8) :
    ((Host.inMemory files).runScript style name source).onInput input =
      runScript style (some name) source := by
  rw [Host.runScript, onInput_tryCatch, onInput_runLines]
  simp only [onInput_task_bind]
  rfl

end InMemory

namespace Program

open InMemory

variable (files : String → File) (input : List UInt8) (style : Style)

/-- The program runs the script that is found under a name. -/
theorem perform_script (name : String) :
    perform files input (.run (.script name) style) =
      match scriptText name (files name) with
      | .ok source => statusOf <$> runScript style (some name) source
      | .error message => (do note message; pure 1) := by
  show ((pure (files name) : InMemory File) >>= fun file => _).onInput input = _
  rw [pure_bind]
  cases scriptText name (files name) with
  | ok source =>
    show (statusOf <$> (Host.inMemory files).runScript style name source).onInput input = _
    rw [onInput_map, onInput_runScript]
  | error message =>
    show ((Host.inMemory files).task (note message) >>= fun _ => pure 1).onInput input = _
    rw [onInput_task_bind]
    rfl

/-- The program holds a session on its input. -/
theorem perform_interactive :
    perform files input (.run .interactive style) =
      tryCatch (do write banner; Session.run style input; pure 0)
        fun e => (do noteBroken e; pure 0) := by
  rw [perform, performOn, interactive, onInput_tryCatch]
  simp only [onInput_task_bind]
  rw [← map_eq_pure_bind, onInput_map, onInput_session, map_eq_pure_bind]
  rfl

end Program

end Abacus
