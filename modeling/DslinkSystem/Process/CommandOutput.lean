import DslinkSystem.Process.ProcessHandler

/-!
# The output of one command

The handler of `Execute_Command` launches a child, waits for it, and returns what
`getOutput` returns. Waiting is on the child. What the child writes goes into a
pipe, and a reader on another thread moves it from the pipe to the buffer, during
the wait, during `getOutput`, or after both. The readers of children that ended before
may still be at work, and they append to the same buffer.

The value returned is everything the child wrote, and nothing of the child is in the buffer
afterwards, exactly when its pipe is empty and the buffer holds nothing of another child at
the moment `getOutput` takes its bytes: at `data()`, or at the `size()` that is zero. The
buffer is empty for good exactly when every pipe is empty at the last `size()`
(`returns_whole_output_iff`).
-/

set_option autoImplicit false

namespace DslinkSystem

open EventRuns

/-! ## The handler, the child and the readers -/

/-- Where the handler stands, after `process->start(cmd)` launched the child. -/
inductive HandlerPhase where
  /-- Inside `process->wait()`. -/
  | waiting
  /-- Inside `process->getOutput()`. -/
  | draining
  /-- The handler returned the value `output`. -/
  | returned (value : List OutputByte)
  deriving DecidableEq, Repr

/-- An invocation of `Execute_Command`: the child it launched, the buffer, the bytes in the
pipe of each child, all bytes the child wrote, whether it exited, and the handler. A byte in
the buffer is kept with the child that wrote it. -/
structure ExecuteCommand where
  child : ℕ
  buffer : OutputBuffer OutputByte := {}
  pipes : ℕ → List UInt8
  written : List UInt8 := []
  exited : Bool := false
  phase : HandlerPhase := .waiting

/-- What happens in an invocation. -/
inductive ExecuteEvent where
  /-- The child writes a block. -/
  | write (block : List UInt8)
  /-- The child exits. -/
  | exit
  /-- The reader of the child `c` moves bytes from its pipe to the buffer. -/
  | read (c count : ℕ)
  /-- The handler takes its next step. -/
  | handler
  deriving DecidableEq, Repr

/-- Bytes of the child `c`. -/
def bytesOf (c : ℕ) (bytes : List UInt8) : List OutputByte := bytes.map (OutputByte.mk c)

namespace ExecuteCommand

/-- No child runs, the buffer is empty, and the handler launched the child `child`. The readers
of the children that ended before have `earlier` in their pipes. -/
def start (child : ℕ) (earlier : ℕ → List UInt8) : ExecuteCommand where
  child := child
  pipes := Function.update earlier child []

variable (command : ExecuteCommand)

/-- The bytes that are in the pipe of the child. -/
def pipe : List UInt8 := command.pipes command.child

/-- The next step of the handler. `wait()` returns once the child has exited. -/
def handlerStep : ExecuteCommand :=
  match command.phase with
  | .waiting => if command.exited then { command with phase := .draining } else command
  | .draining =>
      let buffer := command.buffer.advance
      if buffer.call = .idle then
        { command with buffer, phase := .returned (buffer.results.getLast?.getD []) }
      else { command with buffer }
  | .returned _ => command

/-- The handling of one event. A child that exited writes nothing. -/
def handle : ExecuteEvent → ExecuteCommand
  | .write block =>
      if command.exited then command
      else { command with
        pipes := Function.update command.pipes command.child (command.pipe ++ block)
        written := command.written ++ block }
  | .exit => { command with exited := true }
  | .read c count =>
      { command with
        buffer := command.buffer.append (bytesOf c ((command.pipes c).take count))
        pipes := Function.update command.pipes c ((command.pipes c).drop count) }
  | .handler => command.handlerStep

end ExecuteCommand

/-- The machine of an invocation. -/
def executeMachine : Machine ExecuteCommand ExecuteEvent :=
  fun command event => some (command.handle event)

/-! ## The bytes of one child -/

/-- The bytes of the child `c` among those in the buffer. -/
def byChild (c : ℕ) (bytes : List OutputByte) : List OutputByte := bytes.filter (·.child = c)

@[simp] theorem byChild_nil (c : ℕ) : byChild c [] = [] := rfl

@[simp] theorem byChild_append (c : ℕ) (first second : List OutputByte) :
    byChild c (first ++ second) = byChild c first ++ byChild c second :=
  List.filter_append ..

theorem bytesOf_append (c : ℕ) (first second : List UInt8) :
    bytesOf c (first ++ second) = bytesOf c first ++ bytesOf c second :=
  List.map_append

@[simp] theorem bytesOf_eq_nil_iff {c : ℕ} {bytes : List UInt8} :
    bytesOf c bytes = [] ↔ bytes = [] :=
  List.map_eq_nil_iff

@[simp] theorem byChild_bytesOf_self (c : ℕ) (bytes : List UInt8) :
    byChild c (bytesOf c bytes) = bytesOf c bytes := by
  simp [byChild, bytesOf]

theorem byChild_bytesOf_of_ne {c d : ℕ} (other : d ≠ c) (bytes : List UInt8) :
    byChild c (bytesOf d bytes) = [] := by
  simp [byChild, bytesOf, other]

theorem byChild_eq_self_iff {c : ℕ} {bytes : List OutputByte} :
    byChild c bytes = bytes ↔ ∀ b ∈ bytes, b.child = c := by
  simp [byChild, List.filter_eq_self]

theorem byChild_eq_nil_iff {c : ℕ} {bytes : List OutputByte} :
    byChild c bytes = [] ↔ ∀ b ∈ bytes, b.child ≠ c := by
  simp [byChild, List.filter_eq_nil_iff]

namespace ExecuteCommand

variable {command : ExecuteCommand}

/-! ## What the handler has taken -/

/-- Everything the child wrote. -/
def whole (command : ExecuteCommand) : List OutputByte := bytesOf command.child command.written

/-- The bytes that the handler will return, from the moment it has taken them. -/
def taken (command : ExecuteCommand) : Option (List OutputByte) :=
  match command.phase with
  | .waiting => none
  | .returned value => some value
  | .draining =>
      match command.buffer.call with
      | .idle | .sized => none
      | .data result | .copied result | .measured result _ => some result

/-- The next step of the handler takes the bytes of the buffer. -/
def takes (command : ExecuteCommand) : Prop :=
  command.phase = .draining ∧
    (command.buffer.call = .sized ∨ command.buffer.call = .idle ∧ command.buffer.output = [])

/-- What the buffer holds that the call in progress will not consume any more, from the moment
it has asked how much to consume. -/
def leftover (command : ExecuteCommand) : Option (List OutputByte) :=
  match command.phase with
  | .returned _ => some command.buffer.output
  | .draining =>
      match command.buffer.call with
      | .measured _ size => some (command.buffer.output.drop size)
      | _ => none
  | .waiting => none

/-- What holds of the invocation after every run. -/
structure Accounted (command : ExecuteCommand) : Prop where
  fresh : command.buffer.Fresh
  waiting : command.phase = .waiting → command.buffer.call = .idle
  exited : command.phase ≠ .waiting → command.exited = true
  untaken : command.taken = none →
    byChild command.child command.buffer.output ++ bytesOf command.child command.pipe =
      command.whole
  whole : command.taken = some command.whole → command.pipe = [] ∧
    ∀ bytes, command.leftover = some bytes → byChild command.child bytes = []

theorem accounted_start (child : ℕ) (earlier : ℕ → List UInt8) :
    Accounted (start child earlier) where
  fresh := OutputBuffer.fresh_new
  waiting _ := rfl
  exited other := absurd rfl other
  untaken _ := by simp [start, pipe, whole]
  whole taken := by cases taken

theorem Accounted.exited_of_taken (accounted : Accounted command) {result : List OutputByte}
    (taken : command.taken = some result) : command.exited = true := by
  apply accounted.exited
  intro waiting
  simp [ExecuteCommand.taken, waiting] at taken

/-- The child and the readers do not change what the handler has taken. -/
theorem taken_handle_of_ne {event : ExecuteEvent} (other : event ≠ .handler) :
    (command.handle event).taken = command.taken := by
  cases event with
  | handler => exact absurd rfl other
  | exit => rfl
  | read c count => rfl
  | write block =>
      simp only [handle]
      split <;> rfl

/-- The handler takes the bytes of the buffer once. -/
theorem taken_handlerStep (accounted : Accounted command) :
    (command.takes → command.handlerStep.taken = some command.buffer.output) ∧
      (¬ command.takes → command.handlerStep.taken = command.taken) := by
  obtain ⟨child, ⟨output, call, results⟩, pipes, written, exited, phase⟩ := command
  cases phase with
  | waiting =>
      have idle : call = .idle := accounted.waiting rfl
      subst idle
      cases exited <;> simp [takes, handlerStep, taken]
  | returned value => simp [takes, handlerStep, taken]
  | draining =>
      cases call with
      | idle =>
          by_cases empty : output = []
          · subst empty
            simp [takes, handlerStep, OutputBuffer.advance, taken]
          · simp [takes, handlerStep, OutputBuffer.advance, taken, empty]
      | sized => simp [takes, handlerStep, OutputBuffer.advance, taken]
      | data bufs =>
          have within : bufs.length ≤ output.length := accounted.fresh
          simp [takes, handlerStep, OutputBuffer.advance, taken, List.take_of_length_le within]
      | copied result => simp [takes, handlerStep, OutputBuffer.advance, taken]
      | measured result size => simp [takes, handlerStep, OutputBuffer.advance, taken]

/-- The handler touches neither the child nor the pipes. -/
theorem handlerStep_frame (command : ExecuteCommand) :
    command.handlerStep.child = command.child ∧ command.handlerStep.pipes = command.pipes ∧
      command.handlerStep.written = command.written := by
  unfold handlerStep
  split
  · split <;> exact ⟨rfl, rfl, rfl⟩
  · simp only
    split <;> exact ⟨rfl, rfl, rfl⟩
  · exact ⟨rfl, rfl, rfl⟩

theorem child_handle (event : ExecuteEvent) : (command.handle event).child = command.child := by
  cases event with
  | handler => exact (handlerStep_frame command).1
  | exit => rfl
  | read c count => rfl
  | write block =>
      simp only [handle]
      split <;> rfl

/-- Bytes that were all taken leave nothing of the child in the pipe. -/
theorem pipe_eq_nil_of_output {child : ℕ} {output : List OutputByte} {written pipe : List UInt8}
    (all : byChild child output ++ bytesOf child pipe = bytesOf child written)
    (took : output = bytesOf child written) : pipe = [] := by
  rw [took, byChild_bytesOf_self] at all
  have none_left : bytesOf child pipe = [] := by
    rw [← List.append_cancel_left_eq (bytesOf child written), all, List.append_nil]
  exact bytesOf_eq_nil_iff.mp none_left

/-- The account of a handler inside `process->getOutput()`. -/
theorem Accounted.of_draining {child : ℕ} {buffer : OutputBuffer OutputByte}
    {pipes : ℕ → List UInt8} {written : List UInt8} (fresh : buffer.Fresh)
    (untaken : taken ⟨child, buffer, pipes, written, true, .draining⟩ = none →
      byChild child buffer.output ++ bytesOf child (pipes child) = bytesOf child written)
    (whole : taken ⟨child, buffer, pipes, written, true, .draining⟩ =
        some (bytesOf child written) → pipes child = [] ∧
      ∀ bytes, leftover ⟨child, buffer, pipes, written, true, .draining⟩ = some bytes →
        byChild child bytes = []) :
    Accounted ⟨child, buffer, pipes, written, true, .draining⟩ where
  fresh := fresh
  waiting other := by cases other
  exited _ := rfl
  untaken := untaken
  whole := whole

/-- The account of a handler that returned. -/
theorem Accounted.of_returned {child : ℕ} {output value : List OutputByte}
    {results : List (List OutputByte)} {pipes : ℕ → List UInt8} {written : List UInt8}
    (whole : value = bytesOf child written → pipes child = [] ∧ byChild child output = []) :
    Accounted ⟨child, ⟨output, .idle, results⟩, pipes, written, true, .returned value⟩ where
  fresh := trivial
  waiting _ := rfl
  exited _ := rfl
  untaken none_taken := by cases none_taken
  whole took := by
    obtain ⟨none_left, empty⟩ := whole (Option.some.inj took)
    refine ⟨none_left, fun bytes left => ?_⟩
    exact Option.some.inj left ▸ empty

/-- What the handler takes is everything when the pipe is empty and all bytes are the child's. -/
theorem Accounted.handlerStep (accounted : Accounted command) : Accounted command.handlerStep := by
  obtain ⟨child, ⟨output, call, results⟩, pipes, written, exited, phase⟩ := command
  cases phase with
  | waiting =>
      cases exited with
      | false => exact accounted
      | true =>
          have idle : call = .idle := accounted.waiting rfl
          subst idle
          exact .of_draining trivial (fun _ => accounted.untaken rfl) fun took => by cases took
  | returned value => exact accounted
  | draining =>
      have gone : exited = true := accounted.exited HandlerPhase.noConfusion
      subst gone
      cases call with
      | idle =>
          have all := accounted.untaken rfl
          by_cases empty : output = []
          · subst empty
            have next : ExecuteCommand.handlerStep ⟨child, ⟨[], .idle, results⟩, pipes, written,
                true, .draining⟩ = ⟨child, ⟨[], .idle, results ++ [[]]⟩, pipes, written, true,
                  .returned []⟩ := by
              simp [ExecuteCommand.handlerStep, OutputBuffer.advance]
            rw [next]
            exact .of_returned fun nothing => ⟨pipe_eq_nil_of_output all nothing, rfl⟩
          · have next : ExecuteCommand.handlerStep ⟨child, ⟨output, .idle, results⟩, pipes,
                written, true, .draining⟩ = ⟨child, ⟨output, .sized, results⟩, pipes, written, true,
                  .draining⟩ := by
              simp [ExecuteCommand.handlerStep, OutputBuffer.advance, empty]
            rw [next]
            exact .of_draining trivial (fun _ => all) fun took => by cases took
      | sized =>
          refine .of_draining (Nat.le_refl output.length) (fun untaken => by cases untaken)
            fun took => ⟨?_, fun bytes left => by cases left⟩
          exact pipe_eq_nil_of_output (accounted.untaken rfl) (Option.some.inj took)
      | data bufs =>
          have within : bufs.length ≤ output.length := accounted.fresh
          refine .of_draining trivial (fun untaken => by cases untaken)
            fun took => ⟨?_, fun bytes left => by cases left⟩
          have all : bufs.take output.length = bytesOf child written := Option.some.inj took
          rw [List.take_of_length_le within] at all
          exact (accounted.whole (congrArg some all)).1
      | copied result =>
          refine .of_draining (Nat.le_refl output.length) (fun untaken => by cases untaken)
            fun took => ⟨(accounted.whole took).1, fun bytes left => ?_⟩
          have nothing : output.drop output.length = bytes := Option.some.inj left
          rw [← nothing, List.drop_length, byChild_nil]
      | measured result size =>
          have next : ExecuteCommand.handlerStep ⟨child, ⟨output, .measured result size, results⟩,
              pipes, written, true, .draining⟩ = ⟨child, ⟨output.drop size, .idle,
                results ++ [result]⟩, pipes, written, true, .returned result⟩ := by
            simp [ExecuteCommand.handlerStep, OutputBuffer.advance]
          rw [next]
          refine .of_returned fun took => ?_
          obtain ⟨none_left, short⟩ := accounted.whole (congrArg some took)
          exact ⟨none_left, short _ rfl⟩

/-- What a reader adds is left over, once the call has asked how much to consume. -/
theorem leftover_read (fresh : command.buffer.Fresh) (c count : ℕ) :
    (command.handle (.read c count)).leftover =
      command.leftover.map (· ++ bytesOf c ((command.pipes c).take count)) := by
  obtain ⟨child, ⟨output, call, results⟩, pipes, written, exited, phase⟩ := command
  cases phase with
  | waiting => rfl
  | returned value => rfl
  | draining =>
      cases call with
      | measured result size =>
          have within : size ≤ output.length := fresh
          simp [leftover, handle, OutputBuffer.append, List.drop_append_of_le_length within]
      | _ => rfl

/-- The child and the readers keep the account. -/
theorem Accounted.handle (accounted : Accounted command) (event : ExecuteEvent) :
    Accounted (command.handle event) := by
  cases event with
  | handler => exact accounted.handlerStep
  | exit =>
      exact ⟨accounted.fresh, accounted.waiting, fun _ => rfl, accounted.untaken, accounted.whole⟩
  | write block =>
      simp only [ExecuteCommand.handle]
      split
      · exact accounted
      · next running =>
          -- a child that runs finds the handler waiting
          have waiting : command.phase = .waiting := by
            by_contra other
            exact running (accounted.exited other)
          have untaken : command.taken = none := by simp [taken, waiting]
          refine ⟨accounted.fresh, accounted.waiting, accounted.exited, fun _ => ?_,
            fun took => ?_⟩
          · have all := accounted.untaken untaken
            simp only [pipe, ExecuteCommand.whole] at all ⊢
            rw [Function.update_self, bytesOf_append, bytesOf_append, ← all, List.append_assoc]
          · cases untaken.symm.trans took
  | read c count =>
      refine ⟨OutputBuffer.fresh_handle accounted.fresh (.append _), accounted.waiting,
        accounted.exited, fun untaken => ?_, fun took => ?_⟩
      · have all := accounted.untaken untaken
        simp only [pipe, ExecuteCommand.whole, ExecuteCommand.handle, OutputBuffer.append,
          byChild_append] at all ⊢
        by_cases here : c = command.child
        · subst here
          rw [Function.update_self, byChild_bytesOf_self, List.append_assoc, ← bytesOf_append,
            List.take_append_drop]
          exact all
        · rw [Function.update_of_ne (Ne.symm here), byChild_bytesOf_of_ne here, List.append_nil]
          exact all
      · obtain ⟨none_left, short⟩ := accounted.whole took
        have none_after : (command.handle (.read c count)).pipe = [] := by
          simp only [pipe, ExecuteCommand.handle] at none_left ⊢
          by_cases here : c = command.child
          · subst here
            rw [Function.update_self, none_left, List.drop_nil]
          · rw [Function.update_of_ne (Ne.symm here), none_left]
        refine ⟨none_after, fun bytes left => ?_⟩
        rw [leftover_read accounted.fresh, Option.map_eq_some_iff] at left
        obtain ⟨before, left, rfl⟩ := left
        change byChild command.child _ = []
        rw [byChild_append, short before left, List.nil_append]
        by_cases here : c = command.child
        · subst here
          have nothing : command.pipes command.child = [] := none_left
          simp [nothing, bytesOf]
        · exact byChild_bytesOf_of_ne here _

/-! ## Cutting the output short -/

/-- The handler has taken something else than what the child wrote. -/
def Short (command : ExecuteCommand) : Prop :=
  ∃ result, command.taken = some result ∧ result ≠ command.whole

/-- When the handler takes the bytes of the buffer, the reader has moved everything the child
wrote there, and no other reader has moved anything. -/
def readsFirst (command : ExecuteCommand) (event : ExecuteEvent) : Prop :=
  event = .handler → command.takes →
    command.pipe = [] ∧ ∀ b ∈ command.buffer.output, b.child = command.child

theorem short_of_taken_eq {after : ExecuteCommand} (taken : after.taken = command.taken)
    (whole : command.taken ≠ none → after.whole = command.whole) :
    Short after ↔ Short command := by
  unfold Short
  rw [taken]
  constructor
  · rintro ⟨result, took, other⟩
    exact ⟨result, took, whole (by simp [took]) ▸ other⟩
  · rintro ⟨result, took, other⟩
    exact ⟨result, took, (whole (by simp [took])).symm ▸ other⟩

/-- The bytes of the buffer are all that the child wrote exactly when its pipe is empty and
they are all its own. -/
theorem output_eq_whole_iff (accounted : Accounted command) (untaken : command.taken = none) :
    command.buffer.output = command.whole ↔
      command.pipe = [] ∧ ∀ b ∈ command.buffer.output, b.child = command.child := by
  have all := accounted.untaken untaken
  constructor
  · intro took
    refine ⟨pipe_eq_nil_of_output all took, byChild_eq_self_iff.mp ?_⟩
    rw [took]
    exact byChild_bytesOf_self _ _
  · rintro ⟨none_left, own⟩
    rwa [byChild_eq_self_iff.mpr own, none_left, bytesOf_eq_nil_iff.mpr rfl,
      List.append_nil] at all

/-- The output is cut short, or mixed, by the step that takes the bytes too early, and
stays so. -/
theorem short_handle (accounted : Accounted command) (event : ExecuteEvent) :
    Short (command.handle event) ↔ Short command ∨ ¬ readsFirst command event := by
  by_cases other : event = .handler
  · subst other
    obtain ⟨takes, keeps⟩ := taken_handlerStep accounted
    have same : (command.handle .handler).whole = command.whole := by
      obtain ⟨child, -, written⟩ := handlerStep_frame command
      simp only [whole, handle, child, written]
    by_cases now : command.takes
    · have untaken : command.taken = none := by
        obtain ⟨draining, sized | ⟨idle, -⟩⟩ := now
        · simp [taken, draining, sized]
        · simp [taken, draining, idle]
      have before : ¬ Short command := by
        rintro ⟨result, took, -⟩
        cases untaken.symm.trans took
      have result : (command.handle .handler).taken = some command.buffer.output := takes now
      have first : Short (command.handle .handler) ↔ command.buffer.output ≠ command.whole := by
        simp [Short, result, same]
      rw [first, or_iff_right before, readsFirst, ne_eq, output_eq_whole_iff accounted untaken]
      simp [now]
    · have kept : Short (command.handle .handler) ↔ Short command :=
        short_of_taken_eq (keeps now) fun _ => same
      rw [kept]
      simp [readsFirst, now]
  · rw [short_of_taken_eq (taken_handle_of_ne other)]
    · simp [readsFirst, other]
    · intro took
      obtain ⟨result, took⟩ := Option.ne_none_iff_exists'.mp took
      have gone := accounted.exited_of_taken took
      cases event with
      | write block => simp [ExecuteCommand.handle, gone]
      | handler => exact absurd rfl other
      | exit => rfl
      | read c count => rfl

/-! ## Leaving something behind -/

/-- The next step of the handler asks how much to consume, or finds nothing. -/
def measures (command : ExecuteCommand) : Prop :=
  command.phase = .draining ∧ ((∃ result, command.buffer.call = .copied result) ∨
    command.buffer.call = .idle ∧ command.buffer.output = [])

/-- When the handler asks how much to consume, the readers have moved everything. -/
def readsAll (command : ExecuteCommand) (event : ExecuteEvent) : Prop :=
  event = .handler → command.measures → ∀ c, command.pipes c = []

/-- Something is left, in the buffer or in a pipe, that the call does not consume. -/
def Leaves (command : ExecuteCommand) : Prop :=
  ∃ bytes, command.leftover = some bytes ∧ (bytes ≠ [] ∨ ∃ c, command.pipes c ≠ [])

/-- Moving bytes from a pipe to what is left keeps something left. -/
theorem leaves_move {bytes : List OutputByte} (pipes : ℕ → List UInt8) (c count : ℕ) :
    (bytes ++ bytesOf c ((pipes c).take count) ≠ [] ∨
        ∃ d, Function.update pipes c ((pipes c).drop count) d ≠ []) ↔
      (bytes ≠ [] ∨ ∃ d, pipes d ≠ []) := by
  rw [← not_iff_not]
  simp only [not_or, not_exists, not_not, ne_eq, List.append_eq_nil_iff, bytesOf_eq_nil_iff]
  constructor
  · rintro ⟨⟨empty, moved⟩, rest⟩
    refine ⟨empty, fun d => ?_⟩
    by_cases here : d = c
    · subst here
      have kept := rest d
      rw [Function.update_self] at kept
      rw [← List.take_append_drop count (pipes d), moved, kept, List.append_nil]
    · have kept := rest d
      rwa [Function.update_of_ne here] at kept
  · rintro ⟨empty, none_left⟩
    refine ⟨⟨empty, by rw [none_left, List.take_nil]⟩, fun d => ?_⟩
    by_cases here : d = c
    · subst here
      rw [Function.update_self, none_left, List.drop_nil]
    · rw [Function.update_of_ne here, none_left]

theorem leaves_handlerStep (accounted : Accounted command) :
    Leaves command.handlerStep ↔ Leaves command ∨ ¬ readsAll command .handler := by
  obtain ⟨child, ⟨output, call, results⟩, pipes, written, exited, phase⟩ := command
  cases phase with
  | waiting =>
      have idle : call = .idle := accounted.waiting rfl
      subst idle
      cases exited <;> simp [Leaves, leftover, handlerStep, readsAll, measures]
  | returned value => simp [handlerStep, readsAll, measures]
  | draining =>
      cases call with
      | idle =>
          by_cases empty : output = []
          · subst empty
            simp [Leaves, leftover, handlerStep, OutputBuffer.advance, readsAll, measures]
          · simp [Leaves, leftover, handlerStep, OutputBuffer.advance, readsAll, measures, empty]
      | sized => simp [Leaves, leftover, handlerStep, OutputBuffer.advance, readsAll, measures]
      | data bufs => simp [Leaves, leftover, handlerStep, OutputBuffer.advance, readsAll, measures]
      | copied result =>
          simp [Leaves, leftover, handlerStep, OutputBuffer.advance, readsAll, measures]
      | measured result size =>
          simp [Leaves, leftover, handlerStep, OutputBuffer.advance, readsAll, measures]

/-- Something is left behind by the step that asks too early how much to consume. -/
theorem leaves_handle (accounted : Accounted command) (event : ExecuteEvent) :
    Leaves (command.handle event) ↔ Leaves command ∨ ¬ readsAll command event := by
  cases event with
  | handler => exact leaves_handlerStep accounted
  | exit =>
      have same : Leaves (command.handle .exit) ↔ Leaves command := Iff.rfl
      simp [same, readsAll]
  | write block =>
      have same : Leaves (command.handle (.write block)) ↔ Leaves command := by
        by_cases gone : command.exited = true
        · simp [ExecuteCommand.handle, gone]
        · have waiting : command.phase = .waiting := by
            by_contra other
            exact gone (accounted.exited other)
          simp [Leaves, leftover, ExecuteCommand.handle, gone, waiting]
      simp [same, readsAll]
  | read c count =>
      have same : Leaves (command.handle (.read c count)) ↔ Leaves command := by
        unfold Leaves
        rw [leftover_read accounted.fresh]
        cases command.leftover with
        | none => simp
        | some bytes =>
            simp only [Option.map_some, Option.some.injEq, exists_eq_left']
            exact leaves_move command.pipes c count
      simp [same, readsAll]

/-! ## The value returned -/

variable {child : ℕ} {earlier : ℕ → List UInt8} {events : List ExecuteEvent}

/-- No byte of the child is in the buffer, now or later. -/
def NothingFollows (command : ExecuteCommand) : Prop :=
  ∀ later after, run executeMachine command later = some after →
    ∀ b ∈ after.buffer.output, b.child ≠ command.child

/-- The buffer is empty, now and later. -/
def EmptyForGood (command : ExecuteCommand) : Prop :=
  ∀ later after, run executeMachine command later = some after → after.buffer.output = []

/-- What is kept of a handler that returned, of a child that exited. -/
theorem returned_handle {value : List OutputByte} (returned : command.phase = .returned value)
    (gone : command.exited = true) (event : ExecuteEvent) :
    (command.handle event).phase = .returned value ∧ (command.handle event).exited = true ∧
      (command.handle event = command ∨ ∃ c count, event = .read c count) := by
  cases event with
  | write block => simp [handle, returned, gone]
  | exit => exact ⟨returned, rfl, .inl (by simp [handle, ← gone])⟩
  | read c count => exact ⟨returned, gone, .inr ⟨c, count, rfl⟩⟩
  | handler => simp [handle, handlerStep, returned, gone]

/-- When the handler returned everything, nothing of the child is appended any more. -/
theorem nothingFollows_of_whole {value : List OutputByte} (accounted : Accounted command)
    (returned : command.phase = .returned value) (all : value = command.whole) :
    NothingFollows command := by
  intro later after reached
  have keeps : ∀ (middle : ExecuteCommand) (event : ExecuteEvent) (after : ExecuteCommand),
      (Accounted middle ∧ middle.phase = .returned value ∧ value = middle.whole ∧
        middle.child = command.child) → executeMachine middle event = some after →
      (Accounted after ∧ after.phase = .returned value ∧ value = after.whole ∧
        after.child = command.child) := by
    rintro middle event after ⟨accounted, returned, all, same⟩ step
    obtain rfl := Option.some.inj step
    have took : middle.taken = some value := by simp [taken, returned]
    obtain ⟨returned', -, kept⟩ :=
      returned_handle returned (accounted.exited_of_taken took) event
    refine ⟨accounted.handle event, returned', ?_, (child_handle event).trans same⟩
    obtain kept | ⟨c, count, rfl⟩ := kept
    · rw [kept]
      exact all
    · exact all
  obtain ⟨accounted', returned', all', same⟩ :=
    run_keeps keeps ⟨accounted, returned, all, rfl⟩ reached
  have took : after.taken = some after.whole := by simp [taken, returned', ← all']
  have left : after.leftover = some after.buffer.output := by simp [leftover, returned']
  rw [← same]
  exact byChild_eq_nil_iff.mp ((accounted'.whole took).2 _ left)

/-- The buffer stays empty exactly when nothing is left in it or in a pipe. -/
theorem emptyForGood_iff {value : List OutputByte} (accounted : Accounted command)
    (returned : command.phase = .returned value) : EmptyForGood command ↔ ¬ Leaves command := by
  have left : ∀ {command : ExecuteCommand}, command.phase = .returned value →
      (Leaves command ↔ command.buffer.output ≠ [] ∨ ∃ c, command.pipes c ≠ []) := by
    intro command returned
    simp [Leaves, leftover, returned]
  constructor
  · intro empty leaves
    rcases (left returned).mp leaves with now | ⟨c, waits⟩
    · exact now (empty [] command rfl)
    · have moved := empty [.read c (command.pipes c).length] _ rfl
      simp only [handle, OutputBuffer.append, List.append_eq_nil_iff, bytesOf_eq_nil_iff,
        List.take_length] at moved
      exact waits moved.2
  · intro nothing later after reached
    have keeps : ∀ (middle : ExecuteCommand) (event : ExecuteEvent) (after : ExecuteCommand),
        (Accounted middle ∧ middle.phase = .returned value ∧ ¬ Leaves middle) →
        executeMachine middle event = some after →
        (Accounted after ∧ after.phase = .returned value ∧ ¬ Leaves after) := by
      rintro middle event after ⟨accounted, returned, nothing⟩ step
      obtain rfl := Option.some.inj step
      have took : middle.taken = some value := by simp [taken, returned]
      have gone := accounted.exited_of_taken took
      refine ⟨accounted.handle event, (returned_handle returned gone event).1, ?_⟩
      rw [leaves_handle accounted, or_iff_right nothing, not_not]
      rintro - ⟨draining, -⟩
      rw [returned] at draining
      cases draining
    obtain ⟨-, returned', nothing'⟩ := run_keeps keeps ⟨accounted, returned, nothing⟩ reached
    by_contra full
    exact nothing' ((left returned').mpr (.inl full))

/-- **When the whole output is returned.** Take a run from any state without a running child and
with an empty buffer in which the handler returned. Its value is everything the child wrote, and
nothing of the child is in the buffer from then on, exactly when the child's pipe was empty and
the buffer held nothing of another child as the handler took the bytes of the buffer. The buffer
is also empty for good exactly when, besides, every pipe was empty as the handler asked how much
to consume. -/
theorem returns_whole_output_iff {value : List OutputByte}
    (reached : run executeMachine (start child earlier) events = some command)
    (returned : command.phase = .returned value) :
    (value = command.whole ∧ NothingFollows command ↔
      EachStep executeMachine (start child earlier) events readsFirst) ∧
    (value = command.whole ∧ EmptyForGood command ↔
      EachStep executeMachine (start child earlier) events readsFirst ∧
        EachStep executeMachine (start child earlier) events readsAll) := by
  have keeps : ∀ command event after, Accounted command →
      executeMachine command event = some after → Accounted after :=
    fun _ event _ accounted step => Option.some.inj step ▸ accounted.handle event
  have accounted := run_keeps keeps (accounted_start child earlier) reached
  have whole_iff : value = command.whole ↔
      EachStep executeMachine (start child earlier) events readsFirst := by
    have initially : ¬ Short (start child earlier) := by
      rintro ⟨result, took, -⟩
      cases took
    have short : Short command ↔ ¬ EachStep executeMachine (start child earlier) events readsFirst :=
      mark_iff_not_eachStep Accounted keeps
        (fun _ event _ accounted step => Option.some.inj step ▸ short_handle accounted event)
        (accounted_start child earlier) initially reached
    have took : command.taken = some value := by simp [taken, returned]
    simp only [Short, took, Option.some.injEq, exists_eq_left'] at short
    exact not_iff_not.mp short
  have empty_iff : EmptyForGood command ↔
      EachStep executeMachine (start child earlier) events readsAll := by
    have initially : ¬ Leaves (start child earlier) := by
      rintro ⟨bytes, left, -⟩
      cases left
    have leaves : Leaves command ↔ ¬ EachStep executeMachine (start child earlier) events readsAll :=
      mark_iff_not_eachStep Accounted keeps
        (fun _ event _ accounted step => Option.some.inj step ▸ leaves_handle accounted event)
        (accounted_start child earlier) initially reached
    rw [emptyForGood_iff accounted returned, leaves, not_not]
  rw [← whole_iff, ← empty_iff]
  exact ⟨and_iff_left_of_imp (nothingFollows_of_whole accounted returned), Iff.rfl⟩

/-- The reader moves the second block between `size()` and `data()`, and the reader of an
earlier child moves its byte after the handler returned. -/
theorem returns_whole_output_late_block :
    let earlier : ℕ → List UInt8 := fun c => if c = 0 then [9] else []
    let events : List ExecuteEvent := [.write [1], .write [2], .read 1 1, .exit, .handler,
      .handler, .read 1 1, .handler, .handler, .handler, .handler, .read 0 1]
    ∃ command value, run executeMachine (start 1 earlier) events = some command ∧
      command.phase = .returned value ∧ value = bytesOf 1 [1, 2] ∧
      (value = command.whole ∧ NothingFollows command ↔
        EachStep executeMachine (start 1 earlier) events readsFirst) :=
  ⟨_, _, rfl, rfl, rfl, (returns_whole_output_iff rfl rfl).1⟩

/-- A child that exits before the reader has moved its block: the handler returns
nothing. -/
theorem returns_before_the_reader :
    ¬ ∀ (child : ℕ) (earlier : ℕ → List UInt8) (events : List ExecuteEvent)
      (command : ExecuteCommand) (value : List OutputByte),
      run executeMachine (start child earlier) events = some command →
        command.phase = .returned value → value = command.whole ∧ NothingFollows command := by
  intro every
  obtain ⟨whole, -⟩ := every 0 (fun _ => []) [.write [1], .exit, .handler, .handler] _ [] rfl rfl
  cases whole

end ExecuteCommand

end DslinkSystem
