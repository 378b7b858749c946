import DslinkSystem.Commands.CommandSide

/-!
# What a step of the command side does

`CommandStep` lists everything one event can do, with the condition under which it
does it. Every step of `commandMachine` is one of these (`commandStep_of_machine`),
and the invariants of the command side are proved over this list.

The first of them is `Numbered`: launchers of children and owners of timers are
invocations made so far, and the bytes in the buffer were written by children
launched so far.
-/

set_option autoImplicit false

namespace DslinkSystem

open EventRuns TimerSlots

namespace CommandSide

variable (side : CommandSide)

/-! ## The states after a step -/

/-- A closed stream, with the child terminated. -/
def closed (stream : ℕ) : CommandSide :=
  { side with
    invocations := side.invocations.set stream (.stream true)
    process := side.process.terminate }

/-- The output was taken and delivered by an invocation. -/
def drained (invocation : ℕ) : CommandSide :=
  { side with process := { side.process with output := [] } }.deliver invocation side.process.output

variable {side}

theorem isOpen_iff {stream : ℕ} :
    side.isOpen stream = true ↔ side.invocations[stream]? = some (.stream false) := by
  simp [isOpen]

theorem isDestroyed_iff {stream : ℕ} :
    side.isDestroyed stream = true ↔ side.invocations[stream]? = some (.stream true) := by
  simp [isDestroyed]

/-- The handler that is called as a stream closes. -/
theorem closeStream_of_isOpen {stream : ℕ} (opened : side.isOpen stream = true) :
    side.closeStream stream =
      match side.commandTimer.destroy with
      | none => .stopped (side.closed stream)
      | some commandTimer => .returned { side.closed stream with commandTimer } := by
  have within : stream < side.invocations.length := by
    obtain ⟨within, -⟩ := List.getElem?_eq_some_iff.mp (isOpen_iff.mp opened)
    exact within
  have destroyed : ({ side with invocations := side.invocations.set stream (.stream true) } :
      CommandSide).isDestroyed stream = true := by
    simp [isDestroyed, within]
  rw [closeStream, if_pos opened, executeStreamCommand, destroyed]
  rfl

theorem onStrand_cases {handled : Handled CommandSide} {after : CommandSide}
    (step : (side.onStrand handled).next = some after) :
    (side.waiting ≠ none ∧ after = side) ∨ (side.waiting = none ∧ handled.next = some after) := by
  unfold onStrand at step
  split at step
  · next free => exact .inr ⟨free, step⟩
  · next busy => exact .inl ⟨busy, (Option.some.inj step).symm⟩

end CommandSide

/-! ## The steps -/

/-- Everything an event can do to the command side. -/
inductive CommandStep (side : CommandSide) : CommandEvent → CommandSide → Prop where
  /-- A handler keeps the strand. -/
  | busy {event : CommandEvent} (waits : side.waiting ≠ none) : CommandStep side event side
  /-- An invocation of `Execute_Command` without a command. -/
  | refused {v : Var} {launches : Bool} (free : side.waiting = none) (given : v.cmdString = none) :
      CommandStep side (.executeCommand v launches)
        ((side.invoked .command).deliver side.invocations.length [])
  /-- An invocation of `Execute_Command` whose child cannot be launched. -/
  | failed {v : Var} {launches : Bool} {cmd : String} (free : side.waiting = none)
      (given : v.cmdString = some cmd) (idle : side.process.running = false)
      (fails : launches = false) :
      CommandStep side (.executeCommand v launches) (side.invoked .command)
  /-- An invocation of `Execute_Command`, up to the wait. -/
  | executed {v : Var} {launches : Bool} {cmd : String} {process : ProcessHandler}
      (free : side.waiting = none) (given : v.cmdString = some cmd)
      (started : side.process.start side.invocations.length cmd launches = .returned process) :
      CommandStep side (.executeCommand v launches)
        { side.invoked .command with process, waiting := some side.invocations.length }
  /-- An invocation of `Execute_Stream_Command` without a command. -/
  | refusedStream {v : Var} {launches : Bool} (free : side.waiting = none)
      (given : v.cmdString = none) :
      CommandStep side (.invokeStream v launches) (side.invoked (.stream false))
  /-- An invocation of `Execute_Stream_Command` whose child cannot be launched. -/
  | failedStream {v : Var} {launches : Bool} {cmd : String} (free : side.waiting = none)
      (given : v.cmdString = some cmd) (idle : side.process.running = false)
      (fails : launches = false) :
      CommandStep side (.invokeStream v launches) (side.invoked (.stream false))
  /-- An invocation of `Execute_Stream_Command`. -/
  | executedStream {v : Var} {launches : Bool} {cmd : String} {process : ProcessHandler}
      (free : side.waiting = none) (given : v.cmdString = some cmd)
      (started : side.process.start side.invocations.length cmd launches = .returned process) :
      CommandStep side (.invokeStream v launches)
        { side.invoked (.stream false) with
          process, commandTimer := side.commandTimer.assign 1000 side.invocations.length }
  /-- A stream that is not open cannot be closed. -/
  | notOpen {stream : ℕ} (free : side.waiting = none) (other : side.isOpen stream = false) :
      CommandStep side (.closeStream stream) side
  /-- A stream is closed. -/
  | closed {stream : ℕ} {commandTimer : TimerSlot ℕ} (free : side.waiting = none)
      (opened : side.isOpen stream = true)
      (destroyed : side.commandTimer.destroy = some commandTimer) :
      CommandStep side (.closeStream stream) { side.closed stream with commandTimer }
  /-- The wait goes on, or there is none. -/
  | waits (goes : side.waiting = none ∨ side.process.running = true) :
      CommandStep side .waitReturns side
  /-- The wait is over. -/
  | returned {invocation : ℕ} (waited : side.waiting = some invocation)
      (idle : side.process.running = false) :
      CommandStep side .waitReturns { side.drained invocation with waiting := none }
  /-- A timer that is not armed. -/
  | silent {t : ℕ} (free : side.waiting = none) (dead : side.commandTimer.runs t = false) :
      CommandStep side (.tick t) side
  /-- A tick of a timer whose stream was closed. -/
  | ended {t stream : ℕ} (free : side.waiting = none) (live : side.commandTimer.runs t = true)
      (owner : side.commandTimer.callbackOf t = some stream)
      (destroyed : side.isDestroyed stream = true) :
      CommandStep side (.tick t) { side with commandTimer := side.commandTimer.setRunning t false }
  /-- A tick of a timer whose stream is open: there is output to send, or there is
  none. -/
  | sent {t stream : ℕ} (free : side.waiting = none) (live : side.commandTimer.runs t = true)
      (owner : side.commandTimer.callbackOf t = some stream)
      (opened : side.isDestroyed stream = false) (output : side.process.output ≠ []) :
      CommandStep side (.tick t) { side.drained stream with
        commandTimer := side.commandTimer.setRunning t true }
  | quiet {t stream : ℕ} (free : side.waiting = none) (live : side.commandTimer.runs t = true)
      (owner : side.commandTimer.callbackOf t = some stream)
      (opened : side.isDestroyed stream = false) (output : side.process.output = []) :
      CommandStep side (.tick t) { side with commandTimer := side.commandTimer.setRunning t true }
  /-- A child ends. -/
  | exit (c : ℕ) : CommandStep side (.exit c) { side with process := side.process.exit c }
  /-- A reader appends. -/
  | append (c : ℕ) (bytes : List UInt8) :
      CommandStep side (.append c bytes) { side with process := side.process.append c bytes }
  /-- A reader ends. -/
  | endOfFile (c : ℕ) :
      CommandStep side (.endOfFile c) { side with process := side.process.endOfFile c }

namespace CommandSide

variable {side after : CommandSide}

theorem executeCommand_step {v : Var} {launches : Bool} (free : side.waiting = none)
    (step : (side.executeCommand v launches).next = some after) :
    CommandStep side (.executeCommand v launches) after := by
  unfold executeCommand at step
  cases given : v.cmdString with
  | none =>
      have refused : (side.invoked .command).deliver side.invocations.length [] = after := by
        cases has : v.hasCmd <;> simpa [given, has] using step
      exact refused ▸ .refused free given
  | some cmd =>
      simp only [Var.hasCmd_of_cmdString given, if_true, given, start] at step
      cases started : side.process.start side.invocations.length cmd launches with
      | returned process =>
          rw [show (side.invoked .command).process = side.process from rfl, started] at step
          obtain rfl := Option.some.inj step
          exact .executed free given started
      | threw process =>
          obtain ⟨rfl, idle, fails⟩ := ProcessHandler.start_threw started
          rw [show (side.invoked .command).process = side.process from rfl, started] at step
          obtain rfl := Option.some.inj step
          exact .failed free given idle fails
      | stopped process => exact absurd started ProcessHandler.start_ne_stopped

theorem invokeStream_step {v : Var} {launches : Bool} (free : side.waiting = none)
    (step : (side.invokeStream v launches).next = some after) :
    CommandStep side (.invokeStream v launches) after := by
  have fresh : (side.invoked (.stream false)).isDestroyed side.invocations.length = false := by
    simp [isDestroyed, invoked]
  unfold invokeStream executeStreamCommand at step
  cases given : v.cmdString with
  | none =>
      have refused : side.invoked (.stream false) = after := by
        cases has : v.hasCmd <;> simpa [given, has, fresh] using step
      exact refused ▸ .refusedStream free given
  | some cmd =>
      simp only [Var.hasCmd_of_cmdString given, if_true, given, start] at step
      cases started : side.process.start side.invocations.length cmd launches with
      | returned process =>
          rw [show (side.invoked (.stream false)).process = side.process from rfl, started] at step
          obtain rfl := Option.some.inj step
          exact .executedStream free given started
      | threw process =>
          obtain ⟨rfl, idle, fails⟩ := ProcessHandler.start_threw started
          rw [show (side.invoked (.stream false)).process = side.process from rfl, started] at step
          obtain rfl := Option.some.inj step
          exact .failedStream free given idle fails
      | stopped process => exact absurd started ProcessHandler.start_ne_stopped

theorem closeStream_step {stream : ℕ} (free : side.waiting = none)
    (step : (side.closeStream stream).next = some after) :
    CommandStep side (.closeStream stream) after := by
  cases opened : side.isOpen stream with
  | false =>
      have same : side = after := by simpa [closeStream, opened] using step
      exact same ▸ .notOpen free opened
  | true =>
      rw [closeStream_of_isOpen opened] at step
      cases destroyed : side.commandTimer.destroy with
      | none => simp [destroyed] at step
      | some commandTimer =>
          rw [destroyed] at step
          obtain rfl := Option.some.inj step
          exact .closed free opened destroyed

theorem waitReturns_step : CommandStep side .waitReturns side.waitReturns := by
  unfold waitReturns
  cases waited : side.waiting with
  | none => exact .waits (.inl waited)
  | some invocation =>
      cases live : side.process.running with
      | true => exact .waits (.inr live)
      | false => exact .returned waited live

/-- A tick of an armed timer calls the callback made for its stream. -/
theorem tick_of_runs {t stream : ℕ} (live : side.commandTimer.runs t = true)
    (owner : side.commandTimer.callbackOf t = some stream) :
    side.tick t = { (side.commandCallback stream).1 with
      commandTimer := (side.commandCallback stream).1.commandTimer.setRunning t
        (side.commandCallback stream).2 } := by
  obtain ⟨timer, found, rfl⟩ := Option.map_eq_some_iff.mp owner
  simp [tick, live, found]

/-- The callback of a stream that is not destroyed drains the buffer, and sends what
was in it. -/
theorem commandCallback_sent {stream : ℕ} (opened : side.isDestroyed stream = false)
    (output : side.process.output ≠ []) :
    side.commandCallback stream = (side.drained stream, true) := by
  simp [commandCallback, opened, ProcessHandler.getOutput, output, drained]

theorem tick_step (free : side.waiting = none) (t : ℕ) :
    CommandStep side (.tick t) (side.tick t) := by
  cases live : side.commandTimer.runs t with
  | false =>
      have same : side.tick t = side := by simp [tick, live]
      exact same.symm ▸ .silent free live
  | true =>
      obtain ⟨stream, owner⟩ := TimerSlot.exists_callbackOf_of_runs live
      rw [tick_of_runs live owner]
      cases destroyed : side.isDestroyed stream with
      | true =>
          have done : side.commandCallback stream = (side, false) := by
            simp [commandCallback, destroyed]
          rw [done]
          exact .ended free live owner destroyed
      | false =>
          by_cases output : side.process.output = []
          · have empty : side.process.getOutput = ([], side.process) := by
              rw [ProcessHandler.getOutput, ← output]
            have done : side.commandCallback stream = (side, true) := by
              simp [commandCallback, destroyed, empty]
            rw [done]
            exact .quiet free live owner destroyed output
          · rw [commandCallback_sent destroyed output]
            exact .sent free live owner destroyed output

/-- **Every step of the machine is one of those listed.** -/
theorem commandStep_of_machine {event : CommandEvent}
    (step : commandMachine side event = some after) : CommandStep side event after := by
  cases event with
  | executeCommand v launches =>
      rcases onStrand_cases step with ⟨busy, rfl⟩ | ⟨free, step⟩
      · exact .busy busy
      · exact executeCommand_step free step
  | invokeStream v launches =>
      rcases onStrand_cases step with ⟨busy, rfl⟩ | ⟨free, step⟩
      · exact .busy busy
      · exact invokeStream_step free step
  | closeStream stream =>
      rcases onStrand_cases step with ⟨busy, rfl⟩ | ⟨free, step⟩
      · exact .busy busy
      · exact closeStream_step free step
  | tick t =>
      rcases onStrand_cases step with ⟨busy, rfl⟩ | ⟨free, step⟩
      · exact .busy busy
      · obtain rfl := Option.some.inj step
        exact tick_step free t
  | waitReturns =>
      obtain rfl := Option.some.inj step
      exact waitReturns_step
  | exit c =>
      obtain rfl := Option.some.inj step
      exact .exit c
  | append c bytes =>
      obtain rfl := Option.some.inj step
      exact .append c bytes
  | endOfFile c =>
      obtain rfl := Option.some.inj step
      exact .endOfFile c

/-- A handler that executes `process->start(cmd)` and then returns does not stop. -/
theorem start_goes_on (invocation : ℕ) (cmd : String) (launches : Bool)
    (rest : CommandSide → CommandSide) :
    ((side.start invocation cmd launches).andThen fun side => .returned (rest side)).next ≠
      none := by
  unfold start
  cases started : side.process.start invocation cmd launches with
  | returned process => simp
  | threw process => simp
  | stopped process => exact absurd started ProcessHandler.start_ne_stopped

/-- Only the closing of a stream can stop the program. -/
theorem goes_on {event : CommandEvent} (other : ∀ stream, event ≠ .closeStream stream) :
    ∃ after, commandMachine side event = some after := by
  have strand : ∀ handled : Handled CommandSide, handled.next ≠ none →
      ∃ after, (side.onStrand handled).next = some after := by
    intro handled goes
    unfold onStrand
    split
    · exact Option.ne_none_iff_exists'.mp goes
    · exact ⟨side, rfl⟩
  cases event with
  | closeStream stream => exact absurd rfl (other stream)
  | waitReturns => exact ⟨_, rfl⟩
  | exit c => exact ⟨_, rfl⟩
  | append c bytes => exact ⟨_, rfl⟩
  | endOfFile c => exact ⟨_, rfl⟩
  | tick t => exact strand _ (by simp)
  | executeCommand v launches =>
      refine strand _ ?_
      unfold executeCommand
      split
      · split
        · exact start_goes_on _ _ _ _
        · simp
      · simp
  | invokeStream v launches =>
      have fresh : (side.invoked (.stream false)).isDestroyed side.invocations.length = false := by
        simp [isDestroyed, invoked]
      refine strand _ ?_
      unfold invokeStream executeStreamCommand
      split
      · split
        · exact start_goes_on _ _ _ _
        · simp
      · simp [fresh]

/-! ## What only grows -/

/-- What no step takes back, and what it can add: children keep their launchers and
timers their owners; a new launcher or owner is the invocation of the step; a new byte
in the buffer was written by a child whose reader was reading. -/
structure Grows (side after : CommandSide) : Prop where
  length : side.invocations.length ≤ after.invocations.length
  launched : ∀ {launcher c : ℕ}, side.process.Launched launcher c →
    after.process.Launched launcher c
  launcher : ∀ {launcher c : ℕ}, after.process.Launched launcher c →
    side.process.Launched launcher c ∨ launcher = side.invocations.length ∧
      launcher < after.invocations.length
  owner : ∀ {t owner : ℕ}, after.commandTimer.callbackOf t = some owner →
    side.commandTimer.callbackOf t = some owner ∨ owner = side.invocations.length ∧
      owner < after.invocations.length
  output : ∀ {written : OutputByte}, written ∈ after.process.output →
    written ∈ side.process.output ∨ side.process.childReading written.child = true

theorem Grows.refl : Grows side side :=
  ⟨Nat.le_refl _, id, .inl, .inl, .inl⟩

/-- A step that leaves the timers' callbacks, the children's launchers and the
invocations alone. -/
theorem Grows.of_frame (invocations : after.invocations.length = side.invocations.length)
    (launched : ∀ {launcher c : ℕ}, after.process.Launched launcher c ↔
      side.process.Launched launcher c)
    (owner : ∀ t, after.commandTimer.callbackOf t = side.commandTimer.callbackOf t)
    (output : ∀ {written : OutputByte}, written ∈ after.process.output →
      written ∈ side.process.output ∨ side.process.childReading written.child = true) :
    Grows side after :=
  ⟨Nat.le_of_eq invocations.symm, launched.mpr, fun found => .inl (launched.mp found),
    fun found => .inl (owner _ ▸ found), output⟩

/-- A successful `start` adds the child of its invocation. -/
theorem launched_start {process started : ProcessHandler} {invocation : ℕ} {cmd : String}
    {launches : Bool} (step : process.start invocation cmd launches = .returned started) :
    (∀ {launcher c : ℕ}, process.Launched launcher c → started.Launched launcher c) ∧
      (∀ {launcher c : ℕ}, started.Launched launcher c →
        process.Launched launcher c ∨ launcher = invocation) ∧
      started.output = process.output := by
  rcases ProcessHandler.start_cases step with ⟨-, rfl⟩ | ⟨-, -, rfl⟩
  · exact ⟨id, .inl, rfl⟩
  · refine ⟨fun found => ProcessHandler.launched_launch.mpr (.inl found), fun found => ?_, rfl⟩
    rcases ProcessHandler.launched_launch.mp found with old | ⟨-, new⟩
    · exact .inl old
    · exact .inr new

theorem grows_of_step {event : CommandEvent} (step : CommandStep side event after) :
    Grows side after := by
  have longer : ∀ invocation, side.invocations.length <
      (side.invoked invocation).invocations.length := by
    intro invocation
    simp [invoked]
  cases step with
  | busy | notOpen | waits | silent => exact Grows.refl
  | refused | failed | refusedStream | failedStream =>
      exact ⟨Nat.le_of_lt (longer _), id, .inl, .inl, .inl⟩
  | executed free given started =>
      obtain ⟨launched, launcher, output⟩ := launched_start started
      refine ⟨Nat.le_of_lt (longer _), launched, fun found => ?_, .inl,
        fun member => .inl (output ▸ member)⟩
      rcases launcher found with old | rfl
      · exact .inl old
      · exact .inr ⟨rfl, longer _⟩
  | executedStream free given started =>
      obtain ⟨launched, launcher, output⟩ := launched_start started
      refine ⟨Nat.le_of_lt (longer _), launched, fun found => ?_, fun found => ?_,
        fun member => .inl (output ▸ member)⟩
      · rcases launcher found with old | rfl
        · exact .inl old
        · exact .inr ⟨rfl, longer _⟩
      · rw [TimerSlot.callbackOf_assign] at found
        split at found
        · exact .inr ⟨(Option.some.inj found).symm, Option.some.inj found ▸ longer _⟩
        · exact .inl found
  | closed free opened destroyed =>
      obtain ⟨t, -, rfl⟩ := TimerSlot.destroy_cases destroyed
      have output : side.process.terminate.output = side.process.output :=
        ProcessHandler.output_terminate
      exact Grows.of_frame (by simp [CommandSide.closed]) ProcessHandler.launched_terminate
        (fun u => TimerSlot.callbackOf_setRunning t u false) fun member => .inl (output ▸ member)
  | returned => exact Grows.of_frame rfl Iff.rfl (fun _ => rfl) fun member => by cases member
  | ended | quiet =>
      exact Grows.of_frame rfl Iff.rfl (fun u => TimerSlot.callbackOf_setRunning _ u _) .inl
  | sent =>
      exact Grows.of_frame rfl Iff.rfl (fun u => TimerSlot.callbackOf_setRunning _ u _)
        fun member => by cases member
  | exit c => exact Grows.of_frame rfl (ProcessHandler.launched_exit c) (fun _ => rfl) .inl
  | endOfFile c =>
      exact Grows.of_frame rfl (ProcessHandler.launched_endOfFile c) (fun _ => rfl) .inl
  | append c bytes =>
      refine Grows.of_frame rfl ?_ (fun _ => rfl) fun member => ?_
      · rw [ProcessHandler.append_frame]
        exact Iff.rfl
      · rcases ProcessHandler.mem_output_append member with old | ⟨rfl, reads⟩
        · exact .inl old
        · exact .inr reads

/-- Launchers of children and owners of timers are invocations made so far, and the
bytes in the buffer were written by children launched so far. -/
structure Numbered (side : CommandSide) : Prop where
  launched : ∀ {launcher c : ℕ}, side.process.Launched launcher c →
    launcher < side.invocations.length
  owned : ∀ {t owner : ℕ}, side.commandTimer.callbackOf t = some owner →
    owner < side.invocations.length
  written : ∀ {written : OutputByte}, written ∈ side.process.output →
    ∃ launcher, side.process.Launched launcher written.child

theorem Numbered.step (numbered : Numbered side) (grows : Grows side after) : Numbered after where
  launched found := by
    rcases grows.launcher found with old | ⟨-, within⟩
    · exact Nat.lt_of_lt_of_le (numbered.launched old) grows.length
    · exact within
  owned found := by
    rcases grows.owner found with old | ⟨-, within⟩
    · exact Nat.lt_of_lt_of_le (numbered.owned old) grows.length
    · exact within
  written member := by
    rcases grows.output member with old | reads
    · obtain ⟨launcher, found⟩ := numbered.written old
      exact ⟨launcher, grows.launched found⟩
    · obtain ⟨launcher, found⟩ := ProcessHandler.exists_launched_of_reading reads
      exact ⟨launcher, grows.launched found⟩

theorem numbered_new (execPath arguments : String) : Numbered (new execPath arguments) where
  launched := by
    rintro launcher c ⟨child, found, -⟩
    simp [new] at found
  owned found := by simp [new] at found
  written member := by simp [new] at member

end CommandSide

end DslinkSystem
