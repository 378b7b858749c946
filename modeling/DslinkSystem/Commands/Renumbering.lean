import DslinkSystem.Commands.CommandSteps

/-!
# Invocations with other numbers

An invocation that leaves nothing behind but its number makes no difference later: the
invocations after it have their numbers shifted by one, and so have the children they launch,
the timers they make, and what they deliver. `withInvocation` places such an invocation
among those of a command side. It commutes with every event (`commandMachine_withInvocation`),
and so with every run (`run_withInvocation`).
-/

set_option autoImplicit false

namespace DslinkSystem

open EventRuns TimerSlots

/-- The number of an invocation when another one is placed before number `n`. -/
def shifted (n invocation : ℕ) : ℕ := if invocation < n then invocation else invocation + 1

theorem shifted_of_lt {n invocation : ℕ} (earlier : invocation < n) :
    shifted n invocation = invocation := if_pos earlier

theorem shifted_of_le {n invocation : ℕ} (later : n ≤ invocation) :
    shifted n invocation = invocation + 1 := if_neg (Nat.not_lt.mpr later)

/-! ## The list of invocations -/

variable {α : Type*}

theorem getElem?_insertIdx_shifted (entries : List α) (n : ℕ) (entry : α) (i : ℕ) :
    (entries.insertIdx n entry)[shifted n i]? = entries[i]? := by
  unfold shifted
  split
  · next earlier => rw [List.getElem?_insertIdx_of_lt earlier]
  · next later => rw [List.getElem?_insertIdx_of_gt (by omega), Nat.add_sub_cancel]

theorem set_insertIdx_shifted (entries : List α) (n : ℕ) (entry new : α) (i : ℕ) :
    (entries.insertIdx n entry).set (shifted n i) new = (entries.set i new).insertIdx n entry := by
  induction n generalizing entries i with
  | zero => rfl
  | succ n ih =>
      cases entries with
      | nil => rfl
      | cons first rest =>
          cases i with
          | zero => rfl
          | succ i =>
              have next : shifted (n + 1) (i + 1) = shifted n i + 1 := by
                unfold shifted
                split <;> split <;> omega
              rw [next]
              exact congrArg (first :: ·) (ih rest i)

theorem append_insertIdx {entries : List α} {n : ℕ} (within : n ≤ entries.length)
    (entry new : α) :
    entries.insertIdx n entry ++ [new] = (entries ++ [new]).insertIdx n entry := by
  induction n generalizing entries with
  | zero => rfl
  | succ n ih =>
      cases entries with
      | nil => cases within
      | cons first rest => exact congrArg (first :: ·) (ih (Nat.le_of_succ_le_succ within))

/-! ## The process handler -/

namespace ProcessHandler

variable (f : ℕ → ℕ) (handler : ProcessHandler)

/-- The handler with other numbers for the invocations that launched its children. -/
def relabel : ProcessHandler :=
  { handler with
    children := handler.children.map fun child => { child with launchedBy := f child.launchedBy } }

/-- Who launched a child makes no difference to it. -/
theorem any_children_relabel (c : ℕ) {observe : Child → Bool}
    (same : ∀ child invocation, observe { child with launchedBy := invocation } = observe child) :
    ((handler.relabel f).children[c]?).any observe = (handler.children[c]?).any observe := by
  rw [relabel, List.getElem?_map]
  cases handler.children[c]? with
  | none => rfl
  | some child => exact same child _

@[simp] theorem childRunning_relabel (c : ℕ) :
    (handler.relabel f).childRunning c = handler.childRunning c :=
  any_children_relabel f handler c fun _ _ => rfl

@[simp] theorem childReading_relabel (c : ℕ) :
    (handler.relabel f).childReading c = handler.childReading c :=
  any_children_relabel f handler c fun _ _ => rfl

@[simp] theorem running_relabel : (handler.relabel f).running = handler.running := by
  change handler.process.any _ = handler.process.any _
  exact congrArg handler.process.any (funext (childRunning_relabel f handler))

/-- A change to a child that does not look at who launched it. -/
theorem modify_relabel (c : ℕ) {change : Child → Child}
    (same : ∀ child, change { child with launchedBy := f child.launchedBy } =
      { change child with launchedBy := f (change child).launchedBy }) :
    (handler.relabel f).children.modify c change =
      (handler.children.modify c change).map fun child =>
        { child with launchedBy := f child.launchedBy } := by
  apply List.ext_getElem?
  intro d
  simp only [relabel, List.getElem?_modify, List.getElem?_map]
  cases handler.children[d]? with
  | none => rfl
  | some child => by_cases here : c = d <;> simp [here, same]

theorem exit_relabel (c : ℕ) : (handler.relabel f).exit c = (handler.exit c).relabel f := by
  rw [exit, modify_relabel f handler c fun _ => rfl]
  rfl

theorem endOfFile_relabel (c : ℕ) :
    (handler.relabel f).endOfFile c = (handler.endOfFile c).relabel f := by
  rw [endOfFile, modify_relabel f handler c fun _ => rfl]
  rfl

theorem terminate_relabel : (handler.relabel f).terminate = handler.terminate.relabel f := by
  have same : (handler.relabel f).process = handler.process := rfl
  unfold terminate
  rw [same]
  cases handler.process with
  | none => rfl
  | some c => exact exit_relabel f handler c

theorem append_relabel (c : ℕ) (bytes : List UInt8) :
    (handler.relabel f).append c bytes = (handler.append c bytes).relabel f := by
  unfold append
  rw [childReading_relabel]
  cases handler.childReading c <;> rfl

theorem launch_relabel (invocation : ℕ) (args : String) :
    (handler.relabel f).launch (f invocation) args =
      (handler.launch invocation args).relabel f := by
  simp [launch, relabel, execStr]

theorem start_relabel (invocation : ℕ) (args : String) (launches : Bool) :
    (handler.relabel f).start (f invocation) args launches =
      (handler.start invocation args launches).map (relabel f) := by
  unfold start
  rw [running_relabel, launch_relabel]
  cases handler.running <;> cases launches <;> rfl

/-- Numbers that are replaced by themselves leave the handler as it was. -/
theorem relabel_eq_self {g : ℕ → ℕ}
    (same : ∀ launcher c, handler.Launched launcher c → g launcher = launcher) :
    handler.relabel g = handler := by
  have children : handler.children.map (fun child =>
      { child with launchedBy := g child.launchedBy }) = handler.children := by
    apply List.ext_getElem?
    intro c
    rw [List.getElem?_map]
    cases found : handler.children[c]? with
    | none => rfl
    | some child =>
        have kept : g child.launchedBy = child.launchedBy := same _ c ⟨child, found, rfl⟩
        simp [kept]
  rw [relabel, children]

end ProcessHandler

/-! ## The command side -/

/-- The event with other numbers for the invocations. -/
def CommandEvent.renumber (f : ℕ → ℕ) : CommandEvent → CommandEvent
  | closeStream stream => closeStream (f stream)
  | executeCommand v launches => executeCommand v launches
  | waitReturns => waitReturns
  | invokeStream v launches => invokeStream v launches
  | tick t => tick t
  | exit c => exit c
  | append c bytes => append c bytes
  | endOfFile c => endOfFile c

namespace CommandSide

/-- The side with one more invocation, which has the number `n`. -/
def withInvocation (n : ℕ) (invocation : Invocation) (side : CommandSide) : CommandSide where
  process := side.process.relabel (shifted n)
  commandTimer := side.commandTimer.mapCallback (shifted n)
  invocations := side.invocations.insertIdx n invocation
  waiting := side.waiting.map (shifted n)
  delivered := side.delivered.map fun entry => (shifted n entry.1, entry.2)

variable {n : ℕ} (extra : Invocation) {side : CommandSide}

theorem isOpen_withInvocation (stream : ℕ) :
    (side.withInvocation n extra).isOpen (shifted n stream) = side.isOpen stream := by
  rw [isOpen, withInvocation, getElem?_insertIdx_shifted, isOpen]

theorem isDestroyed_withInvocation (stream : ℕ) :
    (side.withInvocation n extra).isDestroyed (shifted n stream) = side.isDestroyed stream := by
  rw [isDestroyed, withInvocation, getElem?_insertIdx_shifted, isDestroyed]

theorem deliver_withInvocation (invocation : ℕ) (output : List OutputByte) :
    (side.withInvocation n extra).deliver (shifted n invocation) output =
      (side.deliver invocation output).withInvocation n extra := by
  simp [deliver, withInvocation]

theorem invoked_withInvocation (within : n ≤ side.invocations.length) (invocation : Invocation) :
    (side.withInvocation n extra).invoked invocation =
      (side.invoked invocation).withInvocation n extra := by
  simp [invoked, withInvocation, append_insertIdx within]

/-- The next invocation has the next number. -/
theorem length_withInvocation (within : n ≤ side.invocations.length) :
    (side.withInvocation n extra).invocations.length = shifted n side.invocations.length := by
  rw [shifted_of_le within]
  exact List.length_insertIdx_of_le_length within extra

theorem start_withInvocation (invocation : ℕ) (cmd : String) (launches : Bool) :
    (side.withInvocation n extra).start (shifted n invocation) cmd launches =
      (side.start invocation cmd launches).map (withInvocation n extra) := by
  rw [start, start, withInvocation, ProcessHandler.start_relabel]
  cases side.process.start invocation cmd launches <;> rfl

/-! ## Each event -/

theorem executeCommand_withInvocation (within : n ≤ side.invocations.length) (v : Var)
    (launches : Bool) :
    (side.withInvocation n extra).executeCommand v launches =
      (side.executeCommand v launches).map (withInvocation n extra) := by
  unfold executeCommand
  simp only [invoked_withInvocation extra within, length_withInvocation extra within]
  split
  · split
    · next cmd _ =>
        rw [start_withInvocation]
        exact Handled.andThen_map fun _ => rfl
    · rw [deliver_withInvocation]
      rfl
  · rw [deliver_withInvocation]
    rfl

theorem executeStreamCommand_withInvocation (stream : ℕ) (v : Var) (launches : Bool) :
    (side.withInvocation n extra).executeStreamCommand (shifted n stream) v launches =
      (side.executeStreamCommand stream v launches).map (withInvocation n extra) := by
  unfold executeStreamCommand
  rw [isDestroyed_withInvocation]
  split
  · split
    · next cmd _ =>
        rw [start_withInvocation]
        refine Handled.andThen_map fun s => ?_
        simp [withInvocation, TimerSlot.assign_mapCallback]
    · rfl
  · split
    · have timer : (side.withInvocation n extra).commandTimer.destroy =
          side.commandTimer.destroy.map (TimerSlot.mapCallback (shifted n)) :=
        TimerSlot.destroy_mapCallback (shifted n)
      have process : (side.withInvocation n extra).process.terminate =
          side.process.terminate.relabel (shifted n) :=
        ProcessHandler.terminate_relabel (shifted n) side.process
      simp only [timer, process]
      cases side.commandTimer.destroy <;> rfl
    · rfl

theorem invokeStream_withInvocation (within : n ≤ side.invocations.length) (v : Var)
    (launches : Bool) :
    (side.withInvocation n extra).invokeStream v launches =
      (side.invokeStream v launches).map (withInvocation n extra) := by
  rw [invokeStream, invoked_withInvocation extra within, length_withInvocation extra within,
    executeStreamCommand_withInvocation]
  rfl

theorem closeStream_withInvocation (stream : ℕ) :
    (side.withInvocation n extra).closeStream (shifted n stream) =
      (side.closeStream stream).map (withInvocation n extra) := by
  have closing : { side.withInvocation n extra with
        invocations := (side.withInvocation n extra).invocations.set (shifted n stream)
          (.stream true) } =
      ({ side with invocations := side.invocations.set stream (.stream true) } :
        CommandSide).withInvocation n extra := by
    simp [withInvocation, set_insertIdx_shifted]
  unfold closeStream
  rw [isOpen_withInvocation, closing, executeStreamCommand_withInvocation]
  cases side.isOpen stream <;> rfl

theorem waitReturns_withInvocation :
    (side.withInvocation n extra).waitReturns = side.waitReturns.withInvocation n extra := by
  unfold waitReturns
  have waiting : (side.withInvocation n extra).waiting = side.waiting.map (shifted n) := rfl
  have running : (side.withInvocation n extra).process.running = side.process.running :=
    ProcessHandler.running_relabel (shifted n) side.process
  rw [waiting, running]
  cases side.waiting with
  | none => rfl
  | some invocation =>
      cases side.process.running with
      | true => rfl
      | false => simp [ProcessHandler.getOutput, withInvocation, ProcessHandler.relabel, deliver]

theorem commandCallback_withInvocation (stream : ℕ) :
    (side.withInvocation n extra).commandCallback (shifted n stream) =
      ((side.commandCallback stream).1.withInvocation n extra,
        (side.commandCallback stream).2) := by
  unfold commandCallback
  rw [isDestroyed_withInvocation]
  cases side.isDestroyed stream with
  | true => rfl
  | false =>
      by_cases output : side.process.output = []
      · simp [ProcessHandler.getOutput, withInvocation, ProcessHandler.relabel, output]
      · simp [ProcessHandler.getOutput, withInvocation, ProcessHandler.relabel, output, deliver]

theorem tick_withInvocation (t : ℕ) :
    (side.withInvocation n extra).tick t = (side.tick t).withInvocation n extra := by
  unfold tick
  have runs : (side.withInvocation n extra).commandTimer.runs t = side.commandTimer.runs t :=
    TimerSlot.runs_mapCallback (shifted n) t
  have created : (side.withInvocation n extra).commandTimer.created[t]? =
      (side.commandTimer.created[t]?).map fun timer =>
        ⟨shifted n timer.callback, timer.interval, timer.running⟩ :=
    TimerSlot.getElem?_mapCallback (shifted n) t
  rw [runs]
  cases side.commandTimer.runs t with
  | false => rfl
  | true =>
      rw [created]
      cases side.commandTimer.created[t]? with
      | none => rfl
      | some timer =>
          simp only [Option.map_some, commandCallback_withInvocation]
          simp [withInvocation, TimerSlot.setRunning_mapCallback]

theorem onStrand_withInvocation {handled : Handled CommandSide} :
    (side.withInvocation n extra).onStrand (handled.map (withInvocation n extra)) =
      (side.onStrand handled).map (withInvocation n extra) := by
  unfold onStrand
  have waiting : (side.withInvocation n extra).waiting = side.waiting.map (shifted n) := rfl
  rw [waiting]
  cases side.waiting <;> rfl

/-- **An invocation that left nothing makes no difference to any event.** -/
theorem commandMachine_withInvocation (within : n ≤ side.invocations.length)
    (event : CommandEvent) :
    commandMachine (side.withInvocation n extra) (event.renumber (shifted n)) =
      (commandMachine side event).map (withInvocation n extra) := by
  have process : (side.withInvocation n extra).process = side.process.relabel (shifted n) := rfl
  rw [commandMachine, commandMachine, ← Handled.next_map]
  refine congrArg Handled.next ?_
  cases event with
  | executeCommand v launches =>
      simp only [CommandEvent.renumber, CommandEvent.handle,
        executeCommand_withInvocation extra within, onStrand_withInvocation]
  | invokeStream v launches =>
      simp only [CommandEvent.renumber, CommandEvent.handle,
        invokeStream_withInvocation extra within, onStrand_withInvocation]
  | closeStream stream =>
      simp only [CommandEvent.renumber, CommandEvent.handle, closeStream_withInvocation,
        onStrand_withInvocation]
  | tick t =>
      simp only [CommandEvent.renumber, CommandEvent.handle, tick_withInvocation,
        ← onStrand_withInvocation, Handled.map_returned]
  | waitReturns =>
      simp only [CommandEvent.renumber, CommandEvent.handle, waitReturns_withInvocation,
        Handled.map_returned]
  | exit c =>
      simp only [CommandEvent.renumber, CommandEvent.handle, process,
        ProcessHandler.exit_relabel, Handled.map_returned]
      rfl
  | append c bytes =>
      simp only [CommandEvent.renumber, CommandEvent.handle, process,
        ProcessHandler.append_relabel, Handled.map_returned]
      rfl
  | endOfFile c =>
      simp only [CommandEvent.renumber, CommandEvent.handle, process,
        ProcessHandler.endOfFile_relabel, Handled.map_returned]
      rfl

/-- **Nor to any run.** -/
theorem run_withInvocation (within : n ≤ side.invocations.length) (events : List CommandEvent) :
    run commandMachine (side.withInvocation n extra)
        (events.map (CommandEvent.renumber (shifted n))) =
      (run commandMachine side events).map (withInvocation n extra) := by
  have grows : ∀ before event after, n ≤ before.invocations.length →
      commandMachine before event = some after → n ≤ after.invocations.length :=
    fun before event after within step =>
      Nat.le_trans within (grows_of_step (commandStep_of_machine step)).length
  exact run_map (withInvocation n extra) (CommandEvent.renumber (shifted n)) grows
    (fun before event within => commandMachine_withInvocation extra within event) within events

/-- An invocation placed after all others, none of which has a later number. -/
theorem withInvocation_length (numbered : side.Numbered) (free : side.waiting = none)
    (fresh : side.delivered = []) :
    side.withInvocation side.invocations.length extra = side.invoked extra := by
  have process : side.process.relabel (shifted side.invocations.length) = side.process :=
    side.process.relabel_eq_self fun launcher c launched =>
      shifted_of_lt (numbered.launched launched)
  have timer : side.commandTimer.mapCallback (shifted side.invocations.length) =
      side.commandTimer :=
    TimerSlot.mapCallback_eq_self fun t owner owned => shifted_of_lt (numbered.owned owned)
  rw [withInvocation, process, timer, free, fresh, List.insertIdx_length_self]
  simp [invoked, free, fresh]

end CommandSide

end DslinkSystem
