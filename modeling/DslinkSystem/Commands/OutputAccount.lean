import DslinkSystem.Commands.CommandSteps
import DslinkSystem.Process.Draining

/-!
# What becomes of output

The command side takes `getOutput` as one step. Its calls on the buffer are made on the strand,
and the readers of the children append from other threads, so that an append may fall between
two of them. `callingMachine` makes these calls one at a time: a handler or a callback that
calls `getOutput` keeps the strand until the last of them, and only children and their readers
go on. When nothing falls between the calls it does what the command side does in one step
(`run_undisturbed`).

What was delivered, followed by what is still in the buffer, is what the readers appended, in
order, exactly when every block that fell between `data()` and the last `size()` of a call was
empty (`output_accounted_iff`). The children share one buffer, so this says nothing about whose
bytes an invocation gets.
-/

set_option autoImplicit false

namespace DslinkSystem

open EventRuns TimerSlots

namespace CommandSide

variable {side after : CommandSide}

/-! ## Bytes -/

/-- The bytes an event appends: those that a reader appends while it reads. -/
def appended (side : CommandSide) : CommandEvent → List OutputByte
  | .append c bytes =>
      if side.process.childReading c then bytes.map fun byte => ⟨c, byte⟩ else []
  | _ => []

/-- The bytes delivered so far, and those still in the buffer. -/
def accounted (side : CommandSide) : List OutputByte :=
  side.delivered.flatMap Prod.snd ++ side.process.output

theorem accounted_deliver (invocation : ℕ) :
    (side.deliver invocation []).accounted = side.accounted := by
  simp [accounted, deliver]

/-- Draining the buffer into a delivery moves bytes and loses none. -/
theorem accounted_drained (invocation : ℕ) : (side.drained invocation).accounted =
    side.accounted := by
  simp [accounted, drained, deliver]

theorem accounted_of_same (delivered : after.delivered = side.delivered)
    (output : after.process.output = side.process.output) : after.accounted = side.accounted := by
  rw [accounted, delivered, output, accounted]

theorem output_start {invocation : ℕ} {cmd : String} {launches : Bool} {process : ProcessHandler}
    (started : side.process.start invocation cmd launches = .returned process) :
    process.output = side.process.output := (launched_start started).2.2

/-- A step that is no append changes nothing in the account. -/
theorem accounted_of_step {event : CommandEvent} (step : CommandStep side event after)
    (other : ∀ c bytes, event ≠ .append c bytes) : after.accounted = side.accounted := by
  cases step with
  | busy | notOpen | waits | silent | failed | failedStream | refusedStream => rfl
  | refused => exact accounted_deliver _
  | executed free given started => exact accounted_of_same rfl (output_start started)
  | executedStream free given started => exact accounted_of_same rfl (output_start started)
  | closed => exact accounted_of_same rfl ProcessHandler.output_terminate
  | returned => exact accounted_drained _
  | sent => exact accounted_drained _
  | ended | quiet | exit | endOfFile => rfl
  | append c bytes => exact absurd rfl (other c bytes)

/-- **Every step adds to the account what it appends.** -/
theorem accounted_step {event : CommandEvent} (step : commandMachine side event = some after) :
    after.accounted = side.accounted ++ side.appended event := by
  have happened := commandStep_of_machine step
  cases event with
  | append c bytes =>
      obtain rfl := Option.some.inj step
      cases reads : side.process.childReading c <;>
        simp [accounted, appended, ProcessHandler.append, reads]
  | executeCommand | waitReturns | invokeStream | closeStream | tick | exit | endOfFile =>
      rw [accounted_of_step happened (by simp)]
      exact (List.append_nil _).symm

end CommandSide

/-! ## The calls of `getOutput` one at a time -/

/-- Who calls `getOutput`. -/
inductive Caller where
  /-- The handler of an invocation of `Execute_Command`, after its wait. -/
  | command (invocation : ℕ)
  /-- The callback of the command timer `t`, made for a stream. -/
  | timer (t stream : ℕ)
  deriving DecidableEq, Repr

/-- What the caller does with what `getOutput` returned. -/
def Caller.finish (retStr : List OutputByte) (side : CommandSide) : Caller → CommandSide
  | command invocation => { side with waiting := none }.deliver invocation retStr
  | timer t stream =>
      let side := if retStr ≠ [] then side.deliver stream retStr else side
      { side with commandTimer := side.commandTimer.setRunning t true }

/-- The call of `getOutput` that a handler or callback begins, if the event makes it do so. -/
def CommandSide.caller (side : CommandSide) : CommandEvent → Option Caller
  | .waitReturns =>
      match side.waiting with
      | some invocation => if side.process.running then none else some (.command invocation)
      | none => none
  | .tick t =>
      if side.waiting = none ∧ side.commandTimer.runs t = true then
        match side.commandTimer.callbackOf t with
        | some stream => if side.isDestroyed stream then none else some (.timer t stream)
        | none => none
      else none
  | _ => none

/-- The event is one of a child or of its reader, which need no strand. -/
def CommandEvent.offStrand : CommandEvent → Bool
  | exit _ | append _ _ | endOfFile _ => true
  | _ => false

/-- The command side, with the call of `getOutput` in progress. -/
structure CallingSide where
  side : CommandSide
  caller : Option Caller := none
  call : GetOutput OutputByte := .idle

/-- What happens, with the calls on the buffer one at a time. -/
inductive CallingEvent where
  /-- The next call on the buffer. -/
  | advance
  | event (event : CommandEvent)

/-- The event, when it is no call on the buffer. -/
def CallingEvent.outer : CallingEvent → Option CommandEvent
  | .advance => none
  | .event inner => some inner

namespace CallingSide

/-- The buffer, the call in progress, and what was delivered. -/
def buffer (calling : CallingSide) : OutputBuffer OutputByte :=
  ⟨calling.side.process.output, calling.call, calling.side.delivered.map Prod.snd⟩

/-- The next call on the buffer. After the last one the caller goes on. -/
def advance (calling : CallingSide) : CallingSide :=
  match calling.caller with
  | none => calling
  | some caller =>
      let buffer := (⟨calling.side.process.output, calling.call, []⟩ :
        OutputBuffer OutputByte).advance
      let side := { calling.side with
        process := { calling.side.process with output := buffer.output } }
      match buffer.results with
      | [] => { calling with side, call := buffer.call }
      | retStr :: _ => { side := caller.finish retStr side }

end CallingSide

/-- The machine that makes the calls of `getOutput` one at a time. -/
def callingMachine : Machine CallingSide CallingEvent := fun calling event =>
  match event, calling.caller with
  | .advance, _ => some calling.advance
  | .event event, none =>
      match calling.side.caller event with
      | some caller => some { calling with caller := some caller }
      | none => (commandMachine calling.side event).map fun side => { calling with side }
  | .event event, some _ =>
      if event.offStrand then
        (commandMachine calling.side event).map fun side => { calling with side }
      else some calling

namespace CallingSide

variable {calling after : CallingSide} {side next : CommandSide}

/-! ## Calls that nothing disturbs -/

/-- The calls of `getOutput` one after the other. -/
theorem run_calls (side : CommandSide) (caller : Caller) :
    ∃ calls, run callingMachine ⟨side, some caller, .idle⟩ (List.replicate calls .advance) =
      some ⟨caller.finish side.process.output
        { side with process := { side.process with output := [] } }, none, .idle⟩ := by
  cases output : side.process.output with
  | nil => exact ⟨1, by simp [callingMachine, advance, OutputBuffer.advance, output]⟩
  | cons byte bytes =>
      exact ⟨5, by simp [List.replicate, callingMachine, advance, OutputBuffer.advance, output]⟩

/-- What the caller makes of the whole output is what the command side does in one step. -/
theorem finish_eq_step {event : CommandEvent} {caller : Caller}
    (calls : side.caller event = some caller) :
    commandMachine side event = some (caller.finish side.process.output
      { side with process := { side.process with output := [] } }) := by
  cases event with
  | waitReturns =>
      cases waits : side.waiting with
      | none => simp [CommandSide.caller, waits] at calls
      | some invocation =>
          cases live : side.process.running with
          | true => simp [CommandSide.caller, waits, live] at calls
          | false =>
              obtain rfl : Caller.command invocation = caller := by
                simpa [CommandSide.caller, waits, live] using calls
              simp [commandMachine, CommandEvent.handle, CommandSide.waitReturns, waits, live,
                ProcessHandler.getOutput, Caller.finish]
  | tick t =>
      simp only [CommandSide.caller] at calls
      split at calls
      · next ticks =>
          obtain ⟨free, live⟩ := ticks
          cases owner : side.commandTimer.callbackOf t with
          | none => simp [owner] at calls
          | some stream =>
              cases destroyed : side.isDestroyed stream with
              | true => simp [owner, destroyed] at calls
              | false =>
                  obtain rfl : Caller.timer t stream = caller := by
                    simpa [owner, destroyed] using calls
                  obtain ⟨timer, found, rfl⟩ := Option.map_eq_some_iff.mp owner
                  by_cases empty : side.process.output = [] <;>
                    simp [commandMachine, CommandEvent.handle, CommandSide.onStrand, free,
                      CommandSide.tick, live, found, CommandSide.commandCallback, destroyed,
                      ProcessHandler.getOutput, Caller.finish, empty, CommandSide.deliver]
      · cases calls
  | _ => cases calls

/-- One step of the command side, with its calls of `getOutput` undisturbed. -/
theorem step_undisturbed {event : CommandEvent} (step : commandMachine side event = some next) :
    ∃ calls, run callingMachine ⟨side, none, .idle⟩
      (.event event :: List.replicate calls .advance) = some ⟨next, none, .idle⟩ := by
  cases calls : side.caller event with
  | none => exact ⟨0, by simp [callingMachine, calls, step]⟩
  | some caller =>
      obtain ⟨count, ran⟩ := run_calls side caller
      refine ⟨count, ?_⟩
      have same := Option.some.inj (step.symm.trans (finish_eq_step calls))
      rw [run_cons, same, ← ran]
      simp [callingMachine, calls]

/-- **A run of the command side is a run with undisturbed calls.** -/
theorem run_undisturbed {events : List CommandEvent} (reached : run commandMachine side events =
    some next) :
    ∃ calling : List CallingEvent,
      run callingMachine ⟨side, none, .idle⟩ calling = some ⟨next, none, .idle⟩ ∧
        calling.filterMap CallingEvent.outer = events := by
  induction events generalizing side with
  | nil =>
      obtain rfl := Option.some.inj reached
      exact ⟨[], rfl, rfl⟩
  | cons event events ih =>
      rw [run_cons, Option.bind_eq_some_iff] at reached
      obtain ⟨middle, step, rest⟩ := reached
      obtain ⟨calls, first⟩ := step_undisturbed step
      obtain ⟨later, second, split⟩ := ih rest
      refine ⟨(.event event :: List.replicate calls .advance) ++ later, ?_, ?_⟩
      · rw [run_append, first, Option.bind_some, second]
      · simp [CallingEvent.outer, split]

/-! ## The account with the calls in progress -/

/-- A new command side, with no call in progress. -/
def new (execPath arguments : String) : CallingSide := { side := .new execPath arguments }

/-- The bytes an event appends. -/
def appended (calling : CallingSide) : CallingEvent → List OutputByte
  | .advance => []
  | .event event => calling.side.appended event

/-- A block that falls after `data()` and before the last `size()` of a call in progress is
empty. -/
def appendsMeasured (calling : CallingSide) : CallingEvent → Prop
  | .advance => True
  | .event event => calling.buffer.unmeasured = true → calling.side.appended event = []

/-- What holds after every run: the buffer has what the call in progress took, and only a caller
has a call in progress. -/
structure Sound (calling : CallingSide) : Prop where
  fresh : calling.buffer.Fresh
  idle : calling.caller = none → calling.call = .idle

theorem sound_new (execPath arguments : String) : Sound (new execPath arguments) :=
  ⟨trivial, fun _ => rfl⟩

/-- What was delivered does not matter to the calls on the buffer. -/
theorem advance_results (output : List OutputByte) (call : GetOutput OutputByte)
    (results : List (List OutputByte)) :
    (⟨output, call, results⟩ : OutputBuffer OutputByte).advance =
      { (⟨output, call, []⟩ : OutputBuffer OutputByte).advance with
        results := results ++ (⟨output, call, []⟩ : OutputBuffer OutputByte).advance.results } := by
  cases call with
  | idle => by_cases empty : output.length = 0 <;> simp [OutputBuffer.advance, empty]
  | _ => simp [OutputBuffer.advance]

/-- A call has no result before it ends, and then one. -/
theorem results_advance (output : List OutputByte) (call : GetOutput OutputByte) :
    (⟨output, call, []⟩ : OutputBuffer OutputByte).advance.results = [] ∨
      ∃ retStr, (⟨output, call, []⟩ : OutputBuffer OutputByte).advance.results = [retStr] ∧
        (⟨output, call, []⟩ : OutputBuffer OutputByte).advance.call = .idle := by
  cases call with
  | idle => by_cases empty : output.length = 0 <;> simp [OutputBuffer.advance, empty]
  | _ => simp [OutputBuffer.advance]

/-- The caller delivers what the call returned. -/
theorem delivered_finish (caller : Caller) (retStr : List OutputByte) (side : CommandSide) :
    (caller.finish retStr side).process = side.process ∧
      ((caller.finish retStr side).delivered.map Prod.snd).flatten =
        (side.delivered.map Prod.snd).flatten ++ retStr := by
  cases caller with
  | command invocation => simp [Caller.finish, CommandSide.deliver]
  | timer t stream =>
      by_cases empty : retStr = [] <;> simp [Caller.finish, CommandSide.deliver, empty]

/-- A call on the buffer keeps the account. -/
theorem advance_sound (sound : Sound calling) :
    Sound calling.advance ∧ calling.advance.buffer.kept = calling.buffer.kept := by
  obtain ⟨side, caller, call⟩ := calling
  cases caller with
  | none => exact ⟨sound, rfl⟩
  | some caller =>
      have kept := OutputBuffer.kept_advance sound.fresh
      have fresh := OutputBuffer.fresh_handle sound.fresh .advance
      simp only [buffer, BufferEvent.handle] at kept fresh
      rw [advance_results] at kept fresh
      rcases results_advance side.process.output call with going | ⟨retStr, ended, idle⟩
      · have next : advance ⟨side, some caller, call⟩ =
            ⟨{ side with process := { side.process with
                output := (⟨side.process.output, call, []⟩ :
                  OutputBuffer OutputByte).advance.output } },
              some caller, (⟨side.process.output, call, []⟩ :
                OutputBuffer OutputByte).advance.call⟩ := by
          simp only [advance, going]
        rw [going, List.append_nil] at kept fresh
        rw [next]
        exact ⟨⟨fresh, fun none => by cases none⟩, kept⟩
      · have next : advance ⟨side, some caller, call⟩ =
            ⟨caller.finish retStr { side with process := { side.process with
              output := (⟨side.process.output, call, []⟩ :
                OutputBuffer OutputByte).advance.output } }, none, .idle⟩ := by
          simp only [advance, ended]
        obtain ⟨process, delivered⟩ := delivered_finish caller retStr
          { side with process := { side.process with
            output := (⟨side.process.output, call, []⟩ : OutputBuffer OutputByte).advance.output } }
        rw [ended] at kept
        rw [next]
        refine ⟨⟨trivial, fun _ => rfl⟩, ?_⟩
        simp only [buffer, OutputBuffer.kept] at kept ⊢
        rw [← kept, process, delivered, idle]
        simp

/-- An event that needs no strand leaves what was delivered alone, and adds to the buffer what it
appends. -/
theorem offStrand_step {event : CommandEvent} (off : event.offStrand = true)
    (step : commandMachine side event = some next) :
    next.delivered = side.delivered ∧
      next.process.output = side.process.output ++ side.appended event := by
  cases event with
  | exit c =>
      obtain rfl := Option.some.inj step
      exact ⟨rfl, (List.append_nil _).symm⟩
  | endOfFile c =>
      obtain rfl := Option.some.inj step
      exact ⟨rfl, (List.append_nil _).symm⟩
  | append c bytes =>
      obtain rfl := Option.some.inj step
      cases reads : side.process.childReading c <;>
        simp [CommandSide.appended, ProcessHandler.append, reads]
  | _ => cases off

/-- An event that needs the strand appends nothing. -/
theorem appended_of_strand {event : CommandEvent} (needs : event.offStrand = false) :
    side.appended event = [] := by
  cases event with
  | append c bytes => cases needs
  | _ => rfl

/-- An event that begins a call appends nothing. -/
theorem appended_of_calls {event : CommandEvent} {caller : Caller}
    (calls : side.caller event = some caller) : side.appended event = [] := by
  cases event with
  | append c bytes => cases calls
  | _ => rfl

/-- What one step owes: the calling side stays sound, and the account grows by at most what the
event appends, and by that exactly when it does not fall where it is lost. -/
structure Grows (calling : CallingSide) (event : CallingEvent) (after : CallingSide) : Prop where
  sound : Sound after
  grows : ∃ added, after.buffer.kept = calling.buffer.kept ++ added ∧
    added.length ≤ (calling.appended event).length ∧
    (added = calling.appended event ↔ appendsMeasured calling event)

/-- A step that appends nothing and keeps the account. -/
theorem Grows.of_kept {event : CallingEvent} (sound : Sound after)
    (kept : after.buffer.kept = calling.buffer.kept) (nothing : calling.appended event = []) :
    Grows calling event after where
  sound := sound
  grows := by
    refine ⟨[], by rw [kept, List.append_nil], Nat.zero_le _, ?_⟩
    rw [nothing]
    cases event with
    | advance => exact iff_of_true rfl trivial
    | event event => exact iff_of_true rfl fun _ => nothing

/-- A step of the command side with no call in progress. -/
theorem grows_of_idle {event : CommandEvent} (step : commandMachine side event = some next) :
    Grows ⟨side, none, .idle⟩ (.event event) ⟨next, none, .idle⟩ where
  sound := ⟨trivial, fun _ => rfl⟩
  grows := by
    have account : ∀ side : CommandSide, (buffer ⟨side, none, .idle⟩).kept = side.accounted := by
      intro side
      simp [buffer, OutputBuffer.kept, CommandSide.accounted, List.flatMap_def]
    refine ⟨side.appended event, ?_, Nat.le_refl _, iff_of_true rfl fun lost => by cases lost⟩
    rw [account, account]
    exact CommandSide.accounted_step step

/-- A step of a child or of its reader while a call is in progress. -/
theorem grows_of_offStrand {caller : Caller} {call : GetOutput OutputByte}
    (sound : Sound ⟨side, some caller, call⟩) {event : CommandEvent}
    (off : event.offStrand = true) (step : commandMachine side event = some next) :
    Grows ⟨side, some caller, call⟩ (.event event) ⟨next, some caller, call⟩ := by
  obtain ⟨delivered, output⟩ := offStrand_step off step
  have appends : buffer ⟨next, some caller, call⟩ =
      (buffer ⟨side, some caller, call⟩).append (side.appended event) := by
    simp [buffer, OutputBuffer.append, delivered, output]
  refine ⟨⟨?_, fun none => by cases none⟩, ?_⟩
  · rw [appends]
    exact OutputBuffer.fresh_handle sound.fresh (.append _)
  · obtain ⟨added, grown, short, exact_step⟩ :=
      OutputBuffer.kept_handle sound.fresh (.append (side.appended event))
    rw [appends]
    exact ⟨added, grown, short, exact_step⟩

/-- **Every step adds to the account what it appends, unless that falls where it is lost.** -/
theorem grows_step (sound : Sound calling) {event : CallingEvent}
    (step : callingMachine calling event = some after) : Grows calling event after := by
  obtain ⟨side, caller, call⟩ := calling
  cases event with
  | advance =>
      obtain rfl := Option.some.inj step
      obtain ⟨sound', kept⟩ := advance_sound sound
      exact .of_kept sound' kept rfl
  | event event =>
      cases caller with
      | none =>
          obtain rfl : call = .idle := sound.idle rfl
          cases calls : side.caller event with
          | some caller =>
              simp only [callingMachine, calls] at step
              obtain rfl := Option.some.inj step
              exact .of_kept ⟨trivial, fun none => by cases none⟩ rfl (appended_of_calls calls)
          | none =>
              simp only [callingMachine, calls, Option.map_eq_some_iff] at step
              obtain ⟨next, moved, rfl⟩ := step
              exact grows_of_idle moved
      | some caller =>
          cases off : event.offStrand with
          | true =>
              simp only [callingMachine, off, if_true, Option.map_eq_some_iff] at step
              obtain ⟨next, moved, rfl⟩ := step
              exact grows_of_offStrand sound off moved
          | false =>
              simp only [callingMachine, off, Bool.false_eq_true, if_false] at step
              obtain rfl := Option.some.inj step
              exact .of_kept sound rfl (appended_of_strand off)

/-! ## Runs -/

/-- **When no output is lost.** In every state of every run in which no call of `getOutput` is in
progress, the bytes of the deliveries, in the order in which they were made, followed by the
bytes in the buffer, are the bytes that the readers appended during the run, in order, exactly
when every block that fell between `data()` and the last `size()` of a call was empty. -/
theorem output_accounted_iff (execPath arguments : String) (events : List CallingEvent)
    (calling : CallingSide)
    (reached : run callingMachine (new execPath arguments) events = some calling)
    (idle : calling.caller = none) :
    calling.side.delivered.flatMap Prod.snd ++ calling.side.process.output =
        collected callingMachine appended (new execPath arguments) events ↔
      EachStep callingMachine (new execPath arguments) events appendsMeasured := by
  have keeps : ∀ (calling : CallingSide) (event : CallingEvent) (after : CallingSide),
      Sound calling → callingMachine calling event = some after → Sound after :=
    fun _ _ _ sound step => (grows_step sound step).sound
  obtain ⟨added, grown, -, exact_run⟩ := ledger_iff_eachStep Sound keeps
    (fun _ _ _ sound step => (grows_step sound step).grows) (sound_new execPath arguments) reached
  have start : (new execPath arguments).buffer.kept = [] := rfl
  have finish : calling.buffer.kept =
      calling.side.delivered.flatMap Prod.snd ++ calling.side.process.output := by
    have sound := run_keeps keeps (sound_new execPath arguments) reached
    simp [buffer, OutputBuffer.kept, sound.idle idle, List.flatMap_def]
  rw [← finish, grown, start, List.nil_append]
  exact exact_run

/-- A byte that arrives between `size()` and `data()` is returned, and one that arrives after the
call waits in the buffer. -/
theorem output_accounted_of_two :
    ∃ calling, run callingMachine (new "" "")
        [.event (.executeCommand (.map [("cmd", .string "a")]) true), .event (.append 0 [1]),
          .event (.exit 0), .event .waitReturns, .advance, .event (.append 0 [2]), .advance,
          .advance, .advance, .advance, .event (.append 0 [3])] = some calling ∧
      (calling.side.delivered.flatMap Prod.snd ++ calling.side.process.output =
          [⟨0, 1⟩, ⟨0, 2⟩, ⟨0, 3⟩] ↔
        EachStep callingMachine (new "" "")
          [.event (.executeCommand (.map [("cmd", .string "a")]) true), .event (.append 0 [1]),
            .event (.exit 0), .event .waitReturns, .advance, .event (.append 0 [2]), .advance,
            .advance, .advance, .advance, .event (.append 0 [3])] appendsMeasured) := by
  refine ⟨_, rfl, ?_⟩
  exact output_accounted_iff "" "" [.event (.executeCommand (.map [("cmd", .string "a")]) true),
    .event (.append 0 [1]), .event (.exit 0), .event .waitReturns, .advance,
    .event (.append 0 [2]), .advance, .advance, .advance, .advance, .event (.append 0 [3])] _ rfl
    rfl

end CallingSide

end DslinkSystem
