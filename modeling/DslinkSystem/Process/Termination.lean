import DslinkSystem.Library.DeadlineTimers
import DslinkSystem.Process.ProcessHandler

/-!
# Scheduled termination

`schedule_terminate` gives `termination_timer` a new deadline timer, whose handler
terminates the child if one runs. It logs that it ignores the call when there was a
timer before, and goes on. The handler does not look at the error it is called with, and
looks at the child that runs when it is called.

A call made while another is pending aborts that one, and its handler is called at once.
Calls are never replaced and no child is terminated early throughout a run exactly when
no call is made while another is pending (`termination_lawful_iff`). The child a call
terminates is the one that ran when the call was made, throughout a run, exactly when a
handler that finds a child running finds the latest child launched before its call
(`hits_its_child_iff`).
-/

set_option autoImplicit false

namespace DslinkSystem

open EventRuns DeadlineTimers

/-- What is remembered of a call of `schedule_terminate`, for the theorems: the child
that ran, and how many children had been launched. -/
structure ScheduledCall where
  running : Option ℕ
  launched : ℕ
  deriving DecidableEq, Repr

/-- A process handler with its `termination_timer`, the time in microseconds, and what
was logged by `schedule_terminate` and its handlers. -/
structure ScheduledProcess where
  process : ProcessHandler := {}
  terminationTimer : DeadlineSlot ScheduledCall := .empty
  now : ℤ := 0
  log : List String := []
  deriving DecidableEq, Repr

/-- A path as it is streamed: in double quotes, with `&` before each quote and each `&`. -/
def quoted (path : String) : String :=
  let escaped := path.toList.flatMap fun c => if c = '\x22' ∨ c = '&' then ['&', c] else [c]
  "\x22" ++ String.ofList escaped ++ "\x22"

namespace ScheduledProcess

variable (side : ScheduledProcess)

/-- The child that runs. -/
def runningChild : Option ℕ := side.process.process.filter side.process.childRunning

/-- `schedule_terminate(seconds)`. -/
def scheduleTerminate (seconds : ℤ) : ScheduledProcess :=
  let side :=
    if side.terminationTimer.ref ≠ none then
      { side with
        log := side.log ++
          ["Only one termination can be scheculed! Ignoring..." ++ quoted side.process.execPath] }
    else side
  { side with
    terminationTimer := side.terminationTimer.assign (side.now + seconds * 1000000)
      ⟨side.runningChild, side.process.children.length⟩ }

/-- The handler given to `async_wait`. It is called with an error, which it does not look
at. -/
def onTermination : ScheduledProcess :=
  if side.process.running then
    { side with
      log := side.log ++ ["Process couldn't be closed cleanly: " ++ quoted side.process.execPath]
      process := side.process.terminate }
  else
    { side with log := side.log ++ ["Process closed CLEANLY: " ++ quoted side.process.execPath] }

/-- The handler of the timer `t` is called, if it is to be called. -/
def callHandler (t : ℕ) : ScheduledProcess :=
  if side.terminationTimer.ready side.now t then
    { side with terminationTimer := side.terminationTimer.handled t }.onTermination
  else side

/-- The child that the handler of the timer `t` terminates when it is called. -/
def terminated (t : ℕ) : Option ℕ :=
  if side.terminationTimer.ready side.now t then side.runningChild else none

end ScheduledProcess

/-- What happens to a process handler and its scheduled terminations. -/
inductive TerminationEvent where
  | start (invocation : ℕ) (args : String) (launches : Bool)
  | exit (child : ℕ)
  | terminate
  | scheduleTerminate (seconds : ℤ)
  | advance (microseconds : ℕ)
  | callHandler (timer : ℕ)
  deriving DecidableEq, Repr

/-- The handling of one event. -/
def TerminationEvent.handle (side : ScheduledProcess) :
    TerminationEvent → Handled ScheduledProcess
  | start invocation args launches =>
      (side.process.start invocation args launches).map fun process => { side with process }
  | exit c => .returned { side with process := side.process.exit c }
  | terminate => .returned { side with process := side.process.terminate }
  | scheduleTerminate seconds => .returned (side.scheduleTerminate seconds)
  | advance microseconds => .returned { side with now := side.now + microseconds }
  | callHandler t => .returned (side.callHandler t)

/-- The machine of a process handler and its scheduled terminations. -/
def terminationMachine : Machine ScheduledProcess TerminationEvent :=
  fun side event => (event.handle side).next

namespace ScheduledProcess

variable {side after : ScheduledProcess}

/-! ## Steps -/

theorem runningChild_eq_some_iff {c : ℕ} : side.runningChild = some c ↔
    side.process.process = some c ∧ side.process.childRunning c = true := by
  simp [runningChild, Option.filter_eq_some_iff]

/-- `termination_timer` is given a new timer, and nothing but the log changes besides. -/
theorem scheduleTerminate_frame (seconds : ℤ) :
    side.scheduleTerminate seconds = { side with
      log := (side.scheduleTerminate seconds).log
      terminationTimer := side.terminationTimer.assign (side.now + seconds * 1000000)
        ⟨side.runningChild, side.process.children.length⟩ } := by
  unfold scheduleTerminate
  split <;> rfl

/-- The handler changes the log and the child only. -/
theorem onTermination_frame : side.onTermination = { side with
    log := side.onTermination.log
    process := if side.process.running then side.process.terminate else side.process } := by
  unfold onTermination
  split <;> rfl

theorem terminationTimer_callHandler (t : ℕ) : (side.callHandler t).terminationTimer =
    if side.terminationTimer.ready side.now t then side.terminationTimer.handled t
    else side.terminationTimer := by
  unfold callHandler
  split
  · rw [onTermination_frame]
  · rfl

/-- The timers are left alone by everything but `schedule_terminate` and a handler that
is called. -/
def timersAfter (side : ScheduledProcess) : TerminationEvent → DeadlineSlot ScheduledCall
  | .scheduleTerminate seconds => side.terminationTimer.assign (side.now + seconds * 1000000)
      ⟨side.runningChild, side.process.children.length⟩
  | .callHandler t => if side.terminationTimer.ready side.now t then
      side.terminationTimer.handled t else side.terminationTimer
  | _ => side.terminationTimer

theorem terminationTimer_step {event : TerminationEvent}
    (step : terminationMachine side event = some after) :
    after.terminationTimer = side.timersAfter event := by
  cases event with
  | start invocation args launches =>
      rw [terminationMachine, TerminationEvent.handle, Handled.next_map,
        Option.map_eq_some_iff] at step
      obtain ⟨process, -, rfl⟩ := step
      rfl
  | scheduleTerminate seconds =>
      obtain rfl := Option.some.inj step
      exact congrArg terminationTimer (scheduleTerminate_frame seconds)
  | callHandler t =>
      obtain rfl := Option.some.inj step
      exact terminationTimer_callHandler t
  | exit c => exact Option.some.inj step ▸ rfl
  | terminate => exact Option.some.inj step ▸ rfl
  | advance microseconds => exact Option.some.inj step ▸ rfl

/-! ## One termination at a time -/

/-- A call made while another is pending changes nothing but the log, and a child is
terminated by the handler of a call only when the deadline of the oldest pending call has
been reached. -/
def terminationLawful (side : ScheduledProcess) : TerminationEvent → Prop
  | .scheduleTerminate seconds => side.terminationTimer.oldestPending ≠ none →
      side.scheduleTerminate seconds = { side with log := (side.scheduleTerminate seconds).log }
  | .callHandler t => ∀ c, side.terminated t = some c →
      ∃ timer, side.terminationTimer.oldestPending = some timer ∧ timer.deadline ≤ side.now
  | _ => True

/-- No call is made while another is pending. -/
def schedulesAlone (side : ScheduledProcess) : TerminationEvent → Prop
  | .scheduleTerminate _ => side.terminationTimer.oldestPending = none
  | _ => True

theorem unreplaced_step (unreplaced : side.terminationTimer.Unreplaced) {event : TerminationEvent}
    (alone : schedulesAlone side event) (step : terminationMachine side event = some after) :
    after.terminationTimer.Unreplaced := by
  have timers := terminationTimer_step step
  cases event with
  | scheduleTerminate seconds => exact timers ▸ unreplaced.assign alone _ _
  | callHandler t =>
      rw [timers, timersAfter]
      split
      · exact unreplaced.handled t
      · exact unreplaced
  | _ => exact timers ▸ unreplaced

/-- A call that finds another pending replaces it. -/
theorem scheduleTerminate_ne (seconds : ℤ) :
    side.scheduleTerminate seconds ≠
      { side with log := (side.scheduleTerminate seconds).log } := by
  intro same
  have lengths := congrArg (·.terminationTimer.created.length) same
  rw [scheduleTerminate_frame] at lengths
  simp [DeadlineSlot.length_assign] at lengths

theorem terminationLawful_iff (unreplaced : side.terminationTimer.Unreplaced)
    (event : TerminationEvent) : terminationLawful side event ↔ schedulesAlone side event := by
  cases event with
  | scheduleTerminate seconds =>
      constructor
      · intro lawful
        by_contra pending
        exact scheduleTerminate_ne seconds (lawful pending)
      · exact fun alone pending => absurd alone pending
  | callHandler t =>
      refine iff_of_true (fun c terminates => ?_) trivial
      have called : side.terminationTimer.ready side.now t = true := by
        by_contra other
        simp [terminated, other] at terminates
      obtain ⟨timer, oldest, -, reached⟩ := unreplaced.of_ready called
      exact ⟨timer, oldest, reached⟩
  | _ => exact Iff.rfl

/-- **When a pending termination is neither replaced nor fired early.** Every call made
while another is pending is ignored, and every child is terminated at the deadline of the
oldest pending call, throughout a run, exactly when no call of the run is made while
another is pending. -/
theorem termination_lawful_iff (execPath arguments : String) (events : List TerminationEvent) :
    EachStep terminationMachine { process := { execPath, arguments } } events terminationLawful ↔
      EachStep terminationMachine { process := { execPath, arguments } } events schedulesAlone := by
  refine eachStep_congr (fun side => side.terminationTimer.Unreplaced) ?_ ?_
    DeadlineSlot.Unreplaced.empty
  · exact fun side event unreplaced => terminationLawful_iff unreplaced event
  · intro side event after unreplaced lawful step
    exact unreplaced_step unreplaced ((terminationLawful_iff unreplaced event).mp lawful) step

/-- A second call replaces the first one, and the handler of the first terminates the
child at once. -/
theorem termination_fires_early :
    ¬ ∀ (execPath arguments : String) (events : List TerminationEvent),
      EachStep terminationMachine { process := { execPath, arguments } } events
        terminationLawful := by
  intro every
  have lawful := every "/bin/sleep" "" [.start 0 "" true, .scheduleTerminate 10,
    .scheduleTerminate 20, .callHandler 0]
    [.start 0 "" true, .scheduleTerminate 10, .scheduleTerminate 20] (.callHandler 0) [] _ rfl rfl
  obtain ⟨timer, oldest, reached⟩ := lawful 0 rfl
  obtain rfl := Option.some.inj oldest
  exact absurd reached (by decide)

/-! ## The child a call is meant for -/

/-- A handler that terminates a child terminates the one that ran when its call was
made. -/
def hitsItsChild (side : ScheduledProcess) : TerminationEvent → Prop
  | .callHandler t => ∀ c timer, side.terminated t = some c →
      side.terminationTimer.created[t]? = some timer → timer.note.running = some c
  | _ => True

/-- A handler that finds a child running finds no child launched since its call. -/
def noChildSince (side : ScheduledProcess) : TerminationEvent → Prop
  | .callHandler t => ∀ timer, side.terminationTimer.created[t]? = some timer →
      side.terminationTimer.ready side.now t = true → side.process.running = true →
        timer.note.launched = side.process.children.length
  | _ => True

/-- What a call remembers, as time goes on: the child it saw running was launched before
it, and while no child was launched since, the child that runs is the one it saw. -/
structure Remembers (side : ScheduledProcess) (call : ScheduledCall) : Prop where
  launched : call.launched ≤ side.process.children.length
  before : ∀ c, call.running = some c → c < call.launched
  running : call.launched = side.process.children.length →
    ∀ c, side.runningChild = some c → call.running = some c

/-- `process` refers to the latest child, and every call remembers. -/
structure Recorded (side : ScheduledProcess) : Prop where
  latest : ∀ c, side.process.process = some c → c + 1 = side.process.children.length
  calls : ∀ call ∈ side.terminationTimer.notes, side.Remembers call

/-- No child is launched, and none that did not run runs. -/
structure Settles (side after : ScheduledProcess) : Prop where
  process : after.process.process = side.process.process
  children : after.process.children.length = side.process.children.length
  running : ∀ c, after.runningChild = some c → side.runningChild = some c

theorem Remembers.settled {call : ScheduledCall} (remembers : side.Remembers call)
    (settles : Settles side after) : after.Remembers call where
  launched := settles.children ▸ remembers.launched
  before := remembers.before
  running same c live :=
    remembers.running (same.trans settles.children) c (settles.running c live)

theorem Recorded.settled (recorded : Recorded side) (settles : Settles side after)
    (notes : after.terminationTimer.notes = side.terminationTimer.notes) : Recorded after where
  latest c refers := by
    rw [settles.children]
    exact recorded.latest c (settles.process ▸ refers)
  calls call member := (recorded.calls call (notes ▸ member)).settled settles

/-- A child that ends settles things. -/
theorem settles_exit (side after : ScheduledProcess) (c : ℕ)
    (same : after.process = side.process.exit c) :
    Settles side after where
  process := by rw [same]; rfl
  children := by rw [same]; simp [ProcessHandler.exit]
  running d live := by
    rw [runningChild_eq_some_iff, same, ProcessHandler.childRunning_exit,
      Bool.and_eq_true] at live
    exact runningChild_eq_some_iff.mpr ⟨live.1, live.2.1⟩

theorem settles_of_eq (side after : ScheduledProcess) (same : after.process = side.process) :
    Settles side after where
  process := by rw [same]
  children := by rw [same]
  running c live := by rwa [runningChild, same] at live

/-- So does `terminate()`, with a child or without. -/
theorem settles_terminate (side after : ScheduledProcess)
    (same : after.process = side.process.terminate) : Settles side after := by
  unfold ProcessHandler.terminate at same
  split at same
  · next c _ => exact settles_exit _ _ c same
  · exact settles_of_eq _ _ same

/-- A launch leaves every call behind that was made before it. -/
theorem recorded_launch (recorded : Recorded side) (invocation : ℕ) (args : String) :
    Recorded { side with process := side.process.launch invocation args } where
  latest c refers := by
    obtain rfl := Option.some.inj refers
    simp [ProcessHandler.launch]
  calls call member := by
    have remembers := recorded.calls call member
    have behind : call.launched < (side.process.launch invocation args).children.length := by
      have launched := remembers.launched
      simp only [ProcessHandler.launch, List.length_append, List.length_singleton]
      omega
    refine ⟨Nat.le_of_lt behind, remembers.before, fun same => ?_⟩
    exact absurd same (Nat.ne_of_lt behind)

/-- A new call remembers the child that runs. -/
theorem recorded_scheduleTerminate (recorded : Recorded side) (seconds : ℤ) :
    Recorded (side.scheduleTerminate seconds) := by
  rw [scheduleTerminate_frame]
  refine ⟨recorded.latest, fun call member => ?_⟩
  rw [DeadlineSlot.notes_assign, List.mem_append, List.mem_singleton] at member
  rcases member with old | rfl
  · exact (recorded.calls call old).settled (settles_of_eq _ _ rfl)
  · refine ⟨Nat.le_refl _, fun c live => ?_, fun _ c live => live⟩
    have refers := (runningChild_eq_some_iff.mp live).1
    have latest := recorded.latest c refers
    simp only
    omega

theorem recorded_callHandler (recorded : Recorded side) (t : ℕ) :
    Recorded (side.callHandler t) := by
  have notes : (side.callHandler t).terminationTimer.notes = side.terminationTimer.notes := by
    rw [terminationTimer_callHandler]
    split
    · exact DeadlineSlot.notes_handled t
    · rfl
  refine recorded.settled ?_ notes
  unfold callHandler
  split
  · rw [onTermination_frame]
    simp only
    split
    · exact settles_terminate _ _ rfl
    · exact settles_of_eq _ _ rfl
  · exact settles_of_eq _ _ rfl

theorem recorded_step (recorded : Recorded side) {event : TerminationEvent}
    (step : terminationMachine side event = some after) : Recorded after := by
  cases event with
  | start invocation args launches =>
      rw [terminationMachine, TerminationEvent.handle, Handled.next_map,
        Option.map_eq_some_iff] at step
      obtain ⟨process, started, rfl⟩ := step
      cases handled : side.process.start invocation args launches with
      | returned process' =>
          rw [handled] at started
          obtain rfl := Option.some.inj started
          rcases ProcessHandler.start_cases handled with ⟨-, rfl⟩ | ⟨-, -, rfl⟩
          · exact recorded.settled (settles_of_eq _ _ rfl) rfl
          · exact recorded_launch recorded invocation args
      | threw process' =>
          rw [handled] at started
          obtain rfl := Option.some.inj started
          obtain ⟨rfl, -, -⟩ := ProcessHandler.start_threw handled
          exact recorded.settled (settles_of_eq _ _ rfl) rfl
      | stopped process' => exact absurd handled ProcessHandler.start_ne_stopped
  | exit c => exact Option.some.inj step ▸ recorded.settled (settles_exit _ _ c rfl) rfl
  | terminate => exact Option.some.inj step ▸ recorded.settled (settles_terminate _ _ rfl) rfl
  | scheduleTerminate seconds =>
      exact Option.some.inj step ▸ recorded_scheduleTerminate recorded seconds
  | advance microseconds =>
      exact Option.some.inj step ▸ recorded.settled (settles_of_eq _ _ rfl) rfl
  | callHandler t => exact Option.some.inj step ▸ recorded_callHandler recorded t

/-- A handler hits the child its call was meant for exactly when the child it finds
running, if there is one, was not launched since. -/
theorem hitsItsChild_iff (recorded : Recorded side) (event : TerminationEvent) :
    hitsItsChild side event ↔ noChildSince side event := by
  cases event with
  | callHandler t =>
      constructor
      · intro hits timer found called live
        obtain ⟨c, refers, runs⟩ := ProcessHandler.running_iff.mp live
        have terminates : side.terminated t = some c := by
          rw [terminated, if_pos called]
          exact runningChild_eq_some_iff.mpr ⟨refers, runs⟩
        have remembers := recorded.calls _ (DeadlineSlot.mem_notes found)
        have within := remembers.before c (hits c timer terminates found)
        have latest := recorded.latest c refers
        have launched := remembers.launched
        omega
      · intro none_since c timer terminates found
        have called : side.terminationTimer.ready side.now t = true := by
          by_contra other
          simp [terminated, other] at terminates
        rw [terminated, if_pos called] at terminates
        have live : side.process.running = true :=
          ProcessHandler.running_iff.mpr ⟨c, runningChild_eq_some_iff.mp terminates⟩
        have remembers := recorded.calls _ (DeadlineSlot.mem_notes found)
        exact remembers.running (none_since timer found called live) c terminates
  | _ => exact Iff.rfl

/-- **When a scheduled termination hits only the child it was meant for.** Every child that
the handler of a call terminates is the one that ran when the call was made, throughout a
run, exactly when each handler of the run that finds a child running finds none launched
since its call. -/
theorem hits_its_child_iff (execPath arguments : String) (events : List TerminationEvent) :
    EachStep terminationMachine { process := { execPath, arguments } } events hitsItsChild ↔
      EachStep terminationMachine { process := { execPath, arguments } } events noChildSince := by
  have initially : Recorded { process := { execPath, arguments } } := by
    constructor
    · intro c refers
      cases refers
    · intro call member
      simp at member
  refine eachStep_congr Recorded ?_ ?_ initially
  · exact fun side event recorded => hitsItsChild_iff recorded event
  · exact fun side event after recorded _ step => recorded_step recorded step

/-- The child the call was meant for ends, another one is started, and the handler
terminates that one. -/
theorem termination_hits_another :
    ¬ ∀ (execPath arguments : String) (events : List TerminationEvent),
      EachStep terminationMachine { process := { execPath, arguments } } events hitsItsChild := by
  intro every
  have hits := every "/bin/sleep" "" [.start 0 "" true, .scheduleTerminate 5, .exit 0,
    .start 1 "" true, .advance 5000000, .callHandler 0]
    [.start 0 "" true, .scheduleTerminate 5, .exit 0, .start 1 "" true, .advance 5000000]
    (.callHandler 0) [] _ rfl rfl
  have meant := hits 1 _ rfl rfl
  exact absurd meant (by decide)

end ScheduledProcess

end DslinkSystem
