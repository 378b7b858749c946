import DslinkSystem.Commands.CommandSteps
import DslinkSystem.Polling.PollView

/-!
# The link's node

`InfoDsLinkNode` polls and executes commands on one strand: a handler of
`Execute_Command` that waits for its child keeps every other handler and timer
waiting. A run of the node is a run of its polling side and a run of its command side
(`run_poll`, `run_commands`).

Three timer references start out null. `network_timer` is only used behind a guard.
The other two are used by handlers that do not create them: a write to `Poll_Rate`
uses `_timer`, and the closing of a stream uses `_command_timer`. No handler of a run
uses a null reference exactly when the references were made before
(`no_null_timer_iff`).
-/

set_option autoImplicit false

namespace DslinkSystem

open EventRuns TimerSlots

variable {target : Platform}

/-- `InfoDsLinkNode`. -/
structure InfoDsLinkNode (target : Platform) where
  poll : PollSide target
  commands : CommandSide

/-- What happens to the node. -/
inductive NodeEvent (target : Platform) where
  | poll (event : PollEvent target)
  | command (event : CommandEvent)

namespace InfoDsLinkNode

/-- The constructor of the node, over a process handler. -/
def new (target : Platform) (execPath arguments : String) : InfoDsLinkNode target where
  poll := .new target
  commands := .new execPath arguments

end InfoDsLinkNode

/-- The handling of one event. -/
def NodeEvent.handle (node : InfoDsLinkNode target) :
    NodeEvent target → Handled (InfoDsLinkNode target)
  | poll event =>
      if node.commands.waiting = none then
        (event.handle node.poll).map fun poll => { node with poll }
      else .returned node
  | command event => (event.handle node.commands).map fun commands => { node with commands }

/-- The machine of the node. -/
def nodeMachine : Machine (InfoDsLinkNode target) (NodeEvent target) :=
  fun node event => (event.handle node).next

namespace InfoDsLinkNode

variable {node after : InfoDsLinkNode target}

/-! ## The two sides -/

/-- An event of the polling side, when no handler keeps the strand. -/
theorem nodeMachine_poll (event : PollEvent target) :
    nodeMachine node (.poll event) =
      if node.commands.waiting = none then
        (pollMachine node.poll event).map fun poll => { node with poll }
      else some node := by
  simp only [nodeMachine, NodeEvent.handle]
  split
  · exact Handled.next_map _ _
  · rfl

theorem nodeMachine_command (event : CommandEvent) :
    nodeMachine node (.command event) =
      (commandMachine node.commands event).map fun commands => { node with commands } :=
  Handled.next_map _ _

/-- A step of the node is a step of one side at most. -/
theorem step_cases {event : NodeEvent target} (step : nodeMachine node event = some after) :
    ((∃ polled, event = .poll polled) ∧ node.commands.waiting ≠ none ∧ after = node) ∨
      (∃ polled, event = .poll polled ∧ node.commands.waiting = none ∧
        pollMachine node.poll polled = some after.poll ∧ after.commands = node.commands) ∨
      ∃ commanded, event = .command commanded ∧
        commandMachine node.commands commanded = some after.commands ∧ after.poll = node.poll := by
  cases event with
  | poll event =>
      rw [nodeMachine_poll] at step
      split at step
      · next free =>
          obtain ⟨poll, polled, rfl⟩ := Option.map_eq_some_iff.mp step
          exact .inr (.inl ⟨event, rfl, free, polled, rfl⟩)
      · next busy => exact .inl ⟨⟨event, rfl⟩, busy, (Option.some.inj step).symm⟩
  | command event =>
      rw [nodeMachine_command] at step
      obtain ⟨commands, commanded, rfl⟩ := Option.map_eq_some_iff.mp step
      exact .inr (.inr ⟨event, rfl, commanded, rfl⟩)

/-- **A run of the node is a run of its polling side.** -/
theorem run_poll {start : InfoDsLinkNode target} {events : List (NodeEvent target)}
    (reached : run nodeMachine start events = some node) :
    ∃ events', run pollMachine start.poll events' = some node.poll := by
  refine run_simulates (fun node : InfoDsLinkNode target => node.poll) ?_ reached
  intro node event after step
  rcases step_cases step with ⟨-, -, rfl⟩ | ⟨polled, -, -, moved, -⟩ | ⟨-, -, -, same⟩
  · exact ⟨[], rfl⟩
  · exact ⟨[polled], by simpa using moved⟩
  · exact ⟨[], by rw [same]; rfl⟩

/-- **A run of the node is a run of its command side.** -/
theorem run_commands {start : InfoDsLinkNode target} {events : List (NodeEvent target)}
    (reached : run nodeMachine start events = some node) :
    ∃ events', run commandMachine start.commands events' = some node.commands := by
  refine run_simulates (fun node : InfoDsLinkNode target => node.commands) ?_ reached
  intro node event after step
  rcases step_cases step with ⟨-, -, rfl⟩ | ⟨-, -, -, -, same⟩ | ⟨commanded, -, moved, -⟩
  · exact ⟨[], rfl⟩
  · exact ⟨[], by rw [same]; rfl⟩
  · exact ⟨[commanded], by simpa using moved⟩

/-- **The children of `Network_Interfaces` stay served in every run of the node**, from
some table. -/
theorem children_served_run {execPath arguments : String} {events : List (NodeEvent target)}
    (reached : run nodeMachine (new target execPath arguments) events = some node) :
    ∃ table, InfoDsLinkNodeNetwork.Served table node.poll.networkInterfaces := by
  obtain ⟨events', polled⟩ := run_poll reached
  have keeps : ∀ (side : PollSide target) (event : PollEvent target) (after : PollSide target),
      (side.PollInvariant ∧ ∃ table, InfoDsLinkNodeNetwork.Serving table side.networkInterfaces) →
        pollMachine side event = some after → after.PollInvariant ∧
          ∃ table, InfoDsLinkNodeNetwork.Serving table after.networkInterfaces := by
    rintro side event after ⟨invariant, serving⟩ step
    exact ⟨(PollSide.view_step invariant step).invariant,
      PollSide.serving_step invariant serving step⟩
  have initially : InfoDsLinkNodeNetwork.Serving ∅ (PollSide.new target).networkInterfaces :=
    PollSide.serving_congr .new rfl rfl rfl rfl
  obtain ⟨-, table, serving⟩ := run_keeps keeps ⟨PollSide.pollInvariant_new, ∅, initially⟩ polled
  exact ⟨table, serving.served⟩

end InfoDsLinkNode

/-! ## Which events make the timers -/

/-- The event makes a poll timer, if there is none: a subscription whose callback can
compute the interval. -/
def PollSide.makesTimer (side : PollSide target) : PollEvent target → Prop
  | .subscribe _ => side.rated = true
  | .subscribeNetwork _ => True
  | _ => False

/-- `_timer` refers to a timer from the first such subscription on. -/
theorem PollSide.ref_step {side after : PollSide target} (invariant : side.PollInvariant)
    {event : PollEvent target} (step : pollMachine side event = some after) :
    after.timer.ref ≠ none ↔ side.timer.ref ≠ none ∨ side.makesTimer event := by
  cases event with
  | subscribe key =>
      rw [(onSubscribe_next invariant step).1, TimerSlot.ref_ensure]
      simp [makesTimer, rated, Option.isSome_iff_ne_none]
  | subscribeNetwork interfaces =>
      rw [(onSubscribeNetwork_next invariant step).1, TimerSlot.ref_ensure]
      simp [makesTimer]
  | unsubscribe key =>
      obtain rfl := Option.some.inj step
      simp [makesTimer, onUnsubscribe, setNode]
  | unsubscribeNetwork =>
      obtain rfl := Option.some.inj step
      simp [makesTimer, onUnsubscribeNetwork]
  | tick t read interfaces =>
      obtain ⟨-, rfl⟩ | ⟨callback, -, -, -, rfl⟩ := tick_cases invariant step
      · simp [makesTimer]
      · simp [makesTimer]
  | setPollRate value =>
      rcases onSetValue_next step with rfl | ⟨milliseconds, timer, changed, rfl⟩
      · simp [makesTimer]
      · simp [makesTimer, (TimerSlot.setInterval_frame changed).1]
  | network event =>
      rw [pollMachine, PollEvent.handle, Handled.next_map, Option.map_eq_some_iff] at step
      obtain ⟨network, -, rfl⟩ := step
      simp [makesTimer]

/-- The event makes a command timer: an invocation of `Execute_Stream_Command` that
gets past `start`. -/
def CommandSide.makesTimer (side : CommandSide) : CommandEvent → Prop
  | .invokeStream v launches =>
      side.waiting = none ∧ v.cmdString ≠ none ∧ (side.process.running = true ∨ launches = true)
  | _ => False

/-- `_command_timer` refers to a timer from the first such invocation on. -/
theorem CommandSide.ref_step {side after : CommandSide} {event : CommandEvent}
    (step : CommandStep side event after) :
    after.commandTimer.ref ≠ none ↔ side.commandTimer.ref ≠ none ∨ side.makesTimer event := by
  cases step with
  | busy waits =>
      cases event <;> simp [makesTimer, waits]
  | notOpen | waits | silent | refused | failed | executed | returned | exit | append | endOfFile =>
      simp [makesTimer, CommandSide.invoked, deliver, drained]
  | refusedStream free given => simp [makesTimer, CommandSide.invoked, given]
  | failedStream free given idle fails => simp [makesTimer, CommandSide.invoked, idle, fails]
  | executedStream free given started =>
      simp [makesTimer, free, given, ProcessHandler.running_or_launches started]
  | closed free opened destroyed =>
      obtain ⟨t, -, rfl⟩ := TimerSlot.destroy_cases destroyed
      simp [makesTimer]
  | ended | sent | quiet => simp [makesTimer]

namespace InfoDsLinkNode

variable {node after : InfoDsLinkNode target}

/-! ## Null timers -/

/-- The node makes its poll timer, if it has none. -/
def makesPollTimer (node : InfoDsLinkNode target) : NodeEvent target → Prop
  | .poll event => node.commands.waiting = none ∧ node.poll.makesTimer event
  | .command _ => False

/-- The node makes a command timer. -/
def makesCommandTimer (node : InfoDsLinkNode target) : NodeEvent target → Prop
  | .poll _ => False
  | .command event => node.commands.makesTimer event

/-- The handler of the event uses `_timer` unguarded: an integer is written to
`Poll_Rate`. -/
def usesPollTimer (node : InfoDsLinkNode target) : NodeEvent target → Prop
  | .poll (.setPollRate value) => node.commands.waiting = none ∧ value.getInt ≠ none
  | _ => False

/-- The handler of the event uses `_command_timer` unguarded: a stream closes. -/
def usesCommandTimer (node : InfoDsLinkNode target) : NodeEvent target → Prop
  | .command (.closeStream stream) =>
      node.commands.waiting = none ∧ node.commands.isOpen stream = true
  | _ => False

/-- A write to `Poll_Rate` stops the program exactly when it is of an integer and
`_timer` is null. -/
theorem setPollRate_stops_iff (side : PollSide target) (value : Var) :
    pollMachine side (.setPollRate value) = none ↔ value.getInt ≠ none ∧ side.timer.ref = none := by
  simp only [pollMachine, PollEvent.handle, PollSide.onSetValue, PollSide.getValue]
  cases value.getInt with
  | none => simp
  | some i =>
      cases refers : side.timer.ref <;> simp [TimerSlot.setInterval, refers]

/-- A closing stops the program exactly when it is of an open stream and
`_command_timer` is null. -/
theorem closeStream_stops_iff (side : CommandSide) (stream : ℕ) :
    commandMachine side (.closeStream stream) = none ↔
      (side.waiting = none ∧ side.isOpen stream = true) ∧ side.commandTimer.ref = none := by
  simp only [commandMachine, CommandEvent.handle, CommandSide.onStrand]
  by_cases free : side.waiting = none
  · cases opened : side.isOpen stream with
    | false => simp [free, CommandSide.closeStream, opened]
    | true =>
        rw [if_pos free, CommandSide.closeStream_of_isOpen opened]
        cases refers : side.commandTimer.ref <;> simp [free, TimerSlot.destroy, refers]
  · simp [free]

/-- **A step stops the program exactly when its handler uses a null timer
unguarded.** -/
theorem nodeMachine_stops_iff (invariant : node.poll.PollInvariant) (event : NodeEvent target) :
    nodeMachine node event = none ↔
      node.usesPollTimer event ∧ node.poll.timer.ref = none ∨
        node.usesCommandTimer event ∧ node.commands.commandTimer.ref = none := by
  cases event with
  | poll event =>
      rw [nodeMachine_poll]
      cases noWrite : event.isWrite with
      | true =>
          cases event with
          | setPollRate value =>
              by_cases free : node.commands.waiting = none
              · simp [free, setPollRate_stops_iff, usesPollTimer, usesCommandTimer]
              · simp [free, usesPollTimer, usesCommandTimer]
          | _ => cases noWrite
      | false =>
          obtain ⟨poll, moved⟩ := PollSide.goes_on invariant noWrite
          have unused : ¬ node.usesPollTimer (.poll event) := by
            cases event with
            | setPollRate value => cases noWrite
            | _ => exact id
          rw [moved]
          refine iff_of_false ?_ ?_
          · split <;> simp
          · rintro (⟨used, -⟩ | ⟨used, -⟩)
            · exact unused used
            · exact used
  | command event =>
      rw [nodeMachine_command, Option.map_eq_none_iff]
      by_cases closes : ∃ stream, event = .closeStream stream
      · obtain ⟨stream, rfl⟩ := closes
        simp [closeStream_stops_iff, usesPollTimer, usesCommandTimer]
      · have other : ∀ stream, event ≠ .closeStream stream := fun stream same =>
          closes ⟨stream, same⟩
        obtain ⟨commands, moved⟩ := CommandSide.goes_on other
        have unused : ¬ node.usesCommandTimer (.command event) := by
          cases event with
          | closeStream stream => exact absurd rfl (other stream)
          | _ => exact id
        rw [moved]
        refine iff_of_false (by simp) ?_
        rintro (⟨used, -⟩ | ⟨used, -⟩)
        · exact used
        · exact unused used

/-- The invariant of the polling side is kept by the steps of the node. -/
theorem pollInvariant_step (invariant : node.poll.PollInvariant) {event : NodeEvent target}
    (step : nodeMachine node event = some after) : after.poll.PollInvariant := by
  rcases step_cases step with ⟨-, -, rfl⟩ | ⟨polled, -, -, moved, -⟩ | ⟨-, -, -, same⟩
  · exact invariant
  · exact (PollSide.view_step invariant moved).invariant
  · exact same ▸ invariant

/-- `_timer` is not null after a run exactly when an event of the run made it. -/
theorem pollTimer_iff {execPath arguments : String} {events : List (NodeEvent target)}
    (reached : run nodeMachine (new target execPath arguments) events = some node) :
    node.poll.timer.ref ≠ none ↔
      Happened nodeMachine (new target execPath arguments) events makesPollTimer := by
  have sets : ∀ (node : InfoDsLinkNode target) (event : NodeEvent target) after,
      node.poll.PollInvariant → nodeMachine node event = some after →
        (after.poll.timer.ref ≠ none ↔ node.poll.timer.ref ≠ none ∨ makesPollTimer node event) := by
    intro node event after invariant step
    rcases step_cases step with
      ⟨⟨polled, rfl⟩, busy, rfl⟩ | ⟨polled, rfl, free, moved, -⟩ | ⟨commanded, rfl, -, same⟩
    · simp [makesPollTimer, busy]
    · rw [PollSide.ref_step invariant moved]
      simp [makesPollTimer, free]
    · simp [same, makesPollTimer]
  have marked := mark_iff_happened (fun node : InfoDsLinkNode target => node.poll.PollInvariant)
    (fun _ _ _ invariant step => pollInvariant_step invariant step) sets PollSide.pollInvariant_new
    reached
  simpa [new, PollSide.new, TimerSlot.empty] using marked

/-- `_command_timer` is not null after a run exactly when an event of the run made
one. -/
theorem commandTimer_iff {execPath arguments : String} {events : List (NodeEvent target)}
    (reached : run nodeMachine (new target execPath arguments) events = some node) :
    node.commands.commandTimer.ref ≠ none ↔
      Happened nodeMachine (new target execPath arguments) events makesCommandTimer := by
  have sets : ∀ (node : InfoDsLinkNode target) (event : NodeEvent target) after,
      True → nodeMachine node event = some after →
        (after.commands.commandTimer.ref ≠ none ↔
          node.commands.commandTimer.ref ≠ none ∨ makesCommandTimer node event) := by
    intro node event after _ step
    rcases step_cases step with
      ⟨⟨polled, rfl⟩, busy, rfl⟩ | ⟨polled, rfl, -, -, same⟩ | ⟨commanded, rfl, moved, -⟩
    · simp [makesCommandTimer]
    · simp [same, makesCommandTimer]
    · rw [CommandSide.ref_step (CommandSide.commandStep_of_machine moved)]
      rfl
  have marked := mark_iff_happened (fun _ : InfoDsLinkNode target => True)
    (fun _ _ _ _ _ => trivial) sets trivial reached
  simpa [new, CommandSide.new, TimerSlot.empty] using marked

/-- The handlers of a run that use a timer unguarded find it made by an earlier event
of the run. -/
structure MadeBeforeUse (start : InfoDsLinkNode target) (events : List (NodeEvent target)) :
    Prop where
  poll : ∀ {before event after node}, events = before ++ event :: after →
    run nodeMachine start before = some node → usesPollTimer node event →
      Happened nodeMachine start before makesPollTimer
  command : ∀ {before event after node}, events = before ++ event :: after →
    run nodeMachine start before = some node → usesCommandTimer node event →
      Happened nodeMachine start before makesCommandTimer

/-- **When no null timer is used.** A run of a new node is handled to its end, so that
no handler uses a null `_timer`, `_command_timer` or `network_timer`, exactly when
every write of an integer to `Poll_Rate` follows a subscription that makes `_timer`,
and every closing of an open stream follows an invocation of `Execute_Stream_Command`
that got past `start`. -/
theorem no_null_timer_iff (execPath arguments : String) (events : List (NodeEvent target)) :
    (∃ node, run nodeMachine (new target execPath arguments) events = some node) ↔
      MadeBeforeUse (new target execPath arguments) events := by
  rw [exists_run_iff]
  have invariant : ∀ {before : List (NodeEvent target)} {node : InfoDsLinkNode target},
      run nodeMachine (new target execPath arguments) before = some node →
        node.poll.PollInvariant := fun reached =>
    run_keeps (fun _ _ _ invariant step => pollInvariant_step invariant step)
      PollSide.pollInvariant_new reached
  constructor
  · intro each
    refine ⟨fun split reached used => ?_, fun split reached used => ?_⟩
    · rw [← pollTimer_iff reached]
      intro null
      exact each _ _ _ _ split reached
        ((nodeMachine_stops_iff (invariant reached) _).mpr (.inl ⟨used, null⟩))
    · rw [← commandTimer_iff reached]
      intro null
      exact each _ _ _ _ split reached
        ((nodeMachine_stops_iff (invariant reached) _).mpr (.inr ⟨used, null⟩))
  · intro made before event after node split reached stops
    rcases (nodeMachine_stops_iff (invariant reached) event).mp stops with
      ⟨used, null⟩ | ⟨used, null⟩
    · exact (pollTimer_iff reached).mpr (made.poll split reached used) null
    · exact (commandTimer_iff reached).mpr (made.command split reached used) null

/-- A write to `Poll_Rate` of a node that nobody subscribed to. -/
theorem poll_rate_of_a_new_node :
    ¬ ∀ events : List (NodeEvent .linux),
      ∃ node, run nodeMachine (new .linux "" "") events = some node := by
  intro every
  obtain ⟨node, reached⟩ := every [.poll (.setPollRate (.int 1))]
  cases reached

end InfoDsLinkNode

end DslinkSystem
