import DslinkSystem.Commands.Accounting
import DslinkSystem.Node.InfoDsLinkNode

/-!
# Polling and commands share one strand

The handler of `Execute_Command` keeps the strand while it waits for its child. While a command
waits, nothing is polled, no subscription is taken, no stream is opened,
closed or sent on, and no other command is executed. The wait ends exactly when the
child has ended and `wait()` returns after that, and the command is answered then and
only then (`waiting_holds_the_strand`). A command that never ends stops the node.
-/

set_option autoImplicit false

namespace DslinkSystem

open EventRuns TimerSlots

variable {target : Platform}

/-! ## While a command waits -/

namespace CommandSide

variable {side after : CommandSide} {invocation : ℕ}

/-- The event brings the wait nearer to its end: the child that is waited for ends. -/
def endsChild (side : CommandSide) : CommandEvent → Bool
  | .exit c => decide (side.process.process = some c)
  | _ => false

/-- The wait is over at the event. -/
def returns (side : CommandSide) : CommandEvent → Bool
  | .waitReturns => !side.process.running
  | _ => false

/-- Nothing but the output and the children changes. -/
structure Held (side after : CommandSide) : Prop where
  invocations : after.invocations = side.invocations
  commandTimer : after.commandTimer = side.commandTimer
  delivered : after.delivered = side.delivered
  waiting : after.waiting = side.waiting
  child : after.process.process = side.process.process

theorem Held.trans {middle : CommandSide} (first : Held side middle) (second : Held middle after) :
    Held side after where
  invocations := second.invocations.trans first.invocations
  commandTimer := second.commandTimer.trans first.commandTimer
  delivered := second.delivered.trans first.delivered
  waiting := second.waiting.trans first.waiting
  child := second.child.trans first.child

theorem Held.refl : Held side side := ⟨rfl, rfl, rfl, rfl, rfl⟩

theorem running_exit (c : ℕ) :
    (side.process.exit c).running =
      (side.process.running && !decide (side.process.process = some c)) := by
  have child : (side.process.exit c).process = side.process.process := rfl
  rw [ProcessHandler.running, child, ProcessHandler.running]
  cases side.process.process with
  | none => rfl
  | some d => simp [eq_comm]

/-- While a command waits, a step that does not end the wait changes the output and the
children only, and the child that is waited for runs until it ends. -/
theorem held_step (waits : side.waiting ≠ none) {event : CommandEvent}
    (goes : side.returns event = false) (step : commandMachine side event = some after) :
    Held side after ∧ after.process.running =
      (side.process.running && !side.endsChild event) := by
  have busy : ∀ {handled : Handled CommandSide}, (side.onStrand handled).next = some after →
      after = side := by
    intro handled moved
    rcases onStrand_cases moved with ⟨-, same⟩ | ⟨free, -⟩
    · exact same
    · exact absurd free waits
  cases event with
  | executeCommand | invokeStream | closeStream | tick =>
      rw [busy step]
      exact ⟨Held.refl, by simp [endsChild]⟩
  | waitReturns =>
      obtain rfl := Option.some.inj step
      have live : side.process.running = true := by simpa [returns] using goes
      have same : side.waitReturns = side := by
        obtain ⟨invocation, waited⟩ := Option.ne_none_iff_exists'.mp waits
        simp [waitReturns, waited, live]
      rw [same]
      exact ⟨Held.refl, by simp [endsChild]⟩
  | exit c =>
      obtain rfl := Option.some.inj step
      exact ⟨⟨rfl, rfl, rfl, rfl, rfl⟩, running_exit c⟩
  | append c bytes =>
      obtain rfl := Option.some.inj step
      rw [ProcessHandler.append_frame]
      refine ⟨⟨rfl, rfl, rfl, rfl, rfl⟩, ?_⟩
      simp [endsChild, ProcessHandler.running]
      rfl
  | endOfFile c =>
      obtain rfl := Option.some.inj step
      refine ⟨⟨rfl, rfl, rfl, rfl, rfl⟩, ?_⟩
      simp only [ProcessHandler.running, endsChild, Bool.not_false, Bool.and_true]
      exact congrArg (Option.any · side.process.process)
        (funext fun d => ProcessHandler.childRunning_endOfFile c d)

/-- The step that ends the wait answers the command. -/
theorem answers_of_returns (waits : side.waiting = some invocation) {event : CommandEvent}
    (ends : side.returns event = true) (step : commandMachine side event = some after) :
    after.answers invocation = side.answers invocation + 1 ∧ after.waiting = none := by
  cases event with
  | waitReturns =>
      obtain rfl := Option.some.inj step
      have idle : side.process.running = false := by simpa [returns] using ends
      have done : side.waitReturns = { side.drained invocation with waiting := none } := by
        simp [waitReturns, waits, idle, ProcessHandler.getOutput, drained, deliver]
      rw [done]
      refine ⟨?_, rfl⟩
      have given : (side.drained invocation).answers invocation = _ :=
        answers_drained invocation invocation
      rwa [if_pos rfl] at given
  | _ => cases ends

/-- Once a command does not wait, it gets no answer any more. -/
theorem answers_stay (answering : Answering side) (command : side.isCommand invocation)
    (answered : side.waiting ≠ some invocation) {events : List CommandEvent}
    (reached : run commandMachine side events = some after) :
    after.answers invocation = side.answers invocation := by
  have keeps : ∀ (before : CommandSide) event next,
      (Answering before ∧ before.isCommand invocation ∧ before.waiting ≠ some invocation ∧
        before.answers invocation = side.answers invocation) →
      commandMachine before event = some next →
        Answering next ∧ next.isCommand invocation ∧ next.waiting ≠ some invocation ∧
          next.answers invocation = side.answers invocation := by
    rintro before event next ⟨answering, command, answered, same⟩ step
    have happened := commandStep_of_machine step
    obtain ⟨answering', settles⟩ := answering.step happened
    obtain ⟨command', due'⟩ := (settles invocation).old command
    have answered' : next.waiting ≠ some invocation := by
      intro waits
      cases happened with
      | executed free given started =>
          obtain rfl := Option.some.inj waits
          exact Nat.lt_irrefl _ (isCommand_lt command)
      | returned waited idle => cases waits
      | _ => exact answered waits
    rw [due, due, if_neg answered', if_neg answered] at due'
    exact ⟨answering', command', answered', due'.trans same⟩
  exact (run_keeps keeps ⟨answering, command, answered, rfl⟩ reached).2.2.2

end CommandSide

namespace InfoDsLinkNode

variable {node next finish : InfoDsLinkNode target} {invocation : ℕ}

/-- Among the events is a return of `wait()` after the end of the child that is waited
for. -/
def waitOver (node : InfoDsLinkNode target) (later : List (NodeEvent target)) : Prop :=
  ∃ before after, later = before ++ .command .waitReturns :: after ∧
    (node.commands.process.running = false ∨
      ∃ c, node.commands.process.process = some c ∧ .command (.exit c) ∈ before)

/-- The event is the one that ends the wait. -/
def returns (node : InfoDsLinkNode target) : NodeEvent target → Bool
  | .poll _ => false
  | .command event => node.commands.returns event

/-- The event is the end of the child that is waited for. -/
def endsChild (node : InfoDsLinkNode target) : NodeEvent target → Bool
  | .poll _ => false
  | .command event => node.commands.endsChild event

theorem returns_iff (event : NodeEvent target) : node.returns event = true ↔
    event = .command .waitReturns ∧ node.commands.process.running = false := by
  cases event with
  | poll event => simp [returns]
  | command event => cases event <;> simp [returns, CommandSide.returns]

theorem endsChild_iff (event : NodeEvent target) : node.endsChild event = true ↔
    ∃ c, node.commands.process.process = some c ∧ event = .command (.exit c) := by
  cases event with
  | poll event => simp [endsChild]
  | command event => cases event <;> simp [endsChild, CommandSide.endsChild]

/-- While a command waits, a step that does not end the wait leaves the polling side and
everything but the children and their output alone. -/
theorem held_step (waits : node.commands.waiting ≠ none) {event : NodeEvent target}
    (goes : node.returns event = false) (step : nodeMachine node event = some next) :
    next.poll = node.poll ∧ CommandSide.Held node.commands next.commands ∧
      next.commands.process.running =
        (node.commands.process.running && !node.endsChild event) := by
  rcases step_cases step with ⟨⟨polled, rfl⟩, -, rfl⟩ | ⟨-, -, free, -⟩ | ⟨event, rfl, moved, same⟩
  · exact ⟨rfl, CommandSide.Held.refl, by simp [endsChild]⟩
  · exact absurd free waits
  · obtain ⟨held, running⟩ := CommandSide.held_step waits goes moved
    exact ⟨same, held, running⟩

/-- A step that does not end the wait leaves the rest of the events to end it. -/
theorem waitOver_cons (waits : node.commands.waiting ≠ none) {event : NodeEvent target}
    {later : List (NodeEvent target)} (goes : node.returns event = false)
    (step : nodeMachine node event = some next) :
    node.waitOver (event :: later) ↔ next.waitOver later := by
  obtain ⟨-, held, running⟩ := held_step waits goes step
  constructor
  · rintro ⟨before, after, split, ended⟩
    cases before with
    | nil =>
        obtain ⟨rfl, rfl⟩ := List.cons.inj split
        rcases ended with idle | ⟨c, -, member⟩
        · have ends := (returns_iff _).mpr ⟨rfl, idle⟩
          rw [goes] at ends
          cases ends
        · cases member
    | cons first before =>
        obtain ⟨rfl, tail⟩ := List.cons.inj split
        refine ⟨before, after, tail, ?_⟩
        rcases ended with idle | ⟨c, child, member⟩
        · exact .inl (by rw [running, idle, Bool.false_and])
        · rcases List.mem_cons.mp member with rfl | later
          · have ends := (endsChild_iff _).mpr ⟨c, child, rfl⟩
            exact .inl (by rw [running, ends, Bool.not_true, Bool.and_false])
          · exact .inr ⟨c, held.child.trans child, later⟩
  · rintro ⟨before, after, rfl, ended⟩
    refine ⟨event :: before, after, rfl, ?_⟩
    rcases ended with idle | ⟨c, child, member⟩
    · rw [running, Bool.and_eq_false_iff, Bool.not_eq_false'] at idle
      rcases idle with idle | ends
      · exact .inl idle
      · obtain ⟨c, child, rfl⟩ := (endsChild_iff _).mp ends
        exact .inr ⟨c, child, List.mem_cons_self ..⟩
    · exact .inr ⟨c, held.child.symm.trans child, List.mem_cons_of_mem _ member⟩

/-- What becomes of a wait over a run. -/
theorem wait_run (answering : node.commands.Answering)
    (waits : node.commands.waiting = some invocation) {later : List (NodeEvent target)}
    (rest : run nodeMachine node later = some finish) :
    (node.waitOver later →
      finish.commands.answers invocation = node.commands.answers invocation + 1) ∧
    (¬ node.waitOver later →
      finish.poll = node.poll ∧ CommandSide.Held node.commands finish.commands) := by
  induction later generalizing node with
  | nil =>
      obtain rfl := Option.some.inj rest
      refine ⟨?_, fun _ => ⟨rfl, CommandSide.Held.refl⟩⟩
      rintro ⟨before, after, split, -⟩
      simp at split
  | cons event later ih =>
      rw [run_cons, Option.bind_eq_some_iff] at rest
      obtain ⟨next, step, rest⟩ := rest
      have busy : node.commands.waiting ≠ none := by simp [waits]
      cases ends : node.returns event with
      | true =>
          obtain ⟨rfl, idle⟩ := (returns_iff _).mp ends
          have done : node.waitOver (.command .waitReturns :: later) :=
            ⟨[], later, rfl, .inl idle⟩
          refine ⟨fun _ => ?_, fun goes => absurd done goes⟩
          rw [nodeMachine_command, Option.map_eq_some_iff] at step
          obtain ⟨commands, moved, rfl⟩ := step
          obtain ⟨answered, none_waits⟩ := CommandSide.answers_of_returns waits
            (show node.commands.returns .waitReturns = true from ends) moved
          obtain ⟨answering', settles⟩ := answering.step (CommandSide.commandStep_of_machine moved)
          obtain ⟨command, -⟩ := (settles invocation).old (answering.waits waits)
          obtain ⟨events', commanded⟩ := run_commands rest
          rw [← answered]
          exact CommandSide.answers_stay answering' command (by simp [none_waits]) commanded
      | false =>
          obtain ⟨poll, held, -⟩ := held_step busy ends step
          have answering' : next.commands.Answering := by
            rcases step_cases step with ⟨-, -, rfl⟩ | ⟨-, -, -, -, same⟩ | ⟨event, -, moved, -⟩
            · exact answering
            · exact same ▸ answering
            · exact (answering.step (CommandSide.commandStep_of_machine moved)).1
          have same : next.commands.answers invocation = node.commands.answers invocation := by
            rw [CommandSide.answers, held.delivered, CommandSide.answers]
          obtain ⟨answered, stays⟩ := ih answering' (held.waiting.trans waits) rest
          rw [waitOver_cons busy ends step, ← same]
          refine ⟨answered, fun goes => ?_⟩
          obtain ⟨poll', held'⟩ := stays goes
          exact ⟨poll'.trans poll, held.trans held'⟩

/-- **A command that waits holds the whole node.** In every run of a new node in which an
invocation of `Execute_Command` waits, and whatever happens after that: the invocation is
answered exactly when `wait()` returned after the child had ended, and until then the
polling side, the streams, the command timers and what was delivered stay as they were. -/
theorem waiting_holds_the_strand (execPath arguments : String)
    (events later : List (NodeEvent target)) (node finish : InfoDsLinkNode target)
    (reached : run nodeMachine (new target execPath arguments) events = some node)
    (rest : run nodeMachine node later = some finish)
    (invocation : ℕ) (waits : node.commands.waiting = some invocation) :
    (finish.commands.answers invocation = 1 ↔ node.waitOver later) ∧
    (¬ node.waitOver later →
      finish.poll = node.poll ∧ finish.commands.invocations = node.commands.invocations ∧
        finish.commands.commandTimer = node.commands.commandTimer ∧
        finish.commands.delivered = node.commands.delivered ∧
        finish.commands.waiting = some invocation) := by
  obtain ⟨events', commands⟩ := run_commands reached
  have answering := CommandSide.answering_run commands
  have once := answering.once (answering.waits waits)
  rw [CommandSide.due, if_pos waits] at once
  have none_yet : node.commands.answers invocation = 0 :=
    Nat.le_zero.mp (Nat.le_of_succ_le_succ once)
  obtain ⟨answered, stays⟩ := wait_run answering waits rest
  refine ⟨⟨fun one => ?_, fun ends => ?_⟩, fun goes => ?_⟩
  · by_contra goes
    obtain ⟨-, held⟩ := stays goes
    rw [CommandSide.answers, held.delivered] at one
    exact Nat.zero_ne_one (none_yet.symm.trans one)
  · rw [answered ends, none_yet]
  · obtain ⟨poll, held⟩ := stays goes
    exact ⟨poll, held.invocations, held.commandTimer, held.delivered, held.waiting.trans waits⟩

/-- A subscription while a command waits. -/
theorem waiting_holds_the_strand_of_one :
    ∃ node finish, run nodeMachine (new .linux "" "")
        [.command (.executeCommand (.map [("cmd", .string "a")]) true)] = some node ∧
      run nodeMachine node [.poll (.subscribe ⟨.hostname, rfl⟩), .command .waitReturns] =
        some finish ∧
      finish.poll = node.poll := by
  refine ⟨_, _, rfl, rfl, ?_⟩
  have held := @waiting_holds_the_strand .linux "" ""
    [.command (.executeCommand (.map [("cmd", .string "a")]) true)]
    [.poll (.subscribe ⟨.hostname, rfl⟩), .command .waitReturns] _ _ rfl rfl 0 rfl
  refine (held.2 ?_).1
  rintro ⟨before, after, split, idle | ⟨c, -, member⟩⟩
  · cases idle
  · have listed : NodeEvent.command (.exit c) ∈ ([.poll (.subscribe ⟨.hostname, rfl⟩),
        .command .waitReturns] : List (NodeEvent .linux)) := by
      rw [split]
      exact List.mem_append_left _ member
    simp at listed

end InfoDsLinkNode

end DslinkSystem
