import DslinkSystem.Commands.Renumbering

/-!
# Commands that cannot be launched

The constructor of a child throws when the launch fails. Neither handler catches the exception, so
neither answers such a command (`launch_failure_unanswered`).

Nothing else goes wrong. The exception is thrown before anything is assigned, and leaves the
child, the buffer and `_command_timer` as they were; nothing is delivered; and every later
event does what it would have done without the invocation (`launch_failure_leavesNoTrace`).
A handler that caught the exception would answer (`launch_failure_answered_if_caught`).
-/

set_option autoImplicit false

namespace DslinkSystem

open EventRuns TimerSlots

namespace CommandSide

variable {side after : CommandSide}

/-! ## What a failed launch may leave -/

/-- The side with an empty record of what was delivered. -/
def unread (side : CommandSide) : CommandSide := { side with delivered := [] }

/-- Every run from the side that was left is one from the side before, but for one more
invocation, whose number no event names. -/
def AsIfNotInvoked (side after : CommandSide) : Prop :=
  ∃ extra, ∀ events,
    run commandMachine after.unread
        (events.map (CommandEvent.renumber (shifted side.invocations.length))) =
      (run commandMachine side.unread events).map (withInvocation side.invocations.length extra)

/-- The child and `_command_timer` are as before, no bytes were delivered, and later events
find no difference. -/
structure LeavesNoTrace (side after : CommandSide) : Prop where
  child : after.process.process = side.process.process
  children : after.process.children = side.process.children
  commandTimer : after.commandTimer = side.commandTimer
  output : ∃ answers, after.delivered = side.delivered ++ answers ∧
    ∀ answer ∈ answers, answer.2 = []
  later : AsIfNotInvoked side after

/-- The handler returns, and leaves no trace. -/
def AnswersLaunchFailure (side : CommandSide) (handled : Handled CommandSide) : Prop :=
  ∃ after, handled = .returned after ∧ LeavesNoTrace side after

/-! ## What it leaves -/

/-- `start` throws, and the handler of `Execute_Command` with it. -/
theorem executeCommand_threw (idle : side.process.running = false) {v : Var} {cmd : String}
    (given : v.cmdString = some cmd) :
    side.executeCommand v false = .threw (side.invoked .command) := by
  have running : (side.invoked .command).process.running = false := idle
  simp [executeCommand, Var.hasCmd_of_cmdString given, given, start, ProcessHandler.start, running]

/-- So does the one of `Execute_Stream_Command`. -/
theorem invokeStream_threw (idle : side.process.running = false) {v : Var} {cmd : String}
    (given : v.cmdString = some cmd) :
    side.invokeStream v false = .threw (side.invoked (.stream false)) := by
  have running : (side.invoked (.stream false)).process.running = false := idle
  simp [invokeStream, executeStreamCommand, Var.hasCmd_of_cmdString given, given, start,
    ProcessHandler.start, running]

theorem numbered_run {execPath arguments : String} {events : List CommandEvent}
    (reached : run commandMachine (new execPath arguments) events = some side) :
    side.Numbered :=
  run_keeps (fun _ _ _ numbered step => numbered.step (grows_of_step (commandStep_of_machine step)))
    (numbered_new execPath arguments) reached

/-- **An invocation of which only its number is left leaves no trace.** -/
theorem leavesNoTrace_invoked (numbered : side.Numbered) (free : side.waiting = none)
    (extra : Invocation) : LeavesNoTrace side (side.invoked extra) where
  child := rfl
  children := rfl
  commandTimer := rfl
  output := ⟨[], by simp [invoked], by simp⟩
  later := by
    have numbered' : side.unread.Numbered := ⟨numbered.launched, numbered.owned, numbered.written⟩
    have placed : side.unread.withInvocation side.invocations.length extra =
        (side.invoked extra).unread := withInvocation_length extra numbered' free rfl
    refine ⟨extra, fun events => ?_⟩
    have within : side.invocations.length ≤ side.unread.invocations.length := Nat.le_refl _
    rw [← placed]
    exact run_withInvocation extra within events

/-- **A failed launch leaves no trace**, in every reachable state in which the strand is free:
the exception leaves the handler before it changes anything. -/
theorem launch_failure_leavesNoTrace {execPath arguments : String} {events : List CommandEvent}
    (reached : run commandMachine (new execPath arguments) events = some side)
    (free : side.waiting = none) (idle : side.process.running = false) {v : Var} {cmd : String}
    (given : v.cmdString = some cmd) :
    (∃ after, side.executeCommand v false = .threw after ∧ LeavesNoTrace side after) ∧
      ∃ after, side.invokeStream v false = .threw after ∧ LeavesNoTrace side after :=
  ⟨⟨_, executeCommand_threw idle given, leavesNoTrace_invoked (numbered_run reached) free .command⟩,
    _, invokeStream_threw idle given,
    leavesNoTrace_invoked (numbered_run reached) free (.stream false)⟩

/-- A handler that returned where the exception leaves it would answer. -/
theorem launch_failure_answered_if_caught {execPath arguments : String}
    {events : List CommandEvent}
    (reached : run commandMachine (new execPath arguments) events = some side)
    (free : side.waiting = none) (idle : side.process.running = false) {v : Var} {cmd : String}
    (given : v.cmdString = some cmd) :
    AnswersLaunchFailure side (.returned (side.executeCommand v false).state) ∧
      AnswersLaunchFailure side (.returned (side.invokeStream v false).state) := by
  obtain ⟨⟨executed, threw, noTrace⟩, streamed, threw', noTrace'⟩ :=
    launch_failure_leavesNoTrace reached free idle given
  rw [threw, threw']
  exact ⟨⟨executed, rfl, noTrace⟩, streamed, rfl, noTrace'⟩

/-! ## No handler answers -/

/-- **No failed launch is answered**: whenever no child runs and a string is given as the
command, the exception leaves both handlers. -/
theorem launch_failure_unanswered (idle : side.process.running = false) {v : Var} {cmd : String}
    (given : v.cmdString = some cmd) :
    ¬ AnswersLaunchFailure side (side.executeCommand v false) ∧
      ¬ AnswersLaunchFailure side (side.invokeStream v false) := by
  rw [executeCommand_threw idle given, invokeStream_threw idle given]
  constructor
  · rintro ⟨after, returned, -⟩
    cases returned
  · rintro ⟨after, returned, -⟩
    cases returned

/-- The value with which a client asks for a command. -/
def cmdVar (cmd : String) : Var := .map [("cmd", .string cmd)]

theorem launch_failure_unanswered_missing :
    (new "/usr/bin/dslink" "").process.running = false ∧
      (cmdVar "no-such-program").cmdString = some "no-such-program" ∧
      ¬ AnswersLaunchFailure (new "/usr/bin/dslink" "")
        ((new "/usr/bin/dslink" "").executeCommand (cmdVar "no-such-program") false) ∧
      ¬ AnswersLaunchFailure (new "/usr/bin/dslink" "")
        ((new "/usr/bin/dslink" "").invokeStream (cmdVar "no-such-program") false) :=
  ⟨rfl, rfl, launch_failure_unanswered rfl rfl⟩

/-- A program that does not exist, given to a new node. -/
theorem launch_failure_escapes :
    ¬ ∀ (execPath arguments : String) (events : List CommandEvent) (side : CommandSide),
      run commandMachine (new execPath arguments) events = some side →
        side.process.running = false → ∀ (v : Var) (cmd : String), v.cmdString = some cmd →
          AnswersLaunchFailure side (side.executeCommand v false) ∧
            AnswersLaunchFailure side (side.invokeStream v false) := by
  intro every
  obtain ⟨⟨after, returned, -⟩, -⟩ := every "/usr/bin/dslink" "" [] _ rfl rfl
    (cmdVar "no-such-program") _ rfl
  rw [executeCommand_threw rfl rfl] at returned
  cases returned

end CommandSide

end DslinkSystem
