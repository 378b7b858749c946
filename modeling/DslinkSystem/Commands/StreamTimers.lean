import DslinkSystem.Commands.Accounting
import DslinkSystem.Commands.OutputIsolation

/-!
# The timers of command streams

An invocation of `Execute_Stream_Command` that gets past `start` makes a command timer.
The timer holds its stream, sends what it drains on it, and ends itself at the first tick
that finds the stream destroyed.

Every stream has one timer at most, and nothing empty is sent on a stream
(`stream_messages`). Once a stream is closed nothing is sent on it, and its timer ends at
its next tick, unless the closing of another stream destroys it before that
(`closed_stream_ends`).
-/

set_option autoImplicit false

namespace DslinkSystem

open EventRuns TimerSlots

namespace CommandSide

variable {side after : CommandSide}

/-! ## One timer for a stream -/

/-- Timers belong to invocations made so far, and no two of them to one. -/
structure OwnTimer (side : CommandSide) : Prop where
  made : ∀ {t stream : ℕ}, side.commandTimer.callbackOf t = some stream →
    stream < side.invocations.length
  one : ∀ {t u stream : ℕ}, side.commandTimer.callbackOf t = some stream →
    side.commandTimer.callbackOf u = some stream → t = u

/-- A step that makes no timer. -/
theorem OwnTimer.of_same (own : OwnTimer side)
    (owner : ∀ t, after.commandTimer.callbackOf t = side.commandTimer.callbackOf t)
    (invocations : side.invocations.length ≤ after.invocations.length) : OwnTimer after where
  made found := Nat.lt_of_lt_of_le (own.made (owner _ ▸ found)) invocations
  one first second := own.one (owner _ ▸ first) (owner _ ▸ second)

theorem OwnTimer.step (own : OwnTimer side) {event : CommandEvent}
    (step : CommandStep side event after) : OwnTimer after := by
  cases step with
  | busy | notOpen | waits | silent => exact own
  | refused | failed | executed | refusedStream | failedStream =>
      exact own.of_same (fun _ => rfl) (by simp [invoked, deliver])
  | returned | exit | append | endOfFile => exact own.of_same (fun _ => rfl) (Nat.le_refl _)
  | ended | quiet | sent =>
      exact own.of_same (fun u => TimerSlot.callbackOf_setRunning _ u _) (Nat.le_refl _)
  | closed free opened destroyed =>
      obtain ⟨t, -, rfl⟩ := TimerSlot.destroy_cases destroyed
      exact own.of_same (fun u => TimerSlot.callbackOf_setRunning _ u _)
        (by simp [CommandSide.closed])
  | @executedStream v launches cmd process free given started =>
      have length : (side.invoked (.stream false)).invocations.length =
          side.invocations.length + 1 := by simp [invoked]
      -- the new timer belongs to the new invocation, the others to older ones
      have owner : ∀ {t stream : ℕ},
          (side.commandTimer.assign 1000 side.invocations.length).callbackOf t = some stream →
            t = side.commandTimer.created.length ∧ stream = side.invocations.length ∨
              side.commandTimer.callbackOf t = some stream := by
        intro t stream found
        rw [TimerSlot.callbackOf_assign] at found
        split at found
        · next new => exact .inl ⟨new, (Option.some.inj found).symm⟩
        · exact .inr found
      refine ⟨fun found => ?_, fun first second => ?_⟩
      · change _ < (side.invoked (.stream false)).invocations.length
        rw [length]
        rcases owner found with ⟨-, rfl⟩ | old
        · exact Nat.lt_succ_self _
        · exact Nat.lt_succ_of_lt (own.made old)
      · rcases owner first with ⟨rfl, rfl⟩ | old
        · rcases owner second with ⟨rfl, -⟩ | old'
          · rfl
          · exact absurd (own.made old') (Nat.lt_irrefl _)
        · rcases owner second with ⟨-, rfl⟩ | old'
          · exact absurd (own.made old) (Nat.lt_irrefl _)
          · exact own.one old old'

theorem ownTimer_new (execPath arguments : String) : OwnTimer (new execPath arguments) where
  made found := by cases found
  one found := by cases found

/-! ## What is sent on a stream -/

/-- A delivery without bytes answers an invocation of `Execute_Command`. -/
def SendsBytes (side : CommandSide) : Prop :=
  ∀ delivery ∈ side.delivered, delivery.2 = [] → side.isCommand delivery.1

theorem SendsBytes.of_same (sends : SendsBytes side)
    (delivered : after.delivered = side.delivered)
    (command : ∀ {i}, side.isCommand i → after.isCommand i) : SendsBytes after :=
  fun delivery member empty => command (sends delivery (delivered ▸ member) empty)

theorem SendsBytes.step (sends : SendsBytes side) (answering : Answering side)
    {event : CommandEvent} (step : CommandStep side event after) : SendsBytes after := by
  have command : ∀ {i}, side.isCommand i → after.isCommand i := fun old =>
    ((((answering.step step).2 _).old) old).1
  cases step with
  | busy | notOpen | waits | silent => exact sends
  | failed | executed | refusedStream | failedStream | executedStream | closed | ended | quiet
  | exit | append | endOfFile => exact sends.of_same rfl command
  | refused free given =>
      intro delivery member empty
      rcases List.mem_append.mp member with old | new
      · exact command (sends delivery old empty)
      · rw [List.mem_singleton.mp new]
        exact (@isCommand_invoked side _ _).mpr (.inr ⟨rfl, rfl⟩)
  | returned waited idle =>
      intro delivery member empty
      rcases List.mem_append.mp member with old | new
      · exact command (sends delivery old empty)
      · rw [List.mem_singleton.mp new]
        exact command (answering.waits waited)
  | sent free live owner opened output =>
      intro delivery member empty
      rcases List.mem_append.mp member with old | new
      · exact command (sends delivery old empty)
      · rw [List.mem_singleton.mp new] at empty
        exact absurd empty output

/-- **One timer for a stream, and only bytes.** In every state of every run a stream has
at most one command timer, and whatever was sent on a stream has at least one byte. -/
theorem stream_messages (execPath arguments : String) (events : List CommandEvent)
    (side : CommandSide)
    (reached : run commandMachine (new execPath arguments) events = some side) :
    (∀ t u stream : ℕ, side.commandTimer.callbackOf t = some stream →
      side.commandTimer.callbackOf u = some stream → t = u) ∧
    ∀ (stream : ℕ) (destroyed : Bool) (output : List OutputByte),
      side.invocations[stream]? = some (.stream destroyed) → (stream, output) ∈ side.delivered →
        output ≠ [] := by
  have keeps : ∀ (side : CommandSide) event after,
      (OwnTimer side ∧ Answering side ∧ SendsBytes side) → commandMachine side event = some after →
        OwnTimer after ∧ Answering after ∧ SendsBytes after := by
    rintro side event after ⟨own, answering, sends⟩ step
    have happened := commandStep_of_machine step
    exact ⟨own.step happened, (answering.step happened).1, sends.step answering happened⟩
  have initially : SendsBytes (new execPath arguments) := fun delivery member => by cases member
  obtain ⟨own, -, sends⟩ := run_keeps keeps
    ⟨ownTimer_new execPath arguments, answering_new execPath arguments, initially⟩ reached
  refine ⟨fun t u stream first second => own.one first second, ?_⟩
  intro stream destroyed output kind member empty
  have command : side.invocations[stream]? = some .command := sends _ member empty
  rw [kind] at command
  cases command

/-- A stream on which two bytes were sent. -/
theorem stream_messages_of_one :
    ∃ side, run commandMachine (new "" "")
        [.invokeStream (.map [("cmd", .string "a")]) true, .append 0 [1, 2], .tick 0] = some side ∧
      (0, [⟨0, 1⟩, ⟨0, 2⟩]) ∈ side.delivered ∧
      ∀ output : List OutputByte, (0, output) ∈ side.delivered → output ≠ [] := by
  refine ⟨_, rfl, by decide, fun output member => ?_⟩
  exact (stream_messages "" "" [.invokeStream (.map [("cmd", .string "a")]) true, .append 0 [1, 2],
    .tick 0] _ rfl).2 0 false output rfl member

/-! ## After a stream was closed -/

/-- The event stops the timer `t`: a tick, or the closing of an open stream while
`_command_timer` refers to it. -/
def stopsTimer (t : ℕ) (side : CommandSide) (event : CommandEvent) : Prop :=
  side.waiting = none ∧ (event = .tick t ∨
    side.commandTimer.ref = some t ∧ ∃ other, event = .closeStream other ∧
      side.isOpen other = true)

theorem isDestroyed_closed {stream other : ℕ} (destroyed : side.isDestroyed other = true) :
    (side.closed stream).isDestroyed other = true := by
  by_contra opened
  rw [Bool.not_eq_true] at opened
  rw [isDestroyed_of_closed opened] at destroyed
  cases destroyed

/-- A destroyed stream stays destroyed. -/
theorem isDestroyed_step {event : CommandEvent} (step : CommandStep side event after)
    {stream : ℕ} (destroyed : side.isDestroyed stream = true) :
    after.isDestroyed stream = true := by
  cases step with
  | busy | notOpen | waits | silent | returned | ended | sent | quiet | exit | append | endOfFile =>
      exact destroyed
  | refused | failed | executed =>
      have fresh : Invocation.command ≠ .stream true := by simp
      exact (isDestroyed_invoked fresh stream).trans destroyed
  | refusedStream | failedStream | executedStream =>
      have fresh : Invocation.stream false ≠ .stream true := by simp
      exact (isDestroyed_invoked fresh stream).trans destroyed
  | closed => exact isDestroyed_closed destroyed

/-- A timer keeps its stream. -/
theorem callbackOf_step {event : CommandEvent} (step : CommandStep side event after)
    {t stream : ℕ} (owner : side.commandTimer.callbackOf t = some stream) :
    after.commandTimer.callbackOf t = some stream := by
  cases step with
  | busy | notOpen | waits | silent | refused | failed | executed | refusedStream | failedStream
  | returned | exit | append | endOfFile => exact owner
  | ended | sent | quiet => rw [TimerSlot.callbackOf_setRunning, owner]
  | closed free opened destroyed =>
      obtain ⟨u, -, rfl⟩ := TimerSlot.destroy_cases destroyed
      rw [TimerSlot.callbackOf_setRunning, owner]
  | executedStream =>
      have older := Nat.ne_of_lt (TimerSlot.lt_length_of_callbackOf owner)
      rw [TimerSlot.callbackOf_assign, if_neg older, owner]

/-- The timer of a destroyed stream is disarmed by the events that stop it and by no
other. -/
theorem runs_step {event : CommandEvent} (step : CommandStep side event after) {t stream : ℕ}
    (owner : side.commandTimer.callbackOf t = some stream)
    (destroyed : side.isDestroyed stream = true) :
    after.commandTimer.runs t = false ↔
      side.commandTimer.runs t = false ∨ stopsTimer t side event := by
  -- a timer whose stream is not destroyed is another one
  have other : ∀ {u stream' : ℕ}, side.commandTimer.callbackOf u = some stream' →
      side.isDestroyed stream' = false → u ≠ t := by
    rintro u stream' owner' opened rfl
    rw [owner] at owner'
    obtain rfl := Option.some.inj owner'
    rw [destroyed] at opened
    cases opened
  cases step with
  | busy waits => simp [stopsTimer, waits]
  | refused | failed | executed | refusedStream | failedStream | waits | returned | exit | append
  | endOfFile => simp [stopsTimer, invoked, deliver, drained]
  | notOpen free closed => simp [stopsTimer, closed]
  | @silent u free dead =>
      by_cases here : u = t
      · subst here
        simp [dead]
      · simp [stopsTimer, here]
  | @closed stream' commandTimer free opened cleared =>
      obtain ⟨u, refers, rfl⟩ := TimerSlot.destroy_cases cleared
      rw [TimerSlot.runs_setRunning]
      by_cases here : u = t
      · simp [stopsTimer, free, opened, refers, here]
      · simp [stopsTimer, refers, here]
  | @ended u stream' free live owner' destroyed' =>
      rw [TimerSlot.runs_setRunning]
      by_cases here : u = t
      · simp [stopsTimer, free, here]
      · simp [stopsTimer, here]
  | sent free live owner' opened output =>
      rw [TimerSlot.runs_setRunning, if_neg (other owner' opened)]
      simp [stopsTimer, other owner' opened]
  | quiet free live owner' opened output =>
      rw [TimerSlot.runs_setRunning, if_neg (other owner' opened)]
      simp [stopsTimer, other owner' opened]
  | executedStream free given started =>
      rw [TimerSlot.runs_assign]
      have older := TimerSlot.lt_length_of_callbackOf owner
      simp [stopsTimer, Nat.ne_of_lt older]

/-- What was delivered on a stream. -/
def sentOn (side : CommandSide) (stream : ℕ) : List (List OutputByte) :=
  (side.delivered.filter (·.1 == stream)).map Prod.snd

theorem sentOn_of_other {stream invocation : ℕ} {output : List OutputByte}
    (delivered : after.delivered = side.delivered ++ [(invocation, output)])
    (other : invocation ≠ stream) : after.sentOn stream = side.sentOn stream := by
  simp [sentOn, delivered, List.filter_append, other]

/-- Nothing is delivered on a destroyed stream. -/
theorem sentOn_step (answering : Answering side) {event : CommandEvent}
    (step : CommandStep side event after) {stream : ℕ}
    (destroyed : side.isDestroyed stream = true) : after.sentOn stream = side.sentOn stream := by
  have kind := isDestroyed_iff.mp destroyed
  have within : stream < side.invocations.length := by
    obtain ⟨within, -⟩ := List.getElem?_eq_some_iff.mp kind
    exact within
  cases step with
  | busy | notOpen | waits | silent | failed | executed | refusedStream | failedStream
  | executedStream | closed | ended | quiet | exit | append | endOfFile => rfl
  | refused => exact sentOn_of_other rfl (Nat.ne_of_gt within)
  | returned waited idle =>
      refine sentOn_of_other rfl fun same => ?_
      have command : side.invocations[stream]? = some .command := answering.waits (same ▸ waited)
      rw [kind] at command
      cases command
  | sent free live owner opened output =>
      refine sentOn_of_other rfl ?_
      rintro rfl
      rw [destroyed] at opened
      cases opened

/-- **A closed stream falls silent and its timer ends.** From a state of any run in which
a stream is destroyed, whatever happens later: nothing is sent on the stream, and its
timer is disarmed by the next tick that the strand takes, or by the closing of an open
stream while `_command_timer` refers to it, and never armed again. -/
theorem closed_stream_ends (execPath arguments : String) (events later : List CommandEvent)
    (side finish : CommandSide)
    (reached : run commandMachine (new execPath arguments) events = some side)
    (rest : run commandMachine side later = some finish)
    (stream : ℕ) (destroyed : side.invocations[stream]? = some (.stream true)) :
    finish.sentOn stream = side.sentOn stream ∧
    ∀ t : ℕ, side.commandTimer.callbackOf t = some stream →
      (finish.commandTimer.runs t = false ↔
        side.commandTimer.runs t = false ∨
          Happened commandMachine side later (stopsTimer t)) := by
  have closed := isDestroyed_iff.mpr destroyed
  constructor
  · have keeps : ∀ (before : CommandSide) event after,
        (Answering before ∧ before.isDestroyed stream = true ∧
          before.sentOn stream = side.sentOn stream) → commandMachine before event = some after →
        Answering after ∧ after.isDestroyed stream = true ∧
          after.sentOn stream = side.sentOn stream := by
      rintro before event after ⟨answering, destroyed, same⟩ step
      have happened := commandStep_of_machine step
      exact ⟨(answering.step happened).1, isDestroyed_step happened destroyed,
        (sentOn_step answering happened destroyed).trans same⟩
    exact (run_keeps keeps ⟨answering_run reached, closed, rfl⟩ rest).2.2
  · intro t owner
    have keeps : ∀ (before : CommandSide) event after,
        (before.commandTimer.callbackOf t = some stream ∧ before.isDestroyed stream = true) →
        commandMachine before event = some after →
          after.commandTimer.callbackOf t = some stream ∧ after.isDestroyed stream = true := by
      rintro before event after ⟨owner, destroyed⟩ step
      have happened := commandStep_of_machine step
      exact ⟨callbackOf_step happened owner, isDestroyed_step happened destroyed⟩
    have sets : ∀ (before : CommandSide) event after,
        (before.commandTimer.callbackOf t = some stream ∧ before.isDestroyed stream = true) →
        commandMachine before event = some after →
          (after.commandTimer.runs t = false ↔
            before.commandTimer.runs t = false ∨ stopsTimer t before event) := by
      rintro before event after ⟨owner, destroyed⟩ step
      exact runs_step (commandStep_of_machine step) owner destroyed
    exact mark_iff_happened _ keeps sets ⟨owner, closed⟩ rest

/-- A stream that was closed, and a tick of its timer after that. -/
theorem closed_stream_ends_of_one :
    ∃ side finish, run commandMachine (new "" "")
        [.invokeStream (.map [("cmd", .string "a")]) true,
          .invokeStream (.map [("cmd", .string "b")]) true, .closeStream 0] = some side ∧
      run commandMachine side [.append 0 [1], .tick 0] = some finish ∧
      side.commandTimer.runs 0 = true ∧ finish.commandTimer.runs 0 = false ∧
      finish.sentOn 0 = side.sentOn 0 := by
  refine ⟨_, _, rfl, rfl, by decide, ?_⟩
  obtain ⟨silent, ends⟩ := closed_stream_ends "" ""
    [.invokeStream (.map [("cmd", .string "a")]) true,
      .invokeStream (.map [("cmd", .string "b")]) true, .closeStream 0]
    [.append 0 [1], .tick 0] _ _ rfl rfl 0 rfl
  refine ⟨(ends 0 rfl).mpr (.inr ?_), silent⟩
  exact ⟨[.append 0 [1]], .tick 0, [], _, rfl, rfl, rfl, .inl rfl⟩

end CommandSide

end DslinkSystem
