import DslinkSystem.Commands.CommandSteps

/-!
# What becomes of invocations

Each invocation of `Execute_Command` is answered once, or is the one that waits, or is one
whose child could not be launched, and is never two of these (`command_answered_once`).
-/

set_option autoImplicit false

namespace DslinkSystem

open EventRuns TimerSlots

namespace CommandSide

variable {side after : CommandSide}

/-! ## Invocations -/

/-- How many answers an invocation was given. -/
def answers (side : CommandSide) (invocation : ℕ) : ℕ :=
  (side.delivered.map Prod.fst).count invocation

/-- The answers an invocation was given and those it waits for. -/
def due (side : CommandSide) (invocation : ℕ) : ℕ :=
  side.answers invocation + if side.waiting = some invocation then 1 else 0

/-- The invocation is one of `Execute_Command`. -/
def isCommand (side : CommandSide) (invocation : ℕ) : Prop :=
  side.invocations[invocation]? = some .command

/-- The event is the invocation of `Execute_Command` with the given number, and its
child cannot be launched. -/
def failsToLaunch (invocation : ℕ) (side : CommandSide) : CommandEvent → Prop
  | .executeCommand v launches =>
      side.waiting = none ∧ side.invocations.length = invocation ∧ v.cmdString ≠ none ∧
        side.process.running = false ∧ launches = false
  | _ => False

/-- Who is answered and who waits: answers go to invocations made before, a timer's
stream is the one of an invocation of `Execute_Stream_Command`, the wait is one of
`Execute_Command`, and none of those is owed more than one answer. -/
structure Answering (side : CommandSide) : Prop where
  made : ∀ {invocation : ℕ}, invocation ∈ side.delivered.map Prod.fst →
    invocation < side.invocations.length
  streams : ∀ {t stream : ℕ}, side.commandTimer.callbackOf t = some stream →
    ¬ side.isCommand stream
  owned : ∀ {t stream : ℕ}, side.commandTimer.callbackOf t = some stream →
    stream < side.invocations.length
  waits : ∀ {invocation : ℕ}, side.waiting = some invocation → side.isCommand invocation
  once : ∀ {invocation : ℕ}, side.isCommand invocation → side.due invocation ≤ 1

theorem isCommand_lt {invocation : ℕ} (command : side.isCommand invocation) :
    invocation < side.invocations.length := by
  obtain ⟨within, -⟩ := List.getElem?_eq_some_iff.mp command
  exact within

theorem isCommand_invoked {new : Invocation} {invocation : ℕ} :
    (side.invoked new).isCommand invocation ↔
      side.isCommand invocation ∨ invocation = side.invocations.length ∧ new = .command := by
  simp only [isCommand, invoked, List.getElem?_append, List.getElem?_singleton]
  rcases Nat.lt_trichotomy invocation side.invocations.length with before | same | beyond
  · simp [before, Nat.ne_of_lt before]
  · simp [same]
  · simp [Nat.not_lt.mpr (Nat.le_of_lt beyond), Nat.ne_of_gt beyond, Nat.sub_ne_zero_of_lt beyond]

/-- Closing a stream makes no invocation one of `Execute_Command`, and none of them
another. -/
theorem isCommand_closed {stream invocation : ℕ} (opened : side.isOpen stream = true) :
    (side.closed stream).isCommand invocation ↔ side.isCommand invocation := by
  simp only [isCommand, closed, List.getElem?_set]
  by_cases here : stream = invocation
  · subst here
    rw [isOpen_iff.mp opened]
    split <;> simp
  · simp [here]

theorem answers_deliver (invocation other : ℕ) (output : List OutputByte) :
    (side.deliver invocation output).answers other =
      side.answers other + if invocation = other then 1 else 0 := by
  simp [answers, deliver, List.count_singleton]

theorem answers_drained (invocation other : ℕ) :
    (side.drained invocation).answers other =
      side.answers other + if invocation = other then 1 else 0 := answers_deliver ..

/-- An invocation not made yet was not answered. -/
theorem Answering.answers_eq_zero (answering : Answering side) {invocation : ℕ}
    (beyond : side.invocations.length ≤ invocation) : side.answers invocation = 0 := by
  apply List.count_eq_zero_of_not_mem
  intro member
  exact Nat.not_lt_of_le beyond (answering.made member)

/-! ## One step -/

/-- What a step owes to the invocation with a given number. -/
structure Settles (side after : CommandSide) (event : CommandEvent) (invocation : ℕ) : Prop where
  old : side.isCommand invocation →
    after.isCommand invocation ∧ after.due invocation = side.due invocation
  new : after.isCommand invocation → side.isCommand invocation ∨
    side.invocations.length = invocation ∧ after.due invocation ≤ 1 ∧
      (after.due invocation = 0 ↔ failsToLaunch invocation side event)
  fails : failsToLaunch invocation side event → after.isCommand invocation

/-- The event is no invocation of `Execute_Command` that a free strand takes. -/
def noCommand (side : CommandSide) (event : CommandEvent) : Prop :=
  ∀ v launches, event = .executeCommand v launches → side.waiting ≠ none

theorem not_failsToLaunch {event : CommandEvent} (other : side.noCommand event)
    (invocation : ℕ) : ¬ failsToLaunch invocation side event := by
  cases event with
  | executeCommand v launches => exact fun fails => other v launches rfl fails.1
  | _ => exact id

/-- A step that makes no invocation of `Execute_Command` and answers as much as it takes
from the wait. -/
theorem Answering.of_same (answering : Answering side) {event : CommandEvent}
    (other : side.noCommand event) (length : side.invocations.length ≤ after.invocations.length)
    (command : ∀ i, after.isCommand i ↔ side.isCommand i)
    (owner : ∀ {t stream}, after.commandTimer.callbackOf t = some stream →
      side.commandTimer.callbackOf t = some stream ∨
        stream = side.invocations.length ∧ stream < after.invocations.length)
    (delivered : ∀ {i}, i ∈ after.delivered.map Prod.fst → i < after.invocations.length)
    (waiting : ∀ {i}, after.waiting = some i → side.waiting = some i)
    (due : ∀ {i}, side.isCommand i → after.due i = side.due i) :
    Answering after ∧ ∀ i, Settles side after event i := by
  constructor
  · refine ⟨delivered, fun found => ?_, fun found => ?_, fun waits => ?_, fun made => ?_⟩
    · rw [command]
      rcases owner found with old | ⟨rfl, -⟩
      · exact answering.streams old
      · exact fun made => Nat.lt_irrefl _ (isCommand_lt made)
    · rcases owner found with old | ⟨-, within⟩
      · exact Nat.lt_of_lt_of_le (answering.owned old) length
      · exact within
    · exact (command _).mpr (answering.waits (waiting waits))
    · have old := (command _).mp made
      exact due old ▸ answering.once old
  · intro i
    refine ⟨fun made => ⟨(command i).mpr made, due made⟩, fun made => .inl ((command i).mp made),
      fun fails => absurd fails (not_failsToLaunch other i)⟩

/-- A step that makes an invocation of `Execute_Command`. -/
theorem Answering.of_command (answering : Answering side) {event : CommandEvent}
    (invocations : after.invocations = side.invocations ++ [.command])
    (timer : after.commandTimer = side.commandTimer) (free : side.waiting = none)
    (delivered : ∀ {i}, i ∈ after.delivered.map Prod.fst →
      i ∈ side.delivered.map Prod.fst ∨ i = side.invocations.length)
    (waiting : ∀ {i}, after.waiting = some i → i = side.invocations.length)
    (old : ∀ {i}, i < side.invocations.length → after.answers i = side.answers i)
    (once : after.due side.invocations.length ≤ 1)
    (exact_due : after.due side.invocations.length = 0 ↔
      failsToLaunch side.invocations.length side event)
    (numbered : ∀ {i}, failsToLaunch i side event → side.invocations.length = i) :
    Answering after ∧ ∀ i, Settles side after event i := by
  have length : after.invocations.length = side.invocations.length + 1 := by simp [invocations]
  have command : ∀ i, after.isCommand i ↔ side.isCommand i ∨ i = side.invocations.length := by
    intro i
    have made : after.isCommand i ↔ (side.invoked .command).isCommand i := by
      rw [isCommand, invocations]
      rfl
    rw [made, isCommand_invoked]
    simp
  have due : ∀ {i}, side.isCommand i → after.due i = side.due i := by
    intro i made
    have within := isCommand_lt made
    have other : after.waiting ≠ some i := fun waits =>
      Nat.lt_irrefl _ (waiting waits ▸ within)
    rw [CommandSide.due, CommandSide.due, old within, if_neg other, if_neg (by simp [free])]
  constructor
  · refine ⟨fun member => ?_, fun found => ?_, fun found => ?_, fun waits => ?_, fun made => ?_⟩
    · rw [length]
      rcases delivered member with before | rfl
      · exact Nat.lt_succ_of_lt (answering.made before)
      · exact Nat.lt_succ_self _
    · rw [timer] at found
      rw [command, not_or]
      exact ⟨answering.streams found, Nat.ne_of_lt (answering.owned found)⟩
    · rw [length]
      exact Nat.lt_succ_of_lt (answering.owned (timer ▸ found))
    · exact (command _).mpr (.inr (waiting waits))
    · rcases (command _).mp made with before | rfl
      · exact due before ▸ answering.once before
      · exact once
  · intro i
    refine ⟨fun made => ⟨(command i).mpr (.inl made), due made⟩, fun made => ?_, fun fails => ?_⟩
    · rcases (command i).mp made with before | rfl
      · exact .inl before
      · exact .inr ⟨rfl, once, exact_due⟩
    · exact (command i).mpr (.inr (numbered fails).symm)

/-- A step that leaves the invocations, the answers and the wait alone. -/
theorem Answering.of_frame (answering : Answering side) {event : CommandEvent}
    (other : side.noCommand event) (invocations : after.invocations = side.invocations)
    (owner : ∀ t, after.commandTimer.callbackOf t = side.commandTimer.callbackOf t)
    (delivered : after.delivered = side.delivered) (waiting : after.waiting = side.waiting) :
    Answering after ∧ ∀ i, Settles side after event i := by
  refine answering.of_same other (Nat.le_of_eq (congrArg List.length invocations.symm))
    (fun i => by rw [isCommand, invocations, isCommand]) (fun found => .inl (owner _ ▸ found))
    (fun member => ?_) (fun waits => waiting ▸ waits) fun _ => ?_
  · rw [invocations]
    exact answering.made (delivered ▸ member)
  · rw [due, answers, delivered, waiting, due, answers]

/-- A new invocation of `Execute_Stream_Command` is owed no answer. -/
theorem Answering.of_stream (answering : Answering side) {event : CommandEvent}
    (other : side.noCommand event)
    (invocations : after.invocations = side.invocations ++ [.stream false])
    (owner : ∀ {t stream}, after.commandTimer.callbackOf t = some stream →
      side.commandTimer.callbackOf t = some stream ∨ stream = side.invocations.length)
    (delivered : after.delivered = side.delivered) (waiting : after.waiting = side.waiting) :
    Answering after ∧ ∀ i, Settles side after event i := by
  have length : after.invocations.length = side.invocations.length + 1 := by simp [invocations]
  refine answering.of_same other (by simp [length]) (fun i => ?_) (fun found => ?_)
    (fun member => ?_) (fun waits => waiting ▸ waits) fun _ => ?_
  · have made : after.isCommand i ↔ (side.invoked (.stream false)).isCommand i := by
      rw [isCommand, invocations]
      rfl
    rw [made, isCommand_invoked]
    simp
  · rcases owner found with old | rfl
    · exact .inl old
    · exact .inr ⟨rfl, by simp [length]⟩
  · rw [length]
    exact Nat.lt_succ_of_lt (answering.made (delivered ▸ member))
  · rw [due, answers, delivered, waiting, due, answers]

/-- The answer that the wait was for. -/
theorem Answering.of_returned (answering : Answering side) {invocation : ℕ}
    (waited : side.waiting = some invocation) :
    Answering { side.drained invocation with waiting := none } ∧
      ∀ i, Settles side { side.drained invocation with waiting := none } .waitReturns i := by
  refine answering.of_same (fun v launches same => by cases same) (Nat.le_refl _)
    (fun i => Iff.rfl) .inl (fun member => ?_) (fun waits => by cases waits) fun {i} _ => ?_
  · simp only [drained, deliver, List.map_append, List.mem_append, List.map_cons, List.map_nil,
      List.mem_singleton] at member
    rcases member with old | rfl
    · exact answering.made old
    · exact isCommand_lt (answering.waits waited)
  · have given : (side.drained invocation).answers i = _ := answers_drained invocation i
    simp only [due, waited, Option.some.injEq]
    change (side.drained invocation).answers i + _ = _
    rw [given]
    simp

/-- The output sent on a stream is no answer to an invocation of `Execute_Command`. -/
theorem Answering.of_sent (answering : Answering side) {t stream : ℕ}
    (owner : side.commandTimer.callbackOf t = some stream) :
    Answering { side.drained stream with commandTimer := side.commandTimer.setRunning t true } ∧
      ∀ i, Settles side { side.drained stream with
        commandTimer := side.commandTimer.setRunning t true } (.tick t) i := by
  refine answering.of_same (fun v launches same => by cases same) (Nat.le_refl _)
    (fun i => Iff.rfl) (fun found => .inl (TimerSlot.callbackOf_setRunning _ _ _ ▸ found))
    (fun member => ?_) (fun waits => waits) fun {i} made => ?_
  · simp only [drained, deliver, List.map_append, List.mem_append, List.map_cons, List.map_nil,
      List.mem_singleton] at member
    rcases member with old | rfl
    · exact answering.made old
    · exact answering.owned owner
  · have other : stream ≠ i := fun same => answering.streams owner (same ▸ made)
    have given : (side.drained stream).answers i = _ := answers_drained stream i
    rw [if_neg other, Nat.add_zero] at given
    exact congrArg (· + _) given

/-- **Every step keeps the account of the invocations and settles each of them.** -/
theorem Answering.step (answering : Answering side) {event : CommandEvent}
    (step : CommandStep side event after) :
    Answering after ∧ ∀ i, Settles side after event i := by
  cases step with
  | busy waits =>
      exact answering.of_frame (fun _ _ _ => waits) rfl (fun _ => rfl) rfl rfl
  | notOpen | waits | silent | exit | append | endOfFile =>
      exact answering.of_frame (fun v launches same => by cases same) rfl (fun _ => rfl) rfl rfl
  | ended | quiet =>
      exact answering.of_frame (fun v launches same => by cases same) rfl
        (fun u => TimerSlot.callbackOf_setRunning _ u _) rfl rfl
  | @closed stream commandTimer free opened destroyed =>
      obtain ⟨t, -, rfl⟩ := TimerSlot.destroy_cases destroyed
      refine answering.of_same (fun v launches same => by cases same) (by simp [CommandSide.closed])
        (fun i => isCommand_closed opened)
        (fun found => .inl (TimerSlot.callbackOf_setRunning _ _ _ ▸ found)) (fun member => ?_)
        (fun waits => waits) fun _ => rfl
      simpa [CommandSide.closed] using answering.made member
  | returned waited idle => exact answering.of_returned waited
  | sent free live owner opened output => exact answering.of_sent owner
  | refusedStream free given | failedStream free given =>
      exact answering.of_stream (fun v launches same => by cases same) rfl .inl rfl rfl
  | executedStream free given started =>
      refine answering.of_stream (fun v launches same => by cases same) rfl (fun found => ?_) rfl
        rfl
      rw [TimerSlot.callbackOf_assign] at found
      split at found
      · exact .inr (Option.some.inj found).symm
      · exact .inl found
  | refused free given =>
      have none_yet := answering.answers_eq_zero (Nat.le_refl _)
      have one : due ((side.invoked .command).deliver side.invocations.length [])
          side.invocations.length = 1 := by
        have free' : ((side.invoked .command).deliver side.invocations.length []).waiting ≠
            some side.invocations.length := by simp [deliver, invoked, free]
        rw [due, answers_deliver, if_neg free', if_pos rfl]
        exact congrArg (· + 1) none_yet
      refine answering.of_command rfl rfl free (fun member => ?_) (fun waits => ?_)
        (fun within => ?_) (Nat.le_of_eq one) ?_ fun fails => fails.2.1
      · simpa [deliver, invoked] using member
      · simp [deliver, invoked, free] at waits
      · rw [answers_deliver, if_neg (Nat.ne_of_gt within)]
        rfl
      · rw [one]
        simp [failsToLaunch, given]
  | failed free given idle fails =>
      have none_yet := answering.answers_eq_zero (Nat.le_refl _)
      have zero : due (side.invoked .command) side.invocations.length = 0 := by
        have free' : (side.invoked .command).waiting ≠ some side.invocations.length := by
          simp [invoked, free]
        rw [due, if_neg free']
        exact none_yet
      refine answering.of_command rfl rfl free .inl (fun waits => ?_) (fun _ => rfl)
        (Nat.le_trans (Nat.le_of_eq zero) (Nat.zero_le _)) ?_ fun fails => fails.2.1
      · simp [invoked, free] at waits
      · exact iff_of_true zero ⟨free, rfl, by simp [given], idle, fails⟩
  | executed free given started =>
      have none_yet := answering.answers_eq_zero (Nat.le_refl _)
      have launched := ProcessHandler.running_or_launches started
      refine answering.of_command rfl rfl free .inl (fun waits => (Option.some.inj waits).symm)
        (fun _ => rfl) ?_ ?_ fun fails => fails.2.1
      · rw [due, if_pos rfl]
        exact Nat.le_of_eq (congrArg (· + 1) none_yet)
      · rw [due, if_pos rfl]
        refine iff_of_false (Nat.succ_ne_zero _) ?_
        rintro ⟨-, -, -, idle, fails⟩
        rcases launched with live | launches
        · rw [idle] at live
          cases live
        · rw [fails] at launches
          cases launches

/-! ## Runs -/

theorem answering_new (execPath arguments : String) : Answering (new execPath arguments) where
  made member := by cases member
  streams found := by cases found
  owned found := by cases found
  waits found := by cases found
  once command := by cases command

theorem answering_run {execPath arguments : String} {events : List CommandEvent}
    (reached : run commandMachine (new execPath arguments) events = some side) :
    Answering side :=
  run_keeps (fun _ _ _ answering step => (answering.step (commandStep_of_machine step)).1)
    (answering_new execPath arguments) reached

/-- An invocation is owed nothing exactly when its child could not be launched. -/
theorem due_eq_zero_iff {execPath arguments : String} {events : List CommandEvent}
    (reached : run commandMachine (new execPath arguments) events = some side)
    (invocation : ℕ) :
    (side.isCommand invocation ∧ side.due invocation = 0) ↔
      Happened commandMachine (new execPath arguments) events (failsToLaunch invocation) := by
  have sets : ∀ (side : CommandSide) event after, Answering side →
      commandMachine side event = some after →
        ((after.isCommand invocation ∧ after.due invocation = 0) ↔
          (side.isCommand invocation ∧ side.due invocation = 0) ∨
            failsToLaunch invocation side event) := by
    intro side event after answering step
    have settles := (answering.step (commandStep_of_machine step)).2 invocation
    constructor
    · rintro ⟨made, nothing⟩
      rcases settles.new made with old | ⟨-, -, fails⟩
      · exact .inl ⟨old, (settles.old old).2 ▸ nothing⟩
      · exact .inr (fails.mp nothing)
    · rintro (⟨old, nothing⟩ | fails)
      · exact ⟨(settles.old old).1, (settles.old old).2.trans nothing⟩
      · have made := settles.fails fails
        rcases settles.new made with old | ⟨-, -, exact_due⟩
        · have within := isCommand_lt old
          cases event with
          | executeCommand v launches => exact absurd fails.2.1 (Nat.ne_of_gt within)
          | _ => cases fails
        · exact ⟨made, exact_due.mpr fails⟩
  have marked := mark_iff_happened Answering
    (fun _ _ _ answering step => (answering.step (commandStep_of_machine step)).1) sets
    (answering_new execPath arguments) reached
  simpa [isCommand, new] using marked

/-- **Each invocation of `Execute_Command` is answered once.** In every state of every
run an invocation of `Execute_Command` is one of three things and never two of them: its
child could not be launched, and it has no answer; or it waits, and has no answer yet; or
it has exactly one answer. -/
theorem command_answered_once (execPath arguments : String) (events : List CommandEvent)
    (side : CommandSide)
    (reached : run commandMachine (new execPath arguments) events = some side)
    (invocation : ℕ) (command : side.invocations[invocation]? = some .command) :
    (Happened commandMachine (new execPath arguments) events (failsToLaunch invocation) ∧
      side.answers invocation = 0 ∧ side.waiting ≠ some invocation) ∨
    (¬ Happened commandMachine (new execPath arguments) events (failsToLaunch invocation) ∧
      side.answers invocation = 0 ∧ side.waiting = some invocation) ∨
    (¬ Happened commandMachine (new execPath arguments) events (failsToLaunch invocation) ∧
      side.answers invocation = 1 ∧ side.waiting ≠ some invocation) := by
  have once := (answering_run reached).once command
  have failed := due_eq_zero_iff reached invocation
  rw [and_iff_right (show side.isCommand invocation from command)] at failed
  rw [← failed]
  rw [due] at once ⊢
  by_cases waits : side.waiting = some invocation
  · simp only [waits, if_true, ne_eq, not_true_eq_false, and_false, false_or] at once ⊢
    refine .inl ⟨Nat.succ_ne_zero _, Nat.le_zero.mp (Nat.le_of_succ_le_succ once), trivial⟩
  · rw [if_neg waits, Nat.add_zero] at once ⊢
    rcases Nat.le_one_iff_eq_zero_or_eq_one.mp once with zero | one
    · exact .inl ⟨zero, zero, waits⟩
    · exact .inr (.inr ⟨by simp [one], one, waits⟩)

/-- A command whose child has not ended yet. -/
theorem command_answered_once_waiting :
    ∃ side, run commandMachine (new "" "")
        [.executeCommand (.map [("cmd", .string "a")]) true] = some side ∧
      side.answers 0 = 0 ∧ side.waiting = some 0 := by
  refine ⟨_, rfl, ?_⟩
  rcases command_answered_once "" "" [.executeCommand (.map [("cmd", .string "a")]) true] _ rfl 0
    rfl with ⟨-, -, other⟩ | ⟨-, none_yet, waits⟩ | ⟨-, -, other⟩
  · exact absurd rfl other
  · exact ⟨none_yet, waits⟩
  · exact absurd rfl other

end CommandSide

end DslinkSystem
