import DslinkSystem.Commands.CommandSteps

/-!
# What the closing of a stream stops

The handler that is called as a stream closes terminates the child that `process`
refers to, and disarms the timer that `_command_timer` refers to. Both are those of
the closing stream exactly when no other open stream launched the running child or
made the latest invocation that got past `start` (`closings_isolated_iff`).

While every closing is like that, a running child has the stream that launched it
open, the timers of open streams are armed, and an armed timer that
`_command_timer` refers to belongs to an open stream (`Controlled`).
-/

set_option autoImplicit false

namespace DslinkSystem

open EventRuns TimerSlots

namespace CommandSide

variable {side after : CommandSide}

/-! ## Closings -/

/-- A step ends only children launched by the stream's own invocation and disarms only
timers made by it. For every other open stream that launched the running child, this
child runs on, and the stream has an armed timer. -/
structure StopsOwn (side after : CommandSide) (stream : ℕ) : Prop where
  child : ∀ {c : ℕ}, side.process.childRunning c = true → after.process.childRunning c = false →
    side.process.Launched stream c
  timer : ∀ {t : ℕ}, side.commandTimer.runs t = true → after.commandTimer.runs t = false →
    side.commandTimer.callbackOf t = some stream
  others : ∀ {other c : ℕ}, other ≠ stream → side.isOpen other = true →
    side.process.childRunning c = true → side.process.Launched other c →
      after.process.childRunning c = true ∧
        ∃ t, after.commandTimer.callbackOf t = some other ∧ after.commandTimer.runs t = true

/-- The handling of a closing stops what is the stream's own. -/
def closingIsolated (side : CommandSide) : CommandEvent → Prop
  | .closeStream stream =>
      StopsOwn side ((CommandEvent.closeStream stream).handle side).state stream
  | _ => True

/-- As a stream closes, no other open stream launched the running child, and none made
the timer that `_command_timer` refers to. -/
def closesAlone (side : CommandSide) : CommandEvent → Prop
  | .closeStream stream =>
      side.waiting = none → side.isOpen stream = true → ∀ other, other ≠ stream →
        side.isOpen other = true →
          (∀ c, side.process.childRunning c = true → ¬ side.process.Launched other c) ∧
            ∀ t, side.commandTimer.ref = some t → side.commandTimer.callbackOf t ≠ some other
  | _ => True

/-- What holds as long as every closing stops what is the stream's own. -/
structure Controlled (side : CommandSide) : Prop where
  numbered : Numbered side
  only : ∀ {c : ℕ}, side.process.childRunning c = true → side.process.process = some c
  launcher : ∀ {launcher c : ℕ}, side.process.childRunning c = true →
    side.process.Launched launcher c → side.isOpen launcher = true ∨ side.waiting = some launcher
  made : ∀ {launcher c : ℕ}, side.process.childRunning c = true →
    side.process.Launched launcher c → side.isOpen launcher = true →
      ∃ t, side.commandTimer.callbackOf t = some launcher
  armed : ∀ {t owner : ℕ}, side.commandTimer.callbackOf t = some owner →
    side.isOpen owner = true → side.commandTimer.runs t = true
  current : ∀ {t owner : ℕ}, side.commandTimer.ref = some t → side.commandTimer.runs t = true →
    side.commandTimer.callbackOf t = some owner → side.isOpen owner = true

/-! ## A closing -/

/-- An open stream that launched the running child has an armed timer. -/
theorem Controlled.timer_of_launched (controlled : Controlled side) {launcher c : ℕ}
    (live : side.process.childRunning c = true) (launched : side.process.Launched launcher c)
    (opened : side.isOpen launcher = true) :
    ∃ t, side.commandTimer.callbackOf t = some launcher ∧ side.commandTimer.runs t = true := by
  obtain ⟨t, owner⟩ := controlled.made live launched opened
  exact ⟨t, owner, controlled.armed owner opened⟩

/-- Where nothing is stopped, only the timers of the other streams are owed. -/
theorem Controlled.stopsOwn_self (controlled : Controlled side) (stream : ℕ) :
    StopsOwn side side stream where
  child live dead := by
    rw [live] at dead
    cases dead
  timer live dead := by
    rw [live] at dead
    cases dead
  others _ opened live launched := ⟨live, controlled.timer_of_launched live launched opened⟩

/-- What the handler of a closing leaves, whether or not it ends in a null timer. -/
theorem state_closeStream {stream : ℕ} (opened : side.isOpen stream = true) :
    (side.closeStream stream).state.process = side.process.terminate ∧
      ∀ t, (side.closeStream stream).state.commandTimer.runs t =
        (side.commandTimer.runs t && !decide (side.commandTimer.ref = some t)) := by
  rw [closeStream_of_isOpen opened]
  cases refers : side.commandTimer.ref with
  | none =>
      have null : side.commandTimer.destroy = none := by simp [TimerSlot.destroy, refers]
      rw [null]
      exact ⟨rfl, fun t => by simp [closed]⟩
  | some u =>
      have found : side.commandTimer.destroy = some (side.commandTimer.setRunning u false) := by
        simp [TimerSlot.destroy, refers]
      rw [found]
      refine ⟨rfl, fun t => ?_⟩
      simp only [Handled.state_returned, TimerSlot.runs_setRunning, Option.some.injEq]
      split <;> simp [*]

/-- The closing of an open stream. -/
theorem stopsOwn_closeStream_iff (controlled : Controlled side) {stream : ℕ}
    (free : side.waiting = none) (opened : side.isOpen stream = true) :
    StopsOwn side (side.closeStream stream).state stream ↔
      ∀ other, other ≠ stream → side.isOpen other = true →
        (∀ c, side.process.childRunning c = true → ¬ side.process.Launched other c) ∧
          ∀ t, side.commandTimer.ref = some t → side.commandTimer.callbackOf t ≠ some other := by
  obtain ⟨process, runs⟩ := state_closeStream opened
  constructor
  · intro stops other foreign others_open
    refine ⟨fun c live launched => ?_, fun t refers owner => ?_⟩
    · -- the handler terminates this child
      have dead : (side.closeStream stream).state.process.childRunning c = false := by
        rw [process, ProcessHandler.childRunning_terminate, controlled.only live]
        simp
      exact foreign (ProcessHandler.launched_unique launched (stops.child live dead))
    · -- the handler disarms this timer
      have live := controlled.armed owner others_open
      have dead : (side.closeStream stream).state.commandTimer.runs t = false := by
        rw [runs, refers]
        simp
      exact foreign (Option.some.inj (owner.symm.trans (stops.timer live dead)))
  · intro alone
    refine ⟨fun {c} live dead => ?_, fun {t} live dead => ?_, fun {other c} foreign others_open live
      launched => absurd launched ((alone other foreign others_open).1 c live)⟩
    · obtain ⟨launcher, launched⟩ := ProcessHandler.exists_launched_of_running live
      have launcher_open : side.isOpen launcher = true := by
        rcases controlled.launcher live launched with own | waits
        · exact own
        · cases free.symm.trans waits
      by_contra foreign
      have other : launcher ≠ stream := fun same => foreign (same ▸ launched)
      exact (alone launcher other launcher_open).1 c live launched
    · have refers : side.commandTimer.ref = some t := by
        simpa [runs, live] using dead
      obtain ⟨owner, made⟩ := TimerSlot.exists_callbackOf_of_runs live
      by_contra foreign
      have other : owner ≠ stream := fun same => foreign (same ▸ made)
      exact (alone owner other (controlled.current refers live made)).2 t refers made

/-- **Under the invariant a closing stops what is its own exactly when no other open
stream is concerned.** -/
theorem closingIsolated_iff (controlled : Controlled side) (event : CommandEvent) :
    closingIsolated side event ↔ closesAlone side event := by
  cases event with
  | closeStream stream =>
      simp only [closingIsolated, closesAlone, CommandEvent.handle]
      by_cases free : side.waiting = none
      · cases opened : side.isOpen stream with
        | true =>
            rw [onStrand, if_pos free, stopsOwn_closeStream_iff controlled free opened]
            simp [free]
        | false =>
            have same : side.closeStream stream = .returned side := by simp [closeStream, opened]
            rw [onStrand, if_pos free, same]
            exact iff_of_true (controlled.stopsOwn_self stream) (by simp)
      · rw [onStrand, if_neg free]
        exact iff_of_true (controlled.stopsOwn_self stream) fun idle => absurd idle free
  | _ => exact Iff.rfl

/-! ## Which streams are open -/

theorem lt_length_of_isOpen {stream : ℕ} (opened : side.isOpen stream = true) :
    stream < side.invocations.length := by
  obtain ⟨within, -⟩ := List.getElem?_eq_some_iff.mp (isOpen_iff.mp opened)
  exact within

/-- A new stream is open, and no other becomes so. -/
theorem isOpen_invoked_iff {invocation : Invocation} {stream : ℕ} :
    (side.invoked invocation).isOpen stream = true ↔
      side.isOpen stream = true ∨
        stream = side.invocations.length ∧ invocation = .stream false := by
  simp only [isOpen_iff, invoked, List.getElem?_append, List.getElem?_singleton]
  rcases Nat.lt_trichotomy stream side.invocations.length with before | same | beyond
  · simp [before, Nat.ne_of_lt before]
  · simp [same]
  · have absent : side.invocations[stream]? = none := List.getElem?_eq_none (Nat.le_of_lt beyond)
    simp [Nat.not_lt.mpr (Nat.le_of_lt beyond), Nat.ne_of_gt beyond, Nat.sub_ne_zero_of_lt beyond]

theorem isOpen_closed_iff {stream other : ℕ} :
    (side.closed stream).isOpen other = true ↔ side.isOpen other = true ∧ other ≠ stream := by
  simp only [isOpen_iff, closed, List.getElem?_set]
  by_cases same : stream = other
  · subst same
    by_cases within : stream < side.invocations.length <;> simp [within]
  · simp [same, Ne.symm same]

/-! ## The invariant -/

/-- An invocation that starts nothing. -/
theorem Controlled.invoked (controlled : Controlled side) (invocation : Invocation) :
    Controlled (side.invoked invocation) where
  numbered :=
    { launched := fun found => by
        have before := controlled.numbered.launched found
        simpa [CommandSide.invoked] using Nat.lt_succ_of_lt before
      owned := fun found => by
        have before := controlled.numbered.owned found
        simpa [CommandSide.invoked] using Nat.lt_succ_of_lt before
      written := controlled.numbered.written }
  only := controlled.only
  launcher live launched := by
    rcases controlled.launcher live launched with opened | waits
    · exact .inl (isOpen_invoked_iff.mpr (.inl opened))
    · exact .inr waits
  made live launched opened := by
    rcases isOpen_invoked_iff.mp opened with old | ⟨new, -⟩
    · exact controlled.made live launched old
    · have before := controlled.numbered.launched launched
      omega
  armed owner opened := by
    rcases isOpen_invoked_iff.mp opened with old | ⟨new, -⟩
    · exact controlled.armed owner old
    · have before := controlled.numbered.owned owner
      omega
  current refers live owner :=
    isOpen_invoked_iff.mpr (.inl (controlled.current refers live owner))

/-- With no child running, what is owed of the running child is owed of none. -/
theorem Controlled.of_idle (numbered : Numbered after)
    (idle : ∀ c, after.process.childRunning c = false)
    (armed : ∀ {t owner : ℕ}, after.commandTimer.callbackOf t = some owner →
      after.isOpen owner = true → after.commandTimer.runs t = true)
    (current : ∀ {t owner : ℕ}, after.commandTimer.ref = some t →
      after.commandTimer.runs t = true → after.commandTimer.callbackOf t = some owner →
        after.isOpen owner = true) : Controlled after where
  numbered := numbered
  only {c} live := by
    rw [idle c] at live
    cases live
  launcher {_ c} live := by
    rw [idle c] at live
    cases live
  made {_ c} live := by
    rw [idle c] at live
    cases live
  armed := armed
  current := current

/-- No child runs when the one that `process` refers to does not. -/
theorem Controlled.idle (controlled : Controlled side) (idle : side.process.running = false)
    (c : ℕ) : side.process.childRunning c = false := by
  refine Bool.eq_false_iff.mpr fun live => ?_
  have running := ProcessHandler.running_iff.mpr ⟨c, controlled.only live, live⟩
  rw [idle] at running
  cases running

/-- A handler whose running children are among those of before. -/
theorem Controlled.of_process (controlled : Controlled side) {process : ProcessHandler}
    (numbered : Numbered { side with process })
    (same : process.process = side.process.process)
    (running : ∀ {c : ℕ}, process.childRunning c = true → side.process.childRunning c = true)
    (launched : ∀ {launcher c : ℕ}, process.Launched launcher c ↔
      side.process.Launched launcher c) : Controlled { side with process } where
  numbered := numbered
  only live := same.trans (controlled.only (running live))
  launcher live found := controlled.launcher (running live) (launched.mp found)
  made live found := controlled.made (running live) (launched.mp found)
  armed := controlled.armed
  current := controlled.current

/-- After a `start` that did not throw the running child is the one of before, or the
new one. -/
theorem Controlled.of_started (controlled : Controlled side) (numbered : Numbered after)
    {invocation : Invocation} {cmd : String} {launches : Bool} {process : ProcessHandler}
    (started : side.process.start side.invocations.length cmd launches = .returned process)
    (processes : after.process = process) (free : side.waiting = none)
    (opens : ∀ {stream : ℕ}, after.isOpen stream = (side.invoked invocation).isOpen stream)
    (own : after.isOpen side.invocations.length = true ∨
      after.waiting = some side.invocations.length)
    (timer : after.isOpen side.invocations.length = true →
      ∃ t, after.commandTimer.callbackOf t = some side.invocations.length)
    (owners : ∀ {t owner : ℕ}, side.commandTimer.callbackOf t = some owner →
      after.commandTimer.callbackOf t = some owner)
    (armed : ∀ {t owner : ℕ}, after.commandTimer.callbackOf t = some owner →
      after.isOpen owner = true → after.commandTimer.runs t = true)
    (current : ∀ {t owner : ℕ}, after.commandTimer.ref = some t →
      after.commandTimer.runs t = true → after.commandTimer.callbackOf t = some owner →
        after.isOpen owner = true) : Controlled after := by
  subst processes
  have cases_of : ∀ {c : ℕ}, after.process.childRunning c = true →
      (side.process.childRunning c = true ∧ after.process = side.process) ∨
        after.process.process = some c ∧ ∀ {launcher : ℕ}, after.process.Launched launcher c →
          launcher = side.invocations.length := by
    intro c live
    rcases ProcessHandler.start_cases started with ⟨-, same⟩ | ⟨idle, -, same⟩
    · exact .inl ⟨same ▸ live, same⟩
    · rw [same] at live ⊢
      rw [ProcessHandler.childRunning_launch, controlled.idle idle c, Bool.or_false,
        decide_eq_true_eq] at live
      subst live
      refine .inr ⟨rfl, fun launched => ?_⟩
      rcases ProcessHandler.launched_launch.mp launched with ⟨child, found, -⟩ | ⟨-, new⟩
      · simp at found
      · exact new
  refine ⟨numbered, fun live => ?_, fun live launched => ?_, fun live launched opened => ?_, armed,
    current⟩
  · rcases cases_of live with ⟨old, same⟩ | ⟨refers, -⟩
    · rw [same]
      exact controlled.only old
    · exact refers
  · rcases cases_of live with ⟨old, same⟩ | ⟨-, launcher⟩
    · rw [same] at launched
      rcases controlled.launcher old launched with opened | waits
      · exact .inl (opens.trans (isOpen_invoked_iff.mpr (.inl opened)))
      · cases free.symm.trans waits
    · rw [launcher launched]
      exact own
  · rcases cases_of live with ⟨old, same⟩ | ⟨-, launcher⟩
    · rw [same] at launched
      rcases isOpen_invoked_iff.mp (opens.symm.trans opened) with before | ⟨new, -⟩
      · obtain ⟨t, owner⟩ := controlled.made old launched before
        exact ⟨t, owners owner⟩
      · have within := controlled.numbered.launched launched
        omega
    · rw [launcher launched] at opened ⊢
      exact timer opened

/-- A tick that leaves the timer armed while its stream is open. -/
theorem Controlled.of_timer (controlled : Controlled side) {t : ℕ} {running : Bool}
    (live : side.commandTimer.runs t = true)
    (ends : running = false → ∀ owner, side.commandTimer.callbackOf t = some owner →
      side.isOpen owner = false) :
    Controlled { side with commandTimer := side.commandTimer.setRunning t running } where
  numbered :=
    { controlled.numbered with
      owned := fun found =>
        controlled.numbered.owned ((TimerSlot.callbackOf_setRunning _ _ _).symm.trans found) }
  only := controlled.only
  launcher := controlled.launcher
  made live launched opened := by
    obtain ⟨u, owner⟩ := controlled.made live launched opened
    exact ⟨u, (TimerSlot.callbackOf_setRunning _ _ _).trans owner⟩
  armed {u owner} found opened := by
    rw [TimerSlot.callbackOf_setRunning] at found
    have before := controlled.armed found opened
    rw [TimerSlot.runs_setRunning_of_runs live]
    split
    · next same =>
        subst same
        cases running with
        | true => rfl
        | false =>
            have shut := ends rfl owner found
            cases shut.symm.trans opened
    · exact before
  current refers live' owner :=
    controlled.current refers (TimerSlot.runs_of_setRunning live live')
      ((TimerSlot.callbackOf_setRunning _ _ _).symm.trans owner)

/-- An invocation of `Execute_Command` that got past `start`. -/
theorem Controlled.of_executed (controlled : Controlled side) {cmd : String} {launches : Bool}
    {process : ProcessHandler}
    (numbered : Numbered
      { side.invoked .command with process, waiting := some side.invocations.length })
    (free : side.waiting = none)
    (started : side.process.start side.invocations.length cmd launches = .returned process) :
    Controlled { side.invoked .command with process, waiting := some side.invocations.length } := by
  have kept := controlled.invoked .command
  have opens : ∀ {stream : ℕ}, (side.invoked .command).isOpen stream =
      (side.invoked .command).isOpen stream := rfl
  refine controlled.of_started numbered started rfl free opens (.inr rfl) ?_ id kept.armed
    kept.current
  intro opened
  rcases isOpen_invoked_iff.mp opened with old | ⟨-, other⟩
  · exact absurd (lt_length_of_isOpen old) (Nat.lt_irrefl _)
  · cases other

/-- An invocation of `Execute_Stream_Command` that got past `start` has the new timer, and
its stream is open. -/
theorem Controlled.of_executedStream (controlled : Controlled side) {cmd : String}
    {launches : Bool} {process : ProcessHandler}
    (numbered : Numbered { side.invoked (.stream false) with
      process, commandTimer := side.commandTimer.assign 1000 side.invocations.length })
    (free : side.waiting = none)
    (started : side.process.start side.invocations.length cmd launches = .returned process) :
    Controlled { side.invoked (.stream false) with
      process, commandTimer := side.commandTimer.assign 1000 side.invocations.length } := by
  have fresh : (side.invoked (.stream false)).isOpen side.invocations.length = true :=
    isOpen_invoked_iff.mpr (.inr ⟨rfl, rfl⟩)
  have opens : ∀ {stream : ℕ}, (side.invoked (.stream false)).isOpen stream =
      (side.invoked (.stream false)).isOpen stream := rfl
  refine controlled.of_started numbered started rfl free opens (.inl fresh) ?_ ?_ ?_ ?_
  · exact fun _ => ⟨side.commandTimer.created.length, by simp [TimerSlot.callbackOf_assign]⟩
  · intro t owner found
    have old := TimerSlot.lt_length_of_callbackOf found
    rw [TimerSlot.callbackOf_assign, if_neg (Nat.ne_of_lt old), found]
  · intro t owner found opened
    rw [TimerSlot.callbackOf_assign] at found
    rw [TimerSlot.runs_assign]
    split at found
    · next new => simp [new]
    · rcases isOpen_invoked_iff.mp opened with old | ⟨new, -⟩
      · simp [controlled.armed found old]
      · have within := controlled.numbered.owned found
        omega
  · intro t owner refers _ found
    obtain rfl := Option.some.inj refers
    rw [TimerSlot.callbackOf_assign, if_pos rfl] at found
    obtain rfl := Option.some.inj found
    exact fresh

/-- A closing that concerns no other open stream. -/
theorem Controlled.of_closed (controlled : Controlled side) {stream : ℕ}
    {commandTimer : TimerSlot ℕ} (numbered : Numbered { side.closed stream with commandTimer })
    (free : side.waiting = none) (opened : side.isOpen stream = true)
    (destroyed : side.commandTimer.destroy = some commandTimer)
    (alone : closesAlone side (.closeStream stream)) :
    Controlled { side.closed stream with commandTimer } := by
  obtain ⟨u, refers, rfl⟩ := TimerSlot.destroy_cases destroyed
  refine Controlled.of_idle numbered (fun c => ?_) ?_ ?_
  · -- the handler terminated the only child that could run
    change side.process.terminate.childRunning c = false
    rw [ProcessHandler.childRunning_terminate]
    cases live : side.process.childRunning c with
    | false => rfl
    | true => simp [controlled.only live]
  · intro t owner found opened'
    obtain ⟨before, other⟩ := isOpen_closed_iff.mp opened'
    rw [TimerSlot.callbackOf_setRunning] at found
    have live := controlled.armed found before
    rw [TimerSlot.runs_setRunning]
    split
    · next same =>
        subst same
        exact absurd found ((alone free opened owner other before).2 u refers)
    · exact live
  · intro t owner refers' live found
    obtain ⟨-, other⟩ := TimerSlot.runs_of_setRunning_false live
    exact absurd (Option.some.inj (refers.symm.trans refers')) other

/-- **A step whose closing concerns no other open stream keeps the invariant.** -/
theorem Controlled.step (controlled : Controlled side) {event : CommandEvent}
    (step : CommandStep side event after) (alone : closesAlone side event) : Controlled after := by
  have numbered := controlled.numbered.step (grows_of_step step)
  cases step with
  | busy | notOpen | waits | silent => exact controlled
  | refused =>
      have kept := controlled.invoked .command
      exact ⟨numbered, kept.only, kept.launcher, kept.made, kept.armed, kept.current⟩
  | failed => exact controlled.invoked .command
  | refusedStream | failedStream => exact controlled.invoked (.stream false)
  | executed free given started => exact controlled.of_executed numbered free started
  | executedStream free given started => exact controlled.of_executedStream numbered free started
  | closed free opened destroyed => exact controlled.of_closed numbered free opened destroyed alone
  | returned waited idle =>
      have none_runs := controlled.idle idle
      exact Controlled.of_idle numbered none_runs controlled.armed controlled.current
  | ended free live owner destroyed =>
      refine controlled.of_timer live fun _ owner' found => ?_
      obtain rfl := Option.some.inj (owner.symm.trans found)
      rw [isDestroyed_iff] at destroyed
      simp [isOpen, destroyed]
  | sent free live owner opened output =>
      have kept : Controlled { side with commandTimer := side.commandTimer.setRunning _ true } :=
        controlled.of_timer live fun ends => by cases ends
      exact ⟨numbered, kept.only, kept.launcher, kept.made, kept.armed, kept.current⟩
  | quiet free live owner opened output =>
      exact controlled.of_timer live fun ends => by cases ends
  | exit c =>
      refine controlled.of_process numbered rfl (fun live => ?_) (ProcessHandler.launched_exit c)
      rw [ProcessHandler.childRunning_exit, Bool.and_eq_true] at live
      exact live.1
  | append c bytes =>
      have frame := side.process.append_frame c bytes
      refine controlled.of_process numbered ?_ (fun live => ?_) ?_
      · rw [frame]
      · rw [frame] at live
        exact live
      · rw [frame]
        exact Iff.rfl
  | endOfFile c =>
      refine controlled.of_process numbered rfl (fun live => ?_)
        (ProcessHandler.launched_endOfFile c)
      rw [ProcessHandler.childRunning_endOfFile] at live
      exact live

/-! ## Runs -/

theorem controlled_new (execPath arguments : String) : Controlled (new execPath arguments) :=
  Controlled.of_idle (numbered_new execPath arguments) (fun _ => rfl) (fun owner => by cases owner)
    fun refers => by cases refers

/-- **When streams are isolated.** Every closing of a run ends only a child and
disarms only a timer of the closing stream's own invocation, and leaves the other open
streams theirs, exactly when at every closing no other open stream launched the
running child or made the timer that `_command_timer` refers to. -/
theorem closings_isolated_iff (execPath arguments : String) (events : List CommandEvent) :
    EachStep commandMachine (new execPath arguments) events closingIsolated ↔
      EachStep commandMachine (new execPath arguments) events closesAlone := by
  refine eachStep_congr Controlled (fun _ event controlled => closingIsolated_iff controlled event)
    ?_ (controlled_new execPath arguments)
  intro side event after controlled isolated step
  exact controlled.step (commandStep_of_machine step)
    ((closingIsolated_iff controlled event).mp isolated)

/-- The second stream closes, and the child of the first one is terminated. -/
theorem closing_ends_another_child :
    ¬ EachStep commandMachine (new "" "") [.invokeStream (.map [("cmd", .string "a")]) true,
      .invokeStream (.map [("cmd", .string "b")]) true, .closeStream 1] closingIsolated := by
  intro every
  have stops := every [.invokeStream (.map [("cmd", .string "a")]) true,
    .invokeStream (.map [("cmd", .string "b")]) true] (.closeStream 1) [] _ rfl rfl
  have launched : ProcessHandler.Launched _ 1 0 := stops.child rfl rfl
  obtain ⟨child, found, other⟩ := launched
  obtain rfl := Option.some.inj found
  cases other

end CommandSide

end DslinkSystem
