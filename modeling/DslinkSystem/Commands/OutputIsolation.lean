import DslinkSystem.Commands.CommandSteps

/-!
# Which output an invocation delivers

The bytes in the buffer, and those that the readers still bring, have sources: the
invocations that launched the children that wrote them. Whatever is in the buffer is
delivered by any invocation that drains it: the one inside `process->wait()`, or one
whose stream is open and whose timer is armed. `Separated` says that every source is
every drainer, and so that every byte delivered was written by a child of the
invocation that delivered it.

An invocation that gets past `start` keeps the command side separated exactly when
it finds nothing to drain and, where it launches a child, nobody who drains
(`launchesAlone`). A run and whatever the children, readers and timers do after any
part of it are isolated exactly when every invocation is made like that
(`stays_isolated_iff`).
-/

set_option autoImplicit false

namespace DslinkSystem

open EventRuns TimerSlots

namespace CommandSide

variable {side after : CommandSide}

/-! ## Sources and drainers -/

/-- Every byte returned by an invocation or sent on its stream was written by a child
which this invocation launched. -/
def Isolated (side : CommandSide) : Prop :=
  ∀ delivery ∈ side.delivered, ∀ written ∈ delivery.2,
    side.process.Launched delivery.1 written.child

/-- A child of the invocation is still read, or has bytes in the buffer. -/
def Source (side : CommandSide) (launcher : ℕ) : Prop :=
  (∃ c, side.process.childReading c = true ∧ side.process.Launched launcher c) ∨
    ∃ written ∈ side.process.output, side.process.Launched launcher written.child

/-- A command timer of the invocation is armed and its stream is not destroyed. -/
def TimerDrains (side : CommandSide) (invocation : ℕ) : Prop :=
  ∃ t, side.commandTimer.runs t = true ∧ side.commandTimer.callbackOf t = some invocation ∧
    side.isDestroyed invocation = false

/-- The invocation will deliver what is in the buffer. -/
def Drainer (side : CommandSide) (invocation : ℕ) : Prop :=
  side.waiting = some invocation ∨ TimerDrains side invocation

/-- Every source is every drainer, and every delivery is isolated. -/
structure Separated (side : CommandSide) : Prop where
  numbered : Numbered side
  isolated : Isolated side
  matched : ∀ {launcher invocation : ℕ}, Source side launcher → Drainer side invocation →
    launcher = invocation

/-- No reader is reading and the buffer is empty. -/
def settled (process : ProcessHandler) : Prop :=
  process.output = [] ∧ ∀ c, process.childReading c = false

/-- An invocation that gets past `start` finds no reader reading and the buffer empty;
and where it launches a child, it finds no armed command timer of a stream that is
not destroyed. -/
def launchesAlone (side : CommandSide) : CommandEvent → Prop
  | .executeCommand v launches | .invokeStream v launches =>
      side.waiting = none → v.cmdString ≠ none → (side.process.running = true ∨ launches = true) →
        settled side.process ∧
          (side.process.running = false → ∀ invocation, ¬ TimerDrains side invocation)
  | _ => True

theorem not_source_of_settled (quiet : settled side.process) (launcher : ℕ) :
    ¬ Source side launcher := by
  rintro (⟨c, reads, -⟩ | ⟨written, member, -⟩)
  · rw [quiet.2 c] at reads
    cases reads
  · rw [quiet.1] at member
    cases member

/-- A new invocation has no destroyed stream. -/
theorem isDestroyed_invoked {invocation : Invocation} (fresh : invocation ≠ .stream true)
    (stream : ℕ) : (side.invoked invocation).isDestroyed stream = side.isDestroyed stream := by
  simp only [isDestroyed, invoked, List.getElem?_append, List.getElem?_singleton]
  split
  · rfl
  · next beyond =>
      rw [List.getElem?_eq_none (Nat.le_of_not_lt beyond)]
      split
      · simpa using fresh
      · rfl

theorem timerDrains_of_invoked {invocation : Invocation} (fresh : invocation ≠ .stream true)
    {stream : ℕ} (drains : TimerDrains (side.invoked invocation) stream) :
    TimerDrains side stream := by
  obtain ⟨t, live, owner, opened⟩ := drains
  exact ⟨t, live, owner, (isDestroyed_invoked fresh stream).symm.trans opened⟩

/-- Closing a stream destroys it and no other. -/
theorem isDestroyed_of_closed {stream other : ℕ}
    (opened : (side.closed stream).isDestroyed other = false) : side.isDestroyed other = false := by
  simp only [isDestroyed, closed, List.getElem?_set] at opened ⊢
  split at opened
  · next same =>
      subst same
      split at opened
      · simp at opened
      · next beyond => simp [List.getElem?_eq_none (Nat.le_of_not_lt beyond)]
  · exact opened

/-- A step without an invocation adds no source: whatever it brings to the buffer was
still to be read. -/
theorem source_of_grows (grows : Grows side after)
    (same : after.invocations.length = side.invocations.length)
    (reading : ∀ {c : ℕ}, after.process.childReading c = true →
      side.process.childReading c = true) {launcher : ℕ} (source : Source after launcher) :
    Source side launcher := by
  have launched : ∀ {c : ℕ}, after.process.Launched launcher c →
      side.process.Launched launcher c := by
    intro c found
    rcases grows.launcher found with old | ⟨new, within⟩
    · exact old
    · omega
  rcases source with ⟨c, reads, found⟩ | ⟨written, member, found⟩
  · exact .inl ⟨c, reading reads, launched found⟩
  · rcases grows.output member with old | reads
    · exact .inr ⟨written, old, launched found⟩
    · exact .inl ⟨written.child, reads, launched found⟩

/-! ## Steps keep the command side separated -/

/-- A step that adds no source and no drainer, and delivers only what is isolated. -/
theorem Separated.of_le (separated : Separated side) (grows : Grows side after)
    (delivered : ∀ delivery ∈ after.delivered, delivery ∈ side.delivered ∨
      ∀ written ∈ delivery.2, side.process.Launched delivery.1 written.child)
    (source : ∀ {launcher : ℕ}, Source after launcher → Source side launcher)
    (drainer : ∀ {invocation : ℕ}, Drainer after invocation → Drainer side invocation) :
    Separated after where
  numbered := separated.numbered.step grows
  isolated delivery member written among := by
    rcases delivered delivery member with old | new
    · exact grows.launched (separated.isolated delivery old written among)
    · exact grows.launched (new written among)
  matched from_source to_drainer := separated.matched (source from_source) (drainer to_drainer)

/-- What a drainer delivers is isolated. -/
theorem Separated.isolated_output (separated : Separated side) {invocation : ℕ}
    (drains : Drainer side invocation) :
    ∀ written ∈ side.process.output, side.process.Launched invocation written.child := by
  intro written member
  obtain ⟨launcher, launched⟩ := separated.numbered.written member
  rw [← separated.matched (.inr ⟨written, member, launched⟩) drains]
  exact launched

/-- A tick of an armed timer adds no drainer. -/
theorem drainer_of_setRunning {invocation : ℕ} (drains : Drainer after invocation) {t : ℕ}
    {running : Bool} (live : side.commandTimer.runs t = true)
    (waiting : after.waiting = side.waiting)
    (invocations : after.invocations = side.invocations)
    (timer : after.commandTimer = side.commandTimer.setRunning t running) :
    Drainer side invocation := by
  rcases drains with waits | ⟨u, live', owner, opened⟩
  · exact .inl (waiting ▸ waits)
  · rw [timer] at live' owner
    rw [isDestroyed, invocations] at opened
    exact .inr ⟨u, TimerSlot.runs_of_setRunning live live',
      (TimerSlot.callbackOf_setRunning t u running).symm.trans owner, opened⟩

/-- A drainer delivers what is in the buffer. -/
theorem Separated.of_drained (separated : Separated side) (grows : Grows side after)
    {invocation : ℕ} (drains : Drainer side invocation)
    (delivered : after.delivered = (side.drained invocation).delivered)
    (source : ∀ {launcher : ℕ}, Source after launcher → Source side launcher)
    (drainer : ∀ {other : ℕ}, Drainer after other → Drainer side other) : Separated after := by
  refine separated.of_le grows ?_ source drainer
  intro delivery member
  rw [delivered] at member
  rcases List.mem_append.mp member with old | new
  · exact .inl old
  · rw [List.mem_singleton.mp new]
    exact .inr (separated.isolated_output drains)

/-- An invocation that got past `start`: it finds no source, and where it launched a
child, no drainer. -/
theorem Separated.of_started (separated : Separated side) (grows : Grows side after)
    {cmd : String} {launches : Bool} {process : ProcessHandler}
    (started : side.process.start side.invocations.length cmd launches = .returned process)
    (alone : settled side.process ∧
      (side.process.running = false → ∀ invocation, ¬ TimerDrains side invocation))
    (processes : after.process = process) (delivered : after.delivered = side.delivered)
    (drainer : ∀ {invocation : ℕ}, Drainer after invocation →
      invocation = side.invocations.length ∨ TimerDrains side invocation) :
    Separated after where
  numbered := separated.numbered.step grows
  isolated delivery member written among := by
    rw [delivered] at member
    exact grows.launched (separated.isolated delivery member written among)
  matched {launcher invocation} from_source to_drainer := by
    obtain ⟨empty, silent⟩ := alone.1
    rcases ProcessHandler.start_cases started with ⟨-, rfl⟩ | ⟨idle, -, rfl⟩
    · -- the child that runs goes on, and nobody reads its output
      have old : Source side launcher := by
        simpa only [Source, processes] using from_source
      exact absurd old (not_source_of_settled alone.1 launcher)
    · have own : launcher = side.invocations.length := by
        rcases from_source with ⟨c, reads, launched⟩ | ⟨written, member, -⟩
        · rw [processes] at reads launched
          simp only [ProcessHandler.childReading_launch, silent, Bool.or_false,
            decide_eq_true_eq] at reads
          subst reads
          rcases ProcessHandler.launched_launch.mp launched with ⟨child, found, -⟩ | ⟨-, new⟩
          · simp at found
          · exact new
        · rw [processes] at member
          change written ∈ side.process.output at member
          rw [empty] at member
          cases member
      rcases drainer to_drainer with new | old
      · rw [own, new]
      · exact absurd old (alone.2 idle invocation)

/-- **A step whose invocation is made alone keeps the command side separated.** -/
theorem Separated.step (separated : Separated side) {event : CommandEvent}
    (step : CommandStep side event after) (alone : launchesAlone side event) : Separated after := by
  have grows := grows_of_step step
  cases step with
  | busy | notOpen | waits | silent => exact separated
  | refused free given =>
      refine separated.of_le grows ?_ id ?_
      · intro delivery member
        rcases List.mem_append.mp member with old | new
        · exact .inl old
        · rw [List.mem_singleton.mp new]
          exact .inr fun written among => by cases among
      · rintro invocation (waits | timer)
        · exact .inl waits
        · have before : TimerDrains (side.invoked .command) invocation := timer
          exact .inr (timerDrains_of_invoked (by simp) before)
  | failed | refusedStream | failedStream =>
      exact separated.of_le grows (fun _ => .inl) id
        (Or.imp_right (timerDrains_of_invoked (by simp)))
  | executed free given started =>
      have past := alone free (by simp [given]) (ProcessHandler.running_or_launches started)
      refine separated.of_started grows started past rfl rfl fun drains => ?_
      rcases drains with waits | timer
      · exact .inl (Option.some.inj waits).symm
      · have before : TimerDrains (side.invoked .command) _ := timer
        exact .inr (timerDrains_of_invoked (by simp) before)
  | executedStream free given started =>
      have past := alone free (by simp [given]) (ProcessHandler.running_or_launches started)
      refine separated.of_started grows started past rfl rfl ?_
      rintro invocation (waits | ⟨t, live, owner, opened⟩)
      · cases free.symm.trans waits
      · rw [TimerSlot.callbackOf_assign] at owner
        split at owner
        · exact .inl (Option.some.inj owner).symm
        · next old =>
            have before : side.commandTimer.runs t = true := by
              simpa [TimerSlot.runs_assign, old] using live
            have opened' : (side.invoked (.stream false)).isDestroyed invocation = false := opened
            exact .inr (timerDrains_of_invoked (by simp) ⟨t, before, owner, opened'⟩)
  | @closed stream commandTimer free opened destroyed =>
      obtain ⟨t, -, rfl⟩ := TimerSlot.destroy_cases destroyed
      refine separated.of_le grows (fun _ => .inl) ?_ ?_
      · exact source_of_grows grows (by simp [CommandSide.closed])
          fun {c} reads => ProcessHandler.childReading_terminate c ▸ reads
      · rintro invocation (waits | ⟨u, live, owner, opened'⟩)
        · exact .inl waits
        · exact .inr ⟨u, (TimerSlot.runs_of_setRunning_false live).1,
            (TimerSlot.callbackOf_setRunning t u false).symm.trans owner,
            isDestroyed_of_closed opened'⟩
  | returned waited idle =>
      refine separated.of_drained grows (.inl waited) rfl (source_of_grows grows rfl id) ?_
      rintro invocation (waits | timer)
      · cases waits
      · exact .inr timer
  | sent free live owner opened output =>
      exact separated.of_drained grows (.inr ⟨_, live, owner, opened⟩) rfl
        (source_of_grows grows rfl id) fun drains => drainer_of_setRunning drains live rfl rfl rfl
  | ended free live owner destroyed =>
      exact separated.of_le grows (fun _ => .inl) id fun drains =>
        drainer_of_setRunning drains live rfl rfl rfl
  | quiet free live owner opened output =>
      exact separated.of_le grows (fun _ => .inl) id fun drains =>
        drainer_of_setRunning drains live rfl rfl rfl
  | exit c =>
      refine separated.of_le grows (fun _ => .inl) ?_ id
      exact source_of_grows grows rfl fun {d} reads => ProcessHandler.childReading_exit c d ▸ reads
  | append c bytes =>
      refine separated.of_le grows (fun _ => .inl) (source_of_grows grows rfl ?_) id
      intro d reads
      rw [ProcessHandler.append_frame] at reads
      exact reads
  | endOfFile c =>
      refine separated.of_le grows (fun _ => .inl) (source_of_grows grows rfl ?_) id
      intro d reads
      rw [ProcessHandler.childReading_endOfFile] at reads
      exact (Bool.and_eq_true_iff.mp reads).1

/-! ## Whatever is scheduled -/

end CommandSide

/-- The event is no call of a client: a wait returns, a timer ticks, a child exits, or
a reader appends or ends. -/
def CommandEvent.isSchedule : CommandEvent → Prop
  | executeCommand _ _ | invokeStream _ _ | closeStream _ => False
  | _ => True

namespace CommandSide

variable {side after : CommandSide}

/-- Every delivery is isolated, and so is all that is delivered by whatever is
scheduled next. -/
def StaysIsolated (side : CommandSide) : Prop :=
  ∀ schedule final, (∀ event ∈ schedule, event.isSchedule) →
    run commandMachine side schedule = some final → Isolated final

theorem StaysIsolated.isolated (stays : StaysIsolated side) : Isolated side :=
  stays [] side (by simp) rfl

theorem StaysIsolated.step (stays : StaysIsolated side) {event : CommandEvent}
    (step : commandMachine side event = some after) (scheduled : event.isSchedule) :
    StaysIsolated after := by
  intro schedule final all reached
  refine stays (event :: schedule) final ?_ (by rw [run_cons, step]; exact reached)
  intro other member
  rcases List.mem_cons.mp member with rfl | later
  · exact scheduled
  · exact all other later

theorem launchesAlone_of_isSchedule {event : CommandEvent} (scheduled : event.isSchedule) :
    launchesAlone side event := by
  cases event with
  | executeCommand v launches => exact scheduled.elim
  | invokeStream v launches => exact scheduled.elim
  | _ => trivial

/-- A separated command side stays isolated. -/
theorem Separated.stays (separated : Separated side) : StaysIsolated side := by
  intro schedule final all reached
  have kept := EachStep.keeps (EachStep.of_forall all)
    (fun _ _ _ (separated : Separated _) scheduled step =>
      separated.step (commandStep_of_machine step) (launchesAlone_of_isSchedule scheduled))
    separated reached
  exact kept.isolated

/-! ## What a side that stays isolated owes -/

/-- The child that is waited for, if it runs, exits, and the wait is over. -/
theorem StaysIsolated.waited (stays : StaysIsolated side) {invocation : ℕ}
    (waits : side.waiting = some invocation) :
    ∃ process : ProcessHandler, process.output = side.process.output ∧
      (∀ c, process.childReading c = side.process.childReading c) ∧
      (∀ {launcher c : ℕ}, process.Launched launcher c ↔ side.process.Launched launcher c) ∧
      StaysIsolated { { side with process }.drained invocation with waiting := none } := by
  have returned : ∀ process : ProcessHandler, process.running = false →
      StaysIsolated { side with process } →
        StaysIsolated { { side with process }.drained invocation with waiting := none } := by
    intro process idle stays
    have step : commandMachine { side with process } .waitReturns =
        some { { side with process }.drained invocation with waiting := none } := by
      simp [commandMachine, CommandEvent.handle, waitReturns, waits, idle,
        ProcessHandler.getOutput, drained, deliver]
    exact stays.step step trivial
  cases live : side.process.running with
  | false => exact ⟨side.process, rfl, fun _ => rfl, Iff.rfl, returned _ live stays⟩
  | true =>
      obtain ⟨c, refers, -⟩ := ProcessHandler.running_iff.mp live
      have exited : commandMachine side (.exit c) =
          some { side with process := side.process.exit c } := rfl
      have idle : (side.process.exit c).running = false := by
        simp [ProcessHandler.running, (ProcessHandler.exit_frame c).2, refers]
      exact ⟨side.process.exit c, rfl, ProcessHandler.childReading_exit c,
        ProcessHandler.launched_exit c, returned _ idle (stays.step exited trivial)⟩

/-- The invocation inside `process->wait()` will return what is in the buffer. -/
theorem StaysIsolated.waiting_output (stays : StaysIsolated side) {invocation : ℕ}
    (waits : side.waiting = some invocation) {written : OutputByte}
    (member : written ∈ side.process.output) : side.process.Launched invocation written.child := by
  obtain ⟨process, output, -, launched, stays'⟩ := stays.waited waits
  have delivered := stays'.isolated (invocation, process.output)
    (List.mem_append_right _ (List.mem_singleton_self _)) written (output ▸ member)
  exact launched.mp delivered

/-- The timer of a stream that is not destroyed will send what is in the buffer. -/
theorem StaysIsolated.timer_output (stays : StaysIsolated side) (free : side.waiting = none)
    {invocation : ℕ} (drains : TimerDrains side invocation) {written : OutputByte}
    (member : written ∈ side.process.output) : side.process.Launched invocation written.child := by
  obtain ⟨t, live, owner, opened⟩ := drains
  have sent := commandCallback_sent opened (List.ne_nil_of_mem member)
  have step : commandMachine side (.tick t) = some { side.drained invocation with
      commandTimer := side.commandTimer.setRunning t true } := by
    simp [commandMachine, CommandEvent.handle, onStrand, free, tick_of_runs live owner, sent,
      drained, deliver]
  exact (stays.step step trivial).isolated (invocation, side.process.output)
    (List.mem_append_right _ (List.mem_singleton_self _)) written member

/-- The reader of a child may append a byte. -/
theorem StaysIsolated.appended (stays : StaysIsolated side) {c : ℕ}
    (reads : side.process.childReading c = true) :
    ∃ process : ProcessHandler, (⟨c, 0⟩ : OutputByte) ∈ process.output ∧
      (∀ {launcher : ℕ}, process.Launched launcher c ↔ side.process.Launched launcher c) ∧
      StaysIsolated { side with process } := by
  have frame := side.process.append_frame c [0]
  have appended : commandMachine side (.append c [0]) =
      some { side with process := side.process.append c [0] } := rfl
  refine ⟨side.process.append c [0], by simp [ProcessHandler.append, reads], ?_,
    stays.step appended trivial⟩
  rw [frame]
  exact Iff.rfl

/-- A drainer was the launcher of every child that is still read: the reader may
append a byte, and the drainer delivers it. -/
theorem StaysIsolated.reading (stays : StaysIsolated side) {invocation : ℕ}
    (drains : Drainer side invocation) {c : ℕ} (reads : side.process.childReading c = true) :
    side.process.Launched invocation c := by
  rcases drains with waits | timer
  · obtain ⟨process, member, launched, stays'⟩ := stays.appended reads
    exact launched.mp (stays'.waiting_output waits member)
  · cases waits : side.waiting with
    | none =>
        obtain ⟨process, member, launched, stays'⟩ := stays.appended reads
        exact launched.mp (stays'.timer_output waits timer member)
    | some other =>
        -- the handler that waits returns first
        obtain ⟨process, -, reading, launched, stays'⟩ := stays.waited waits
        have reads' : ({ process with output := [] } : ProcessHandler).childReading c = true :=
          (reading c).trans reads
        obtain ⟨process', member, launched', stays''⟩ := stays'.appended reads'
        exact launched.mp (launched'.mp (stays''.timer_output rfl timer member))

/-! ## The condition is necessary -/

/-- An invocation that got past `start` and now drains found nothing to drain, and
where it launched a child, nobody who drains. -/
theorem alone_of_started (numbered : Numbered side) {cmd : String} {launches : Bool}
    {process : ProcessHandler}
    (started : side.process.start side.invocations.length cmd launches = .returned process)
    (processes : after.process = process) (stays : StaysIsolated after)
    (own : Drainer after side.invocations.length)
    (output : ∀ {written : OutputByte}, written ∈ after.process.output →
      after.process.Launched side.invocations.length written.child)
    (drainer : ∀ {invocation : ℕ}, TimerDrains side invocation → TimerDrains after invocation) :
    settled side.process ∧
      (side.process.running = false → ∀ invocation, ¬ TimerDrains side invocation) := by
  obtain ⟨launched, -, same⟩ := launched_start started
  -- no child that was there before was launched by the new invocation
  have foreign : ∀ {launcher c : ℕ}, side.process.Launched launcher c →
      ¬ after.process.Launched side.invocations.length c := by
    intro launcher c old new
    have before := numbered.launched old
    rw [processes] at new
    have same := ProcessHandler.launched_unique (launched old) new
    omega
  refine ⟨⟨?_, fun c => ?_⟩, fun idle invocation drains => ?_⟩
  · refine List.eq_nil_iff_forall_not_mem.mpr fun written member => ?_
    obtain ⟨launcher, old⟩ := numbered.written member
    exact foreign old (output (by rw [processes, same]; exact member))
  · refine Bool.eq_false_iff.mpr fun reads => ?_
    obtain ⟨launcher, old⟩ := ProcessHandler.exists_launched_of_reading reads
    have reads' : after.process.childReading c = true := by
      rw [processes]
      rcases ProcessHandler.start_cases started with ⟨-, rfl⟩ | ⟨-, -, rfl⟩
      · exact reads
      · simp [reads]
    exact foreign old (stays.reading own reads')
  · rcases ProcessHandler.start_cases started with ⟨live, -⟩ | ⟨-, -, rfl⟩
    · rw [idle] at live
      cases live
    · have reads : after.process.childReading side.process.children.length = true := by
        rw [processes]
        simp
      have launched' := stays.reading (.inr (drainer drains)) reads
      rw [processes] at launched'
      obtain ⟨t, -, owner, -⟩ := drains
      have before := numbered.owned owner
      rcases ProcessHandler.launched_launch.mp launched' with ⟨child, found, -⟩ | ⟨-, new⟩
      · simp at found
      · omega

/-- **A step after which the command side stays isolated was made alone.** -/
theorem launchesAlone_of_stays (numbered : Numbered side) {event : CommandEvent}
    (step : CommandStep side event after) (stays : StaysIsolated after) :
    launchesAlone side event := by
  cases step with
  | busy waits =>
      cases event with
      | executeCommand v launches => exact fun free => absurd free waits
      | invokeStream v launches => exact fun free => absurd free waits
      | _ => trivial
  | refused free given => exact fun _ some_cmd => absurd given some_cmd
  | refusedStream free given => exact fun _ some_cmd => absurd given some_cmd
  | failed free given idle fails => exact fun _ _ past => by simp [idle, fails] at past
  | failedStream free given idle fails => exact fun _ _ past => by simp [idle, fails] at past
  | executed free given started =>
      intro _ _ _
      refine alone_of_started numbered started rfl stays (.inl rfl)
        (fun member => stays.waiting_output rfl member) ?_
      rintro invocation ⟨t, live, owner, opened⟩
      exact ⟨t, live, owner, (isDestroyed_invoked (by simp) invocation).trans opened⟩
  | @executedStream v launches cmd process free given started =>
      intro _ _ _
      have opened : (side.invoked (.stream false)).isDestroyed side.invocations.length = false := by
        simp [isDestroyed, invoked]
      have own : TimerDrains { side.invoked (.stream false) with
          process, commandTimer := side.commandTimer.assign 1000 side.invocations.length }
          side.invocations.length :=
        ⟨side.commandTimer.created.length, by simp [TimerSlot.runs_assign],
          by simp [TimerSlot.callbackOf_assign], opened⟩
      refine alone_of_started numbered started rfl stays (.inr own)
        (fun member => stays.timer_output free own member) ?_
      rintro invocation ⟨t, live, owner, opened⟩
      have old := TimerSlot.lt_length_of_callbackOf owner
      refine ⟨t, ?_, ?_, (isDestroyed_invoked (by simp) invocation).trans opened⟩
      · simp [TimerSlot.runs_assign, live]
      · rw [TimerSlot.callbackOf_assign, if_neg (Nat.ne_of_lt old), owner]
  | _ => trivial

/-! ## Runs -/

theorem separated_new (execPath arguments : String) : Separated (new execPath arguments) where
  numbered := numbered_new execPath arguments
  isolated := by
    intro delivery member
    simp [new] at member
  matched := by
    rintro launcher invocation source -
    exact absurd source (not_source_of_settled ⟨rfl, fun c => rfl⟩ launcher)

/-- **When output is isolated.** In every state of a run all deliveries are isolated,
and so are those of whatever is scheduled from there, exactly when every invocation
of the run is made alone. -/
theorem stays_isolated_iff (execPath arguments : String) (events : List CommandEvent) :
    EachState commandMachine (new execPath arguments) events StaysIsolated ↔
      EachStep commandMachine (new execPath arguments) events launchesAlone := by
  refine eachState_iff_eachStep Separated ?_ ?_ ?_ (separated_new execPath arguments)
    (separated_new execPath arguments).stays
  · intro side event after separated _ step stays
    have happened := commandStep_of_machine step
    exact separated.step happened (launchesAlone_of_stays separated.numbered happened stays)
  · intro side event after separated _ step
    have happened := commandStep_of_machine step
    exact ⟨launchesAlone_of_stays separated.numbered happened,
      fun alone => (separated.step happened alone).stays⟩
  · intro side event _ stops
    by_contra alone
    have other : ∀ stream, event ≠ .closeStream stream := by
      rintro stream rfl
      exact alone trivial
    obtain ⟨after, step⟩ := goes_on other
    rw [stops] at step
    cases step

/-- The bytes left over from a closed stream are returned by the next command. -/
theorem output_of_a_closed_stream :
    ¬ EachState commandMachine (new "" "") [.invokeStream (.map [("cmd", .string "a")]) true,
      .append 0 [1], .closeStream 0, .executeCommand (.map [("cmd", .string "b")]) true, .exit 1,
      .waitReturns] Isolated := by
  intro every
  have isolated := every _ [] _ (List.append_nil _).symm rfl
  obtain ⟨child, found, other⟩ := isolated (1, [⟨0, 1⟩]) (by decide) ⟨0, 1⟩ (by decide)
  obtain rfl := Option.some.inj found
  cases other

end CommandSide

end DslinkSystem
