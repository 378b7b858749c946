import DslinkSystem.Polling.Refresh

/-!
# What polling guarantees

At most one poll timer is armed, and it is the one `_timer` refers to. It is armed while a
stat node is subscribed as long as no tick calls a getter that throws: the exception leaves
the callback, which then does not return true (`one_poll_timer_iff`).

The two callbacks share the timer, and each serves its own nodes only. A tick
reaches every subscribed node in every state of a run exactly when no subscription
finds the other callback armed, or its nodes without a timer, and the loop over the stat
nodes is not left before a subscribed one (`tick_covers_iff`). The update of the network
interfaces always returns true: once it was installed, polling never stops, and
before that it stops when nobody listens (`polling_stops_iff`).
-/

set_option autoImplicit false

namespace DslinkSystem

open EventRuns TimerSlots

variable {target : Platform}

namespace PollSide

variable {side : PollSide target}

/-! ## One timer -/

/-- Every run without writes reaches a state, and the invariant holds there. -/
theorem run_reaches_invariant {start : PollSide target} (invariant : PollInvariant start)
    (events : List (PollEvent target)) (noWrites : ∀ e ∈ events, e.isWrite = false) :
    ∃ side, run pollMachine start events = some side ∧ PollInvariant side := by
  refine run_goes_on (fun event => event.isWrite = false) ?_ events noWrites invariant
  intro side event noWrite invariant
  obtain ⟨after, step⟩ := goes_on invariant noWrite
  exact ⟨after, step, (view_step invariant step).invariant⟩

/-- At most one of the timers ever created is armed, it is the one `_timer` refers
to, and a subscribed stat node finds `_timer` armed. -/
structure OnePollTimer (side : PollSide target) : Prop where
  atMostOne : ∀ {t u : ℕ}, side.timer.runs t = true → side.timer.runs u = true → t = u
  referred : ∀ {t : ℕ}, side.timer.runs t = true → side.timer.ref = some t
  armed : ∀ {key : StatNode target}, (side.nodes key).getSubsState = true →
    ∃ t, side.timer.ref = some t ∧ side.timer.runs t = true

/-- The event is a tick of an armed timer of the loop, and the getter of a subscribed node
throws. -/
def getterThrows (side : PollSide target) : PollEvent target → Prop
  | .tick t read _ => side.timer.runs t = true ∧ side.timer.callbackOf t = some .statLoop ∧
      ∃ key, side.blocked read key = true
  | _ => False

/-- A subscribed stat node finds a callback installed. -/
def StatArmed (side : PollSide target) : Prop :=
  ∀ key, side.view.stat key = true → side.view.installed ≠ none

theorem onePollTimer_iff (invariant : PollInvariant side) : OnePollTimer side ↔ StatArmed side := by
  have finds : (∃ t, side.timer.ref = some t ∧ side.timer.runs t = true) ↔
      side.view.installed ≠ none := by
    rw [← TimerSlot.armed_iff, TimerSlot.armed_iff_installed, Option.ne_none_iff_exists']
    rfl
  constructor
  · intro one key on
    exact finds.mp (one.armed on)
  · intro armed
    exact ⟨invariant.oneLive.eq_of_runs, invariant.oneLive _, fun on => finds.mpr (armed _ on)⟩

/-- A tick leaves a subscribed node without a timer exactly when a getter throws. -/
theorem statArmed_tick (invariant : PollInvariant side) (armed : StatArmed side) {t : ℕ}
    {read : StatNode target → Option String} {interfaces : InterfaceTable}
    {after : PollSide target} (step : pollMachine side (.tick t read interfaces) = some after) :
    StatArmed after ↔ ¬ getterThrows side (.tick t read interfaces) := by
  obtain ⟨off, rfl⟩ | ⟨callback, live, installed, owner, rfl⟩ := tick_cases invariant step
  · exact iff_of_true armed (by simp [getterThrows, off])
  · have kept := sameSubscriptions_runCallback invariant.dynamic read interfaces callback
    have stays := invariant.oneLive.installed_setRunning live (side.returnsTrue read callback)
    have armed_iff : StatArmed { (side.runCallback read interfaces callback).state.side with
          timer := side.timer.setRunning t (side.returnsTrue read callback) } ↔
        ((∃ key, side.subscribed key = true) → side.returnsTrue read callback = true) := by
      have flags : ∀ key, (({ (side.runCallback read interfaces callback).state.side with
          timer := side.timer.setRunning t (side.returnsTrue read callback) } :
            PollSide target).view.stat key) = side.subscribed key := kept.stat
      have callback_after : ({ (side.runCallback read interfaces callback).state.side with
          timer := side.timer.setRunning t (side.returnsTrue read callback) } :
            PollSide target).view.installed = _ := stays
      simp only [StatArmed, flags, callback_after, installed]
      cases side.returnsTrue read callback <;> simp
    rw [armed_iff]
    cases callback with
    | networkUpdate => exact iff_of_true (fun _ => rfl) (by simp [getterThrows, owner])
    | statLoop =>
        simp only [returnsTrue_statLoop_iff, getterThrows, live, owner, true_and, not_exists,
          Bool.not_eq_true]
        constructor
        · intro returns key
          refine Bool.eq_false_iff.mpr fun blocks => ?_
          have clear := (returns ⟨key, subscribed_of_blocked blocks⟩).2 key
          rw [blocks] at clear
          cases clear
        · exact fun clear subscribes => ⟨subscribes, clear⟩

/-- A step leaves a subscribed node without a timer exactly when it is a tick at which a getter
throws. -/
theorem statArmed_step (invariant : PollInvariant side) (armed : StatArmed side)
    {event : PollEvent target} {after : PollSide target}
    (step : pollMachine side event = some after) :
    StatArmed after ↔ ¬ getterThrows side event := by
  have view := (view_step invariant step).view
  cases event with
  | tick t read interfaces => exact statArmed_tick invariant armed step
  | subscribe key =>
      refine iff_of_true (fun other on => ?_) (by simp [getterThrows])
      rw [view] at on ⊢
      cases callback : side.view.installed with
      | some callback' => simp [PollView.after, callback]
      | none =>
          cases rate : side.rated with
          | true => simp [PollView.after, callback]
          | false =>
              simp only [PollView.after, callback, rate, Bool.false_eq_true, if_false] at on
              exact absurd callback (armed other on)
  | unsubscribe key =>
      refine iff_of_true (fun other on => ?_) (by simp [getterThrows])
      rw [view] at on ⊢
      by_cases here : other = key
      · subst here
        simp [PollView.after] at on
      · have old : side.view.stat other = true := by simpa [PollView.after, here] using on
        exact armed other old
  | subscribeNetwork interfaces =>
      refine iff_of_true (fun other on => ?_) (by simp [getterThrows])
      rw [view]
      simp [PollView.after]
  | unsubscribeNetwork | setPollRate value | network event =>
      refine iff_of_true (fun other on => ?_) (by simp [getterThrows])
      rw [view] at on ⊢
      exact armed other on

/-- **One poll timer, and when it is missing.** In every state of a run at most one poll timer
is armed, the one `_timer` refers to, and a subscribed stat node finds it armed, exactly when
no getter throws that a tick of the run calls. -/
theorem one_poll_timer_iff (events : List (PollEvent target)) :
    EachState pollMachine (new target) events OnePollTimer ↔
      EachStep pollMachine (new target) events fun side event => ¬ getterThrows side event := by
  have initially : StatArmed (new target) := by
    intro key on
    cases on
  refine eachState_iff_eachStep PollInvariant ?_ ?_ ?_ pollInvariant_new
    ((onePollTimer_iff pollInvariant_new).mpr initially)
  · exact fun side event after invariant _ step _ => (view_step invariant step).invariant
  · intro side event after invariant one step
    rw [onePollTimer_iff (view_step invariant step).invariant]
    exact statArmed_step invariant ((onePollTimer_iff invariant).mp one) step
  · intro side event invariant stops
    cases event with
    | tick t read interfaces =>
        obtain ⟨after, step⟩ := @goes_on _ side invariant (.tick t read interfaces) rfl
        rw [stops] at step
        cases step
    | _ => simp [getterThrows]

/-- What the getters return where `/proc/cpuinfo` has no line for the frequency. -/
def withoutFrequency : StatNode .linux → Option String :=
  linuxRead { noFiles with cpuinfo := some ["processor\t: 0".toList] } blankElsewhere

/-- The first tick after a subscription to `Cpu_Frequency` leaves no timer armed. -/
theorem frequency_disarms :
    ¬ ∀ events : List (PollEvent .linux), (∀ e ∈ events, e.isWrite = false) →
      EachState pollMachine (new .linux) events OnePollTimer := by
  intro every
  obtain ⟨side, reached, live, owner, on⟩ : ∃ side,
      run pollMachine (new .linux) [.subscribe frequencyNode] = some side ∧
        side.timer.runs 0 = true ∧ side.timer.callbackOf 0 = some .statLoop ∧
        side.subscribed frequencyNode = true := ⟨_, rfl, rfl, rfl, rfl⟩
  have invariant := pollInvariant_run reached
  obtain ⟨after, step⟩ := @goes_on _ side invariant (.tick 0 withoutFrequency ∅) rfl
  have reached' : run pollMachine (new .linux)
      ([.subscribe frequencyNode] ++ [.tick 0 withoutFrequency ∅]) = some after := by
    rw [run_append, reached, Option.bind_some, run_cons, step]
    rfl
  have states := every [.subscribe frequencyNode, .tick 0 withoutFrequency ∅]
    (by simp [PollEvent.isWrite])
  have first := states [.subscribe frequencyNode] [.tick 0 withoutFrequency ∅] side rfl reached
  have last := states _ [] after rfl reached'
  have unread : withoutFrequency frequencyNode = none := by decide
  refine (statArmed_tick invariant ((onePollTimer_iff invariant).mp first) step).mp
    ((onePollTimer_iff (pollInvariant_run reached')).mp last) ⟨live, owner, frequencyNode, ?_⟩
  simp [blocked, on, unread]

/-! ## Coverage -/

/-- The next tick of an armed `_timer` calls `handle_value` on every subscribed
node. `reads` gives what the getters return at the tick that finds a state. -/
def TickCovers (reads : PollSide target → StatNode target → Option String)
    (side : PollSide target) : Prop :=
  ∀ t, side.timer.ref = some t → side.timer.runs t = true →
    ∀ interfaces, ∃ done, side.tickRun t (reads side) interfaces = some done ∧
      (∀ key, (side.nodes key).getSubsState = true → .stat key ∈ done.state.calls) ∧
      (side.networkInterfaces.subscribeState = true → .network ∈ done.state.calls)

/-- The subscription does not find the other callback armed, and one to `Network_Interfaces`
finds no stat node subscribed. -/
def findsOwnCallback (side : PollSide target) : PollEvent target → Prop
  | .subscribe _ => side.timer.installed ≠ some .networkUpdate
  | .subscribeNetwork _ =>
      side.timer.installed ≠ some .statLoop ∧ ∀ key, side.subscribed key = false
  | _ => True

/-- The loop over the stat nodes, where it is installed, is not left before a subscribed
node: no node before that one is subscribed and has a getter that throws at the next tick. -/
def LoopReaches (reads : PollSide target → StatNode target → Option String)
    (side : PollSide target) : Prop :=
  side.timer.installed = some .statLoop →
    ∀ key, side.subscribed key = true → side.comesTo (reads side) key = true

end PollSide

namespace PollView

variable {view : PollView target}

/-- The installed callback serves every subscribed node. -/
structure Covered (view : PollView target) : Prop where
  statLoop : view.installed = some .statLoop → view.network = false
  networkUpdate : view.installed = some .networkUpdate → ∀ key, view.stat key = false

/-- `Network_Interfaces`, when it is subscribed, finds a callback installed. -/
def Installed (view : PollView target) : Prop := view.network = true → view.installed ≠ none

/-- With no callback installed there is none to miss a subscription. -/
theorem Covered.of_none (off : view.installed = none) : view.Covered where
  statLoop loop := by
    rw [off] at loop
    cases loop
  networkUpdate update := by
    rw [off] at update
    cases update

/-- Subscribing to a stat node keeps coverage exactly when the network update is
not the installed callback. -/
theorem covered_after_subscribe (covered : view.Covered) (installed : view.Installed)
    (rated disarms : Bool) (key : StatNode target) :
    (view.after rated disarms (.subscribe key)).Covered ↔ view.installed ≠ some .networkUpdate := by
  cases callback : view.installed with
  | none =>
      have quiet : view.network = false := Bool.eq_false_iff.mpr fun on => installed on callback
      cases rated with
      | false => simpa [after, callback] using covered
      | true =>
          refine iff_of_true ⟨fun _ => ?_, fun loop => ?_⟩ (by simp)
          · simpa [after, callback] using quiet
          · simp [after, callback] at loop
  | some callback' =>
      cases callback' with
      | statLoop =>
          refine iff_of_true ⟨fun _ => ?_, fun update => ?_⟩ (by simp)
          · simpa [after, callback] using covered.statLoop callback
          · simp [after, callback] at update
      | networkUpdate =>
          refine iff_of_false (fun covered' => ?_) (by simp)
          have missed := covered'.networkUpdate (by simp [after, callback]) key
          simp [after, callback] at missed

/-- Subscribing to `Network_Interfaces` keeps coverage exactly when the loop is not
the installed callback and no stat node is subscribed. -/
theorem covered_after_subscribeNetwork (covered : view.Covered) (rated disarms : Bool)
    (interfaces : InterfaceTable) :
    (view.after rated disarms (.subscribeNetwork interfaces)).Covered ↔
      view.installed ≠ some .statLoop ∧ ∀ key, view.stat key = false := by
  cases callback : view.installed with
  | none =>
      constructor
      · intro covered'
        exact ⟨by simp, covered'.networkUpdate (by simp [after, callback])⟩
      · rintro ⟨-, silent⟩
        refine ⟨fun loop => ?_, fun _ => silent⟩
        simp [after, callback] at loop
  | some callback' =>
      cases callback' with
      | statLoop =>
          refine iff_of_false (fun covered' => ?_) (by simp)
          have missed := covered'.statLoop (by simp [after, callback])
          simp [after] at missed
      | networkUpdate =>
          have silent := covered.networkUpdate callback
          refine iff_of_true ⟨fun loop => ?_, fun _ => silent⟩ ⟨by simp, silent⟩
          simp [after, callback] at loop

/-- The other events keep coverage. -/
theorem Covered.after (covered : view.Covered) (rated disarms : Bool) {event : PollEvent target}
    (other : event.isSubscribe = false) : (view.after rated disarms event).Covered := by
  cases event with
  | subscribe key => cases other
  | subscribeNetwork interfaces => cases other
  | setPollRate value => exact covered
  | network event => exact covered
  | unsubscribeNetwork => exact ⟨fun _ => rfl, covered.networkUpdate⟩
  | unsubscribe key =>
      refine ⟨covered.statLoop, fun update other => ?_⟩
      by_cases here : other = key
      · subst here
        simp [PollView.after]
      · simpa [PollView.after, here] using covered.networkUpdate update other
  | tick t read interfaces =>
      simp only [PollView.after]
      split
      · exact .of_none rfl
      · exact covered

/-- A step from a covered state leaves `Network_Interfaces` with a callback installed. A tick
disarms only the loop, which serves a state where it is not subscribed. -/
theorem Installed.after (installed : view.Installed) (covered : view.Covered) {rated disarms : Bool}
    (loop : disarms = true → view.installed = some .statLoop) (event : PollEvent target) :
    (view.after rated disarms event).Installed := by
  cases event with
  | subscribe key =>
      intro on
      cases callback : view.installed with
      | some callback' => simp [PollView.after, callback]
      | none =>
          cases rated with
          | true => simp [PollView.after, callback]
          | false =>
              simp only [PollView.after, callback, Bool.false_eq_true, if_false] at on
              exact absurd callback (installed on)
  | subscribeNetwork interfaces => exact fun _ => by simp [PollView.after]
  | unsubscribeNetwork => exact fun on => by cases on
  | unsubscribe key | setPollRate value | network event => exact installed
  | tick t read interfaces =>
      cases disarms with
      | false => exact installed
      | true =>
          intro on
          have quiet : view.network = false := covered.statLoop (loop rfl)
          simp only [PollView.after, if_true, quiet] at on
          cases on

end PollView

namespace PollSide

variable {side : PollSide target}

/-- A tick covers the subscribed nodes exactly when the installed callback serves
them, and the loop comes to them. -/
theorem tickCovers_iff (invariant : PollInvariant side)
    (reads : PollSide target → StatNode target → Option String) :
    TickCovers reads side ↔ side.view.Covered ∧ LoopReaches reads side := by
  constructor
  · intro covers
    have ran : ∀ callback, side.timer.installed = some callback →
        (∀ key, side.subscribed key = true →
          .stat key ∈ (side.runCallback (reads side) ∅ callback).state.calls) ∧
        (side.networkInterfaces.subscribeState = true →
          .network ∈ (side.runCallback (reads side) ∅ callback).state.calls) := by
      intro callback installed
      obtain ⟨t, refers, live⟩ := TimerSlot.armed_iff.mp
        (TimerSlot.armed_iff_installed.mpr ⟨callback, installed⟩)
      obtain ⟨callback', installed', -, ran⟩ := tickRun_of_runs invariant live (reads side) ∅
      obtain rfl := Option.some.inj (installed'.symm.trans installed)
      obtain ⟨done, found, called⟩ := covers t refers live ∅
      obtain rfl := Option.some.inj (ran.symm.trans found)
      exact called
    refine ⟨⟨fun installed => ?_, fun installed key => ?_⟩, fun installed key on => ?_⟩
    · exact Bool.eq_false_iff.mpr fun on =>
        network_not_mem_calls_statCallback invariant.dynamic _ ((ran .statLoop installed).2 on)
    · refine Bool.eq_false_iff.mpr fun on => ?_
      simpa [runCallback, networkCallback] using (ran .networkUpdate installed).1 key on
    · exact ((mem_calls_statCallback invariant.dynamic _ key).mp
        ((ran .statLoop installed).1 key on)).2
  · rintro ⟨covered, reaches⟩ t refers live interfaces
    obtain ⟨callback, installed, -, ran⟩ := tickRun_of_runs invariant live (reads side) interfaces
    refine ⟨_, ran, ?_, ?_⟩
    · intro key on
      cases callback with
      | statLoop =>
          exact (mem_calls_statCallback invariant.dynamic _ key).mpr ⟨on, reaches installed key on⟩
      | networkUpdate =>
          have off : (side.nodes key).subscribeState = false := covered.networkUpdate installed key
          rw [InfoDsLinkNodeBase.getSubsState, off] at on
          cases on
    · intro on
      cases callback with
      | statLoop =>
          have off : side.networkInterfaces.subscribeState = false := covered.statLoop installed
          rw [off] at on
          cases on
      | networkUpdate => exact List.mem_singleton_self _

/-- A tick disarms only the loop. -/
theorem installed_of_disarms (invariant : PollInvariant side) {event : PollEvent target}
    (disarmed : side.disarms event = true) : side.timer.installed = some .statLoop := by
  cases event with
  | tick t read interfaces =>
      rw [disarms, Bool.and_eq_true] at disarmed
      obtain ⟨live, fails⟩ := disarmed
      obtain ⟨callback, installed, -, -⟩ := tickRun_of_runs invariant live read interfaces
      cases callback with
      | statLoop => exact installed
      | networkUpdate => simp [installed, returnsTrue] at fails
  | _ => cases disarmed

/-- A step keeps coverage exactly when its subscription does not find the other
callback armed, or its nodes without a timer. -/
theorem covered_step (invariant : PollInvariant side) (installed : side.view.Installed)
    (covered : side.view.Covered) {event : PollEvent target} {after : PollSide target}
    (step : pollMachine side event = some after) :
    after.view.Covered ↔ findsOwnCallback side event := by
  rw [(view_step invariant step).view]
  cases event with
  | subscribe key => exact PollView.covered_after_subscribe covered installed _ _ key
  | subscribeNetwork interfaces =>
      exact PollView.covered_after_subscribeNetwork covered _ _ interfaces
  | unsubscribe key => exact iff_of_true (covered.after _ _ rfl) trivial
  | unsubscribeNetwork => exact iff_of_true (covered.after _ _ rfl) trivial
  | tick t read interfaces => exact iff_of_true (covered.after _ _ rfl) trivial
  | setPollRate value => exact iff_of_true (covered.after _ _ rfl) trivial
  | network event => exact iff_of_true (covered.after _ _ rfl) trivial

/-- The installed callback serves the subscribed nodes in every state of a run exactly when
every subscription finds its own. -/
theorem covered_iff (events : List (PollEvent target)) :
    EachState pollMachine (new target) events (fun side => side.view.Covered) ↔
      EachStep pollMachine (new target) events findsOwnCallback := by
  have installed : (new target).view.Installed := by
    intro on
    cases on
  refine eachState_iff_eachStep (fun side => PollInvariant side ∧ side.view.Installed) ?_ ?_ ?_
    ⟨pollInvariant_new, installed⟩ (.of_none rfl)
  · rintro side event after ⟨invariant, installed⟩ covered step -
    have steps := view_step invariant step
    refine ⟨steps.invariant, ?_⟩
    rw [steps.view]
    exact installed.after covered (installed_of_disarms invariant) event
  · rintro side event after ⟨invariant, installed⟩ covered step
    exact covered_step invariant installed covered step
  · rintro side event ⟨invariant, -⟩ stops
    cases noWrite : event.isWrite with
    | false =>
        obtain ⟨after, step⟩ := goes_on invariant noWrite
        rw [stops] at step
        cases step
    | true =>
        cases event with
        | setPollRate value => trivial
        | _ => cases noWrite

/-- **When polling covers every subscribed node.** The next tick calls `handle_value` on every
subscribed node, in every state of a run, exactly when no subscription of the run finds the
other callback armed, or its nodes without a timer, and in no state the loop is left before a
subscribed node. -/
theorem tick_covers_iff (reads : PollSide target → StatNode target → Option String)
    (events : List (PollEvent target)) :
    EachState pollMachine (new target) events (TickCovers reads) ↔
      EachStep pollMachine (new target) events findsOwnCallback ∧
        EachState pollMachine (new target) events (LoopReaches reads) := by
  rw [← covered_iff events]
  constructor
  · intro covers
    constructor
    · intro before after side split reached
      have covered := covers before after side split reached
      exact ((tickCovers_iff (pollInvariant_run reached) reads).mp covered).1
    · intro before after side split reached
      have covered := covers before after side split reached
      exact ((tickCovers_iff (pollInvariant_run reached) reads).mp covered).2
  · rintro ⟨covered, reaches⟩ before after side split reached
    exact (tickCovers_iff (pollInvariant_run reached) reads).mpr
      ⟨covered before after side split reached, reaches before after side split reached⟩

/-- A stat node that is subscribed after `Network_Interfaces` is not served, whatever the
getters return. -/
theorem tick_misses_hostname :
    ¬ ∃ reads, ∀ events : List (PollEvent .linux), (∀ e ∈ events, e.isWrite = false) →
      EachState pollMachine (new .linux) events (TickCovers reads) := by
  rintro ⟨reads, every⟩
  have covers := every [.subscribeNetwork ∅, .subscribe hostnameNode] (by decide)
    [.subscribeNetwork ∅, .subscribe hostnameNode] [] _ rfl rfl
  obtain ⟨done, ran, stat, -⟩ := covers 0 rfl rfl ∅
  obtain rfl := Option.some.inj ran
  have missed : HandleCall.stat hostnameNode ∉ [HandleCall.network] := by decide
  exact missed (stat hostnameNode rfl)

/-! ## Polling stops -/

/-- No stat node is subscribed, and `Network_Interfaces` is not. -/
def NobodyListens (side : PollSide target) : Prop :=
  (∀ key, (side.nodes key).getSubsState = false) ∧ side.networkInterfaces.subscribeState = false

/-- The event is neither a subscription nor a write to `Poll_Rate`. -/
def isQuiet (event : PollEvent target) : Prop := event.isSubscribe = false ∧ event.isWrite = false

/-- The next tick of `_timer` leaves it disarmed, and it stays disarmed while only
quiet events follow. -/
def PollingStops (side : PollSide target) : Prop :=
  ∀ t, side.timer.ref = some t → ∀ read interfaces later, (∀ e ∈ later, isQuiet e) →
    ∃ final, run pollMachine side (.tick t read interfaces :: later) = some final ∧
      final.timer.armed = false

/-- A subscription to `Network_Interfaces` that finds no armed timer: it installs
the network update. -/
def installsNetworkUpdate (side : PollSide target) : PollEvent target → Prop
  | .subscribeNetwork _ => side.timer.armed = false
  | _ => False

/-- The network update is installed by such a subscription, and stays installed. -/
theorem installed_networkUpdate_step (invariant : PollInvariant side) {event : PollEvent target}
    {after : PollSide target} (step : pollMachine side event = some after) :
    after.timer.installed = some .networkUpdate ↔
      side.timer.installed = some .networkUpdate ∨ installsNetworkUpdate side event := by
  have view : after.timer.installed =
      (side.view.after side.rated (side.disarms event) event).installed :=
    congrArg PollView.installed (view_step invariant step).view
  have before : side.view.installed = side.timer.installed := rfl
  rw [view]
  cases event with
  | subscribe key =>
      cases callback : side.timer.installed with
      | none => cases side.rated <;> simp [PollView.after, installsNetworkUpdate, before, callback]
      | some callback' => simp [PollView.after, installsNetworkUpdate, before, callback]
  | subscribeNetwork interfaces =>
      simp only [PollView.after, installsNetworkUpdate, ← installed_eq_none_iff, before]
      cases side.timer.installed <;> simp
  | unsubscribe key => simp [PollView.after, installsNetworkUpdate, before]
  | unsubscribeNetwork => simp [PollView.after, installsNetworkUpdate, before]
  | setPollRate value => simp [PollView.after, installsNetworkUpdate, before]
  | network event => simp [PollView.after, installsNetworkUpdate, before]
  | tick t read interfaces =>
      rw [PollView.installed_after_tick, before]
      simp only [installsNetworkUpdate, or_false]
      split
      · next disarmed =>
          -- the network update never ends, so it was not installed before either
          simp [installed_of_disarms invariant disarmed]
      · rfl

/-- The network update is installed after a run exactly when some subscription of
the run installed it. -/
theorem installed_networkUpdate_iff {events : List (PollEvent target)}
    (reached : run pollMachine (new target) events = some side) :
    side.timer.installed = some .networkUpdate ↔
      Happened pollMachine (new target) events installsNetworkUpdate := by
  have marked := mark_iff_happened PollInvariant
    (fun _ _ _ invariant step => (view_step invariant step).invariant)
    (fun _ _ _ invariant step => installed_networkUpdate_step invariant step)
    pollInvariant_new reached
  have initially : (new target).timer.installed = none := rfl
  simpa [initially] using marked

/-- With nothing installed, quiet events install nothing. -/
theorem quiet_keeps_off {later : List (PollEvent target)} (quiet : ∀ e ∈ later, isQuiet e)
    (invariant : PollInvariant side) (off : side.timer.installed = none) :
    ∃ final, run pollMachine side later = some final ∧ final.timer.installed = none := by
  have handles : ∀ (side : PollSide target) (event : PollEvent target), isQuiet event →
      PollInvariant side ∧ side.timer.installed = none →
        ∃ after, pollMachine side event = some after ∧
          PollInvariant after ∧ after.timer.installed = none := by
    rintro side event ⟨noSubscribe, noWrite⟩ ⟨invariant, off⟩
    obtain ⟨after, step⟩ := goes_on invariant noWrite
    have steps := view_step invariant step
    refine ⟨after, step, steps.invariant, ?_⟩
    have before : side.view.installed = none := off
    change after.view.installed = none
    rw [steps.view]
    cases event with
    | subscribe key => cases noSubscribe
    | subscribeNetwork interfaces => cases noSubscribe
    | setPollRate value => cases noWrite
    | unsubscribe key => exact before
    | unsubscribeNetwork => exact before
    | network event => exact before
    | tick t read interfaces =>
        rw [PollView.installed_after_tick, before]
        simp
  obtain ⟨final, reached, -, off'⟩ := run_goes_on isQuiet handles later quiet ⟨invariant, off⟩
  exact ⟨final, reached, off'⟩

/-- With nobody listening, polling stops exactly when the network update is not
installed. -/
theorem pollingStops_iff (invariant : PollInvariant side) (nobody : NobodyListens side) :
    PollingStops side ↔ side.timer.installed ≠ some .networkUpdate := by
  constructor
  · intro stops update
    obtain ⟨t, refers, -⟩ := TimerSlot.armed_iff.mp
      (TimerSlot.armed_iff_installed.mpr ⟨_, update⟩)
    obtain ⟨final, reached, off⟩ := stops t refers (fun _ => none) ∅ [] (by simp)
    rw [run_cons] at reached
    obtain ⟨after, step, same⟩ := Option.bind_eq_some_iff.mp reached
    obtain rfl := Option.some.inj same
    have stays := (installed_networkUpdate_step invariant step).mpr (.inl update)
    rw [installed_eq_none_iff.mpr off] at stays
    cases stays
  · intro other t refers read interfaces later quiet
    obtain ⟨after, step⟩ := @goes_on _ side invariant (.tick t read interfaces) rfl
    have steps := view_step invariant step
    have off : after.timer.installed = none := by
      have view : after.timer.installed = _ := congrArg PollView.installed steps.view
      have before : side.view.installed = side.timer.installed := rfl
      rw [view, PollView.installed_after_tick, before]
      cases callback : side.timer.installed with
      | none => simp
      | some callback' =>
          cases callback' with
          | networkUpdate => exact absurd callback other
          | statLoop =>
              have live := TimerSlot.armed_iff_installed.mpr ⟨_, callback⟩
              rw [TimerSlot.armed_of_ref refers] at live
              have ends : side.returnsTrue read .statLoop = false := by
                refine Bool.eq_false_iff.mpr fun returns => ?_
                obtain ⟨key, on⟩ := (returnsTrue_statLoop_iff.mp returns).1
                have off : side.subscribed key = false := nobody.1 key
                rw [on] at off
                cases off
              simp [disarms, live, callback, ends]
    obtain ⟨final, reached, off'⟩ := quiet_keeps_off quiet steps.invariant off
    exact ⟨final, by rw [run_cons, step]; exact reached, installed_eq_none_iff.mp off'⟩

/-- **When polling stops.** In a state that a run reaches and in which nobody
listens, polling stops exactly when no subscription of the run to
`Network_Interfaces` found the timer not armed. -/
theorem polling_stops_iff {events : List (PollEvent target)}
    (reached : run pollMachine (new target) events = some side) (nobody : NobodyListens side) :
    PollingStops side ↔ ¬ Happened pollMachine (new target) events installsNetworkUpdate := by
  rw [← installed_networkUpdate_iff reached]
  exact pollingStops_iff (pollInvariant_run reached) nobody

theorem polling_stops_unsubscribed :
    (∃ side, run pollMachine (new .linux) [.subscribe hostnameNode, .unsubscribe hostnameNode] =
        some side ∧ NobodyListens side ∧
          (PollingStops side ↔ ¬ Happened pollMachine (new .linux)
            [.subscribe hostnameNode, .unsubscribe hostnameNode] installsNetworkUpdate)) := by
  have nobody : NobodyListens (((new .linux).onSubscribe hostnameNode).state.onUnsubscribe
      hostnameNode) := by
    refine ⟨fun key => ?_, rfl⟩
    by_cases here : key = hostnameNode
    · subst here
      rfl
    · have kept : ((new .linux).onSubscribe hostnameNode).state.nodes key =
          { subsCallback := true } := Function.update_of_ne here _ _
      simp [onUnsubscribe, setNode, here, kept, InfoDsLinkNodeBase.getSubsState]
  exact ⟨_, rfl, nobody, polling_stops_iff rfl nobody⟩

/-- After `Network_Interfaces` was subscribed and unsubscribed, a tick leaves the
timer armed. -/
theorem polling_goes_on :
    ¬ ∀ events : List (PollEvent .linux), (∀ e ∈ events, e.isWrite = false) →
      ∀ side, run pollMachine (new .linux) events = some side → NobodyListens side →
        PollingStops side := by
  intro every
  have stops := every [.subscribeNetwork ∅, .unsubscribeNetwork] (by decide) _ rfl
    ⟨fun _ => rfl, rfl⟩
  obtain ⟨final, reached, off⟩ := stops 0 rfl (fun _ => none) ∅ [] (by simp)
  obtain rfl := Option.some.inj reached
  cases off

end PollSide

end DslinkSystem
