import DslinkSystem.Network.Serving
import DslinkSystem.Polling.StatLoop

/-!
# Who listens and which callback is installed

The laws of polling speak of two things: which nodes are subscribed, and which
callback the armed timer of `_timer` runs. `PollView` keeps just these, and
`PollView.after` says what each event does to them. A step of the polling side
is a step of its view (`view_step`), under the invariant that at most one timer
is armed, every node has its subscription callback, and every stat node is dynamic
(`PollInvariant`).
-/

set_option autoImplicit false

namespace DslinkSystem

open EventRuns TimerSlots

variable {target : Platform}

/-! ## The abstract polling state -/

/-- The callback that ticks, if any, and the nodes that are subscribed. -/
@[ext] structure PollView (target : Platform) where
  installed : Option PollCallback
  stat : StatNode target → Bool
  network : Bool

namespace PollView

/-- What an event does. `rated` tells whether `Poll_Rate` holds an integer, and
`disarms` whether a tick leaves its timer disarmed. -/
def after (view : PollView target) (rated disarms : Bool) : PollEvent target → PollView target
  | .subscribe key =>
      match view.installed with
      | some _ => { view with stat := Function.update view.stat key true }
      | none =>
          if rated then
            { view with
              installed := some .statLoop
              stat := Function.update view.stat key true }
          else view
  | .unsubscribe key => { view with stat := Function.update view.stat key false }
  | .subscribeNetwork _ =>
      { view with installed := some (view.installed.getD .networkUpdate), network := true }
  | .unsubscribeNetwork => { view with network := false }
  | .tick _ _ _ => if disarms then { view with installed := none } else view
  | .setPollRate _ => view
  | .network _ => view

theorem installed_after_tick (view : PollView target) (rated disarms : Bool) (t : ℕ)
    (read : StatNode target → Option String) (interfaces : InterfaceTable) :
    (view.after rated disarms (.tick t read interfaces)).installed =
      if disarms then none else view.installed := by
  simp only [after]
  split <;> rfl

end PollView

namespace PollSide

variable {side : PollSide target}

/-- The view of a polling side. -/
def view (side : PollSide target) : PollView target where
  installed := side.timer.installed
  stat key := (side.nodes key).subscribeState
  network := side.networkInterfaces.subscribeState

/-! ## A run of a callback -/

/-- A callback leaves the timer, the rate and every subscription alone. -/
structure SameSubscriptions (side after : PollSide target) : Prop where
  timer : after.timer = side.timer
  pollRate : after.pollRate = side.pollRate
  stat : ∀ key, after.subscribed key = side.subscribed key
  statCallback : ∀ key, (after.nodes key).subsCallback = (side.nodes key).subsCallback
  dynamic : after.AllDynamic
  network : after.networkInterfaces.subscribeState = side.networkInterfaces.subscribeState
  networkCallback : after.networkInterfaces.subsCallback = side.networkInterfaces.subsCallback

theorem sameSubscriptions_runCallback (dynamic : side.AllDynamic)
    (read : StatNode target → Option String) (interfaces : InterfaceTable)
    (callback : PollCallback) :
    SameSubscriptions side (side.runCallback read interfaces callback).state.side := by
  cases callback with
  | statLoop =>
      obtain ⟨keys, done, looped, ⟨-, -, ran⟩ | ⟨first, after, -, -, ran⟩⟩ :=
        statCallback_cases dynamic read
      all_goals
        rw [runCallback, ran]
        exact ⟨looped.timer, looped.pollRate, looped.subscribed, looped.subsCallback,
          looped.dynamic, congrArg (·.subscribeState) looped.networkInterfaces,
          congrArg (·.subsCallback) looped.networkInterfaces⟩
  | networkUpdate =>
      exact ⟨rfl, rfl, fun _ => rfl, fun _ => rfl, dynamic,
        InfoDsLinkNodeNetwork.subscribeState_handleValue interfaces,
        InfoDsLinkNodeNetwork.subsCallback_handleValue interfaces⟩

/-- A callback returns, or an exception leaves it, and then it is the loop at a blocked node. -/
theorem runCallback_cases (dynamic : side.AllDynamic) (read : StatNode target → Option String)
    (interfaces : InterfaceTable) (callback : PollCallback) :
    ∃ done, (side.runCallback read interfaces callback = .returned done ∧
        done.anySubs = side.returnsTrue read callback) ∨
      (side.runCallback read interfaces callback = .threw done ∧
        side.returnsTrue read callback = false) := by
  cases callback with
  | networkUpdate => exact ⟨_, .inl ⟨rfl, rfl⟩⟩
  | statLoop =>
      obtain ⟨keys, done, looped, ⟨rfl, clear, ran⟩ | ⟨first, after, -, blocks, ran⟩⟩ :=
        statCallback_cases dynamic read
      · refine ⟨done, .inl ⟨ran, ?_⟩⟩
        simp [looped.anySubs, returnsTrue, clear]
      · refine ⟨_, .inr ⟨ran, Bool.eq_false_iff.mpr fun returns => ?_⟩⟩
        have clear := (returnsTrue_statLoop_iff.mp returns).2 first
        rw [blocks] at clear
        cases clear

/-! ## The invariant -/

/-- What holds of the polling side after every run. -/
structure PollInvariant (side : PollSide target) : Prop where
  oneLive : side.timer.OneLive
  statCallback : ∀ key, (side.nodes key).subsCallback = true
  dynamic : side.AllDynamic
  networkCallback : side.networkInterfaces.subsCallback = true

theorem pollInvariant_new : PollInvariant (new target) where
  oneLive := TimerSlot.OneLive.empty
  statCallback _ := rfl
  dynamic _ := rfl
  networkCallback := rfl

/-- A tick of a timer that is not armed does nothing. -/
theorem tick_of_not_runs {t : ℕ} (off : side.timer.runs t = false)
    (read : StatNode target → Option String) (interfaces : InterfaceTable) :
    side.tick t read interfaces = .returned side := by
  simp [tick, tickRun, off]

/-- A tick of an armed timer runs the installed callback. -/
theorem tickRun_of_runs (invariant : PollInvariant side) {t : ℕ} (live : side.timer.runs t = true)
    (read : StatNode target → Option String) (interfaces : InterfaceTable) :
    ∃ callback, side.timer.installed = some callback ∧
      side.timer.callbackOf t = some callback ∧
      side.tickRun t read interfaces = some (side.runCallback read interfaces callback) := by
  obtain ⟨timer, found, -⟩ := TimerSlot.getElem?_of_runs live
  refine ⟨timer.callback, TimerSlot.installed_of_ref (invariant.oneLive t live) found live, ?_, ?_⟩
  · simp [TimerSlot.callbackOf, found]
  · simp [tickRun, live, found]

/-- A tick of an armed timer: the result of the callback decides whether it stays
armed. -/
theorem tick_of_runs (invariant : PollInvariant side) {t : ℕ} (live : side.timer.runs t = true)
    (read : StatNode target → Option String) (interfaces : InterfaceTable) :
    ∃ callback, side.timer.installed = some callback ∧
      side.timer.callbackOf t = some callback ∧
      (side.tick t read interfaces).next =
        some { (side.runCallback read interfaces callback).state.side with
          timer := side.timer.setRunning t (side.returnsTrue read callback) } := by
  obtain ⟨callback, installed, owner, ran⟩ := tickRun_of_runs invariant live read interfaces
  have kept := sameSubscriptions_runCallback invariant.dynamic read interfaces callback
  refine ⟨callback, installed, owner, ?_⟩
  rw [← kept.timer, tick, ran]
  obtain ⟨done, ⟨ends, any⟩ | ⟨ends, fails⟩⟩ :=
    runCallback_cases invariant.dynamic read interfaces callback
  · rw [ends, ← any]
    rfl
  · rw [ends, fails]
    rfl

/-- **What a tick does**: nothing when its timer is not armed; otherwise it runs the installed
callback, and what that returns decides whether the timer stays armed. -/
theorem tick_cases (invariant : PollInvariant side) {t : ℕ}
    {read : StatNode target → Option String} {interfaces : InterfaceTable}
    {after : PollSide target} (step : pollMachine side (.tick t read interfaces) = some after) :
    (side.timer.runs t = false ∧ after = side) ∨
      ∃ callback, side.timer.runs t = true ∧ side.timer.installed = some callback ∧
        side.timer.callbackOf t = some callback ∧
        after = { (side.runCallback read interfaces callback).state.side with
          timer := side.timer.setRunning t (side.returnsTrue read callback) } := by
  rw [pollMachine, PollEvent.handle] at step
  cases live : side.timer.runs t with
  | false =>
      rw [tick_of_not_runs live] at step
      exact .inl ⟨rfl, (Option.some.inj step).symm⟩
  | true =>
      obtain ⟨callback, installed, owner, ticked⟩ := tick_of_runs invariant live read interfaces
      exact .inr ⟨callback, rfl, installed, owner, Option.some.inj (step.symm.trans ticked)⟩

/-! ## One step -/

/-- `Poll_Rate` holds an integer. -/
def rated (side : PollSide target) : Bool := (getValue side.pollRate).isSome

/-- The event is a tick that leaves its timer disarmed: the installed callback does not return
true. -/
def disarms (side : PollSide target) : PollEvent target → Bool
  | .tick t read _ => side.timer.runs t && !side.timer.installed.any (side.returnsTrue read)
  | _ => false

/-- What a step owes: the invariant again, and the step of the view. -/
structure Steps (side : PollSide target) (event : PollEvent target) (after : PollSide target) :
    Prop where
  invariant : PollInvariant after
  view : after.view = side.view.after side.rated (side.disarms event) event

theorem installed_eq_none_iff : side.timer.installed = none ↔ side.timer.armed = false := by
  rw [← Bool.not_eq_true, TimerSlot.armed_iff_installed]
  cases side.timer.installed <;> simp

/-- Setting or clearing the flag of a stat node. -/
theorem PollInvariant.setFlag (invariant : PollInvariant side) (key : StatNode target)
    (subscribeState : Bool) :
    PollInvariant (side.setNode key { side.nodes key with subscribeState }) where
  oneLive := invariant.oneLive
  statCallback other := by
    by_cases here : other = key
    · subst here
      simpa [setNode] using invariant.statCallback other
    · simpa [setNode, here] using invariant.statCallback other
  dynamic := invariant.dynamic.setNode key (invariant.dynamic key)
  networkCallback := invariant.networkCallback

theorem view_setNode (key : StatNode target) (node : InfoDsLinkNodeBase) :
    (side.setNode key node).view =
      { side.view with stat := Function.update side.view.stat key node.subscribeState } := by
  have flags : ∀ other, ((side.setNode key node).nodes other).subscribeState =
      Function.update side.view.stat key node.subscribeState other := by
    intro other
    by_cases here : other = key
    · subst here
      simp [setNode]
    · simp [setNode, here, view]
  simp only [view, PollView.mk.injEq]
  exact ⟨rfl, funext flags, rfl⟩

/-- A new timer is created only where none is armed. -/
theorem PollInvariant.assign (invariant : PollInvariant side) (off : side.timer.armed = false)
    (interval : ℤ) (callback : PollCallback) :
    PollInvariant { side with timer := side.timer.assign interval callback } where
  oneLive := invariant.oneLive.assign off interval callback
  statCallback := invariant.statCallback
  dynamic := invariant.dynamic
  networkCallback := invariant.networkCallback

theorem onSubscribe_steps (invariant : PollInvariant side) (key : StatNode target) :
    ∃ after, (side.onSubscribe key).next = some after ∧ Steps side (.subscribe key) after := by
  rw [onSubscribe, if_pos (invariant.statCallback key), statSubsCallback, TimerSlot.ensure_eq]
  cases live : side.timer.armed with
  | true =>
      obtain ⟨callback, installed⟩ := TimerSlot.armed_iff_installed.mp live
      refine ⟨_, rfl, invariant.setFlag key true, ?_⟩
      rw [view_setNode]
      simp [PollView.after, view, installed]
  | false =>
      have none_installed := TimerSlot.installed_of_not_armed live
      cases rate : getValue side.pollRate with
      | none =>
          refine ⟨_, rfl, invariant, ?_⟩
          simp [PollView.after, view, none_installed, rated, rate]
      | some milliseconds =>
          refine ⟨_, rfl, (invariant.assign live milliseconds .statLoop).setFlag key true, ?_⟩
          rw [view_setNode]
          simp [PollView.after, view, none_installed, rated, rate]

theorem onUnsubscribe_steps (invariant : PollInvariant side) (key : StatNode target) :
    Steps side (.unsubscribe key) (side.onUnsubscribe key) where
  invariant := invariant.setFlag key false
  view := view_setNode key _

theorem onSubscribeNetwork_steps (invariant : PollInvariant side) (interfaces : InterfaceTable) :
    ∃ after, (side.onSubscribeNetwork interfaces).next = some after ∧
      Steps side (.subscribeNetwork interfaces) after := by
  simp only [onSubscribeNetwork, invariant.networkCallback, if_true, networkSubsCallback,
    TimerSlot.ensure_eq]
  cases live : side.timer.armed with
  | true =>
      obtain ⟨callback, installed⟩ := TimerSlot.armed_iff_installed.mp live
      refine ⟨_, rfl, ⟨invariant.oneLive, invariant.statCallback, invariant.dynamic, ?_⟩, ?_⟩
      · simp
      · simp [PollView.after, view, installed]
  | false =>
      have none_installed := TimerSlot.installed_of_not_armed live
      refine ⟨_, rfl, ⟨invariant.oneLive.assign live _ _, invariant.statCallback,
        invariant.dynamic, ?_⟩, ?_⟩
      · simp
      · simp [PollView.after, view, none_installed]

theorem onUnsubscribeNetwork_steps (invariant : PollInvariant side) :
    Steps side .unsubscribeNetwork side.onUnsubscribeNetwork :=
  ⟨⟨invariant.oneLive, invariant.statCallback, invariant.dynamic, invariant.networkCallback⟩, rfl⟩

theorem tick_steps (invariant : PollInvariant side) {t : ℕ}
    {read : StatNode target → Option String} {interfaces : InterfaceTable}
    {after : PollSide target} (step : pollMachine side (.tick t read interfaces) = some after) :
    Steps side (.tick t read interfaces) after := by
  obtain ⟨off, rfl⟩ | ⟨callback, live, installed, -, rfl⟩ := tick_cases invariant step
  · exact ⟨invariant, by simp [PollView.after, disarms, off]⟩
  · have kept := sameSubscriptions_runCallback invariant.dynamic read interfaces callback
    have stays := invariant.oneLive.installed_setRunning live (side.returnsTrue read callback)
    have before : side.view.installed = some callback := installed
    refine ⟨⟨invariant.oneLive.setRunning live _, ?_, kept.dynamic, ?_⟩, ?_⟩
    · exact fun key => (kept.statCallback key).trans (invariant.statCallback key)
    · exact kept.networkCallback.trans invariant.networkCallback
    · ext1
      · change (side.timer.setRunning t _).installed = _
        rw [stays, PollView.installed_after_tick, before, installed]
        cases returns : side.returnsTrue read callback <;>
          simp [disarms, live, installed, returns]
      · refine (funext kept.stat).trans ?_
        simp only [PollView.after]
        split <;> rfl
      · refine kept.network.trans ?_
        simp only [PollView.after]
        split <;> rfl

/-- A write to `Poll_Rate` that does not stop the program stores the value, and changes
the interval of the timer when the value is an integer. -/
theorem onSetValue_next {value : Var} {after : PollSide target}
    (goesOn : (side.onSetValue value).next = some after) :
    after = { side with pollRate := value } ∨ ∃ milliseconds timer,
      side.timer.setInterval milliseconds = some timer ∧
        after = { side with pollRate := value, timer } := by
  unfold onSetValue at goesOn
  simp only at goesOn
  split at goesOn
  · exact .inl (Option.some.inj goesOn).symm
  · next milliseconds _ =>
      split at goesOn
      · cases goesOn
      · next timer changed =>
          exact .inr ⟨milliseconds, timer, changed, (Option.some.inj goesOn).symm⟩

theorem onSetValue_steps (invariant : PollInvariant side) (value : Var) {after : PollSide target}
    (goesOn : (side.onSetValue value).next = some after) :
    Steps side (.setPollRate value) after := by
  rcases onSetValue_next goesOn with rfl | ⟨milliseconds, timer, changed, rfl⟩
  · exact ⟨⟨invariant.oneLive, invariant.statCallback, invariant.dynamic,
      invariant.networkCallback⟩, rfl⟩
  · obtain ⟨refers, runs, installed⟩ := TimerSlot.setInterval_frame changed
    refine ⟨⟨?_, invariant.statCallback, invariant.dynamic, invariant.networkCallback⟩, ?_⟩
    · intro t live
      rw [runs] at live
      rw [refers]
      exact invariant.oneLive t live
    · simp [view, PollView.after, installed]

theorem network_steps (invariant : PollInvariant side) (event : NetworkEvent) :
    ∃ after, pollMachine side (.network event) = some after ∧
      Steps side (.network event) after := by
  obtain ⟨network, handled, subscribed, callback⟩ :=
    side.networkInterfaces.networkMachine_frame event
  have step : pollMachine side (.network event) =
      some { side with networkInterfaces := network } := by
    rw [pollMachine, PollEvent.handle, Handled.next_map, Option.map_eq_some_iff]
    exact ⟨network, handled, rfl⟩
  refine ⟨_, step, ⟨invariant.oneLive, invariant.statCallback, invariant.dynamic, ?_⟩, ?_⟩
  · exact callback.trans invariant.networkCallback
  · simp only [view, PollView.after, subscribed]

/-- **A step of the polling side is a step of its view, and keeps the invariant.** -/
theorem view_step (invariant : PollInvariant side) {event : PollEvent target}
    {after : PollSide target} (step : pollMachine side event = some after) :
    Steps side event after := by
  have same : ∀ {other : PollSide target}, (event.handle side).next = some other → other = after :=
    fun found => Option.some.inj (found.symm.trans step)
  cases event with
  | subscribe key =>
      obtain ⟨other, found, steps⟩ := onSubscribe_steps invariant key
      exact same found ▸ steps
  | unsubscribe key => exact same rfl ▸ onUnsubscribe_steps invariant key
  | subscribeNetwork interfaces =>
      obtain ⟨other, found, steps⟩ := onSubscribeNetwork_steps invariant interfaces
      exact same found ▸ steps
  | unsubscribeNetwork => exact same rfl ▸ onUnsubscribeNetwork_steps invariant
  | tick t read interfaces => exact tick_steps invariant step
  | setPollRate value => exact onSetValue_steps invariant value step
  | network event =>
      obtain ⟨other, found, steps⟩ := network_steps invariant event
      exact same found ▸ steps

/-- The invariant holds of every state that a run reaches. -/
theorem pollInvariant_run {events : List (PollEvent target)}
    (reached : run pollMachine (new target) events = some side) : PollInvariant side :=
  run_keeps (fun _ _ _ invariant step => (view_step invariant step).invariant) pollInvariant_new
    reached

/-- Only a write to `Poll_Rate` can stop the program. -/
theorem goes_on (invariant : PollInvariant side) {event : PollEvent target}
    (noWrite : event.isWrite = false) : ∃ after, pollMachine side event = some after := by
  cases event with
  | subscribe key =>
      obtain ⟨after, found, -⟩ := onSubscribe_steps invariant key
      exact ⟨after, found⟩
  | subscribeNetwork interfaces =>
      obtain ⟨after, found, -⟩ := onSubscribeNetwork_steps invariant interfaces
      exact ⟨after, found⟩
  | setPollRate value => cases noWrite
  | network event =>
      obtain ⟨after, found, -⟩ := network_steps invariant event
      exact ⟨after, found⟩
  | unsubscribe key => exact ⟨_, rfl⟩
  | unsubscribeNetwork => exact ⟨_, rfl⟩
  | tick t read interfaces =>
      cases live : side.timer.runs t with
      | false => exact ⟨side, congrArg Handled.next (tick_of_not_runs live read interfaces)⟩
      | true =>
          obtain ⟨callback, -, -, ticked⟩ := tick_of_runs invariant live read interfaces
          exact ⟨_, ticked⟩

/-! ## The children of `Network_Interfaces` -/

/-- The children are served whatever the subscription and the value of the node
itself are. -/
theorem serving_congr {table : InterfaceTable} {network after : InfoDsLinkNodeNetwork}
    (serving : InfoDsLinkNodeNetwork.Serving table network)
    (nodes : after.networkNodes = network.networkNodes)
    (lists : after.listChildren = network.listChildren)
    (children : after.children = network.children)
    (timer : after.networkTimer = network.networkTimer) :
    InfoDsLinkNodeNetwork.Serving table after := by
  obtain ⟨_, _, _, _, _, networkNodes, listChildren, children', networkTimer⟩ := after
  obtain rfl : networkNodes = network.networkNodes := nodes
  obtain rfl : listChildren = network.listChildren := lists
  obtain rfl : children' = network.children := children
  obtain rfl : networkTimer = network.networkTimer := timer
  exact ⟨⟨serving.wf.created, serving.wf.distinct, serving.wf.listed⟩, serving.holds,
    serving.callbacks, serving.oneLive, serving.armed⟩

/-- A subscription of a stat node keeps what the guarded replacement leaves, and
`Network_Interfaces`. -/
theorem onSubscribe_next (invariant : PollInvariant side) {key : StatNode target}
    {after : PollSide target} (step : (side.onSubscribe key).next = some after) :
    after.timer = (side.timer.ensure (getValue side.pollRate) .statLoop).state ∧
      after.networkInterfaces = side.networkInterfaces := by
  rw [onSubscribe, if_pos (invariant.statCallback key), statSubsCallback] at step
  cases kept : side.timer.ensure (getValue side.pollRate) .statLoop with
  | returned timer =>
      rw [kept] at step
      exact (Option.some.inj step) ▸ ⟨rfl, rfl⟩
  | threw timer =>
      rw [kept] at step
      exact (Option.some.inj step) ▸ ⟨rfl, rfl⟩
  | stopped timer =>
      rw [kept] at step
      cases step

/-- A subscription of `Network_Interfaces` keeps what the guarded replacement leaves,
and reconciles the children. -/
theorem onSubscribeNetwork_next (invariant : PollInvariant side) {interfaces : InterfaceTable}
    {after : PollSide target} (step : (side.onSubscribeNetwork interfaces).next = some after) :
    after.timer = (side.timer.ensure (some 1000) .networkUpdate).state ∧
      after.networkInterfaces =
        { { side.networkInterfaces with subscribeState := true }.reconcile interfaces with
          value := some "" } := by
  simp only [onSubscribeNetwork, invariant.networkCallback, if_true, networkSubsCallback,
    TimerSlot.ensure_eq] at step ⊢
  cases live : side.timer.armed with
  | true =>
      simp only [live] at step
      exact (Option.some.inj step) ▸ ⟨rfl, rfl⟩
  | false =>
      simp only [live] at step
      exact (Option.some.inj step) ▸ ⟨rfl, rfl⟩

/-- A run of a callback leaves the children served. -/
theorem serving_runCallback {table : InterfaceTable} (dynamic : side.AllDynamic)
    (serving : InfoDsLinkNodeNetwork.Serving table side.networkInterfaces)
    (read : StatNode target → Option String) (interfaces : InterfaceTable)
    (callback : PollCallback) :
    ∃ table', InfoDsLinkNodeNetwork.Serving table'
      (side.runCallback read interfaces callback).state.side.networkInterfaces := by
  cases callback with
  | statLoop =>
      have network := networkInterfaces_statCallback dynamic read
      exact ⟨table, serving_congr serving (congrArg _ network) (congrArg _ network)
        (congrArg _ network) (congrArg _ network)⟩
  | networkUpdate =>
      simp only [runCallback, networkCallback, InfoDsLinkNodeNetwork.handleValue,
        Handled.state_returned]
      split
      · exact ⟨interfaces, serving_congr (serving.reconcile interfaces) rfl rfl rfl rfl⟩
      · exact ⟨table, serving⟩

/-- **A step of the polling side leaves the children of `Network_Interfaces` served**,
from some table. -/
theorem serving_step (invariant : PollInvariant side)
    (serving : ∃ table, InfoDsLinkNodeNetwork.Serving table side.networkInterfaces)
    {event : PollEvent target} {after : PollSide target}
    (step : pollMachine side event = some after) :
    ∃ table, InfoDsLinkNodeNetwork.Serving table after.networkInterfaces := by
  obtain ⟨table, serving⟩ := serving
  cases event with
  | subscribe key => exact ⟨table, (onSubscribe_next invariant step).2 ▸ serving⟩
  | unsubscribe key => exact ⟨table, Option.some.inj step ▸ serving⟩
  | unsubscribeNetwork =>
      exact ⟨table, Option.some.inj step ▸ serving_congr serving rfl rfl rfl rfl⟩
  | subscribeNetwork interfaces =>
      have subscribed : InfoDsLinkNodeNetwork.Serving table
          { side.networkInterfaces with subscribeState := true } :=
        serving_congr serving rfl rfl rfl rfl
      rw [(onSubscribeNetwork_next invariant step).2]
      exact ⟨interfaces, serving_congr (subscribed.reconcile interfaces) rfl rfl rfl rfl⟩
  | tick t read interfaces =>
      obtain ⟨-, rfl⟩ | ⟨callback, -, -, -, rfl⟩ := tick_cases invariant step
      · exact ⟨table, serving⟩
      · exact serving_runCallback invariant.dynamic serving read interfaces callback
  | setPollRate value =>
      rcases onSetValue_next step with rfl | ⟨_, _, -, rfl⟩
      · exact ⟨table, serving⟩
      · exact ⟨table, serving⟩
  | network event =>
      rw [pollMachine, PollEvent.handle, Handled.next_map, Option.map_eq_some_iff] at step
      obtain ⟨network, handled, rfl⟩ := step
      obtain ⟨network', handled', kept⟩ :=
        InfoDsLinkNodeNetwork.networkMachine_serving serving event
      obtain rfl := Option.some.inj (handled'.symm.trans handled)
      exact ⟨_, kept⟩

end PollSide

end DslinkSystem
