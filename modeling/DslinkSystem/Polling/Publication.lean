import DslinkSystem.Polling.PollView

/-!
# What a stat node publishes

A stat node publishes in one way only: a tick of a timer that runs the loop over the stat
nodes comes to it while it is subscribed, and it publishes what its getter returns. The loop
comes to a node unless the getter of a subscribed node before it throws. So the value of a
node is the last reading of such a tick, over any run, and no value at all before the first
(`value_eq_last_reading`). A subscription publishes nothing, nor does a tick of the timer of
the network update.
-/

set_option autoImplicit false

namespace DslinkSystem

open EventRuns TimerSlots

variable {target : Platform}

namespace PollSide

variable {side after : PollSide target}

/-- What an event makes a stat node read: what its getter returns at a tick of the loop over
the stat nodes, when the node is subscribed and the loop comes to it. -/
def readings (key : StatNode target) (side : PollSide target) : PollEvent target → List String
  | .tick t read _ =>
      if side.timer.runs t ∧ side.timer.callbackOf t = some .statLoop ∧
          side.subscribed key ∧ side.comesTo read key then (read key).toList
      else []
  | _ => []

/-! ## One step -/

/-- The values of the nodes are left alone. -/
def SameValues (side after : PollSide target) : Prop :=
  ∀ key, (after.nodes key).value = (side.nodes key).value

theorem sameValues_of_nodes (same : after.nodes = side.nodes) : SameValues side after := by
  intro key
  rw [same]

/-- Setting or clearing a flag publishes nothing. -/
theorem sameValues_setNode (key : StatNode target) {node : InfoDsLinkNodeBase}
    (value : node.value = (side.nodes key).value) :
    SameValues side (side.setNode key node) := by
  intro other
  by_cases here : other = key
  · subst here
    simp [setNode, value]
  · simp [setNode, here]

theorem sameValues_onSubscribe {key : StatNode target}
    (step : (side.onSubscribe key).next = some after) : SameValues side after := by
  have kept : ∀ timer : TimerSlot PollCallback, SameValues side
      ({ side with timer } : PollSide target) := fun _ => sameValues_of_nodes rfl
  have flagged : ∀ timer : TimerSlot PollCallback, SameValues { side with timer }
      (({ side with timer } : PollSide target).setNode key
        { side.nodes key with subscribeState := true }) :=
    fun timer => sameValues_setNode key rfl
  unfold onSubscribe at step
  split at step
  · rw [statSubsCallback] at step
    cases ensured : side.timer.ensure (getValue side.pollRate) .statLoop with
    | returned timer =>
        rw [ensured] at step
        obtain rfl := Option.some.inj step
        exact flagged timer
    | threw timer =>
        rw [ensured] at step
        obtain rfl := Option.some.inj step
        exact kept timer
    | stopped timer =>
        rw [ensured] at step
        cases step
  · obtain rfl := Option.some.inj step
    exact flagged side.timer

theorem sameValues_onSubscribeNetwork {interfaces : InterfaceTable}
    (step : (side.onSubscribeNetwork interfaces).next = some after) : SameValues side after := by
  apply sameValues_of_nodes
  simp only [onSubscribeNetwork, networkSubsCallback] at step
  split at step
  · cases ensured : side.timer.ensure (some 1000) .networkUpdate with
    | returned timer =>
        rw [ensured] at step
        exact (Option.some.inj step) ▸ rfl
    | threw timer =>
        rw [ensured] at step
        exact (Option.some.inj step) ▸ rfl
    | stopped timer =>
        rw [ensured] at step
        cases step
  · exact (Option.some.inj step) ▸ rfl

/-- A step that is no tick publishes nothing. -/
theorem sameValues_step {event : PollEvent target} (step : pollMachine side event = some after)
    (other : ∀ t read interfaces, event ≠ .tick t read interfaces) : SameValues side after := by
  cases event with
  | subscribe key => exact sameValues_onSubscribe step
  | unsubscribe key =>
      obtain rfl := Option.some.inj step
      exact sameValues_setNode key rfl
  | subscribeNetwork interfaces => exact sameValues_onSubscribeNetwork step
  | unsubscribeNetwork => exact (Option.some.inj step) ▸ sameValues_of_nodes rfl
  | tick t read interfaces => exact absurd rfl (other t read interfaces)
  | setPollRate value =>
      rcases onSetValue_next step with rfl | ⟨_, _, -, rfl⟩
      · exact sameValues_of_nodes rfl
      · exact sameValues_of_nodes rfl
  | network event =>
      rw [pollMachine, PollEvent.handle, Handled.next_map, Option.map_eq_some_iff] at step
      obtain ⟨network, -, rfl⟩ := step
      exact sameValues_of_nodes rfl

/-- A tick publishes what it reads. -/
theorem value_tick (invariant : PollInvariant side) {t : ℕ}
    {read : StatNode target → Option String} {interfaces : InterfaceTable}
    (step : pollMachine side (.tick t read interfaces) = some after) (key : StatNode target) :
    (after.nodes key).value =
      (readings key side (.tick t read interfaces)).getLast?.or (side.nodes key).value := by
  obtain ⟨off, rfl⟩ | ⟨callback, live, -, owner, rfl⟩ := tick_cases invariant step
  · simp [readings, off]
  · cases callback with
    | networkUpdate => simp [runCallback, networkCallback, readings, owner]
    | statLoop =>
        refine (value_statCallback invariant.dynamic read key).trans ?_
        simp only [readings, live, owner, true_and]
        split
        · cases read key <;> simp
        · simp

/-- Every step publishes what it reads. -/
theorem value_step (invariant : PollInvariant side) {event : PollEvent target}
    (step : pollMachine side event = some after) (key : StatNode target) :
    (after.nodes key).value =
      (readings key side event).getLast?.or (side.nodes key).value := by
  cases event with
  | tick t read interfaces => exact value_tick invariant step key
  | subscribe | unsubscribe | subscribeNetwork | unsubscribeNetwork | setPollRate | network =>
      exact sameValues_step step (by simp) key

/-! ## Runs -/

/-- **The value of a stat node is its last reading.** After every run the value of a stat
node is what its getter returned at the last tick of a timer of the loop that found the
node subscribed and came to it, and no value when there was none. -/
theorem value_eq_last_reading (events : List (PollEvent target)) (side : PollSide target)
    (reached : run pollMachine (new target) events = some side) (key : StatNode target) :
    (side.nodes key).value =
      (collected pollMachine (readings key) (new target) events).getLast? := by
  have register := register_eq_collected PollInvariant
    (fun _ _ _ invariant step => (view_step invariant step).invariant)
    (fun _ _ _ invariant step => value_step invariant step key) pollInvariant_new reached
  simpa [new] using register

/-- A node that was polled twice. At the third tick the getter of a node before it throws. -/
theorem value_eq_last_reading_of_two :
    ∃ side, run pollMachine (new .linux)
        [.subscribe hostnameNode, .tick 0 (fun _ => some "a") ∅, .tick 0 (fun _ => some "b") ∅,
          .subscribe frequencyNode,
          .tick 0 (fun key => if key = frequencyNode then none else some "c") ∅] = some side ∧
      (side.nodes hostnameNode).value = some "b" := by
  refine ⟨_, rfl, ?_⟩
  exact @value_eq_last_reading .linux
    [.subscribe hostnameNode, .tick 0 (fun _ => some "a") ∅, .tick 0 (fun _ => some "b") ∅,
      .subscribe frequencyNode,
      .tick 0 (fun key => if key = frequencyNode then none else some "c") ∅] _ rfl hostnameNode

end PollSide

end DslinkSystem
