import DslinkSystem.Polling.Coverage
import Mathlib.Algebra.Ring.Int.Defs
import Mathlib.Algebra.Ring.Nat

/-!
# The poll rate

The interval of `_timer` is written in three places: each of the two
subscription callbacks gives one to the timer it creates, and the callback of
`Poll_Rate` assigns one to the timer there is. `rate_step` says what every event
does to the interval and to the value of `Poll_Rate`.

The subscription callback of `Network_Interfaces` does not look at `Poll_Rate`. The
interval is the one that was set, in every state of a run with valid writes, exactly
when that callback creates a timer only while the rate is one second
(`rate_in_force_iff`).

A write is stored before it is interpreted. It is safe exactly when the value is
a valid rate, or is no integer and was already stored, and the next subscription
arms a timer with a positive interval throughout a run exactly when no write of the
run is bad (`poll_rate_writes_iff`).
-/

set_option autoImplicit false

namespace DslinkSystem

open EventRuns TimerSlots

variable {target : Platform}

/-! ## Valid rates -/

/-- A number of seconds that is at least one, and that is a 32-bit number of
milliseconds. -/
def ValidRate (value : Var) : Prop :=
  ∃ i : Int64, value = .int i ∧ 1 ≤ i.toInt ∧ 1000 * i.toInt ≤ 2 ^ 31 - 1

namespace PollSide

variable {side after : PollSide target}

/-- The number of milliseconds is the product modulo `2 ^ 32`. -/
theorem getValue_int (i : Int64) :
    getValue (.int i) = some ((1000 * i.toInt).bmod (2 ^ 32)) := by
  have thousand : (1000 : Int32).toInt = 1000 := by decide
  rw [getValue, Var.getInt, Option.map_some, Int32.toInt_mul, Int64.toInt_toInt32, thousand,
    Int.bmod_mul_bmod, Int.mul_comm]

theorem getValue_eq_none_iff (value : Var) : getValue value = none ↔ value.getInt = none := by
  simp [getValue]

/-- A valid rate is converted without loss. -/
theorem getValue_of_valid {i : Int64} (least : 1 ≤ i.toInt)
    (most : 1000 * i.toInt ≤ 2 ^ 31 - 1) : getValue (.int i) = some (1000 * i.toInt) := by
  rw [getValue_int, Int.bmod_eq_of_le (by omega) (by omega)]

/-- A valid rate gives a positive interval. -/
theorem exists_getValue_of_valid {value : Var} (valid : ValidRate value) :
    ∃ milliseconds, getValue value = some milliseconds ∧ 0 < milliseconds := by
  obtain ⟨i, rfl, least, most⟩ := valid
  exact ⟨_, getValue_of_valid least most, by omega⟩

/-! ## What a step does to the interval -/

/-- What an event does to the value of `Poll_Rate` and to `_timer`, as far as its
interval goes. -/
def RateStep (side after : PollSide target) : PollEvent target → Prop
  | .subscribe _ => after.pollRate = side.pollRate ∧
      after.timer = (side.timer.ensure (getValue side.pollRate) .statLoop).state
  | .subscribeNetwork _ => after.pollRate = side.pollRate ∧
      after.timer = (side.timer.ensure (some 1000) .networkUpdate).state
  | .setPollRate value => after.pollRate = value ∧
      (getValue value = none ∧ after.timer = side.timer ∨
        ∃ milliseconds, getValue value = some milliseconds ∧ side.timer.ref ≠ none ∧
          after.timer.interval = side.timer.interval.map fun _ => milliseconds)
  | .tick _ _ _ => after.pollRate = side.pollRate ∧
      after.timer.interval = side.timer.interval ∧
      (after.timer.armed = true → side.timer.armed = true)
  | .unsubscribe _ | .unsubscribeNetwork | .network _ =>
      after.pollRate = side.pollRate ∧ after.timer = side.timer

/-- The guarded replacement is all that a subscription callback does. -/
theorem pollRate_onSubscribe (invariant : PollInvariant side) {key : StatNode target}
    (step : (side.onSubscribe key).next = some after) : after.pollRate = side.pollRate := by
  rw [onSubscribe, if_pos (invariant.statCallback key), statSubsCallback] at step
  cases kept : side.timer.ensure (getValue side.pollRate) .statLoop with
  | returned timer =>
      rw [kept] at step
      exact (Option.some.inj step) ▸ rfl
  | threw timer =>
      rw [kept] at step
      exact (Option.some.inj step) ▸ rfl
  | stopped timer =>
      rw [kept] at step
      cases step

theorem pollRate_onSubscribeNetwork (invariant : PollInvariant side)
    {interfaces : InterfaceTable}
    (step : (side.onSubscribeNetwork interfaces).next = some after) :
    after.pollRate = side.pollRate := by
  simp only [onSubscribeNetwork, invariant.networkCallback, if_true, networkSubsCallback,
    TimerSlot.ensure_eq] at step
  cases live : side.timer.armed with
  | true =>
      simp only [live] at step
      exact (Option.some.inj step) ▸ rfl
  | false =>
      simp only [live] at step
      exact (Option.some.inj step) ▸ rfl

/-- A write that does not stop the program stores the value. Where it is an integer
there is a timer, and its interval is assigned. -/
theorem rateStep_onSetValue {value : Var} (step : (side.onSetValue value).next = some after) :
    RateStep side after (.setPollRate value) := by
  unfold onSetValue at step
  cases rate : getValue value with
  | none =>
      simp only [rate, Handled.next_threw, Option.some.injEq] at step
      subst step
      exact ⟨rfl, .inl ⟨rate, rfl⟩⟩
  | some milliseconds =>
      simp only [rate] at step
      cases changed : side.timer.setInterval milliseconds with
      | none => simp [changed] at step
      | some timer =>
          simp only [changed, Handled.next_returned, Option.some.injEq] at step
          subst step
          obtain ⟨t, refers, -⟩ := Option.map_eq_some_iff.mp changed
          refine ⟨rfl, .inr ⟨milliseconds, rate, by simp [refers], ?_⟩⟩
          exact TimerSlot.interval_setInterval changed

theorem rateStep_tick (invariant : PollInvariant side) {t : ℕ}
    {read : StatNode target → Option String} {interfaces : InterfaceTable}
    (step : pollMachine side (.tick t read interfaces) = some after) :
    RateStep side after (.tick t read interfaces) := by
  obtain ⟨-, rfl⟩ | ⟨callback, live, -, -, rfl⟩ := tick_cases invariant step
  · exact ⟨rfl, rfl, id⟩
  · have kept := sameSubscriptions_runCallback invariant.dynamic read interfaces callback
    refine ⟨kept.pollRate, ?_, ?_⟩
    · exact TimerSlot.interval_setRunning _ _
    · exact TimerSlot.armed_of_armed_setRunning live

/-- **What every event does to the rate and to the interval.** -/
theorem rate_step (invariant : PollInvariant side) {event : PollEvent target}
    (step : pollMachine side event = some after) : RateStep side after event := by
  cases event with
  | subscribe key =>
      exact ⟨pollRate_onSubscribe invariant step, (onSubscribe_next invariant step).1⟩
  | subscribeNetwork interfaces =>
      exact ⟨pollRate_onSubscribeNetwork invariant step,
        (onSubscribeNetwork_next invariant step).1⟩
  | unsubscribe key => exact Option.some.inj step ▸ ⟨rfl, rfl⟩
  | unsubscribeNetwork => exact Option.some.inj step ▸ ⟨rfl, rfl⟩
  | tick t read interfaces => exact rateStep_tick invariant step
  | setPollRate value => exact rateStep_onSetValue step
  | network event =>
      rw [pollMachine, PollEvent.handle, Handled.next_map, Option.map_eq_some_iff] at step
      obtain ⟨network, -, rfl⟩ := step
      exact ⟨rfl, rfl⟩

/-! ## The rate in force -/

/-- The interval of an armed `_timer` is the number of milliseconds in the seconds
stored in `Poll_Rate`. -/
def RateInForce (side : PollSide target) : Prop :=
  side.timer.armed = true →
    ∃ i : Int64, side.pollRate = .int i ∧ side.timer.interval = some (1000 * i.toInt)

/-- A write to `Poll_Rate`, if the event is one, is of a valid rate. -/
def writesValidRate : PollEvent target → Prop
  | .setPollRate value => ValidRate value
  | _ => True

/-- A subscription to `Network_Interfaces` creates a timer only when the rate is one
second. -/
def startsAtRate (side : PollSide target) : PollEvent target → Prop
  | .subscribeNetwork _ => side.timer.armed = true ∨ side.pollRate = .int 1
  | _ => True

/-- What the guarded replacement leaves is armed, and its interval is the one there was
or the one given. -/
theorem interval_ensure (slot : TimerSlot PollCallback) (milliseconds : ℤ)
    (callback : PollCallback) :
    (slot.ensure (some milliseconds) callback).state.armed = true ∧
      (slot.ensure (some milliseconds) callback).state.interval =
        if slot.armed = true then slot.interval else some milliseconds := by
  rw [TimerSlot.ensure_eq]
  split
  · next live => exact ⟨live, rfl⟩
  · exact ⟨TimerSlot.armed_assign _ _, TimerSlot.interval_assign _ _⟩

/-- The rate stays valid as long as the writes are. -/
theorem validRate_step (invariant : PollInvariant side) (valid : ValidRate side.pollRate)
    {event : PollEvent target} (allowed : writesValidRate event)
    (step : pollMachine side event = some after) : ValidRate after.pollRate := by
  have steps := rate_step invariant step
  cases event with
  | setPollRate value => exact steps.1.symm ▸ allowed
  | _ => exact steps.1.symm ▸ valid

/-- A subscription of `Network_Interfaces` keeps the rate in force exactly when there is an
armed timer already, or the rate is one second. -/
theorem rateInForce_subscribeNetwork (inForce : RateInForce side)
    {interfaces : InterfaceTable} (steps : RateStep side after (.subscribeNetwork interfaces)) :
    RateInForce after ↔ startsAtRate side (.subscribeNetwork interfaces) := by
  obtain ⟨rate, timer⟩ := steps
  obtain ⟨armed, interval⟩ := interval_ensure side.timer 1000 .networkUpdate
  rw [← timer] at armed interval
  cases live : side.timer.armed with
  | true =>
      refine iff_of_true (fun _ => ?_) (.inl live)
      rw [rate, interval, if_pos live]
      exact inForce live
  | false =>
      have second : (1 : Int64).toInt = 1 := by decide
      rw [live] at interval
      constructor
      · intro kept
        obtain ⟨j, stored', same⟩ := kept armed
        rw [interval, if_neg (by simp)] at same
        have seconds : j.toInt = (1 : Int64).toInt := by
          have thousand := Option.some.inj same
          omega
        obtain rfl := Int64.toInt_inj.mp seconds
        exact .inr (rate.symm.trans stored')
      · rintro (live' | one) _
        · rw [live] at live'
          cases live'
        · exact ⟨1, rate.trans one, by rw [interval, if_neg (by simp), second]; rfl⟩

/-- A write of a valid rate puts it in force. -/
theorem rateInForce_setPollRate {value : Var} (valid : ValidRate value)
    (steps : RateStep side after (.setPollRate value)) : RateInForce after := by
  obtain ⟨j, rfl, least, most⟩ := valid
  obtain ⟨rate, (⟨bad, -⟩ | ⟨milliseconds, good, -, interval⟩)⟩ := steps
  · rw [getValue_of_valid least most] at bad
    cases bad
  · rw [getValue_of_valid least most] at good
    obtain rfl := Option.some.inj good
    intro armed
    refine ⟨j, rate, ?_⟩
    obtain ⟨milliseconds', found⟩ := TimerSlot.exists_interval_of_armed armed
    rw [interval] at found ⊢
    cases before : side.timer.interval with
    | none => simp [before] at found
    | some _ => rfl

/-- The rate stays in force through a step exactly when it does not start the network
update at another rate. -/
theorem rateInForce_step (invariant : PollInvariant side) (valid : ValidRate side.pollRate)
    (inForce : RateInForce side) {event : PollEvent target} (allowed : writesValidRate event)
    (step : pollMachine side event = some after) :
    RateInForce after ↔ startsAtRate side event := by
  have steps := rate_step invariant step
  cases event with
  | subscribe key =>
      obtain ⟨i, stored, least, most⟩ := valid
      obtain ⟨rate, timer⟩ := steps
      rw [stored, getValue_of_valid least most] at timer
      refine iff_of_true (fun _ => ?_) trivial
      rw [rate, timer, (interval_ensure _ _ _).2]
      split
      · next live => exact inForce live
      · exact ⟨i, stored, rfl⟩
  | subscribeNetwork interfaces => exact rateInForce_subscribeNetwork inForce steps
  | setPollRate value => exact iff_of_true (rateInForce_setPollRate allowed steps) trivial
  | tick t read interfaces =>
      obtain ⟨rate, interval, armed⟩ := steps
      refine iff_of_true (fun live => ?_) trivial
      rw [rate, interval]
      exact inForce (armed live)
  | unsubscribe | unsubscribeNetwork | network =>
      obtain ⟨rate, timer⟩ := steps
      refine iff_of_true ?_ trivial
      rwa [RateInForce, rate, timer]

theorem validRate_new : ValidRate (new target).pollRate := ⟨1, rfl, by decide, by decide⟩

/-- **When the rate in force is the one that was set.** On a run with valid writes, the
interval of an armed `_timer` is the stored rate in every state exactly when each
subscription to `Network_Interfaces` that creates a timer finds the rate at one
second. -/
theorem rate_in_force_iff (events : List (PollEvent target))
    (valid : ∀ e ∈ events, writesValidRate e) :
    EachState pollMachine (new target) events RateInForce ↔
      EachStep pollMachine (new target) events startsAtRate := by
  have initially : RateInForce (new target) := by
    intro live
    cases live
  rw [eachState_iff_after, and_iff_right initially]
  refine eachStep_congr_on (fun side => PollInvariant side ∧ ValidRate side.pollRate ∧
    RateInForce side) ?_ ?_ valid ⟨pollInvariant_new, validRate_new, initially⟩
  · rintro side event allowed ⟨invariant, rate, inForce⟩
    cases step : pollMachine side event with
    | some after => simpa using rateInForce_step invariant rate inForce allowed step
    | none =>
        -- only a write stops the program
        refine iff_of_true (by simp) ?_
        cases noWrite : event.isWrite with
        | false =>
            obtain ⟨after, goesOn⟩ := goes_on invariant noWrite
            rw [step] at goesOn
            cases goesOn
        | true =>
            cases event with
            | setPollRate value => trivial
            | _ => cases noWrite
  · rintro side event after allowed ⟨invariant, rate, inForce⟩ kept step
    exact ⟨(view_step invariant step).invariant, validRate_step invariant rate allowed step,
      kept after step⟩

/-- Set the rate to five seconds while `hostname` is polled, let polling stop, and
subscribe to the network interfaces. -/
def fiveSecondsThenNetwork : List (PollEvent .linux) :=
  [.subscribe hostnameNode, .setPollRate (.int 5), .unsubscribe hostnameNode,
    .tick 0 (fun _ => some "") ∅, .subscribeNetwork ∅]

theorem fiveSecondsThenNetwork_valid : ∀ e ∈ fiveSecondsThenNetwork, writesValidRate e := by
  intro event member
  simp only [fiveSecondsThenNetwork, List.mem_cons, List.not_mem_nil, or_false] at member
  rcases member with rfl | rfl | rfl | rfl | rfl
  · trivial
  · exact ⟨5, rfl, by decide, by decide⟩
  · trivial
  · trivial
  · trivial

theorem rate_in_force_five_seconds :
    EachState pollMachine (new .linux) fiveSecondsThenNetwork RateInForce ↔
      EachStep pollMachine (new .linux) fiveSecondsThenNetwork startsAtRate :=
  rate_in_force_iff fiveSecondsThenNetwork fiveSecondsThenNetwork_valid

/-- The network update is started at one second, and the rate is five. -/
theorem rate_not_in_force :
    ¬ ∀ events : List (PollEvent .linux), (∀ e ∈ events, writesValidRate e) →
      EachState pollMachine (new .linux) events RateInForce := by
  intro every
  have stored : ((run pollMachine (new .linux) fiveSecondsThenNetwork).map fun side =>
      (side.timer.armed, side.timer.interval)) = some (true, some 1000) := by decide +kernel
  have rate : ((run pollMachine (new .linux) fiveSecondsThenNetwork).bind fun side =>
      getValue side.pollRate) = some 5000 := by decide +kernel
  obtain ⟨side, reached, same⟩ := Option.map_eq_some_iff.mp stored
  obtain ⟨armed, interval⟩ := Prod.mk.inj same
  rw [reached, Option.bind_some] at rate
  obtain ⟨i, held, inForce⟩ := every _ fiveSecondsThenNetwork_valid fiveSecondsThenNetwork []
    side rfl reached armed
  have second : 1000 * i.toInt = 1000 :=
    Option.some.inj (inForce.symm.trans interval)
  rw [held, getValue_int, second] at rate
  exact absurd rate (by decide)

/-! ## Writes -/

/-- The write is accepted: the number of milliseconds is the product, positive, with
nothing lost by the cast to `int` and no overflow of the multiplication. -/
structure WriteAccepted (side after : PollSide target) (i : Int64) : Prop where
  returned : side.onSetValue (.int i) = .returned after
  noLoss : i.toInt32.toInt = i.toInt
  noOverflow : -2 ^ 31 ≤ 1000 * i.toInt32.toInt ∧ 1000 * i.toInt32.toInt < 2 ^ 31
  getValue : getValue after.pollRate = some (1000 * i.toInt)
  positive : 1 ≤ 1000 * i.toInt

/-- The write is refused: an exception leaves the handler, and the stored value and
the interval are as before. -/
structure WriteRefused (side after : PollSide target) (value : Var) : Prop where
  threw : side.onSetValue value = .threw after
  pollRate : after.pollRate = side.pollRate
  interval : after.timer.interval = side.timer.interval

/-- The write is accepted or refused, in these senses. -/
def WriteSafe (side : PollSide target) (value : Var) : Prop :=
  ∃ after, (∃ i, value = .int i ∧ WriteAccepted side after i) ∨ WriteRefused side after value

/-- The next subscription of a stat node returns and leaves `_timer` armed, with a
positive interval. -/
def SubscribeArms (side : PollSide target) : Prop :=
  ∀ key, ∃ after milliseconds, side.onSubscribe key = .returned after ∧
    after.timer.armed = true ∧ after.timer.interval = some milliseconds ∧ 0 < milliseconds

/-- A write made when `_timer` is not null is safe. -/
def writesSafely (side : PollSide target) : PollEvent target → Prop
  | .setPollRate value => side.timer.ref ≠ none → WriteSafe side value
  | _ => True

/-- A write is of a valid rate. When `_timer` is null the write of an integer ends the
program, so it spoils nothing that follows. -/
def writesWell (side : PollSide target) : PollEvent target → Prop
  | .setPollRate value =>
      ValidRate value ∨ side.timer.ref = none ∧ value.getInt ≠ none
  | _ => True

/-- A write of an integer, when there is a timer, returns. -/
theorem onSetValue_int (refers : side.timer.ref ≠ none) (i : Int64) :
    ∃ timer, side.onSetValue (.int i) = .returned { side with pollRate := .int i, timer } := by
  obtain ⟨t, there⟩ := Option.ne_none_iff_exists'.mp refers
  simp [onSetValue, getValue_int, TimerSlot.setInterval, there]

/-- A write of anything else is stored, and the exception leaves the handler. -/
theorem onSetValue_of_not_int {value : Var} (other : value.getInt = none) :
    side.onSetValue value = .threw { side with pollRate := value } := by
  simp [onSetValue, getValue, other]

/-- **When a write is safe.** The value is a valid rate, or it is no integer and was
stored before. -/
theorem writeSafe_iff (refers : side.timer.ref ≠ none) (value : Var) :
    WriteSafe side value ↔ ValidRate value ∨ value.getInt = none ∧ value = side.pollRate := by
  constructor
  · rintro ⟨after, ⟨i, rfl, accepted⟩ | refused⟩
    · obtain ⟨low, high⟩ := accepted.noOverflow
      rw [accepted.noLoss] at low high
      have positive := accepted.positive
      exact .inl ⟨i, rfl, by omega, by omega⟩
    · cases rate : value.getInt with
      | none =>
          have stored : after = { side with pollRate := value } :=
            Handled.threw.inj (refused.threw.symm.trans (onSetValue_of_not_int rate))
          refine .inr ⟨rfl, ?_⟩
          rw [← refused.pollRate, stored]
      | some i =>
          obtain rfl : value = .int i := by
            cases value <;> simp_all [Var.getInt]
          obtain ⟨timer, returns⟩ := onSetValue_int refers i
          rw [refused.threw] at returns
          cases returns
  · rintro (⟨i, rfl, least, most⟩ | ⟨other, same⟩)
    · obtain ⟨timer, returns⟩ := onSetValue_int refers i
      have noLoss : i.toInt32.toInt = i.toInt := by
        rw [Int64.toInt_toInt32, Int.bmod_eq_of_le (by omega) (by omega)]
      refine ⟨_, .inl ⟨i, rfl, returns, noLoss, ?_, getValue_of_valid least most, by omega⟩⟩
      rw [noLoss]
      omega
    · have stored : side.onSetValue value = .threw side := by
        rw [onSetValue_of_not_int other, same]
      exact ⟨side, .inr ⟨stored, rfl, rfl⟩⟩

/-- The rate is valid and the interval of `_timer` is positive. -/
structure RateInvariant (side : PollSide target) : Prop where
  polling : PollInvariant side
  rate : ValidRate side.pollRate
  interval : ∀ milliseconds, side.timer.interval = some milliseconds → 0 < milliseconds

theorem rateInvariant_new : RateInvariant (new target) :=
  ⟨pollInvariant_new, validRate_new, by simp [new, TimerSlot.interval, TimerSlot.current,
    TimerSlot.empty]⟩

/-- A subscription creates a timer with a positive interval or keeps the one there
is. -/
theorem interval_ensure_positive {slot : TimerSlot PollCallback}
    (positive : ∀ milliseconds, slot.interval = some milliseconds → 0 < milliseconds)
    {given : ℤ} (more : 0 < given) (callback : PollCallback) (milliseconds : ℤ)
    (found : (slot.ensure (some given) callback).state.interval = some milliseconds) :
    0 < milliseconds := by
  rw [(interval_ensure slot given callback).2] at found
  split at found
  · exact positive _ found
  · exact Option.some.inj found ▸ more

/-- A write that goes well and does not end the program is of a valid rate. -/
theorem writesValidRate_of_writesWell (invariant : PollInvariant side) {event : PollEvent target}
    (well : writesWell side event) (step : pollMachine side event = some after) :
    writesValidRate event := by
  have steps := rate_step invariant step
  cases event with
  | setPollRate value =>
      rcases well with valid | ⟨null, integer⟩
      · exact valid
      · obtain ⟨-, (⟨bad, -⟩ | ⟨_, -, refers, -⟩)⟩ := steps
        · exact absurd ((getValue_eq_none_iff value).mp bad) integer
        · exact absurd null refers
  | _ => trivial

theorem rateInvariant_step (invariant : RateInvariant side) {event : PollEvent target}
    (well : writesWell side event) (step : pollMachine side event = some after) :
    RateInvariant after := by
  have steps := rate_step invariant.polling step
  have allowed := writesValidRate_of_writesWell invariant.polling well step
  obtain ⟨given, rate, positive⟩ := exists_getValue_of_valid invariant.rate
  refine ⟨(view_step invariant.polling step).invariant,
    validRate_step invariant.polling invariant.rate allowed step, ?_⟩
  intro milliseconds found
  cases event with
  | subscribe key =>
      rw [steps.2, rate] at found
      exact interval_ensure_positive invariant.interval positive _ _ found
  | subscribeNetwork interfaces =>
      rw [steps.2] at found
      exact interval_ensure_positive invariant.interval (by decide) _ _ found
  | setPollRate value =>
      obtain ⟨given', rate', positive'⟩ := exists_getValue_of_valid allowed
      obtain ⟨-, (⟨bad, -⟩ | ⟨_, good, -, interval⟩)⟩ := steps
      · rw [rate'] at bad
        cases bad
      · obtain rfl := Option.some.inj (rate'.symm.trans good)
        rw [interval] at found
        obtain ⟨_, -, rfl⟩ := Option.map_eq_some_iff.mp found
        exact positive'
  | tick t read interfaces =>
      rw [steps.2.1] at found
      exact invariant.interval _ found
  | unsubscribe key =>
      rw [steps.2] at found
      exact invariant.interval _ found
  | unsubscribeNetwork =>
      rw [steps.2] at found
      exact invariant.interval _ found
  | network event =>
      rw [steps.2] at found
      exact invariant.interval _ found

/-- The subscription of a stat node when computing the interval does not throw. -/
theorem onSubscribe_returned (invariant : PollInvariant side) (key : StatNode target)
    {given : ℤ} (rate : getValue side.pollRate = some given) :
    ∃ after, side.onSubscribe key = .returned after ∧
      after.timer = (side.timer.ensure (some given) .statLoop).state := by
  rw [onSubscribe, if_pos (invariant.statCallback key), statSubsCallback, rate,
    TimerSlot.ensure_eq]
  cases live : side.timer.armed with
  | true => exact ⟨_, rfl, rfl⟩
  | false => exact ⟨_, rfl, rfl⟩

/-- With a valid rate the next subscription arms a timer. -/
theorem RateInvariant.subscribeArms (invariant : RateInvariant side) : SubscribeArms side := by
  intro key
  obtain ⟨given, rate, positive⟩ := exists_getValue_of_valid invariant.rate
  obtain ⟨after, returns, timer⟩ := onSubscribe_returned invariant.polling key rate
  have armed : after.timer.armed = true := timer ▸ (interval_ensure _ _ _).1
  obtain ⟨milliseconds, found⟩ := TimerSlot.exists_interval_of_armed armed
  refine ⟨after, milliseconds, returns, armed, found, ?_⟩
  rw [timer] at found
  exact interval_ensure_positive invariant.interval positive _ _ found

/-- A stat node that is built on every platform. -/
def anyNode (target : Platform) : StatNode target := ⟨.hostname, by cases target <;> rfl⟩

/-- With no timer and no integer stored, the next subscription throws. -/
theorem not_subscribeArms (side : PollSide target) (off : side.timer.armed = false)
    (unrated : getValue side.pollRate = none)
    (callback : ∀ key, (side.nodes key).subsCallback = true) : ¬ SubscribeArms side := by
  intro arms
  obtain ⟨after, _, returns, -⟩ := arms (anyNode target)
  simp [onSubscribe, callback, statSubsCallback, unrated, TimerSlot.ensure_eq, off] at returns

/-- A write is safe and leaves the next subscription one that arms a timer, exactly
when it goes well. -/
theorem safely_and_arms_iff (invariant : RateInvariant side) (event : PollEvent target) :
    (writesSafely side event ∧ ∀ after, pollMachine side event = some after →
      SubscribeArms after) ↔ writesWell side event := by
  constructor
  · rintro ⟨safe, arms⟩
    cases event with
    | setPollRate value =>
        by_cases null : side.timer.ref = none
        · refine .inr ⟨null, fun other => ?_⟩
          have off : side.timer.armed = false := by simp [TimerSlot.armed, null]
          have step : pollMachine side (.setPollRate value) =
              some { side with pollRate := value } :=
            congrArg Handled.next (onSetValue_of_not_int other)
          exact not_subscribeArms { side with pollRate := value } off
            ((getValue_eq_none_iff value).mpr other) invariant.polling.statCallback (arms _ step)
        · rcases (writeSafe_iff null value).mp (safe null) with valid | ⟨other, same⟩
          · exact .inl valid
          · obtain ⟨i, stored, -⟩ := invariant.rate
            rw [same, stored] at other
            cases other
    | _ => trivial
  · intro well
    refine ⟨?_, fun after step => (rateInvariant_step invariant well step).subscribeArms⟩
    cases event with
    | setPollRate value =>
        intro refers
        rcases well with valid | ⟨null, -⟩
        · exact (writeSafe_iff refers value).mpr (.inl valid)
        · exact absurd null refers
    | _ => trivial

/-- **When writes to `Poll_Rate` are safe.** Whenever there is a timer, a write is
accepted or refused properly exactly when its value is a valid rate, or is no integer
and was stored before. In a run all writes are so, and every next subscription arms a
timer with a positive interval, exactly when every write goes well. -/
theorem poll_rate_writes_iff :
    (∀ (side : PollSide target) (value : Var), side.timer.ref ≠ none →
      (WriteSafe side value ↔ ValidRate value ∨ value.getInt = none ∧ value = side.pollRate)) ∧
    ∀ events : List (PollEvent target),
      EachStep pollMachine (new target) events writesSafely ∧
          EachState pollMachine (new target) events SubscribeArms ↔
        EachStep pollMachine (new target) events writesWell := by
  refine ⟨fun side value refers => writeSafe_iff refers value, fun events => ?_⟩
  rw [eachState_iff_after, and_iff_right rateInvariant_new.subscribeArms, ← eachStep_and]
  refine eachStep_congr RateInvariant ?_ ?_ rateInvariant_new
  · exact fun side event invariant => safely_and_arms_iff invariant event
  · intro side event after invariant kept step
    exact rateInvariant_step invariant ((safely_and_arms_iff invariant event).mp kept) step

theorem poll_rate_writes_hostname :
    ∃ side, run pollMachine (new .linux) [.subscribe hostnameNode] = some side ∧
      side.timer.ref ≠ none ∧ WriteSafe side (.int 2) := by
  refine ⟨_, rfl, by decide, ?_⟩
  exact (poll_rate_writes_iff.1 _ (.int 2) (by decide)).mpr
    (.inl ⟨2, rfl, by decide, by decide⟩)

/-- A number of seconds that is too large for 32-bit milliseconds is stored and makes
the interval negative. -/
theorem poll_rate_write_overflows :
    ¬ ∀ (events : List (PollEvent .linux)) (side : PollSide .linux),
      run pollMachine (new .linux) events = some side → side.timer.ref ≠ none →
        ∀ value, WriteSafe side value := by
  intro every
  have safe := every [.subscribe hostnameNode] _ rfl (by decide) (.int 2147484)
  rcases (writeSafe_iff (by decide) _).mp safe with ⟨i, same, -, most⟩ | ⟨other, -⟩
  · obtain rfl := Var.int.inj same
    exact absurd most (by decide)
  · cases other

end PollSide

end DslinkSystem
