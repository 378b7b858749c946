import Mathlib.Data.Int.Order.Basic
import DslinkSystem.Library.EventRuns

/-!
# A field that refers to the latest of its repeating timers

A repeating timer runs its callback at each tick and stays armed as long as the
callback returns true. A slot is a field that refers to one timer or to none,
together with every timer ever created for it, so that a timer the field no
longer refers to can still tick.

Using the field when it refers to nothing has no result. The guarded
replacement `ensure` looks before it uses the field, and its specification
`ensure_eq` shows that the look is enough: an armed timer is kept, anything else
gives way to a new armed one. A slot whose timers are only replaced in this way
has at most one armed timer, the one it refers to (`OneLive`).
-/

set_option autoImplicit false

namespace TimerSlots

open EventRuns

universe u

/-! ## Changing one entry of a list -/

/-- Two changes that agree on the entry they are made to have the same result. -/
theorem modify_congr {α : Type u} {entries : List α} {i : ℕ} {f g : α → α}
    (same : ∀ entry, entries[i]? = some entry → f entry = g entry) :
    entries.modify i f = entries.modify i g := by
  apply List.ext_getElem?
  intro j
  rw [List.getElem?_modify, List.getElem?_modify]
  split
  · next here =>
      subst here
      cases found : entries[i]? with
      | none => rfl
      | some entry => simp [same entry found]
  · rfl

/-- A change that leaves its entry alone changes nothing. -/
theorem modify_eq_self {α : Type u} {entries : List α} {i : ℕ} {f : α → α}
    (same : ∀ entry, entries[i]? = some entry → f entry = entry) : entries.modify i f = entries :=
  (modify_congr (g := id) same).trans (List.modify_id i entries)

/-! ## Timers and slots -/

/-- A repeating timer: its callback, the interval between ticks in milliseconds,
and whether it is armed. -/
structure RepeatingTimer (Callback : Type u) where
  callback : Callback
  interval : ℤ
  running : Bool
  deriving DecidableEq, Repr

/-- A reference to a timer or to nothing, and all timers created for it in the
order of creation. A timer is named by its place in that order. -/
structure TimerSlot (Callback : Type u) where
  ref : Option ℕ
  created : List (RepeatingTimer Callback)
  deriving DecidableEq, Repr

namespace TimerSlot

variable {Callback : Type u} {slot : TimerSlot Callback}

/-- The slot before any timer was created. -/
def empty : TimerSlot Callback := ⟨none, []⟩

/-- The timer `t` was created and is armed. -/
def runs (slot : TimerSlot Callback) (t : ℕ) : Bool := (slot.created[t]?).any (·.running)

/-- The reference is to an armed timer. -/
def armed (slot : TimerSlot Callback) : Bool := slot.ref.any slot.runs

/-- The timer referred to. -/
def current (slot : TimerSlot Callback) : Option (RepeatingTimer Callback) :=
  slot.ref.bind (slot.created[·]?)

/-- The callback of the timer referred to, when that timer is armed. -/
def installed (slot : TimerSlot Callback) : Option Callback :=
  if slot.armed then slot.current.map (·.callback) else none

/-! ## Operations -/

/-- Ask the timer referred to whether it is armed. Nothing to ask when the
reference is null. -/
def isRunning (slot : TimerSlot Callback) : Option Bool := slot.ref.map slot.runs

/-- Arm or disarm the timer `t`. -/
def setRunning (slot : TimerSlot Callback) (t : ℕ) (running : Bool) : TimerSlot Callback :=
  { slot with created := slot.created.modify t fun timer => { timer with running } }

/-- Disarm the timer referred to. Nothing to disarm when the reference is null. -/
def destroy (slot : TimerSlot Callback) : Option (TimerSlot Callback) :=
  slot.ref.map fun t => slot.setRunning t false

/-- Create an armed timer and refer to it. -/
def assign (slot : TimerSlot Callback) (interval : ℤ) (callback : Callback) :
    TimerSlot Callback :=
  ⟨some slot.created.length, slot.created ++ [⟨callback, interval, true⟩]⟩

/-- Change the interval of the timer referred to. Nothing to change when the
reference is null. -/
def setInterval (slot : TimerSlot Callback) (interval : ℤ) : Option (TimerSlot Callback) :=
  slot.ref.map fun t =>
    { slot with created := slot.created.modify t fun timer => { timer with interval } }

/-- Whether a new timer is called for: the reference is null, or it is not null
and its timer is not armed. The second test uses the reference only when the
first one failed. -/
def needsTimer (slot : TimerSlot Callback) : Option Bool :=
  if slot.ref = none then some true else slot.isRunning.map (!·)

/-- Keep an armed timer. Otherwise destroy the timer referred to, if there is
one, and refer to a new one. Computing the interval may throw; it is computed
after the old timer is destroyed. -/
def ensure (interval : Option ℤ) (callback : Callback) (slot : TimerSlot Callback) :
    Handled (TimerSlot Callback) :=
  match slot.needsTimer with
  | none => .stopped slot
  | some false => .returned slot
  | some true =>
      match if slot.ref = none then some slot else slot.destroy with
      | none => .stopped slot
      | some slot =>
          match interval with
          | none => .threw slot
          | some milliseconds => .returned (slot.assign milliseconds callback)

/-! ## Which timers are armed -/

@[simp] theorem runs_empty (t : ℕ) : (empty : TimerSlot Callback).runs t = false := rfl
@[simp] theorem armed_empty : (empty : TimerSlot Callback).armed = false := rfl

@[simp] theorem ref_setRunning (t : ℕ) (running : Bool) :
    (slot.setRunning t running).ref = slot.ref := rfl

@[simp] theorem ref_assign (interval : ℤ) (callback : Callback) :
    (slot.assign interval callback).ref = some slot.created.length := rfl

theorem armed_iff : slot.armed = true ↔ ∃ t, slot.ref = some t ∧ slot.runs t = true := by
  cases h : slot.ref with
  | none => simp [armed, h]
  | some t => simp [armed, h]

theorem armed_of_ref {t : ℕ} (refers : slot.ref = some t) : slot.armed = slot.runs t := by
  simp [armed, refers]

theorem lt_length_of_runs {t : ℕ} (live : slot.runs t = true) : t < slot.created.length := by
  by_contra beyond
  rw [runs, List.getElem?_eq_none (Nat.le_of_not_lt beyond)] at live
  cases live

theorem runs_setRunning (t u : ℕ) (running : Bool) :
    (slot.setRunning t running).runs u =
      if t = u then decide (t < slot.created.length) && running else slot.runs u := by
  simp only [runs, setRunning, List.getElem?_modify]
  split
  · next same =>
      subst same
      cases found : slot.created[t]? with
      | none =>
          have beyond : ¬ t < slot.created.length := by
            simpa [List.getElem?_eq_none_iff] using found
          simp [beyond]
      | some timer =>
          have within : t < slot.created.length := by
            obtain ⟨within, -⟩ := List.getElem?_eq_some_iff.mp found
            exact within
          simp [within]
  · simp

/-- Setting an armed timer to armed or disarmed has that effect on it alone. -/
theorem runs_setRunning_of_runs {t : ℕ} (live : slot.runs t = true) (u : ℕ) (running : Bool) :
    (slot.setRunning t running).runs u = if t = u then running else slot.runs u := by
  rw [runs_setRunning]
  simp [lt_length_of_runs live]

theorem runs_assign (interval : ℤ) (callback : Callback) (t : ℕ) :
    (slot.assign interval callback).runs t = (decide (t = slot.created.length) || slot.runs t) := by
  rcases Nat.lt_trichotomy t slot.created.length with before | same | beyond
  · simp [runs, assign, List.getElem?_append_left before, Nat.ne_of_lt before]
  · subst same
    simp [runs, assign]
  · have old : slot.created[t]? = none := List.getElem?_eq_none (Nat.le_of_lt beyond)
    have new : (slot.created ++ [⟨callback, interval, true⟩])[t]? = none := by
      apply List.getElem?_eq_none
      simpa using Nat.succ_le_of_lt beyond
    simp [runs, assign, old, new, Nat.ne_of_gt beyond]

@[simp] theorem armed_assign (interval : ℤ) (callback : Callback) :
    (slot.assign interval callback).armed = true := by
  simp [armed, runs_assign]

@[simp] theorem current_assign (interval : ℤ) (callback : Callback) :
    (slot.assign interval callback).current = some ⟨callback, interval, true⟩ := by
  simp [current, assign]

/-- A timer that was created and is armed is found in the order of creation. -/
theorem getElem?_of_runs {t : ℕ} (live : slot.runs t = true) :
    ∃ timer, slot.created[t]? = some timer ∧ timer.running = true := by
  cases found : slot.created[t]? with
  | none => simp [runs, found] at live
  | some timer => exact ⟨timer, rfl, by simpa [runs, found] using live⟩

/-! ## The callback of each timer -/

/-- The callback that the timer `t` was created with. -/
def callbackOf (slot : TimerSlot Callback) (t : ℕ) : Option Callback :=
  (slot.created[t]?).map (·.callback)

theorem exists_callbackOf_of_runs {t : ℕ} (live : slot.runs t = true) :
    ∃ callback, slot.callbackOf t = some callback := by
  obtain ⟨timer, found, -⟩ := getElem?_of_runs live
  exact ⟨timer.callback, by simp [callbackOf, found]⟩

theorem lt_length_of_callbackOf {t : ℕ} {callback : Callback}
    (found : slot.callbackOf t = some callback) : t < slot.created.length := by
  obtain ⟨timer, at_t, -⟩ := Option.map_eq_some_iff.mp found
  obtain ⟨within, -⟩ := List.getElem?_eq_some_iff.mp at_t
  exact within

@[simp] theorem callbackOf_empty (t : ℕ) : (empty : TimerSlot Callback).callbackOf t = none := rfl

@[simp] theorem callbackOf_setRunning (t u : ℕ) (running : Bool) :
    (slot.setRunning t running).callbackOf u = slot.callbackOf u := by
  simp only [callbackOf, setRunning, List.getElem?_modify]
  split
  · cases slot.created[u]? <;> simp
  · simp

theorem callbackOf_assign (interval : ℤ) (callback : Callback) (t : ℕ) :
    (slot.assign interval callback).callbackOf t =
      if t = slot.created.length then some callback else slot.callbackOf t := by
  simp only [callbackOf, assign, List.getElem?_append, List.getElem?_singleton]
  rcases Nat.lt_trichotomy t slot.created.length with before | same | beyond
  · simp [before, Nat.ne_of_lt before]
  · simp [same]
  · have old : slot.created[t]? = none := List.getElem?_eq_none (Nat.le_of_lt beyond)
    simp [Nat.not_lt.mpr (Nat.le_of_lt beyond), Nat.ne_of_gt beyond, Nat.sub_ne_zero_of_lt beyond]

/-- Destroying the timer referred to disarms it alone. -/
theorem destroy_cases {after : TimerSlot Callback} (destroyed : slot.destroy = some after) :
    ∃ t, slot.ref = some t ∧ after = slot.setRunning t false := by
  obtain ⟨t, refers, rfl⟩ := Option.map_eq_some_iff.mp destroyed
  exact ⟨t, refers, rfl⟩

/-- No timer is armed by a change to one that was armed. -/
theorem runs_of_setRunning {t u : ℕ} {running : Bool} (live : slot.runs t = true)
    (after : (slot.setRunning t running).runs u = true) : slot.runs u = true := by
  rw [runs_setRunning_of_runs live] at after
  split at after
  · next same => exact same ▸ live
  · exact after

/-- No timer is armed by a change that disarms one. -/
theorem runs_of_setRunning_false {t u : ℕ} (live : (slot.setRunning t false).runs u = true) :
    slot.runs u = true ∧ t ≠ u := by
  rw [runs_setRunning] at live
  split at live
  · simp at live
  · next other => exact ⟨live, other⟩

/-! ## The installed callback -/

@[simp] theorem installed_empty : (empty : TimerSlot Callback).installed = none := rfl

theorem installed_of_not_armed (off : slot.armed = false) : slot.installed = none := by
  simp [installed, off]

/-- A callback is installed exactly when the reference is to an armed timer. -/
theorem armed_iff_installed : slot.armed = true ↔ ∃ callback, slot.installed = some callback := by
  constructor
  · intro live
    obtain ⟨t, refers, runs_t⟩ := armed_iff.mp live
    obtain ⟨timer, found, -⟩ := getElem?_of_runs runs_t
    exact ⟨timer.callback, by simp [installed, live, current, refers, found]⟩
  · rintro ⟨callback, given⟩
    by_contra off
    simp [installed, off] at given

@[simp] theorem installed_assign (interval : ℤ) (callback : Callback) :
    (slot.assign interval callback).installed = some callback := by
  simp [installed]

/-- The installed callback is the one that the armed timer referred to runs. -/
theorem installed_of_ref {t : ℕ} {timer : RepeatingTimer Callback} (refers : slot.ref = some t)
    (found : slot.created[t]? = some timer) (live : slot.runs t = true) :
    slot.installed = some timer.callback := by
  simp [installed, armed_of_ref refers, live, current, refers, found]

/-- Keeping the armed timer referred to armed keeps its callback installed. -/
theorem installed_setRunning_true {t : ℕ} (refers : slot.ref = some t) (live : slot.runs t = true) :
    (slot.setRunning t true).installed = slot.installed := by
  obtain ⟨timer, found, running⟩ := getElem?_of_runs live
  have after : (slot.setRunning t true).runs t = true := by
    rw [runs_setRunning_of_runs live, if_pos rfl]
  have found' : (slot.setRunning t true).created[t]? = some { timer with running := true } := by
    simp [setRunning, found]
  have refers' : (slot.setRunning t true).ref = some t := refers
  rw [installed_of_ref refers found live, installed_of_ref refers' found' after]

/-- Changing the interval changes neither which timers are armed nor the installed
callback. -/
theorem setInterval_frame {interval : ℤ} {after : TimerSlot Callback}
    (changed : slot.setInterval interval = some after) :
    after.ref = slot.ref ∧ (∀ t, after.runs t = slot.runs t) ∧
      after.installed = slot.installed := by
  obtain ⟨u, refers, rfl⟩ := Option.map_eq_some_iff.mp changed
  have same : ∀ t : ℕ, ((slot.created.modify u fun timer => { timer with interval })[t]?).any
      (·.running) = slot.runs t := by
    intro t
    rw [List.getElem?_modify, runs]
    cases slot.created[t]? with
    | none => rfl
    | some timer => by_cases here : u = t <;> simp [here]
  refine ⟨rfl, same, ?_⟩
  cases found : slot.created[u]? <;> simp [installed, armed, current, refers, found, runs]

/-! ## The interval in force -/

/-- The interval of the timer referred to. -/
def interval (slot : TimerSlot Callback) : Option ℤ := slot.current.map (·.interval)

@[simp] theorem interval_assign (interval : ℤ) (callback : Callback) :
    (slot.assign interval callback).interval = some interval := by
  simp [TimerSlot.interval]

@[simp] theorem interval_setRunning (t : ℕ) (running : Bool) :
    (slot.setRunning t running).interval = slot.interval := by
  cases refers : slot.ref with
  | none => simp [interval, current, refers]
  | some u =>
      simp only [interval, current, refers, Option.bind_some, setRunning, List.getElem?_modify]
      cases slot.created[u]? with
      | none => rfl
      | some timer => by_cases here : t = u <;> simp [here]

/-- Only an armed timer ticks, so nothing is armed by the end of a tick that was not
armed before. -/
theorem armed_of_armed_setRunning {t : ℕ} {running : Bool} (live : slot.runs t = true)
    (after : (slot.setRunning t running).armed = true) : slot.armed = true := by
  obtain ⟨u, refers, runs_u⟩ := armed_iff.mp after
  exact armed_iff.mpr ⟨u, refers, runs_of_setRunning live runs_u⟩

/-- An armed timer has an interval. -/
theorem exists_interval_of_armed (live : slot.armed = true) :
    ∃ milliseconds, slot.interval = some milliseconds := by
  obtain ⟨t, refers, runs_t⟩ := armed_iff.mp live
  obtain ⟨timer, found, -⟩ := getElem?_of_runs runs_t
  exact ⟨timer.interval, by simp [interval, current, refers, found]⟩

/-- Changing the interval changes it for the timer referred to. -/
theorem interval_setInterval {milliseconds : ℤ} {after : TimerSlot Callback}
    (changed : slot.setInterval milliseconds = some after) :
    after.interval = slot.interval.map fun _ => milliseconds := by
  obtain ⟨t, refers, rfl⟩ := Option.map_eq_some_iff.mp changed
  simp only [interval, current, refers, Option.bind_some, List.getElem?_modify]
  cases slot.created[t]? <;> simp

/-! ## The guarded replacement -/

/-- Disarming a timer that is not armed changes nothing. -/
theorem setRunning_of_not_runs {t : ℕ} (dead : slot.runs t = false) :
    slot.setRunning t false = slot := by
  have same : slot.created.modify t (fun timer => { timer with running := false }) =
      slot.created := by
    apply modify_eq_self
    intro timer found
    have off : timer.running = false := by simpa [runs, found] using dead
    rw [← off]
  rw [setRunning, same]

/-- **The guard is enough.** The guarded replacement never uses a null
reference: it keeps an armed timer and otherwise creates one, unless computing
the interval throws. -/
theorem ensure_eq (interval : Option ℤ) (callback : Callback) :
    slot.ensure interval callback =
      if slot.armed = true then .returned slot
      else match interval with
        | none => .threw slot
        | some milliseconds => .returned (slot.assign milliseconds callback) := by
  cases refers : slot.ref with
  | none => simp [ensure, needsTimer, refers, armed]
  | some t =>
      cases live : slot.runs t with
      | true => simp [ensure, needsTimer, isRunning, refers, live, armed]
      | false =>
          simp [ensure, needsTimer, isRunning, destroy, refers, live, armed,
            setRunning_of_not_runs live]

/-- The guarded replacement leaves a timer to refer to, unless there was none and
computing the interval throws. -/
theorem ref_ensure (interval : Option ℤ) (callback : Callback) :
    (slot.ensure interval callback).state.ref ≠ none ↔ slot.ref ≠ none ∨ interval ≠ none := by
  rw [ensure_eq]
  split
  · next live =>
      obtain ⟨t, refers, -⟩ := armed_iff.mp live
      simp [refers]
  · cases interval <;> simp

/-! ## At most one armed timer -/

/-- Only the timer referred to may be armed. -/
def OneLive (slot : TimerSlot Callback) : Prop := ∀ t, slot.runs t = true → slot.ref = some t

namespace OneLive

theorem empty : OneLive (empty : TimerSlot Callback) := by
  intro t live
  simp at live

/-- At most one timer is armed. -/
theorem eq_of_runs (one : slot.OneLive) {t u : ℕ} (first : slot.runs t = true)
    (second : slot.runs u = true) : t = u :=
  Option.some.inj ((one t first).symm.trans (one u second))

theorem setRunning (one : slot.OneLive) {t : ℕ} (live : slot.runs t = true) (running : Bool) :
    (slot.setRunning t running).OneLive := by
  intro u after
  rw [runs_setRunning_of_runs live] at after
  split at after
  · next same => exact same ▸ one t live
  · exact one u after

/-- The result of a tick decides whether the slot is armed afterwards. -/
theorem armed_setRunning (one : slot.OneLive) {t : ℕ} (live : slot.runs t = true)
    (running : Bool) : (slot.setRunning t running).armed = running := by
  have refers : (slot.setRunning t running).ref = some t := one t live
  rw [armed_of_ref refers, runs_setRunning_of_runs live, if_pos rfl]

/-- So does it decide whether the callback stays installed. -/
theorem installed_setRunning (one : slot.OneLive) {t : ℕ} (live : slot.runs t = true)
    (running : Bool) :
    (slot.setRunning t running).installed = if running = true then slot.installed else none := by
  have armed_after := one.armed_setRunning live running
  cases running with
  | true => exact installed_setRunning_true (one t live) live
  | false => exact installed_of_not_armed armed_after

theorem assign (one : slot.OneLive) (off : slot.armed = false) (interval : ℤ)
    (callback : Callback) : (slot.assign interval callback).OneLive := by
  intro t after
  rw [runs_assign, Bool.or_eq_true, decide_eq_true_eq] at after
  rcases after with new | old
  · rw [ref_assign, new]
  · have live := armed_iff.mpr ⟨t, one t old, old⟩
    rw [off] at live
    cases live

end OneLive

/-! ## Other callbacks -/

/-- The slot with each callback replaced. -/
def mapCallback {Other : Type*} (f : Callback → Other) (slot : TimerSlot Callback) :
    TimerSlot Other :=
  ⟨slot.ref, slot.created.map fun timer => ⟨f timer.callback, timer.interval, timer.running⟩⟩

variable {Other : Type*} (f : Callback → Other)

theorem getElem?_mapCallback (t : ℕ) :
    (slot.mapCallback f).created[t]? =
      (slot.created[t]?).map fun timer => ⟨f timer.callback, timer.interval, timer.running⟩ :=
  List.getElem?_map

@[simp] theorem runs_mapCallback (t : ℕ) : (slot.mapCallback f).runs t = slot.runs t := by
  rw [runs, getElem?_mapCallback, runs]
  cases slot.created[t]? <;> rfl

/-- Which timer is armed does not depend on the callbacks. -/
theorem setRunning_mapCallback (t : ℕ) (running : Bool) :
    (slot.mapCallback f).setRunning t running = (slot.setRunning t running).mapCallback f := by
  simp only [setRunning, mapCallback, TimerSlot.mk.injEq, true_and]
  apply List.ext_getElem?
  intro u
  simp only [List.getElem?_modify, List.getElem?_map]
  cases slot.created[u]? with
  | none => rfl
  | some timer => by_cases here : t = u <;> simp [here]

theorem destroy_mapCallback :
    (slot.mapCallback f).destroy = slot.destroy.map (mapCallback f) := by
  change slot.ref.map _ = (slot.ref.map _).map _
  rw [Option.map_map]
  exact congrArg (Option.map · slot.ref) (funext fun t => setRunning_mapCallback f t false)

theorem assign_mapCallback (interval : ℤ) (callback : Callback) :
    (slot.mapCallback f).assign interval (f callback) =
      (slot.assign interval callback).mapCallback f := by
  simp [assign, mapCallback]

/-- Callbacks that are replaced by themselves leave the slot as it was. -/
theorem mapCallback_eq_self {g : Callback → Callback}
    (same : ∀ t callback, slot.callbackOf t = some callback → g callback = callback) :
    slot.mapCallback g = slot := by
  obtain ⟨ref, created⟩ := slot
  simp only [mapCallback, TimerSlot.mk.injEq, true_and]
  apply List.ext_getElem?
  intro t
  rw [List.getElem?_map]
  cases found : created[t]? with
  | none => rfl
  | some timer =>
      have kept : g timer.callback = timer.callback :=
        same t timer.callback (by simp [callbackOf, found])
      simp [kept]

end TimerSlot

end TimerSlots
