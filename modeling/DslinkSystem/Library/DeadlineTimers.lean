import Mathlib.Data.Int.Order.Basic
import DslinkSystem.Library.TimerSlots

/-!
# A field that refers to the latest of its deadline timers

A deadline timer waits once, for a point in time, and then its handler is called. When
the timer is destroyed while it waits, the wait is aborted, and its handler is called
all the same.

A slot is a field that refers to one such timer or to none, together with every timer
ever created for it. Giving the field a new timer destroys the one it referred to. With
each timer a note is kept, of whatever its creator wants to remember.

A slot that was never given a new timer while one was pending has at most one pending
timer and no aborted one (`Unreplaced`), so that the handler that is called is the one
whose time has come (`Unreplaced.of_ready`).
-/

set_option autoImplicit false

namespace DeadlineTimers

universe u

/-- How the wait of a timer stands: it goes on, it was aborted and the handler is yet to
be called, or the handler was called. -/
inductive Wait where
  | pending
  | aborted
  | handled
  deriving DecidableEq, Repr

/-- A deadline timer. -/
structure DeadlineTimer (Note : Type u) where
  deadline : ℤ
  wait : Wait
  note : Note
  deriving DecidableEq, Repr

/-- A reference to a timer or to nothing, and all timers created for it in the order of
creation. A timer is named by its place in that order. -/
structure DeadlineSlot (Note : Type u) where
  ref : Option ℕ
  created : List (DeadlineTimer Note)
  deriving DecidableEq, Repr

namespace DeadlineSlot

variable {Note : Type u} {slot : DeadlineSlot Note}

/-- The slot before any timer was created. -/
def empty : DeadlineSlot Note := ⟨none, []⟩

/-- How the wait of the timer `t` stands. -/
def waitOf (slot : DeadlineSlot Note) (t : ℕ) : Option Wait := (slot.created[t]?).map (·.wait)

/-- The notes, in the order of creation. -/
def notes (slot : DeadlineSlot Note) : List Note := slot.created.map (·.note)

/-- The pending timer that was created first. -/
def oldestPending (slot : DeadlineSlot Note) : Option (DeadlineTimer Note) :=
  slot.created.find? fun timer => timer.wait = .pending

/-- The handler of the timer `t` is to be called: its wait was aborted, or it is pending
and its deadline has been reached. -/
def ready (slot : DeadlineSlot Note) (now : ℤ) (t : ℕ) : Bool :=
  (slot.created[t]?).any fun timer =>
    timer.wait = .aborted || (timer.wait = .pending && decide (timer.deadline ≤ now))

/-! ## Operations -/

/-- Destroy the timer `t`: a pending wait is aborted. -/
def destroy (slot : DeadlineSlot Note) (t : ℕ) : DeadlineSlot Note :=
  { slot with
    created := slot.created.modify t fun timer =>
      if timer.wait = .pending then { timer with wait := .aborted } else timer }

/-- Create a pending timer and refer to it. The timer referred to before is destroyed. -/
def assign (slot : DeadlineSlot Note) (deadline : ℤ) (note : Note) : DeadlineSlot Note :=
  let destroyed := match slot.ref with
    | some t => slot.destroy t
    | none => slot
  ⟨some slot.created.length, destroyed.created ++ [⟨deadline, .pending, note⟩]⟩

/-- The handler of the timer `t` is called. -/
def handled (slot : DeadlineSlot Note) (t : ℕ) : DeadlineSlot Note :=
  { slot with created := slot.created.modify t fun timer => { timer with wait := .handled } }

/-! ## What the operations do -/

/-- A change that leaves what is observed of an entry alone. -/
theorem map_modify_of_eq {α β : Type u} (entries : List α) (t : ℕ) {change : α → α}
    {observe : α → β} (same : ∀ entry, observe (change entry) = observe entry) :
    (entries.modify t change).map observe = entries.map observe := by
  apply List.ext_getElem?
  intro i
  rw [List.getElem?_map, List.getElem?_map, List.getElem?_modify]
  cases entries[i]? with
  | none => rfl
  | some entry => by_cases here : t = i <;> simp [here, same]

@[simp] theorem notes_empty : (empty : DeadlineSlot Note).notes = [] := rfl

@[simp] theorem notes_handled (t : ℕ) : (slot.handled t).notes = slot.notes :=
  map_modify_of_eq _ _ fun _ => rfl

@[simp] theorem notes_destroy (t : ℕ) : (slot.destroy t).notes = slot.notes := by
  refine map_modify_of_eq _ _ fun timer => ?_
  split <;> rfl

@[simp] theorem notes_assign (deadline : ℤ) (note : Note) :
    (slot.assign deadline note).notes = slot.notes ++ [note] := by
  unfold assign
  cases slot.ref with
  | none => simp [notes]
  | some t =>
      have kept : (slot.destroy t).created.map (·.note) = slot.created.map (·.note) :=
        notes_destroy t
      simp [notes, kept]

/-- A new timer is created whatever there was. -/
theorem length_assign (deadline : ℤ) (note : Note) :
    (slot.assign deadline note).created.length = slot.created.length + 1 := by
  unfold assign
  cases slot.ref <;> simp [destroy]

theorem mem_notes {t : ℕ} {timer : DeadlineTimer Note} (found : slot.created[t]? = some timer) :
    timer.note ∈ slot.notes :=
  List.mem_map_of_mem (List.mem_of_getElem? found)

theorem waitOf_handled (t u : ℕ) :
    (slot.handled t).waitOf u =
      if t = u then (slot.waitOf u).map fun _ => .handled else slot.waitOf u := by
  simp only [waitOf, handled, List.getElem?_modify]
  by_cases here : t = u
  · simp [here, Function.comp_def]
  · simp [here]

/-- No timer is pending exactly when none is found. -/
theorem oldestPending_eq_none_iff :
    slot.oldestPending = none ↔ ∀ t, slot.waitOf t ≠ some .pending := by
  rw [oldestPending, List.find?_eq_none]
  constructor
  · intro none_found t waits
    obtain ⟨timer, found, pending⟩ := Option.map_eq_some_iff.mp waits
    exact none_found timer (List.mem_of_getElem? found) (by simpa using pending)
  · intro none_waits timer member pending
    obtain ⟨t, found⟩ := List.getElem?_of_mem member
    exact none_waits t (by simpa [waitOf, found] using pending)

/-- With no timer pending nothing is aborted by a new one. -/
theorem waitOf_assign (quiet : slot.oldestPending = none) (deadline : ℤ) (note : Note) (t : ℕ) :
    (slot.assign deadline note).waitOf t =
      if t = slot.created.length then some .pending else slot.waitOf t := by
  have unchanged : ∀ u, slot.destroy u = slot := by
    intro u
    have same : slot.created.modify u (fun timer =>
        if timer.wait = .pending then { timer with wait := .aborted } else timer) =
          slot.created := by
      apply TimerSlots.modify_eq_self
      intro timer found
      refine if_neg fun pending => ?_
      exact oldestPending_eq_none_iff.mp quiet u (by simp [waitOf, found, pending])
    rw [destroy, same]
  have created : (slot.assign deadline note).created =
      slot.created ++ [⟨deadline, .pending, note⟩] := by
    unfold assign
    cases slot.ref with
    | none => rfl
    | some u => simp only [unchanged]
  simp only [waitOf, created, List.getElem?_append, List.getElem?_singleton]
  rcases Nat.lt_trichotomy t slot.created.length with before | same | beyond
  · simp [before, Nat.ne_of_lt before]
  · simp [same]
  · simp [Nat.not_lt.mpr (Nat.le_of_lt beyond), Nat.ne_of_gt beyond, Nat.sub_ne_zero_of_lt beyond]

theorem ready_iff {now : ℤ} {t : ℕ} : slot.ready now t = true ↔
    ∃ timer, slot.created[t]? = some timer ∧
      (timer.wait = .aborted ∨ timer.wait = .pending ∧ timer.deadline ≤ now) := by
  cases found : slot.created[t]? with
  | none => simp [ready, found]
  | some timer => simp [ready, found]

/-! ## Slots whose timers are not replaced while they wait -/

/-- No wait was aborted, and at most one is pending. -/
structure Unreplaced (slot : DeadlineSlot Note) : Prop where
  notAborted : ∀ t, slot.waitOf t ≠ some .aborted
  single : ∀ {t u : ℕ}, slot.waitOf t = some .pending → slot.waitOf u = some .pending → t = u

namespace Unreplaced

theorem empty : (empty : DeadlineSlot Note).Unreplaced where
  notAborted t waits := by simp [waitOf, DeadlineSlot.empty] at waits
  single waits := by simp [waitOf, DeadlineSlot.empty] at waits

/-- The slot stays so when it is given a new timer while none is pending. -/
theorem assign (unreplaced : slot.Unreplaced) (quiet : slot.oldestPending = none) (deadline : ℤ)
    (note : Note) : (slot.assign deadline note).Unreplaced where
  notAborted t := by
    rw [waitOf_assign quiet]
    split
    · simp
    · exact unreplaced.notAborted t
  single {t u} first second := by
    have none_waits := oldestPending_eq_none_iff.mp quiet
    rw [waitOf_assign quiet] at first second
    split at first
    · next new =>
        split at second
        · next new' => rw [new, new']
        · exact absurd second (none_waits u)
    · exact absurd first (none_waits t)

theorem handled (unreplaced : slot.Unreplaced) (t : ℕ) : (slot.handled t).Unreplaced where
  notAborted u := by
    rw [waitOf_handled]
    split
    · cases slot.waitOf u <;> simp
    · exact unreplaced.notAborted u
  single {u v} first second := by
    rw [waitOf_handled] at first second
    split at first
    · cases slot.waitOf u <;> simp at first
    · split at second
      · cases slot.waitOf v <;> simp at second
      · exact unreplaced.single first second

/-- **The handler that is called is the one whose time has come**, and its timer is the
oldest one pending. -/
theorem of_ready (unreplaced : slot.Unreplaced) {now : ℤ} {t : ℕ}
    (called : slot.ready now t = true) :
    ∃ timer, slot.oldestPending = some timer ∧ slot.created[t]? = some timer ∧
      timer.deadline ≤ now := by
  obtain ⟨timer, found, aborted | ⟨pending, reached⟩⟩ := ready_iff.mp called
  · exact absurd (by simp [waitOf, found, aborted]) (unreplaced.notAborted t)
  · have waits : slot.waitOf t = some .pending := by simp [waitOf, found, pending]
    cases oldest : slot.oldestPending with
    | none => exact absurd waits (oldestPending_eq_none_iff.mp oldest t)
    | some other =>
        -- the one found first is pending as well, so it is this one
        obtain ⟨u, found'⟩ := List.getElem?_of_mem (List.mem_of_find?_eq_some oldest)
        have pending' : other.wait = .pending := by simpa using List.find?_some oldest
        have same : u = t := unreplaced.single (by simp [waitOf, found', pending']) waits
        rw [same, found] at found'
        obtain rfl := Option.some.inj found'
        exact ⟨timer, rfl, found, reached⟩

end Unreplaced

end DeadlineSlot

end DeadlineTimers
