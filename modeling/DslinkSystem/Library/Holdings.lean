import Mathlib.Data.Multiset.AddSub

/-!
# Programs that hold references

A program may acquire references, use them and release them. It is run with the references
that are held, each as often as it was acquired, and it fails where it uses or releases one
that is not held (`acquire`, `use`, `release`).

What a program does to its references is said by `Triple held program result after`: on top
of whatever else is held, it takes `held` to `after`, and what it returns, or that it fails,
does not depend on the rest. The rules take a program apart at its first step
(`triple_acquire`, `triple_use`, `triple_release`) or at a part of its own (`Triple.bind`).
A program that ends with what it began with can be repeated (`triple_mapM`), and leaves
everything that was held as it was (`Triple.run_eq`, `mapM_run_iff`).
-/

set_option autoImplicit false

namespace Holdings

variable {Ref : Type} {α β : Type}

/-- A program over the references held, which may fail. -/
abbrev Holding (Ref α : Type) := StateT (Multiset Ref) Option α

/-- Acquires a reference. -/
def acquire (r : Ref) : Holding Ref Unit := fun held => some ((), r ::ₘ held)

section Steps

variable [DecidableEq Ref]

/-- Uses a reference, which has to be held. -/
def use (r : Ref) : Holding Ref Unit := fun held => if r ∈ held then some ((), held) else none

/-- Releases a reference, which has to be held. -/
def release (r : Ref) : Holding Ref Unit := fun held =>
  if r ∈ held then some ((), held.erase r) else none

end Steps

/-- The program takes the references `held` to the references `after`, on top of whatever
else is held, and has the result. -/
def Triple (held : Multiset Ref) (program : Holding Ref α) (result : Option α)
    (after : Multiset Ref) : Prop :=
  ∀ others, program (held + others) = result.map fun x => (x, after + others)

/-! ## Rules -/

variable {held middle after : Multiset Ref} {program : Holding Ref α} {result : Option α}

theorem triple_pure (x : α) : Triple held (pure x) (some x) held := fun _ => rfl

/-- A program that fails has every state after it. -/
theorem triple_failure : Triple held (failure : Holding Ref α) none after := fun _ => rfl

/-- **One program after another.** -/
theorem Triple.bind {next : α → Holding Ref β} {results : α → Option β}
    (first : Triple held program result middle)
    (later : ∀ x, result = some x → Triple middle (next x) (results x) after) :
    Triple held (program >>= next) (result.bind results) after := by
  intro others
  have unfolded : (program >>= next) (held + others) =
      (program (held + others)).bind fun out => next out.1 out.2 := rfl
  rw [unfolded, first others]
  cases found : result with
  | none => rfl
  | some x => exact later x found others

/-- The rest of a program, after its first step. -/
theorem Triple.after_step {x : α} {next : α → Holding Ref β} {result : Option β}
    (first : Triple held program (some x) middle) (later : Triple middle (next x) result after) :
    Triple held (program >>= next) result after := by
  intro others
  have unfolded : (program >>= next) (held + others) =
      (program (held + others)).bind fun out => next out.1 out.2 := rfl
  rw [unfolded, first others]
  exact later others

/-- What a failing program is followed by does not matter. -/
theorem Triple.fails {next : α → Holding Ref β} (first : Triple held program none held) :
    Triple held (program >>= next) none after := by
  have later : ∀ x, none = some x → Triple held (next x) none after := by
    intro x impossible
    cases impossible
  exact first.bind later

theorem triple_acquire (r : Ref) : Triple held (acquire r) (some ()) (r ::ₘ held) := by
  intro others
  rw [acquire, Multiset.cons_add]
  rfl

section Steps

variable [DecidableEq Ref]

theorem triple_use {r : Ref} (there : r ∈ held) : Triple held (use r) (some ()) held := by
  intro others
  rw [use, if_pos (Multiset.mem_add.mpr (.inl there))]
  rfl

theorem triple_release {r : Ref} (there : r ∈ held) :
    Triple held (release r) (some ()) (held.erase r) := by
  intro others
  rw [release, if_pos (Multiset.mem_add.mpr (.inl there)),
    Multiset.erase_add_left_pos others there]
  rfl

end Steps

/-! ## Repetition -/

/-- A program that is repeated for each element of a list, and gives back what it takes each
time, gives it back in the end. -/
theorem triple_mapM {program : α → Holding Ref β} {result : α → Option β} {list : List α}
    (each : ∀ a ∈ list, Triple held (program a) (result a) held) :
    Triple held (list.mapM program) (list.mapM result) held := by
  induction list with
  | nil => exact triple_pure []
  | cons a list ih =>
      rw [List.mapM_cons, List.mapM_cons]
      apply (each a List.mem_cons_self).bind
      intro x _
      apply (ih fun b member => each b (List.mem_cons_of_mem a member)).bind
      intro xs _
      exact triple_pure (x :: xs)

/-- A program that ends with the references it began with leaves everything as it was. -/
theorem Triple.run_eq (balanced : Triple 0 program result 0) (others : Multiset Ref) :
    program others = result.map fun x => (x, others) := by
  have ran := balanced others
  rwa [Multiset.zero_add] at ran

/-- A list of results that may each be missing. -/
theorem mapM_eq_some_iff {ok : α → Bool} {value : α → β} {list : List α} {values : List β} :
    (list.mapM fun a => if ok a then some (value a) else none) = some values ↔
      (∀ a ∈ list, ok a = true) ∧ values = list.map value := by
  induction list generalizing values with
  | nil =>
      rw [List.mapM_nil, Option.pure_def, Option.some.injEq, eq_comm]
      exact (and_iff_right fun a member => by cases member).symm
  | cons a list ih =>
      rw [List.mapM_cons]
      cases good : ok a with
      | false =>
          refine iff_of_false (fun impossible => by cases impossible) fun all => ?_
          rw [all.1 a List.mem_cons_self] at good
          cases good
      | true =>
          simp only [if_true, Option.bind_eq_bind, Option.bind_some, Option.bind_eq_some_iff,
            ih, List.forall_mem_cons, good, true_and, List.map_cons, Option.pure_def,
            Option.some.injEq]
          constructor
          · rintro ⟨rest, ⟨all, rfl⟩, rfl⟩
            exact ⟨all, rfl⟩
          · rintro ⟨all, rfl⟩
            exact ⟨_, ⟨all, rfl⟩, rfl⟩

/-- **Repeated calls that give back what they take.** A list of them runs to its end exactly
when each has a result, and then everything that was held still is. -/
theorem mapM_run_iff {program : α → Holding Ref β} {ok : α → Bool} {value : α → β}
    (each : ∀ a, Triple 0 (program a) (if ok a then some (value a) else none) 0)
    {list : List α} {held left : Multiset Ref} {values : List β} :
    list.mapM program held = some (values, left) ↔
      (∀ a ∈ list, ok a = true) ∧ values = list.map value ∧ left = held := by
  rw [(triple_mapM fun a _ => each a).run_eq, Option.map_eq_some_iff]
  constructor
  · rintro ⟨values', found, same⟩
    obtain ⟨rfl, rfl⟩ := Prod.mk.inj same
    obtain ⟨all, rfl⟩ := mapM_eq_some_iff.mp found
    exact ⟨all, rfl, rfl⟩
  · rintro ⟨all, rfl, rfl⟩
    exact ⟨_, mapM_eq_some_iff.mpr ⟨all, rfl⟩, rfl⟩

end Holdings
