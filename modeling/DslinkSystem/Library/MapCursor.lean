import Mathlib.Data.List.Basic
import Mathlib.Tactic.Common
import Std.Data.ExtTreeMap

/-!
# Walking an ordered map whose elements may be erased on the way

An iterator of an ordered map is the key of the element it points to, or nothing
at the end of the map. It stays usable as long as its element is in the map;
erasing the element leaves an iterator that may neither be dereferenced nor
advanced.

A walk starts at the first element, runs a body at each element and advances.
When the body erases nothing the walk is the fold of the body over the keys in
order (`walk_eq_finished`). When the body erases the element it stands on, at
the elements that fail a test, the walk finishes exactly when no element fails
the test (`walk_finishes_iff`).
-/

set_option autoImplicit false

namespace MapCursor

universe u v w

variable {κ : Type u} {β : Type v} {σ : Type w} {cmp : κ → κ → Ordering} [Std.TransCmp cmp]

/-- An iterator: the key of its element, or nothing at the end. -/
abbrev Cursor (κ : Type u) := Option κ

/-- The iterator to the first element. -/
def begin (map : Std.ExtTreeMap κ β cmp) : Cursor κ := map.keys.head?

/-- Advance the iterator that points to `key`. There is no result when that
element has been erased. -/
def next (map : Std.ExtTreeMap κ β cmp) (key : κ) : Option (Cursor κ) :=
  if key ∈ map then some (map.keys.find? fun other => cmp key other == .lt) else none

/-- How a walk ends: past the last element, at an iterator whose element was
erased, or with elements left when its budget is used up. -/
inductive Walk (σ : Type w) where
  | finished (state : σ)
  | invalid (state : σ)
  | unfinished (state : σ)

/-- Run the body at each element from the iterator on. The body works on a state
that holds the map. -/
def walk (map : σ → Std.ExtTreeMap κ β cmp) (body : σ → κ → σ) : ℕ → σ → Cursor κ → Walk σ
  | _, state, none => .finished state
  | 0, state, some _ => .unfinished state
  | budget + 1, state, some key =>
      if key ∈ map state then
        match next (map (body state key)) key with
        | none => .invalid (body state key)
        | some cursor => walk map body budget (body state key) cursor
      else .invalid state

/-! ## Advancing -/

/-- Advancing from an element leads to the element after it in the order of
keys. -/
theorem next_of_keys [Std.LawfulEqCmp cmp] {map : Std.ExtTreeMap κ β cmp} {before after : List κ}
    {key : κ} (keys : map.keys = before ++ key :: after) : next map key = some after.head? := by
  have member : key ∈ map := by
    rw [← Std.ExtTreeMap.mem_keys, keys]
    simp
  have ordered := map.ordered_keys
  rw [keys, List.pairwise_append, List.pairwise_cons] at ordered
  obtain ⟨-, ⟨above, -⟩, below⟩ := ordered
  have skipped : ∀ other ∈ before ++ [key], ¬ (cmp key other == .lt) = true := by
    intro other inBefore
    rcases List.mem_append.mp inBefore with earlier | here
    · have gt : cmp key other = .gt := Std.OrientedCmp.gt_of_lt (below other earlier key (by simp))
      simp [gt]
    · have same : other = key := by simpa using here
      simp [same, Std.ReflCmp.compare_self]
  rw [next, if_pos member, keys, List.append_cons,
    List.find?_append, List.find?_eq_none.mpr skipped, Option.none_or]
  cases after with
  | nil => rfl
  | cons first rest =>
      have lt := above first (by simp)
      simp [lt]

/-! ## Walks that erase the element they stand on -/

section Walks

variable [Std.LawfulEqCmp cmp] {map : σ → Std.ExtTreeMap κ β cmp} {body : σ → κ → σ}
  {keep : κ → Bool}

/-- Where the body keeps the map at the elements that pass a test and erases the
element at the others, a walk over the rest of the keys finishes with the fold
of the body, or reaches an erased element when some key fails the test. -/
theorem walk_suffix
    (keeps : ∀ state key, keep key = true → map (body state key) = map state)
    (erases : ∀ state key, keep key = false → key ∉ map (body state key)) :
    ∀ (rest before : List κ) (state : σ) (budget : ℕ), (map state).keys = before ++ rest →
      rest.length ≤ budget →
      if rest.all keep = true then
        walk map body budget state rest.head? = .finished (rest.foldl body state)
      else ∃ left, walk map body budget state rest.head? = .invalid left
  | [], _, state, budget, _, _ => by cases budget <;> simp [walk]
  | key :: rest, before, state, 0, _, enough => by simp at enough
  | key :: rest, before, state, budget + 1, keys, enough => by
      have member : key ∈ map state := by
        rw [← Std.ExtTreeMap.mem_keys, keys]
        simp
      cases passes : keep key with
      | false =>
          have stuck : next (map (body state key)) key = none := by
            rw [next, if_neg (erases state key passes)]
          simp [passes, walk, member, stuck]
      | true =>
          have same := keeps state key passes
          have advance : next (map (body state key)) key = some rest.head? := by
            rw [same]
            exact next_of_keys keys
          have ih := walk_suffix keeps erases rest (before ++ [key]) (body state key) budget
            (by rw [same, keys]; simp) (by simpa using enough)
          simpa [passes, walk, member, advance] using ih

/-- **A walk that erases the elements failing a test finishes exactly when none
fails it.** -/
theorem walk_finishes_iff
    (keeps : ∀ state key, keep key = true → map (body state key) = map state)
    (erases : ∀ state key, keep key = false → key ∉ map (body state key)) (state : σ) :
    (∃ final, walk map body (map state).size state (begin (map state)) = .finished final) ↔
      ∀ key ∈ map state, keep key = true := by
  have all_iff : (map state).keys.all keep = true ↔ ∀ key ∈ map state, keep key = true := by
    simp only [List.all_eq_true, Std.ExtTreeMap.mem_keys]
  have suffix := walk_suffix keeps erases (map state).keys [] state (map state).size rfl
    (Nat.le_of_eq Std.ExtTreeMap.length_keys)
  rw [← all_iff, begin]
  constructor
  · rintro ⟨final, finished⟩
    by_contra fails
    rw [if_neg fails] at suffix
    obtain ⟨left, invalid⟩ := suffix
    rw [finished] at invalid
    cases invalid
  · intro passes
    rw [if_pos passes] at suffix
    exact ⟨_, suffix⟩

/-- A walk that finishes is the fold of the body over the keys. -/
theorem walk_eq_finished
    (keeps : ∀ state key, keep key = true → map (body state key) = map state)
    (erases : ∀ state key, keep key = false → key ∉ map (body state key)) {state final : σ}
    (finished : walk map body (map state).size state (begin (map state)) = .finished final) :
    final = (map state).keys.foldl body state := by
  have suffix := walk_suffix keeps erases (map state).keys [] state (map state).size rfl
    (Nat.le_of_eq Std.ExtTreeMap.length_keys)
  rw [begin] at finished
  split at suffix
  · rw [finished] at suffix
    exact Walk.finished.inj suffix
  · obtain ⟨left, invalid⟩ := suffix
    rw [finished] at invalid
    cases invalid

end Walks

end MapCursor
