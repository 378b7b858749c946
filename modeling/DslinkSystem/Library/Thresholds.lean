import Mathlib.Data.List.Defs
import Mathlib.Order.Lattice

/-!
# Thresholds in descending order

A list of entries has a threshold for each, from the greatest to the least. The first entry
whose threshold a value reaches is then the one with the greatest threshold it reaches
(`reached_eq_some_iff`), and a greater value never reaches a lesser entry (`reached_mono`).
-/

set_option autoImplicit false

namespace Thresholds

variable {Entry Value : Type*} [LinearOrder Value] {threshold : Entry → Value}

/-- The thresholds descend. -/
def Descending (threshold : Entry → Value) (entries : List Entry) : Prop :=
  entries.Pairwise fun first later => threshold later < threshold first

/-- The first entry whose threshold the value reaches. -/
def reached (threshold : Entry → Value) (entries : List Entry) (value : Value) : Option Entry :=
  entries.find? fun entry => decide (threshold entry ≤ value)

variable {entries : List Entry} {value : Value} {entry : Entry}

/-- **The first threshold reached is the greatest one reached.** -/
theorem reached_eq_some_iff (descending : Descending threshold entries) :
    reached threshold entries value = some entry ↔
      entry ∈ entries ∧ threshold entry ≤ value ∧
        ∀ other ∈ entries, threshold other ≤ value → threshold other ≤ threshold entry := by
  induction entries with
  | nil => simp [reached]
  | cons first entries ih =>
      obtain ⟨below, later⟩ := List.pairwise_cons.mp descending
      by_cases reaches : threshold first ≤ value
      · have found : reached threshold (first :: entries) value = some first := by
          simp [reached, reaches]
        rw [found, Option.some.injEq]
        constructor
        · rintro rfl
          refine ⟨List.mem_cons_self, reaches, fun other member _ => ?_⟩
          rcases List.mem_cons.mp member with rfl | member
          · exact le_rfl
          · exact le_of_lt (below other member)
        · rintro ⟨member, -, greatest⟩
          rcases List.mem_cons.mp member with rfl | member
          · rfl
          · exact absurd (greatest first List.mem_cons_self reaches)
              (not_le.mpr (below entry member))
      · have found : reached threshold (first :: entries) value =
            reached threshold entries value := by
          simp [reached, reaches]
        rw [found, ih later]
        constructor
        · rintro ⟨member, reach, greatest⟩
          refine ⟨List.mem_cons_of_mem _ member, reach, fun other otherMember otherReach => ?_⟩
          rcases List.mem_cons.mp otherMember with rfl | otherMember
          · exact absurd otherReach reaches
          · exact greatest other otherMember otherReach
        · rintro ⟨member, reach, greatest⟩
          rcases List.mem_cons.mp member with rfl | member
          · exact absurd reach reaches
          · exact ⟨member, reach, fun other otherMember =>
              greatest other (List.mem_cons_of_mem _ otherMember)⟩

/-- A greater value does not reach a lesser threshold. -/
theorem reached_mono (descending : Descending threshold entries) {value' : Value}
    {entry' : Entry} (le : value ≤ value') (found : reached threshold entries value = some entry)
    (found' : reached threshold entries value' = some entry') :
    threshold entry ≤ threshold entry' := by
  obtain ⟨member, reach, -⟩ := (reached_eq_some_iff descending).mp found
  obtain ⟨-, -, greatest⟩ := (reached_eq_some_iff descending).mp found'
  exact greatest entry member (le_trans reach le)

end Thresholds
