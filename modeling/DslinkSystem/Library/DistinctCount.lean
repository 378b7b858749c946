import Mathlib.Data.List.Destutter
import Mathlib.Data.Finset.Card
import Mathlib.Data.Finset.Dedup

/-!
# Counting distinct entries by sorting

Sort a list, remove each entry that equals the one before it, and count what is left. What
is left has every entry of the list once, so the count is the number of distinct entries
(`distinctCount_eq_card`): it depends on which entries there are and not on their order or
on how often each occurs.
-/

set_option autoImplicit false

namespace DistinctCount

universe u

variable {α : Type u}

/-- Entries in order of which no two neighbours are equal are distinct. -/
theorem nodup_of_isChain_ne [LE α] [Std.IsLinearOrder α] {entries : List α}
    (sorted : entries.Pairwise (· ≤ ·)) (neighbours : entries.IsChain (· ≠ ·)) :
    entries.Nodup := by
  induction entries with
  | nil => exact List.nodup_nil
  | cons a rest ih =>
      obtain ⟨least, sorted'⟩ := List.pairwise_cons.mp sorted
      refine List.nodup_cons.mpr ⟨fun again => ?_, ih sorted' neighbours.tail⟩
      cases rest with
      | nil => cases again
      | cons b rest =>
          -- the neighbour stands between an entry and its repetition
          have different : a ≠ b := (List.isChain_cons_cons.mp neighbours).1
          have between : b ≤ a := by
            rcases List.mem_cons.mp again with here | later
            · exact absurd here different
            · exact (List.pairwise_cons.mp sorted').1 a later
          exact different (Std.le_antisymm (least b List.mem_cons_self) between)

variable [DecidableEq α]

/-- No entry is lost when repetitions of neighbours are removed. -/
theorem mem_destutter'_ne {a b : α} {entries : List α} (member : a ∈ b :: entries) :
    a ∈ entries.destutter' (· ≠ ·) b := by
  induction entries generalizing b with
  | nil => simpa using member
  | cons c entries ih =>
      rw [List.destutter'_cons]
      split
      · rcases List.mem_cons.mp member with rfl | later
        · exact List.mem_cons_self
        · exact List.mem_cons_of_mem _ (ih later)
      · next same =>
          obtain rfl : b = c := not_not.mp same
          rcases List.mem_cons.mp member with rfl | later
          · exact ih List.mem_cons_self
          · exact ih later

theorem mem_destutter_ne {a : α} {entries : List α} :
    a ∈ entries.destutter (· ≠ ·) ↔ a ∈ entries := by
  constructor
  · exact fun member => (List.destutter_sublist _ entries).subset member
  · intro member
    cases entries with
    | nil => cases member
    | cons b entries => exact mem_destutter'_ne member

variable [LE α] [DecidableLE α]

/-- Sort, keep the first of equal neighbours, and count. -/
def distinctCount (entries : List α) : ℕ :=
  ((entries.mergeSort fun a b => decide (a ≤ b)).destutter (· ≠ ·)).length

variable [Std.IsLinearOrder α]

/-- **The count is the number of distinct entries.** -/
theorem distinctCount_eq_card (entries : List α) :
    distinctCount entries = entries.toFinset.card := by
  have sorted : (entries.mergeSort fun a b => decide (a ≤ b)).Pairwise (· ≤ ·) := by
    have transitive : ∀ a b c : α, decide (a ≤ b) = true → decide (b ≤ c) = true →
        decide (a ≤ c) = true := by
      intro a b c first second
      exact decide_eq_true (Std.le_trans (of_decide_eq_true first) (of_decide_eq_true second))
    have total : ∀ a b : α, (decide (a ≤ b) || decide (b ≤ a)) = true := by
      intro a b
      rcases (Std.le_total : a ≤ b ∨ b ≤ a) with before | after
      · simp [before]
      · simp [after]
    have inOrder := List.pairwise_mergeSort transitive total entries
    exact inOrder.imp fun before => of_decide_eq_true before
  have distinct : ((entries.mergeSort fun a b => decide (a ≤ b)).destutter (· ≠ ·)).Nodup :=
    nodup_of_isChain_ne (sorted.sublist (List.destutter_sublist _ _))
      (List.isChain_destutter _ _)
  have same : ((entries.mergeSort fun a b => decide (a ≤ b)).destutter (· ≠ ·)).toFinset =
      entries.toFinset := by
    ext a
    rw [List.mem_toFinset, List.mem_toFinset, mem_destutter_ne, List.mem_mergeSort]
  rw [distinctCount, ← List.toFinset_card_of_nodup distinct, same]

end DistinctCount
