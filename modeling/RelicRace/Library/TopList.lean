import Mathlib.Order.Lattice
import Mathlib.Tactic.Common

/-!
The first items of a list by a key: all keys in ascending order, and of these at
most a given number. Sorting the items and cropping them shows such a list;
leaving the crop out shows one exactly when there was nothing to crop.
-/

namespace Library.TopList

universe u v
variable {Key : Type u} {Item : Type v} [LinearOrder Key]

/-- The keys that are shown are the first of all keys in ascending order. -/
def IsTop (limit : Nat) (sources shown : List Key) : Prop :=
  ∃ sorted : List Key, sorted.Perm sources ∧ sorted.Pairwise (· ≤ ·) ∧ shown = sorted.take limit

theorem is_top_length {limit : Nat} {sources shown : List Key} (top : IsTop limit sources shown) :
    shown.length = min limit sources.length := by
  obtain ⟨sorted, perm, -, rfl⟩ := top
  rw [List.length_take, perm.length_eq]

section Sorting
variable (key : Item → Key)

/-- The items in ascending order of their keys. -/
def sortBy (items : List Item) : List Item := items.mergeSort fun a b => decide (key a ≤ key b)

theorem sort_by_length (items : List Item) : (sortBy key items).length = items.length :=
  List.length_mergeSort items

theorem sort_by_ascending (items : List Item) :
    ((sortBy key items).map key).Perm (items.map key) ∧
      ((sortBy key items).map key).Pairwise (· ≤ ·) := by
  refine ⟨(List.mergeSort_perm items _).map key, ?_⟩
  rw [List.pairwise_map]
  have sorted : (sortBy key items).Pairwise fun a b => decide (key a ≤ key b) = true := by
    refine List.pairwise_mergeSort ?_ ?_ items
    · intro a b c first second
      simp only [decide_eq_true_eq] at first second ⊢
      exact le_trans first second
    · intro a b
      simpa using le_total (key a) (key b)
  exact sorted.imp fun le => of_decide_eq_true le

theorem sorted_crop_top (limit : Nat) (items : List Item) :
    IsTop limit (items.map key) (((sortBy key items).take limit).map key) := by
  obtain ⟨perm, ascending⟩ := sort_by_ascending key items
  exact ⟨_, perm, ascending, List.map_take⟩

/-- Without a crop nothing may lie beyond the limit. -/
theorem sorted_top_iff (limit : Nat) (items : List Item) :
    IsTop limit (items.map key) ((sortBy key items).map key) ↔ items.length ≤ limit := by
  constructor
  · intro top
    have length := is_top_length top
    rw [List.length_map, List.length_map, sort_by_length] at length
    omega
  · intro few
    have whole : (sortBy key items).take limit = sortBy key items :=
      List.take_of_length_le (by rw [sort_by_length]; exact few)
    have top := sorted_crop_top key limit items
    rwa [whole] at top

end Sorting
end Library.TopList
