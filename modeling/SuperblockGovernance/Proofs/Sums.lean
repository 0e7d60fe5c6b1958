/-
Sums over lists. `sumOf` adds a number up over the elements of a list, which is the sum of the
list of these numbers, so what the library says of such sums holds of it.
-/

import Mathlib.Algebra.BigOperators.Ring.List
import Mathlib.Algebra.Order.BigOperators.Group.List
import Mathlib.Algebra.Order.Ring.Nat
import SuperblockGovernance.Naturals

namespace SuperblockGovernance

section

variable {α : Type} (number : α → Nat)

theorem sumOf_eq_sum (list : List α) : sumOf number list = (list.map number).sum :=
  List.foldr_map.symm

theorem sumOf_eq_foldl (list : List α) :
    sumOf number list = list.foldl (fun sum element => sum + number element) 0 := by
  rw [sumOf_eq_sum, List.sum_eq_foldl_nat, List.foldl_map]

theorem sumOf_append (first second : List α) :
    sumOf number (first ++ second) = sumOf number first + sumOf number second := by
  simp only [sumOf_eq_sum, List.map_append, List.sum_append]

theorem sumOf_map {β : Type} (change : β → α) (list : List β) :
    sumOf number (list.map change) = sumOf (fun element => number (change element)) list :=
  List.foldr_map

theorem sumOf_of_perm {list others : List α} (reordered : list.Perm others) :
    sumOf number list = sumOf number others := by
  rw [sumOf_eq_sum, sumOf_eq_sum]
  exact (reordered.map number).sum_nat

theorem sumOf_flatMap {β : Type} (parts : β → List α) (list : List β) :
    sumOf number (list.flatMap parts) =
      sumOf (fun element => sumOf number (parts element)) list := by
  simp only [sumOf_eq_sum]
  rw [List.map_flatMap, List.flatMap_def, List.sum_flatten, List.map_map, Function.comp_def]

theorem sumOf_le_sumOf {number other : α → Nat} {list : List α}
    (below : ∀ element ∈ list, number element ≤ other element) :
    sumOf number list ≤ sumOf other list := by
  rw [sumOf_eq_sum, sumOf_eq_sum]
  exact List.sum_le_sum below

theorem sumOf_congr {number other : α → Nat} {list : List α}
    (same : ∀ element ∈ list, number element = other element) :
    sumOf number list = sumOf other list := by
  rw [sumOf_eq_sum, sumOf_eq_sum, List.map_congr_left same]

theorem le_sumOf_of_mem {element : α} {list : List α} (member : element ∈ list) :
    number element ≤ sumOf number list := by
  rw [sumOf_eq_sum]
  exact List.le_sum_of_mem (List.mem_map_of_mem member)

theorem sumOf_add (other : α → Nat) (list : List α) :
    sumOf (fun element => number element + other element) list =
      sumOf number list + sumOf other list := by
  simp only [sumOf_eq_sum, List.sum_map_add]

theorem sumOf_mul (factor : Nat) (list : List α) :
    sumOf (fun element => number element * factor) list = sumOf number list * factor := by
  simp only [sumOf_eq_sum, List.sum_map_mul_right]

theorem sumOf_const (amount : Nat) (list : List α) :
    sumOf (fun _ => amount) list = list.length * amount := by
  rw [sumOf_eq_sum, List.map_const', List.sum_replicate_nat]

theorem sumOf_filter_add (keep : α → Bool) (list : List α) :
    sumOf number (list.filter keep) + sumOf number (list.filter fun element => !keep element) =
      sumOf number list := by
  rw [← sumOf_append]
  exact sumOf_of_perm number (List.filter_append_perm keep list)

theorem sumOf_filter_le (keep : α → Bool) (list : List α) :
    sumOf number (list.filter keep) ≤ sumOf number list := by
  rw [← sumOf_filter_add number keep list]
  exact Nat.le_add_right _ _

/-- Summing up group by group is summing up what belongs to one of the groups. -/
theorem sumOf_groups {κ : Type} [DecidableEq κ] (key : α → κ) (list : List α) {groups : List κ}
    (distinct : groups.Nodup) :
    sumOf (fun group => sumOf number (list.filter fun element => key element = group)) groups =
      sumOf number (list.filter fun element => key element ∈ groups) := by
  induction groups with
  | nil =>
    have none : list.filter (fun element => decide (key element ∈ ([] : List κ))) = [] :=
      List.filter_eq_nil_iff.mpr fun _ _ => by simp
    rw [none]
    rfl
  | cons group rest inductionHypothesis =>
    obtain ⟨outside, restDistinct⟩ := List.nodup_cons.mp distinct
    have first : (list.filter fun element => key element ∈ group :: rest).filter
        (fun element => key element = group) = list.filter fun element => key element = group := by
      rw [List.filter_filter]
      exact List.filter_congr fun element _ => by simp +contextual
    have others : (list.filter fun element => key element ∈ group :: rest).filter
        (fun element => !decide (key element = group)) =
          list.filter fun element => key element ∈ rest := by
      rw [List.filter_filter]
      refine List.filter_congr fun element _ => ?_
      by_cases same : key element = group
      · simp [same, outside]
      · simp [same]
    rw [sumOf_cons, inductionHypothesis restDistinct, ← first, ← others]
    exact sumOf_filter_add number (fun element => decide (key element = group)) _

end

end SuperblockGovernance
