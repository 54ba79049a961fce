/-
# `GoatCoin.Lib.FloorSums` — groups, and quotients rounded down group by group

A list that is cut into groups has the sum of its groups.  A share that is rounded down in each
group loses less than one for each, and what moves into groups that were empty loses more:

    sum_groups       the sums of the groups of some keys are the sum over those keys
    sum_div_le       rounding down group by group gives at most the rounded whole
    div_sum_le       and less than that by fewer than there are groups
    sum_div_spread   what one group gives to empty ones does not raise the rounded sum
-/
import Mathlib.Algebra.BigOperators.Group.Finset.Basic
import Mathlib.Algebra.BigOperators.Group.Finset.Piecewise
import Mathlib.Algebra.BigOperators.Ring.Finset
import Mathlib.Algebra.Order.BigOperators.Group.Finset
import Mathlib.Data.Nat.ModEq

namespace FloorSums

open Finset

variable {α ι : Type} [DecidableEq ι]

theorem sum_groups (key : α → ι) (f : α → Nat) (s : Finset ι) (l : List α) :
    ∑ k ∈ s, ((l.filter (key · = k)).map f).sum = ((l.filter (key · ∈ s)).map f).sum := by
  induction l with
  | nil => exact sum_const_zero
  | cons a l ih =>
      have hone : ∀ k, (((a :: l).filter (key · = k)).map f).sum
          = (if key a = k then f a else 0) + ((l.filter (key · = k)).map f).sum := by
        intro k
        by_cases hk : key a = k
        · rw [List.filter_cons_of_pos (by simpa using hk), List.map_cons, List.sum_cons, if_pos hk]
        · rw [List.filter_cons_of_neg (by simpa using hk), if_neg hk, Nat.zero_add]
      simp only [hone, sum_add_distrib, sum_ite_eq, ih]
      by_cases ha : key a ∈ s
      · rw [if_pos ha, List.filter_cons_of_pos (by simpa using ha), List.map_cons, List.sum_cons]
      · rw [if_neg ha, List.filter_cons_of_neg (by simpa using ha), Nat.zero_add]

theorem sum_div_le (s : Finset ι) (x : ι → Nat) (d : Nat) :
    ∑ i ∈ s, x i / d ≤ (∑ i ∈ s, x i) / d := by
  induction s using Finset.induction_on with
  | empty => exact Nat.zero_le _
  | insert a s ha ih =>
      rw [sum_insert ha, sum_insert ha]
      exact (Nat.add_le_add_left ih _).trans Nat.div_add_div_le_add_div

omit [DecidableEq ι] in
theorem div_sum_le (s : Finset ι) (x : ι → Nat) {d : Nat} (hd : 0 < d) :
    (∑ i ∈ s, x i) / d ≤ ∑ i ∈ s, x i / d + (s.card - 1) := by
  have hsplit : ∑ i ∈ s, x i = d * ∑ i ∈ s, x i / d + ∑ i ∈ s, x i % d := by
    rw [mul_sum, ← sum_add_distrib]
    exact sum_congr rfl fun i _ => (Nat.div_add_mod (x i) d).symm
  rw [hsplit, Nat.mul_add_div hd]
  refine Nat.add_le_add_left ?_ _
  rcases s.eq_empty_or_nonempty with rfl | hne
  · exact (Nat.zero_div d).le
  · have hlt : ∑ i ∈ s, x i % d < s.card * d := by
      have hsum := sum_lt_sum_of_nonempty hne fun i (_ : i ∈ s) => Nat.mod_lt (x i) hd
      rwa [sum_const, nsmul_eq_mul, Nat.cast_id] at hsum
    exact Nat.le_pred_of_lt (Nat.div_lt_of_lt_mul (Nat.mul_comm d _ ▸ hlt))

theorem sum_div_spread {s : Finset ι} {x y : ι → Nat} (a : ι) (d : Nat)
    (hothers : ∀ i ∈ s, i ≠ a → y i = x i ∨ x i = 0) (hsum : ∑ i ∈ s, y i = ∑ i ∈ s, x i) :
    ∑ i ∈ s, y i / d ≤ ∑ i ∈ s, x i / d := by
  have hcut : ∀ z : ι → Nat, ∑ i ∈ s.filter (fun i => i ≠ a ∧ y i = x i), z i
      + ∑ i ∈ s.filter (fun i => ¬ (i ≠ a ∧ y i = x i)), z i = ∑ i ∈ s, z i :=
    fun z => sum_filter_add_sum_filter_not s _ z
  have hkept : ∀ i ∈ s.filter (fun i => i ≠ a ∧ y i = x i), y i = x i :=
    fun i hi => (mem_filter.mp hi).2.2
  have hkept' : ∑ i ∈ s.filter (fun i => i ≠ a ∧ y i = x i), y i
      = ∑ i ∈ s.filter (fun i => i ≠ a ∧ y i = x i), x i := sum_congr rfl hkept
  have hkept'' : ∑ i ∈ s.filter (fun i => i ≠ a ∧ y i = x i), y i / d
      = ∑ i ∈ s.filter (fun i => i ≠ a ∧ y i = x i), x i / d :=
    sum_congr rfl fun i hi => by rw [hkept i hi]
  have hempty : ∀ i ∈ s.filter (fun i => ¬ (i ≠ a ∧ y i = x i)), i ≠ a → x i = 0 := by
    intro i hi hne
    obtain ⟨hi, hnot⟩ := mem_filter.mp hi
    exact (hothers i hi hne).resolve_left fun heq => hnot ⟨hne, heq⟩
  -- of the groups that change only the giver had anything, so its floor is the floor of their sum
  have hrest : (∑ i ∈ s.filter (fun i => ¬ (i ≠ a ∧ y i = x i)), x i) / d
      ≤ ∑ i ∈ s.filter (fun i => ¬ (i ≠ a ∧ y i = x i)), x i / d := by
    by_cases ha : a ∈ s.filter (fun i => ¬ (i ≠ a ∧ y i = x i))
    · rw [sum_eq_single_of_mem a ha hempty]
      exact single_le_sum (f := fun i => x i / d) (fun i _ => Nat.zero_le _) ha
    · rw [sum_eq_zero fun i hi => hempty i hi fun heq => ha (heq ▸ hi), Nat.zero_div]
      exact Nat.zero_le _
  have hy := hcut y
  have hx := hcut x
  rw [← hcut fun i => y i / d, ← hcut fun i => x i / d, hkept'']
  refine Nat.add_le_add_left ((sum_div_le _ y d).trans (le_trans (le_of_eq ?_) hrest)) _
  congr 1
  omega

end FloorSums
