/-
# `GoatCoin.Core.Weights` — the largest-remainder weights of `crypto.rs`

Of `n` attributions with counts `c₀ … cₙ₋₁` and `T = Σ cᵢ`, the `i`-th gets

    quota      qᵢ = ⌊cᵢ · BP_FULL / T⌋
    remainder  rᵢ =  cᵢ · BP_FULL mod T
    weight     wᵢ = qᵢ, plus one if it is among the first D by remainder,
                    where D = BP_FULL - Σ qᵢ

The quotas are floors of `n` shares of `BP_FULL`, so their sum falls short of it by
less than `n` (`FloorSums.sum_div_le`, `FloorSums.div_sum_le`): there are at least `D`
to win, and the loop that is cut off at `n` shares out all of the deficit.

Everything is said about positions, as two attributions may carry the same cluster.
-/
import Mathlib.Data.List.GetD
import GoatCoin.Lib.FloorSums
import GoatCoin.Core.Fold

namespace GoatCoin

open Finset

section
variable (attrs : List AggregatedAttribution)

/-- The counts of a list of attributions. -/
def totals : List Nat := attrs.map (·.totalVerifiedGcuHours)

/-- The weights that normalisation assigns. -/
def weights : List Nat := (normalizeWeightsLargestRemainder attrs).map (·.representationWeightBp)

def quotaAt (i : Nat) : Nat := (totals attrs).getD i 0 * bpFull / (totals attrs).sum

def remainderAt (i : Nat) : Nat := (totals attrs).getD i 0 * bpFull % (totals attrs).sum

/-- What the quotas leave of `BP_FULL`. -/
def deficitOf : Nat := bpFull - ∑ i ∈ range attrs.length, quotaAt attrs i

/-- The positions that get one more than their quota. -/
def bonus : List Nat := Ranking.winners (remainderAt attrs) attrs.length (deficitOf attrs)

end

theorem sum_eq_sum_getD (l : List Nat) : l.sum = ∑ i ∈ range l.length, l.getD i 0 := by
  induction l with
  | nil => rfl
  | cons a l ih =>
      rw [List.length_cons, sum_range_succ', List.sum_cons, ih, Nat.add_comm]
      rfl

section
variable {attrs : List AggregatedAttribution}

theorem length_totals : (totals attrs).length = attrs.length := List.length_map _

theorem sum_totals : (totals attrs).sum = ∑ i ∈ range attrs.length, (totals attrs).getD i 0 := by
  rw [sum_eq_sum_getD, length_totals]

theorem getD_map_zero (f : Nat → Nat) (hf : f 0 = 0) (l : List Nat) (i : Nat) :
    (l.map f).getD i 0 = f (l.getD i 0) := by
  have h := List.getD_map (l := l) (d := 0) (n := i) f
  rwa [hf] at h

/-! ## The deficit -/

theorem sum_shares (hpos : 0 < (totals attrs).sum) :
    (∑ i ∈ range attrs.length, (totals attrs).getD i 0 * bpFull) / (totals attrs).sum = bpFull := by
  rw [← sum_mul, ← sum_totals, Nat.mul_div_cancel_left _ hpos]

theorem sum_quotaAt_le (hpos : 0 < (totals attrs).sum) :
    ∑ i ∈ range attrs.length, quotaAt attrs i ≤ bpFull := by
  have h := FloorSums.sum_div_le (range attrs.length) (fun i => (totals attrs).getD i 0 * bpFull)
    (totals attrs).sum
  rw [sum_shares hpos] at h
  exact h

/-- **There are enough to win**: the deficit is below the number of attributions. -/
theorem deficitOf_lt (hpos : 0 < (totals attrs).sum) : deficitOf attrs < attrs.length := by
  have h :=
    FloorSums.div_sum_le (range attrs.length) (fun i => (totals attrs).getD i 0 * bpFull) hpos
  rw [sum_shares hpos, card_range] at h
  have hlen : 0 < attrs.length := by
    rw [← length_totals]
    exact List.length_pos_of_ne_nil fun hnil => by simp [hnil] at hpos
  have hle : bpFull ≤ ∑ i ∈ range attrs.length, quotaAt attrs i + (attrs.length - 1) := h
  rw [deficitOf]
  omega

theorem quotaAt_le (i : Nat) : quotaAt attrs i ≤ bpFull := by
  have hle : (totals attrs).getD i 0 ≤ (totals attrs).sum := by
    rcases Nat.lt_or_ge i (totals attrs).length with hlt | hge
    · rw [List.getD_eq_getElem _ _ hlt]
      exact List.le_sum_of_mem (List.getElem_mem hlt)
    · rw [List.getD_eq_default _ _ hge]
      exact Nat.zero_le _
  refine Nat.div_le_of_le_mul ?_
  exact Nat.mul_le_mul_right bpFull hle

/-! ## What normalisation computes -/

theorem nodup_bonus (attrs : List AggregatedAttribution) : (bonus attrs).Nodup :=
  Ranking.nodup_winners _ _

theorem map_quota (attrs : List AggregatedAttribution) :
    attrs.map (fun a => a.totalVerifiedGcuHours * bpFull / (totals attrs).sum)
      = (totals attrs).map (fun c => c * bpFull / (totals attrs).sum) := by
  rw [totals, List.map_map]
  rfl

theorem normalize_eq (hpos : 0 < (totals attrs).sum) (hlt : (totals attrs).sum < 2 ^ 64) :
    normalizeWeightsLargestRemainder attrs
      = (bonus attrs).foldl (fun attrs i => attrs.modify i fun a =>
            { a with representationWeightBp := satAdd 32 a.representationWeightBp 1 })
          (attrs.map fun a => { a with
            representationWeightBp := a.totalVerifiedGcuHours * bpFull / (totals attrs).sum }) := by
  have hne : attrs.length ≠ 0 :=
    Nat.ne_of_gt (Nat.lt_of_le_of_lt (Nat.zero_le _) (deficitOf_lt hpos))
  have hgrand : attrs.foldl (fun g a => satAdd 64 g a.totalVerifiedGcuHours) 0
    = (totals attrs).sum := by
    rw [foldl_satAdd 64 _ _ (Nat.zero_le _), Nat.zero_add]
    exact Nat.min_eq_left (Nat.le_pred_of_lt hlt)
  have hquotas : (attrs.map fun a => a.totalVerifiedGcuHours * bpFull / (totals attrs).sum).sum
      = ∑ i ∈ range attrs.length, quotaAt attrs i := by
    rw [map_quota, sum_eq_sum_getD, List.length_map, length_totals]
    refine sum_congr rfl fun i _ => ?_
    rw [getD_map_zero _ (by rw [Nat.zero_mul, Nat.zero_div])]
    rfl
  have hrem : ((attrs.map fun a => a.totalVerifiedGcuHours * bpFull % (totals attrs).sum).getD · 0)
      = remainderAt attrs := by
    funext i
    have hmap : (attrs.map fun a => a.totalVerifiedGcuHours * bpFull % (totals attrs).sum)
        = (totals attrs).map (fun c => c * bpFull % (totals attrs).sum) := by
      rw [totals, List.map_map]
      rfl
    rw [hmap, getD_map_zero _ (by rw [Nat.zero_mul, Nat.zero_mod])]
    rfl
  have hdeficit : bpFull - (attrs.map fun a => { a with
        representationWeightBp := a.totalVerifiedGcuHours * bpFull / (totals attrs).sum }).foldl
      (fun s a => satAdd 32 s a.representationWeightBp) 0 = deficitOf attrs := by
    have hfits : ∑ i ∈ range attrs.length, quotaAt attrs i ≤ 2 ^ 32 - 1 :=
      Nat.le_trans (sum_quotaAt_le hpos) (by decide)
    rw [foldl_satAdd 32 _ _ (Nat.zero_le _), Nat.zero_add, List.map_map]
    show bpFull - min
      (attrs.map fun a => a.totalVerifiedGcuHours * bpFull / (totals attrs).sum).sum _ = _
    rw [hquotas, Nat.min_eq_left hfits, deficitOf]
  unfold normalizeWeightsLargestRemainder
  dsimp only
  rw [if_neg hne, hgrand, if_neg (Nat.ne_of_gt hpos), hrem, hdeficit, Ranking.winners_min]
  split
  · rename_i hzero
    rw [bonus, hzero]
    rfl
  · rfl

/-- **The weight of a position**: its quota, and one more with a bonus. -/
theorem getD_weights (hpos : 0 < (totals attrs).sum) (hlt : (totals attrs).sum < 2 ^ 64) {i : Nat}
    (hi : i < attrs.length) :
    (weights attrs).getD i 0 = quotaAt attrs i + if i ∈ bonus attrs then 1 else 0 := by
  have hat : (attrs.map fun a => { a with representationWeightBp :=
      a.totalVerifiedGcuHours * bpFull / (totals attrs).sum })[i]?
        = some { attrs[i] with representationWeightBp := quotaAt attrs i } := by
    have hquota :
      quotaAt attrs i = attrs[i].totalVerifiedGcuHours * bpFull / (totals attrs).sum := by
      rw [quotaAt, List.getD_eq_getElem _ _ (by rw [length_totals]; exact hi)]
      simp [totals]
    rw [List.getElem?_map, List.getElem?_eq_getElem hi, hquota]
    rfl
  have hfits : quotaAt attrs i ≤ bpFull := quotaAt_le i
  have hbp : bpFull < 2 ^ 32 - 1 := by decide
  rw [weights, normalize_eq hpos hlt, List.getD_eq_getElem?_getD, List.getElem?_map,
    getElem?_foldl_modify _ (nodup_bonus attrs), hat]
  change Option.getD (Option.map _ (if i ∈ bonus attrs then _ else _)) 0 = _
  split
  · show satAdd 32 (quotaAt attrs i) 1 = _
    rw [satAdd]
    omega
  · rfl

theorem length_weights : (weights attrs).length = attrs.length := by
  rw [weights, List.length_map, length_normalize]

theorem lt_of_mem_bonus {i : Nat} (hi : i ∈ bonus attrs) : i < attrs.length := by
  have hperm : ((List.range attrs.length).mergeSort (Ranking.notAfter (remainderAt attrs))).Perm
      (List.range attrs.length) := List.mergeSort_perm _ _
  exact List.mem_range.mp (hperm.mem_iff.mp (List.mem_of_mem_take hi))

theorem length_bonus (hpos : 0 < (totals attrs).sum) : (bonus attrs).length = deficitOf attrs := by
  rw [bonus, Ranking.winners, List.length_take, Ranking.length_ranked]
  exact Nat.min_eq_left (Nat.le_of_lt (deficitOf_lt hpos))

/-- **The weights are all of `BP_FULL`.** -/
theorem sum_weights (hpos : 0 < (totals attrs).sum) (hlt : (totals attrs).sum < 2 ^ 64) :
    (weights attrs).sum = bpFull := by
  have hbonus : ∑ i ∈ range attrs.length, (if i ∈ bonus attrs then 1 else 0) = deficitOf attrs := by
    rw [sum_boole, Nat.cast_id, ← length_bonus hpos,
      ← List.toFinset_card_of_nodup (nodup_bonus attrs)]
    congr 1
    ext i
    rw [mem_filter, List.mem_toFinset, mem_range]
    exact ⟨fun h => h.2, fun h => ⟨lt_of_mem_bonus h, h⟩⟩
  have hle := sum_quotaAt_le hpos
  rw [sum_eq_sum_getD, length_weights]
  calc ∑ i ∈ range attrs.length, (weights attrs).getD i 0
      = ∑ i ∈ range attrs.length, (quotaAt attrs i + if i ∈ bonus attrs then 1 else 0) :=
        sum_congr rfl fun i hi => getD_weights hpos hlt (mem_range.mp hi)
    _ = ∑ i ∈ range attrs.length, quotaAt attrs i + deficitOf attrs := by
        rw [sum_add_distrib, hbonus]
    _ = bpFull := by rw [deficitOf]; omega

theorem mem_bonus_of_larger {i j : Nat} (hi : i < attrs.length) (hj : j ∈ bonus attrs)
    (hlt : remainderAt attrs j < remainderAt attrs i) : i ∈ bonus attrs := by
  have hrank := (Ranking.mem_winners_iff (lt_of_mem_bonus hj)).mp hj
  refine (Ranking.mem_winners_iff hi).mpr (Nat.lt_of_le_of_lt ?_ hrank)
  -- `i` itself is above `j`, and so is all that is at or above `i`
  have habove :
    (List.range attrs.length).countP (fun k => remainderAt attrs i < remainderAt attrs k)
      + (List.range attrs.length).countP (fun k => remainderAt attrs k = remainderAt attrs i)
      ≤ (List.range attrs.length).countP (fun k => remainderAt attrs j < remainderAt attrs k) := by
    rw [← Ranking.countP_le_eq]
    refine List.countP_mono_left fun k _ hk => ?_
    exact decide_eq_true (Nat.lt_of_lt_of_le hlt (of_decide_eq_true hk))
  have hprefix : (List.range i).countP (fun k => remainderAt attrs k = remainderAt attrs i)
      ≤ (List.range attrs.length).countP (fun k => remainderAt attrs k = remainderAt attrs i) :=
    (List.range_sublist.mpr (Nat.le_of_lt hi)).countP_le
  omega

theorem quotaAt_lt_or_remainderAt_lt {i j : Nat}
    (h : (totals attrs).getD j 0 < (totals attrs).getD i 0) :
    quotaAt attrs j < quotaAt attrs i ∨
      quotaAt attrs j = quotaAt attrs i ∧ remainderAt attrs j < remainderAt attrs i := by
  have hle : quotaAt attrs j ≤ quotaAt attrs i :=
    Nat.div_le_div_right (Nat.mul_le_mul_right bpFull (Nat.le_of_lt h))
  have hshare : (totals attrs).getD j 0 * bpFull < (totals attrs).getD i 0 * bpFull :=
    Nat.mul_lt_mul_of_pos_right h (by decide)
  have hi := Nat.div_add_mod ((totals attrs).getD i 0 * bpFull) (totals attrs).sum
  have hj := Nat.div_add_mod ((totals attrs).getD j 0 * bpFull) (totals attrs).sum
  rcases Nat.lt_or_eq_of_le hle with hlt | heq
  · exact .inl hlt
  · refine .inr ⟨heq, ?_⟩
    rw [quotaAt, quotaAt] at heq
    rw [remainderAt, remainderAt]
    rw [heq] at hj
    omega

theorem weights_of_zero (hzero : (totals attrs).sum = 0) (i : Nat) :
    (weights attrs).getD i 0 = 0 := by
  have hgrand : attrs.foldl (fun g a => satAdd 64 g a.totalVerifiedGcuHours) 0 = 0 := by
    rw [foldl_satAdd 64 _ _ (Nat.zero_le _), Nat.zero_add]
    show min (totals attrs).sum _ = 0
    rw [hzero]
    rfl
  have hall : ∀ w ∈ weights attrs, w = 0 := by
    unfold weights normalizeWeightsLargestRemainder
    dsimp only
    rw [hgrand, if_pos rfl]
    split
    · rename_i hnil
      rw [List.length_eq_zero_iff.mp hnil]
      nofun
    · intro w hw
      rw [List.map_map] at hw
      obtain ⟨a, -, rfl⟩ := List.mem_map.mp hw
      rfl
  rcases Nat.lt_or_ge i (weights attrs).length with hi | hi
  · rw [List.getD_eq_getElem _ _ hi]
    exact hall _ (List.getElem_mem hi)
  · exact List.getD_eq_default _ _ hi

end

/-- **Largest-remainder weights.**  Counts that add up to `T > 0` without overflow get
weights that add up to `BP_FULL`: each the floor of its share or one more, the ones more
with the largest remainders, and a larger count no smaller weight.  Without counts all
weights are zero. -/
theorem largest_remainder_weights (attrs : Accumulated)
    (hsum : (totals attrs.asSlice).sum < 2 ^ 64) :
    ((totals attrs.asSlice).sum = 0 → ∀ i, (weights attrs.asSlice).getD i 0 = 0) ∧
    (0 < (totals attrs.asSlice).sum →
      (weights attrs.asSlice).sum = bpFull ∧
      (∀ i < attrs.asSlice.length,
        (weights attrs.asSlice).getD i 0 = quotaAt attrs.asSlice i ∨
        (weights attrs.asSlice).getD i 0 = quotaAt attrs.asSlice i + 1) ∧
      (∀ i < attrs.asSlice.length, ∀ j < attrs.asSlice.length,
        (weights attrs.asSlice).getD i 0 = quotaAt attrs.asSlice i + 1 →
        (weights attrs.asSlice).getD j 0 = quotaAt attrs.asSlice j →
        remainderAt attrs.asSlice j ≤ remainderAt attrs.asSlice i) ∧
      ∀ i < attrs.asSlice.length, ∀ j < attrs.asSlice.length,
        (totals attrs.asSlice).getD j 0 < (totals attrs.asSlice).getD i 0 →
        (weights attrs.asSlice).getD j 0 ≤ (weights attrs.asSlice).getD i 0) := by
  refine ⟨weights_of_zero, fun hpos => ⟨sum_weights hpos hsum, ?_, ?_, ?_⟩⟩
  · intro i hi
    rw [getD_weights hpos hsum hi]
    split
    · exact .inr rfl
    · exact .inl rfl
  · intro i hi j hj hwin hlose
    rw [getD_weights hpos hsum hi] at hwin
    rw [getD_weights hpos hsum hj] at hlose
    by_contra hlt
    have hi' : i ∈ bonus attrs.asSlice := by
      by_contra hnot
      rw [if_neg hnot] at hwin
      omega
    have hj' := mem_bonus_of_larger hj hi' (Nat.lt_of_not_le hlt)
    rw [if_pos hj'] at hlose
    omega
  · intro i hi j hj hlt
    rw [getD_weights hpos hsum hi, getD_weights hpos hsum hj]
    rcases quotaAt_lt_or_remainderAt_lt hlt with hquota | ⟨hquota, hrem⟩
    · split_ifs <;> omega
    · -- at equal quotas the larger remainder wins whenever the smaller does
      by_cases hj' : j ∈ bonus attrs.asSlice
      · rw [if_pos hj', if_pos (mem_bonus_of_larger hi hj' hrem), hquota]
      · rw [if_neg hj', hquota]
        exact Nat.le_add_right _ _

/-- Three equal clusters: `BP_FULL` does not divide by three, and yet all of it is given. -/
def equalThirds : Accumulated :=
  ⟨[⟨.replicate 32 1, 1, 0⟩, ⟨.replicate 32 2, 1, 0⟩, ⟨.replicate 32 3, 1, 0⟩], by decide⟩

theorem equalThirds_weights : (weights equalThirds.asSlice).sum = bpFull :=
  ((largest_remainder_weights equalThirds (by decide)).2 (by decide)).1

end GoatCoin
