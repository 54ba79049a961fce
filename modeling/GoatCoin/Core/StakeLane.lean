/-
# `GoatCoin.Core.StakeLane` — the square root of `state.rs`, and the lane that sorts by it

`isqrt_u64` is the floor square root of every `u64`, and none of its additions leaves the word: with
`k` digits to come and the root so far `q`, `(q + 1) · 2 ^ k ≤ 2 ^ 32`, hence

    res + bit  <  q · 4 ^ k + 4 ^ k  =  (q + 1) · 2 ^ k · 2 ^ k  ≤  2 ^ 64.

The lane takes the front of the market sorted by it, so nothing that is left out has a larger root.
-/
import GoatCoin.Lib.SquareRoot
import GoatCoin.Core.FaultMarket

namespace GoatCoin

open SquareRoot

/-! ## The root -/

/-- An addition, where it stays in the word. -/
def checkedAdd64 (a b : UInt64) : Option UInt64 :=
  if a.toNat + b.toNat < 2 ^ 64 then some (a + b) else none

/-- A subtraction, where it does not go below zero. -/
def checkedSub64 (a b : UInt64) : Option UInt64 := if b.toNat ≤ a.toNat then some (a - b) else none

/-- The loop as a build with overflow checks runs it. -/
def isqrtLoopChecked : Nat → UInt64 → UInt64 → Option UInt64
  | 0, _, res => some res
  | k + 1, rem, res =>
      let bit := 1 <<< (2 * UInt64.ofNat k)
      (checkedAdd64 res bit).bind fun sum =>
        if rem ≥ sum then
          (checkedSub64 rem sum).bind fun rem =>
            (checkedAdd64 (res >>> 1) bit).bind fun res => isqrtLoopChecked k rem res
        else isqrtLoopChecked k rem (res >>> 1)

def isqrtChecked (n : UInt64) : Option UInt64 := isqrtLoopChecked (isqrtStart n 32) n 0

theorem toNat_bit {k : Nat} (h : k < 32) : (1 <<< (2 * UInt64.ofNat k) : UInt64).toNat = 4 ^ k := by
  have hshift : (2 * UInt64.ofNat k).toNat = 2 * k := by
    rw [UInt64.toNat_mul, UInt64.toNat_ofNat']
    have hk : k % 2 ^ 64 = k := Nat.mod_eq_of_lt (by omega)
    rw [hk]
    show 2 * k % 2 ^ 64 = 2 * k
    exact Nat.mod_eq_of_lt (by omega)
  have hpow : (4 : Nat) ^ k < 2 ^ 64 := by
    calc (4 : Nat) ^ k < 4 ^ 32 := Nat.pow_lt_pow_right (by decide) h
      _ = 2 ^ 64 := by decide
  rw [UInt64.toNat_shiftLeft, hshift, Nat.mod_eq_of_lt (by omega : 2 * k < 64)]
  show 1 <<< (2 * k) % 2 ^ 64 = 4 ^ k
  rw [Nat.one_shiftLeft, pow_mul]
  exact Nat.mod_eq_of_lt hpow

theorem toNat_half (a : UInt64) : (a >>> 1).toNat = a.toNat / 2 := by
  rw [UInt64.toNat_shiftRight]
  exact Nat.shiftRight_eq_div_pow _ 1

theorem checkedAdd64_eq {a b : UInt64} (h : a.toNat + b.toNat < 2 ^ 64) :
    checkedAdd64 a b = some (a + b) ∧ (a + b).toNat = a.toNat + b.toNat := by
  refine ⟨if_pos h, ?_⟩
  rw [UInt64.toNat_add]
  exact Nat.mod_eq_of_lt h

theorem checkedSub64_eq {a b : UInt64} (h : b ≤ a) :
    checkedSub64 a b = some (a - b) ∧ (a - b).toNat = a.toNat - b.toNat :=
  ⟨if_pos h, UInt64.toNat_sub_of_le _ _ h⟩

/-- **The loop**: from a state with `k` digits to come it stays in the word and ends with the
root. -/
theorem isqrtLoop_spec {n k : Nat} : ∀ {q : Nat} {rem res : UInt64}, k ≤ 32 →
    Digits n k q rem.toNat res.toNat → (q + 1) * 2 ^ k ≤ 2 ^ 32 →
    isqrtLoopChecked k rem res = some (isqrtLoop k rem res)
    ∧ (isqrtLoop k rem res).toNat = n.sqrt := by
  induction k with
  | zero =>
      intro q rem res _ h _
      exact ⟨rfl, h.sqrt⟩
  | succ k ih =>
      intro q rem res hk h hq
      have hbit := toNat_bit (Nat.lt_of_succ_le hk)
      have hfits : res.toNat + 4 ^ (k + 1) ≤ 2 ^ 64 := by
        have hword : (q + 1) * 2 ^ (k + 1) * 2 ^ (k + 1) ≤ 2 ^ 32 * 2 ^ 32 :=
          Nat.mul_le_mul hq (Nat.pow_le_pow_right (by decide) hk)
        rw [Nat.mul_assoc, ← pow_two, ← four_pow, Nat.succ_mul, ← h.res_eq] at hword
        exact hword
      have hstep : 4 ^ k < 4 ^ (k + 1) := Nat.pow_lt_pow_right (by decide) (Nat.lt_succ_self k)
      have hadd : res.toNat + (1 <<< (2 * UInt64.ofNat k) : UInt64).toNat < 2 ^ 64 := by
        rw [hbit]
        omega
      obtain ⟨hsum, hsumNat⟩ := checkedAdd64_eq hadd
      unfold isqrtLoopChecked isqrtLoop
      dsimp only
      rw [hsum, Option.bind_some]
      by_cases hge : rem ≥ res + 1 <<< (2 * UInt64.ofNat k)
      · obtain ⟨hsub, hsubNat⟩ := checkedSub64_eq hge
        have hhalf : (res >>> 1).toNat + (1 <<< (2 * UInt64.ofNat k) : UInt64).toNat < 2 ^ 64 := by
          rw [toNat_half]
          omega
        obtain ⟨hnew, hnewNat⟩ := checkedAdd64_eq hhalf
        rw [if_pos hge, if_pos hge, hsub, Option.bind_some, hnew, Option.bind_some]
        have hle : res.toNat + 4 ^ k ≤ rem.toNat := by
          rw [← hbit, ← hsumNat]
          exact hge
        have hdigit := h.one hle
        refine ih (Nat.le_of_succ_le hk) (q := 2 * q + 1) ?_ ?_
        · rw [hsubNat, hsumNat, hnewNat, toNat_half, hbit]
          exact hdigit
        · rw [pow_succ] at hq
          calc (2 * q + 1 + 1) * 2 ^ k = (q + 1) * (2 ^ k * 2) := by ring
            _ ≤ 2 ^ 32 := hq
      · rw [if_neg hge, if_neg hge]
        have hlt : rem.toNat < res.toNat + 4 ^ k := by
          rw [← hbit, ← hsumNat]
          exact Nat.lt_of_not_le hge
        have hdigit := h.zero hlt
        refine ih (Nat.le_of_succ_le hk) (q := 2 * q) ?_ ?_
        · rw [toNat_half]
          exact hdigit
        · rw [pow_succ] at hq
          calc (2 * q + 1) * 2 ^ k ≤ (2 * q + 2) * 2 ^ k := Nat.mul_le_mul_right _ (by omega)
            _ = (q + 1) * (2 ^ k * 2) := by ring
            _ ≤ 2 ^ 32 := hq

/-- The first loop stops at a power of four that is above the number, times four. -/
theorem isqrtStart_spec (n : UInt64) : ∀ {k : Nat}, k ≤ 32 → n.toNat < 4 ^ k →
    isqrtStart n k ≤ 32 ∧ n.toNat < 4 ^ isqrtStart n k := by
  intro k
  induction k with
  | zero =>
      intro hk hlt
      exact ⟨hk, hlt⟩
  | succ k ih =>
      intro hk hlt
      unfold isqrtStart
      split
      · rename_i hgt
        refine ih (Nat.le_of_succ_le hk) ?_
        rw [← toNat_bit (Nat.lt_of_succ_le hk)]
        exact hgt
      · exact ⟨hk, hlt⟩

/-- **`isqrt_u64` is the floor square root**, and no addition of it overflows. -/
theorem isqrtU64_spec (n : UInt64) :
    isqrtChecked n = some (isqrtU64 n) ∧ (isqrtU64 n).toNat = n.toNat.sqrt := by
  obtain ⟨hk, hlt⟩ := isqrtStart_spec n (le_refl 32) (lt_of_lt_of_eq n.toNat_lt (by decide))
  have hdigits : Digits n.toNat (isqrtStart n 32) 0 n.toNat (0 : UInt64).toNat := by
    refine ⟨(Nat.zero_mul _).symm, ?_, ?_⟩
    · rw [Nat.mul_zero]
      rfl
    · rw [Nat.zero_add, Nat.mul_one, ← four_pow]
      exact hlt
  refine isqrtLoop_spec hk hdigits ?_
  rw [Nat.zero_add, Nat.one_mul]
  exact Nat.pow_le_pow_right (by decide) hk

theorem isqrtU64_mono {m n : UInt64} (h : m ≤ n) : isqrtU64 m ≤ isqrtU64 n := by
  show (isqrtU64 m).toNat ≤ (isqrtU64 n).toNat
  rw [(isqrtU64_spec m).2, (isqrtU64_spec n).2]
  exact Nat.sqrt_le_sqrt h

/-! ## The lane -/

/-- The nodes of the stake lane, in the report. -/
def stakeLaneNodes (report : EpochPenaltyReport) : List (Bytes 32) :=
  (report.penalties.asSlice.take report.stakeLane).map PenaltyEvent.nodeId

theorem stakeLaneNodes_settle (market : FaultMarket) (entropy : Bytes 32) :
    stakeLaneNodes (settle market entropy)
      = ((market.entries.asSlice.mergeSort FaultEntry.le).take
        (min market.entries.len laneStakeSlots)).map
        FaultEntry.nodeId := by
  let sorted := market.entries.asSlice.mergeSort FaultEntry.le
  let laneA := min market.entries.len laneStakeSlots
  let laneB := min (market.entries.len - laneA) laneFairSlots
  let laid := sorted.take laneA ++ shuffleFront (sorted.drop laneA) laneB entropy
  have hprocessed : (laid.take (laneA + laneB)).length ≤ maxFaultsPerEpoch := by
    refine (List.length_take_le _ _).trans ?_
    show min market.entries.len 512 + min (market.entries.len - min market.entries.len 512)
      512 ≤ 1024
    omega
  have hfront : (sorted.take laneA).length = laneA := by
    rw [List.length_take, List.length_mergeSort]
    exact Nat.min_eq_left (Nat.min_le_left _ _)
  show ((penalise (laid.take (laneA + laneB))).asSlice.take laneA).map PenaltyEvent.nodeId = _
  rw [penalise_eq hprocessed, ← List.map_take, List.take_take,
    Nat.min_eq_left (Nat.le_add_right _ _), List.take_left' hfront, List.map_map]
  rfl

theorem sorted_market (entries : List FaultEntry) :
    (entries.mergeSort FaultEntry.le).Pairwise fun a b => a.le b = true :=
  @List.pairwise_mergeSort _ FaultEntry.le (fun _ _ _ hab hbc => FaultEntry.le_trans hab hbc)
    FaultEntry.le_total entries

theorem isqrt_le_of_lane {stake : StakeOracle} {market : FaultMarket}
    (hpriced : market.Priced stake)
    {entropy : Bytes 32} {a b : FaultEntry} (ha : a ∈ market.entries.asSlice)
    (hb : b ∈ market.entries.asSlice) (hin : a.nodeId ∈ stakeLaneNodes (settle market entropy))
    (hout : b.nodeId ∉ stakeLaneNodes (settle market entropy)) :
    isqrtU64 b.priority ≤ isqrtU64 a.priority := by
  rw [stakeLaneNodes_settle] at hin hout
  have hsort := List.mergeSort_perm market.entries.asSlice FaultEntry.le
  obtain ⟨a', ha', hnode⟩ := List.mem_map.mp hin
  have hsame : a' = a := by
    refine FaultEntry.eq_of_nodeId hnode (hpriced a' ?_) (hpriced a ha)
    exact hsort.mem_iff.mp (List.mem_of_mem_take ha')
  subst hsame
  have hback : b ∈ (market.entries.asSlice.mergeSort FaultEntry.le).drop
      (min market.entries.len laneStakeSlots) := by
    have hmem := hsort.mem_iff.mpr hb
    rw [← List.take_append_drop (min market.entries.len laneStakeSlots)
      (market.entries.asSlice.mergeSort FaultEntry.le)] at hmem
    exact (List.mem_append.mp hmem).resolve_left fun hfront => hout (List.mem_map_of_mem hfront)
  have hsorted := sorted_market market.entries.asSlice
  rw [← List.take_append_drop (min market.entries.len laneStakeSlots)
    (market.entries.asSlice.mergeSort FaultEntry.le)] at hsorted
  have hle := (List.pairwise_append.mp hsorted).2.2 a' ha' b hback
  simp only [FaultEntry.le, Bool.or_eq_true, Bool.and_eq_true, decide_eq_true_eq, beq_iff_eq] at hle
  rcases hle with hlt | ⟨heq, -⟩
  · exact UInt64.le_of_lt hlt
  · exact UInt64.le_of_eq heq

/-- **The root is exact and monotone, and the lane prefers no smaller root.** -/
theorem isqrt_exact_and_lane_fair :
    (∀ n : UInt64, isqrtChecked n = some (isqrtU64 n)
        ∧ (isqrtU64 n).toNat * (isqrtU64 n).toNat ≤ n.toNat
        ∧ n.toNat < ((isqrtU64 n).toNat + 1) * ((isqrtU64 n).toNat + 1))
      ∧ (∀ m n : UInt64, m ≤ n → isqrtU64 m ≤ isqrtU64 n)
      ∧ ∀ (outcomes : List DisputeOutcome) (stake : StakeOracle) (entropy : Bytes 32),
        let market := outcomes.foldl (insertOutcome stake entropy) .new
        let lane := stakeLaneNodes (applyEpochPenalties outcomes stake entropy)
        ∀ a ∈ market.entries.asSlice, ∀ b ∈ market.entries.asSlice, a.nodeId ∈ lane →
        b.nodeId ∉ lane →
          ¬ (a.priority < b.priority ∧ isqrtU64 a.priority < isqrtU64 b.priority) := by
  refine ⟨fun n => ?_, fun m n h => isqrtU64_mono h, ?_⟩
  · obtain ⟨hchecked, hroot⟩ := isqrtU64_spec n
    rw [hroot]
    exact ⟨hchecked, Nat.sqrt_le n.toNat, Nat.sqrt_lt.mp (Nat.lt_succ_self _)⟩
  · intro outcomes stake entropy market lane a ha b hb hin hout
    rintro ⟨-, hlarger⟩
    have hpriced : market.Priced stake := by
      have hfold : market = marketOf stake entropy (slashedIds outcomes) :=
        foldl_insertOutcome stake entropy outcomes _
      rw [hfold]
      exact (marketOf_spec stake entropy (slashedIds outcomes)).2
    exact UInt64.not_le.mpr hlarger (isqrt_le_of_lane hpriced ha hb hin hout)

end GoatCoin
