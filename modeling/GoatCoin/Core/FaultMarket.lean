/-
# `GoatCoin.Core.FaultMarket` — the two-lane slashing ratchet of `state.rs`

At the end of an epoch the faults of all disputes go through a bounded market:

    insert          deduplicate against the buffer, append, or Algorithm R
    sort            isqrt(stake) descending, then node id
    lane A          the first LANE_STAKE_SLOTS
    lane B          a seeded partial Fisher–Yates sample of the rest
    report          one penalty per entry of the two lanes

The ids in the buffer are a `Reservoir` (`ids_insert`), whose counting results
carry over; sorting and shuffling permute the buffer and the lanes cut it.

    penalties + dropped  =  seen                    always
    seen                 =  distinct faults         iff no fault re-enters

A node that was shed and is named again is counted again: the buffer is the only
memory of who was named.

The counters are natural numbers: a slice has fewer than `2^63` elements, so a
`u64` or `usize` that counts them does not wrap.
-/
import GoatCoin.Lib.Reservoir
import GoatCoin.Core.Dispute

namespace GoatCoin

open Wire

abbrev laneStakeSlots : Nat := maxFaultsPerEpoch / 2
abbrev laneFairSlots : Nat := maxFaultsPerEpoch - laneStakeSlots
abbrev maxFaultMarket : Nat := 2 * maxFaultsPerEpoch

def randDomainReservoir : UInt8 := 0x01
def randDomainFair : UInt8 := 0x02

/-- The penalty of one node. -/
structure PenaltyEvent where
  nodeId : Bytes 32
  pClassDowngrade : UInt32
  slashUnits : UInt64
deriving DecidableEq

/-- `StakeOracle::stake_of`. -/
abbrev StakeOracle := Bytes 32 → UInt64

/-- A stake floor that is never compared. -/
structure AdvisoryStakeFloor where
  microUsd : UInt64
deriving DecidableEq

def AdvisoryStakeFloor.none : AdvisoryStakeFloor := ⟨0⟩

/-- The penalties of an epoch. -/
structure EpochPenaltyReport where
  penalties : BoundedVec PenaltyEvent maxFaultsPerEpoch
  stakeLane : Nat
  fairLane : Nat
  droppedFaults : Nat
  adaptiveMinStake : AdvisoryStakeFloor
deriving DecidableEq

structure FaultEntry where
  nodeId : Bytes 32
  priority : UInt64
deriving DecidableEq

/-! ## The seeded draw and the concave weight -/

/-- The draw of a counter. -/
def marketRand (entropy : Bytes 32) (domain : UInt8) (counter : UInt64) : UInt64 :=
  UInt64.ofNat (ofLE
    ((sha3_256 (entropy.toList ++ domain :: toLE 8 counter.toNat)).toList.take 8))

/-- `while bit > n { bit >>= 2 }`.  The bit is `4^(k-1)`, and zero for `k = 0`. -/
def isqrtStart (n : UInt64) : Nat → Nat
  | 0 => 0
  | k + 1 => if 1 <<< (2 * UInt64.ofNat k) > n then isqrtStart n k else k + 1

/-- `while bit != 0 { … bit >>= 2 }`, with the same reading of the bit. -/
def isqrtLoop : Nat → UInt64 → UInt64 → UInt64
  | 0, _, res => res
  | k + 1, rem, res =>
      let bit := 1 <<< (2 * UInt64.ofNat k)
      if rem ≥ res + bit then isqrtLoop k (rem - (res + bit)) ((res >>> 1) + bit)
      else isqrtLoop k rem (res >>> 1)

/-- The first bit is `1 << 62 = 4^31`. -/
def isqrtU64 (n : UInt64) : UInt64 := isqrtLoop (isqrtStart n 32) n 0

example : isqrtU64 0 = 0 ∧ isqrtU64 99 = 9 ∧ isqrtU64 100 = 10
    ∧ isqrtU64 0xffffffffffffffff = 0xffffffff := by decide +kernel

/-! ## The market -/

structure FaultMarket where
  entries : BoundedVec FaultEntry maxFaultMarket
  seen : Nat
  overflowDropped : Nat

namespace FaultMarket

def new : FaultMarket := ⟨.new, 0, 0⟩

/-- The slot of the `i`-th distinct fault once the buffer is full. -/
def reservoirSlot (entropy : Bytes 32) (i : Nat) : Nat :=
  (marketRand entropy randDomainReservoir (UInt64.ofNat i)).toNat % (i + 1)

def insert (market : FaultMarket) (nodeId : Bytes 32) (priority : UInt64) (entropy : Bytes 32) :
    FaultMarket :=
  if market.entries.asSlice.any (·.nodeId == nodeId) then market
  else
    let entry : FaultEntry := { nodeId, priority }
    match market.entries.tryPush entry with
    | some entries => { market with entries, seen := market.seen + 1 }
    | none =>
        let i := market.seen
        let j := reservoirSlot entropy i
        { entries := if j < maxFaultMarket then market.entries.set j entry else market.entries
          seen := market.seen + 1
          overflowDropped := market.overflowDropped + 1 }

end FaultMarket

/-! ## Sorting, shuffling, penalising -/

/-- `a` is not after `b`: larger `isqrt(stake)` first, then the smaller node id. -/
def FaultEntry.le (a b : FaultEntry) : Bool :=
  isqrtU64 b.priority < isqrtU64 a.priority
    || (isqrtU64 b.priority == isqrtU64 a.priority && a.nodeId.toList ≤ b.nodeId.toList)

/-- `slice.swap(i, j)`. -/
def swap {α : Type} (slice : List α) (i j : Nat) : List α :=
  match slice[i]?, slice[j]? with
  | some a, some b => (slice.set i b).set j a
  | _, _ => slice

/-- The first `k` of a shuffle. -/
def shuffleFront (slice : List FaultEntry) (k : Nat) (entropy : Bytes 32) : List FaultEntry :=
  let len := slice.length
  (List.range (min k len)).foldl (fun slice i =>
    let span := len - i
    let j := i + (marketRand entropy randDomainFair (UInt64.ofNat i)).toNat % span
    swap slice i j) slice

/-- One dispute outcome goes into the market. -/
def insertOutcome (stake : StakeOracle) (entropy : Bytes 32) (market : FaultMarket) :
    DisputeOutcome → FaultMarket
  | .unanimous _ => market
  | .majority _ slashedNodeId => market.insert slashedNodeId (stake slashedNodeId) entropy
  | .totalDivergence slashedNodeIds =>
      slashedNodeIds.toList.foldl
        (fun market node => market.insert node (stake node) entropy) market

def penaltyEvent (entry : FaultEntry) : PenaltyEvent :=
  { nodeId := entry.nodeId, pClassDowngrade := 1, slashUnits := 1 }

def penalise (entries : List FaultEntry) : BoundedVec PenaltyEvent maxFaultsPerEpoch :=
  entries.foldl
    (fun penalties entry => (penalties.tryPush (penaltyEvent entry)).getD penalties) .new

/-- The lanes and the report, from the buffer and the overflow count. -/
def settle (market : FaultMarket) (priorEpochEntropy : Bytes 32) : EpochPenaltyReport :=
  let n := market.entries.len
  let entries := market.entries.asSlice.mergeSort FaultEntry.le
  let laneA := min n laneStakeSlots
  let saturated := market.overflowDropped > 0 || n > maxFaultsPerEpoch
  let adaptiveMinStake :=
    if saturated && laneA > 0 then
      AdvisoryStakeFloor.mk ((((entries.take laneA).map FaultEntry.priority).min?).getD 0)
    else AdvisoryStakeFloor.none
  let laneB := min (n - laneA) laneFairSlots
  let entries := entries.take laneA ++ shuffleFront (entries.drop laneA) laneB priorEpochEntropy
  let processed := laneA + laneB
  { penalties := penalise (entries.take processed)
    stakeLane := laneA
    fairLane := laneB
    droppedFaults := (n - processed) + market.overflowDropped
    adaptiveMinStake }

def applyEpochPenalties (outcomes : List DisputeOutcome) (stake : StakeOracle)
    (priorEpochEntropy : Bytes 32) : EpochPenaltyReport :=
  settle (outcomes.foldl (insertOutcome stake priorEpochEntropy) .new) priorEpochEntropy

/-! ## The market is a reservoir of ids -/

/-- The ids an outcome names as slashed, in order. -/
def DisputeOutcome.slashedIds : DisputeOutcome → List (Bytes 32)
  | .unanimous _ => []
  | .majority _ slashedNodeId => [slashedNodeId]
  | .totalDivergence slashedNodeIds => slashedNodeIds.toList

def slashedIds (outcomes : List DisputeOutcome) : List (Bytes 32) :=
  outcomes.flatMap DisputeOutcome.slashedIds

/-- The market after a list of faults. -/
def marketOf (stake : StakeOracle) (entropy : Bytes 32) (ids : List (Bytes 32)) : FaultMarket :=
  ids.foldl (fun market node => market.insert node (stake node) entropy) .new

theorem foldl_insertOutcome (stake : StakeOracle) (entropy : Bytes 32)
    (outcomes : List DisputeOutcome) : ∀ market : FaultMarket,
    outcomes.foldl (insertOutcome stake entropy) market
      = (slashedIds outcomes).foldl (fun market node => market.insert node (stake node) entropy)
          market := by
  induction outcomes with
  | nil => intro market; rfl
  | cons o outcomes ih =>
      intro market
      show outcomes.foldl (insertOutcome stake entropy) (insertOutcome stake entropy market o)
        = (o.slashedIds ++ slashedIds outcomes).foldl _ market
      rw [ih, List.foldl_append]
      cases o with
      | unanimous c => rfl
      | majority c n => rfl
      | totalDivergence ns => rfl

theorem applyEpochPenalties_eq (outcomes : List DisputeOutcome) (stake : StakeOracle)
    (entropy : Bytes 32) :
    applyEpochPenalties outcomes stake entropy
      = settle (marketOf stake entropy (slashedIds outcomes)) entropy := by
  rw [applyEpochPenalties, foldl_insertOutcome]
  rfl

namespace FaultMarket

/-- **What an insertion can do.** -/
theorem insert_cases (market : FaultMarket) (nodeId : Bytes 32) (priority : UInt64)
    (entropy : Bytes 32) :
    (market.entries.asSlice.any (·.nodeId == nodeId) = true
      ∧ market.insert nodeId priority entropy = market) ∨
    (¬ market.entries.asSlice.any (·.nodeId == nodeId) = true
      ∧ market.entries.asSlice.length < maxFaultMarket
      ∧ ∃ entries, market.insert nodeId priority entropy
          = ⟨entries, market.seen + 1, market.overflowDropped⟩
        ∧ entries.asSlice = market.entries.asSlice ++ [⟨nodeId, priority⟩]) ∨
    (¬ market.entries.asSlice.any (·.nodeId == nodeId) = true
      ∧ market.entries.asSlice.length = maxFaultMarket
      ∧ market.insert nodeId priority entropy
          = ⟨if reservoirSlot entropy market.seen < maxFaultMarket
              then market.entries.set (reservoirSlot entropy market.seen) ⟨nodeId, priority⟩
              else market.entries,
            market.seen + 1, market.overflowDropped + 1⟩) := by
  unfold insert
  split
  · rename_i h
    exact .inl ⟨h, rfl⟩
  · rename_i h
    dsimp only
    cases hpush : market.entries.tryPush ⟨nodeId, priority⟩ with
    | some entries =>
        obtain ⟨hlt, hentries⟩ := BoundedVec.tryPush_eq_some.mp hpush
        exact .inr (.inl ⟨h, hlt, entries, rfl, hentries⟩)
    | none => exact .inr (.inr ⟨h, BoundedVec.tryPush_eq_none.mp hpush, rfl⟩)

/-- The ids of the buffer, with the counters. -/
def ids (market : FaultMarket) : Reservoir (Bytes 32) :=
  ⟨market.entries.asSlice.map FaultEntry.nodeId, market.seen, market.overflowDropped⟩

/-- **The buffer of ids is a reservoir.** -/
theorem ids_insert (market : FaultMarket) (nodeId : Bytes 32) (priority : UInt64)
    (entropy : Bytes 32) :
    (market.insert nodeId priority entropy).ids
      = Reservoir.insert maxFaultMarket (reservoirSlot entropy) market.ids nodeId := by
  have hmem : market.entries.asSlice.any (·.nodeId == nodeId) = true
    ↔ nodeId ∈ market.ids.entries := by
    simp [ids]
  rcases market.insert_cases nodeId priority entropy with ⟨hheld, h⟩ | ⟨hheld, hlt, m, h, hm⟩ |
    ⟨hheld, hfull, h⟩
  · rw [h, Reservoir.insert, if_pos (hmem.mp hheld)]
  · rw [h, Reservoir.insert, if_neg (fun hk => hheld (hmem.mpr hk)), if_pos]
    · simp [ids, hm]
    · simpa [ids] using hlt
  · have hlen : ¬ market.ids.entries.length < maxFaultMarket := by
      simp only [ids, List.length_map, hfull, Nat.lt_irrefl, not_false_eq_true]
    rw [h, Reservoir.insert, if_neg (fun hk => hheld (hmem.mpr hk)), if_neg hlen]
    simp only [ids]
    by_cases hj : reservoirSlot entropy market.seen < maxFaultMarket
    · simp only [hj, if_true, BoundedVec.set, List.map_set]
    · simp only [hj, if_false]

/-- Every entry carries its node's stake. -/
def Priced (stake : StakeOracle) (market : FaultMarket) : Prop :=
  ∀ e ∈ market.entries.asSlice, e.priority = stake e.nodeId

theorem Priced.insert {stake : StakeOracle} {market : FaultMarket} (h : Priced stake market)
    (nodeId : Bytes 32) (entropy : Bytes 32) :
    Priced stake (market.insert nodeId (stake nodeId) entropy) := by
  rcases market.insert_cases nodeId (stake nodeId) entropy with ⟨-, hm⟩
    | ⟨-, -, entries, hm, hentries⟩ | ⟨-, -, hm⟩
  · rw [hm]
    exact h
  · rw [hm]
    intro e he
    rw [hentries] at he
    rcases List.mem_append.mp he with he | he
    · exact h e he
    · rw [List.mem_singleton.mp he]
  · rw [hm]
    intro e he
    dsimp only at he
    split at he
    · rcases List.mem_or_eq_of_mem_set he with he | rfl
      · exact h e he
      · rfl
    · exact h e he

end FaultMarket

theorem marketOf_spec (stake : StakeOracle) (entropy : Bytes 32) (ids : List (Bytes 32)) :
    (marketOf stake entropy ids).ids
        = Reservoir.run maxFaultMarket (FaultMarket.reservoirSlot entropy) ids
      ∧ (marketOf stake entropy ids).Priced stake := by
  induction ids using List.reverseRecOn with
  | nil => exact ⟨rfl, nofun⟩
  | append_singleton ids id ih =>
      obtain ⟨hids, hpriced⟩ := ih
      have hstep : marketOf stake entropy (ids ++ [id])
          = (marketOf stake entropy ids).insert id (stake id) entropy := by
        rw [marketOf, List.foldl_append]
        rfl
      rw [hstep, FaultMarket.ids_insert, hids, Reservoir.run_append]
      exact ⟨rfl, hpriced.insert id entropy⟩

/-! ## Sorting and shuffling permute -/

theorem swap_perm {α : Type} (slice : List α) (i j : Nat) : (swap slice i j).Perm slice := by
  unfold swap
  split
  · rename_i a b ha hb
    obtain ⟨hi, rfl⟩ := List.getElem?_eq_some_iff.mp ha
    obtain ⟨hj, rfl⟩ := List.getElem?_eq_some_iff.mp hb
    exact List.set_set_perm hi hj
  · exact List.Perm.refl _

theorem shuffleFront_perm (slice : List FaultEntry) (k : Nat) (entropy : Bytes 32) :
    (shuffleFront slice k entropy).Perm slice := by
  have hfold : ∀ (is : List Nat) (f : Nat → Nat) (l : List FaultEntry),
      (is.foldl (fun l i => swap l i (f i)) l).Perm l := by
    intro is f
    induction is with
    | nil => intro l; exact List.Perm.refl _
    | cons i is ih => intro l; exact (ih _).trans (swap_perm l i (f i))
  exact hfold _ (fun i => i + (marketRand entropy randDomainFair (UInt64.ofNat i)).toNat
    % (slice.length - i)) slice

theorem penalise_eq {entries : List FaultEntry} (h : entries.length ≤ maxFaultsPerEpoch) :
    (penalise entries).asSlice = entries.map penaltyEvent := by
  have hfold : ∀ (rest : List FaultEntry) (v : BoundedVec PenaltyEvent maxFaultsPerEpoch),
      v.asSlice.length + rest.length ≤ maxFaultsPerEpoch →
      (rest.foldl (fun v entry => (v.tryPush (penaltyEvent entry)).getD v) v).asSlice
        = v.asSlice ++ rest.map penaltyEvent := by
    intro rest
    induction rest with
    | nil => intro v _; simp
    | cons e rest ih =>
        intro v hv
        rw [List.length_cons] at hv
        cases hpush : v.tryPush (penaltyEvent e) with
        | none =>
            have := BoundedVec.tryPush_eq_none.mp hpush
            omega
        | some w =>
            obtain ⟨-, hw⟩ := BoundedVec.tryPush_eq_some.mp hpush
            have hlen : w.asSlice.length + rest.length ≤ maxFaultsPerEpoch := by
              rw [hw, List.length_append, List.length_singleton]
              omega
            rw [List.foldl_cons, hpush, Option.getD_some, ih w hlen, hw, List.append_assoc]
            rfl
  exact hfold entries .new (by simpa using h)

/-! ## Conservation -/

/-- **What the lanes do to a market.**  They pay the first `min n 1024` entries of
some arrangement of the buffer, and drop the rest. -/
theorem settle_spec (market : FaultMarket) (entropy : Bytes 32) :
    ∃ laid : List FaultEntry, laid.Perm market.entries.asSlice
      ∧ (settle market entropy).penalties.asSlice
          = (laid.take (min market.entries.len maxFaultsPerEpoch)).map penaltyEvent
      ∧ (settle market entropy).stakeLane + (settle market entropy).fairLane
          = min market.entries.len maxFaultsPerEpoch
      ∧ (settle market entropy).droppedFaults
          = (market.entries.len - min market.entries.len maxFaultsPerEpoch)
            + market.overflowDropped := by
  let sorted := market.entries.asSlice.mergeSort FaultEntry.le
  let laneA := min market.entries.len laneStakeSlots
  let laneB := min (market.entries.len - laneA) laneFairSlots
  have hsum : laneA + laneB = min market.entries.len maxFaultsPerEpoch := by
    show min market.entries.len 512 + min (market.entries.len - min market.entries.len 512) 512
      = min market.entries.len 1024
    omega
  refine ⟨sorted.take laneA ++ shuffleFront (sorted.drop laneA) laneB entropy, ?_, ?_, hsum, ?_⟩
  · have hperm : (sorted.take laneA ++ shuffleFront (sorted.drop laneA) laneB entropy).Perm
        (sorted.take laneA ++ sorted.drop laneA) :=
      (List.Perm.refl _).append (shuffleFront_perm _ _ _)
    rw [List.take_append_drop] at hperm
    exact hperm.trans (List.mergeSort_perm _ _)
  · rw [← hsum]
    refine penalise_eq ?_
    rw [hsum]
    exact (List.length_take_le _ _).trans (Nat.min_le_right _ _)
  · rw [← hsum]
    rfl

/-- Everything is accounted for: each distinct fault is penalised once or dropped. -/
structure Conserved (outcomes : List DisputeOutcome) (stake : StakeOracle) (entropy : Bytes 32) :
    Prop where
  total : (applyEpochPenalties outcomes stake entropy).penalties.len
      + (applyEpochPenalties outcomes stake entropy).droppedFaults
    = (slashedIds outcomes).toFinset.card
  distinct : ((applyEpochPenalties outcomes stake entropy).penalties.asSlice.map
    PenaltyEvent.nodeId).Nodup
  named : ∀ p ∈ (applyEpochPenalties outcomes stake entropy).penalties.asSlice,
    p.nodeId ∈ slashedIds outcomes
  bounded : (applyEpochPenalties outcomes stake entropy).penalties.len
    = min (slashedIds outcomes).toFinset.card maxFaultsPerEpoch
  lanes : (applyEpochPenalties outcomes stake entropy).penalties.len
    = (applyEpochPenalties outcomes stake entropy).stakeLane
      + (applyEpochPenalties outcomes stake entropy).fairLane

/-- No node is named again after it was named before and while it is not in the market. -/
def NoReentry (outcomes : List DisputeOutcome) (stake : StakeOracle) (entropy : Bytes 32) : Prop :=
  ∀ pre id post, slashedIds outcomes = pre ++ id :: post → id ∈ pre →
    ∃ e ∈ (marketOf stake entropy pre).entries.asSlice, e.nodeId = id

section
variable (outcomes : List DisputeOutcome) (stake : StakeOracle) (entropy : Bytes 32)

theorem entries_marketOf (ids : List (Bytes 32)) :
    (marketOf stake entropy ids).entries.asSlice.map FaultEntry.nodeId
      = (Reservoir.run maxFaultMarket (FaultMarket.reservoirSlot entropy) ids).entries :=
  congrArg Reservoir.entries (marketOf_spec stake entropy ids).1

theorem noReentry_iff :
    NoReentry outcomes stake entropy
      ↔ Reservoir.NoReentry maxFaultMarket (FaultMarket.reservoirSlot entropy)
          (slashedIds outcomes) := by
  unfold NoReentry Reservoir.NoReentry
  simp only [← entries_marketOf stake entropy, List.mem_map]

/-- The report in terms of the reservoir. -/
theorem report_spec :
    ∃ laid : List (Bytes 32),
      laid.Perm (Reservoir.run maxFaultMarket (FaultMarket.reservoirSlot entropy)
        (slashedIds outcomes)).entries
      ∧ (applyEpochPenalties outcomes stake entropy).penalties.asSlice.map PenaltyEvent.nodeId
          = laid.take (min laid.length maxFaultsPerEpoch)
      ∧ (applyEpochPenalties outcomes stake entropy).stakeLane
          + (applyEpochPenalties outcomes stake entropy).fairLane
          = min laid.length maxFaultsPerEpoch
      ∧ (applyEpochPenalties outcomes stake entropy).droppedFaults
          = (laid.length - min laid.length maxFaultsPerEpoch)
            + (Reservoir.run maxFaultMarket (FaultMarket.reservoirSlot entropy)
                (slashedIds outcomes)).dropped := by
  rw [applyEpochPenalties_eq]
  obtain ⟨laid, hperm, hpen, hlanes, hdropped⟩ :=
    settle_spec (marketOf stake entropy (slashedIds outcomes)) entropy
  have hlen : (laid.map FaultEntry.nodeId).length
      = (marketOf stake entropy (slashedIds outcomes)).entries.len := by
    rw [List.length_map]
    exact hperm.length_eq
  have hover := congrArg Reservoir.dropped (marketOf_spec stake entropy (slashedIds outcomes)).1
  refine ⟨laid.map FaultEntry.nodeId, ?_, ?_, ?_, ?_⟩
  · rw [← entries_marketOf stake entropy]
    exact hperm.map _
  · rw [hpen, hlen, List.map_map, ← List.map_take]
    rfl
  · rw [hlen]
    exact hlanes
  · rw [hlen, ← hover]
    exact hdropped

theorem penalties_spec :
    ((applyEpochPenalties outcomes stake entropy).penalties.asSlice.map PenaltyEvent.nodeId).Nodup
    ∧ (∀ p ∈ (applyEpochPenalties outcomes stake entropy).penalties.asSlice,
        p.nodeId ∈ slashedIds outcomes)
    ∧ (applyEpochPenalties outcomes stake entropy).penalties.len
        = min (slashedIds outcomes).toFinset.card maxFaultsPerEpoch
    ∧ (applyEpochPenalties outcomes stake entropy).penalties.len
        = (applyEpochPenalties outcomes stake entropy).stakeLane
          + (applyEpochPenalties outcomes stake entropy).fairLane := by
  obtain ⟨laid, hperm, hpen, hlanes, -⟩ := report_spec outcomes stake entropy
  have hinv := Reservoir.inv_run maxFaultMarket (FaultMarket.reservoirSlot entropy)
    (slashedIds outcomes)
  have hlen : (applyEpochPenalties outcomes stake entropy).penalties.len
      = min laid.length maxFaultsPerEpoch := by
    have := congrArg List.length hpen
    rw [List.length_map, List.length_take] at this
    rw [BoundedVec.len, this]
    omega
  refine ⟨?_, ?_, ?_, hlen.trans hlanes.symm⟩
  · rw [hpen]
    exact ((hperm.nodup_iff).mpr hinv.nodup).sublist (List.take_sublist _ _)
  · intro p hp
    have hp : p.nodeId ∈ laid.take (min laid.length maxFaultsPerEpoch) :=
      hpen ▸ List.mem_map_of_mem hp
    exact hinv.named _ (hperm.mem_iff.mp (List.mem_of_mem_take hp))
  · rw [hlen, hperm.length_eq]
    exact Reservoir.min_length_entries (by decide) _

theorem total_eq_seen :
    (applyEpochPenalties outcomes stake entropy).penalties.len
      + (applyEpochPenalties outcomes stake entropy).droppedFaults
      = (Reservoir.run maxFaultMarket (FaultMarket.reservoirSlot entropy)
          (slashedIds outcomes)).seen := by
  obtain ⟨laid, hperm, -, hlanes, hdropped⟩ := report_spec outcomes stake entropy
  have hlen := (penalties_spec outcomes stake entropy).2.2.2
  have hseen := (Reservoir.inv_run maxFaultMarket (FaultMarket.reservoirSlot entropy)
    (slashedIds outcomes)).seen_eq
  rw [← hperm.length_eq] at hseen
  omega

/-- **Conservation holds exactly if no fault re-enters the market.** -/
theorem conserved_iff : Conserved outcomes stake entropy ↔ NoReentry outcomes stake entropy := by
  rw [noReentry_iff, ← Reservoir.seen_eq_card_iff, ← total_eq_seen outcomes stake entropy]
  obtain ⟨hdistinct, hnamed, hbounded, hlanes⟩ := penalties_spec outcomes stake entropy
  constructor
  · intro h
    exact h.total
  · intro h
    exact ⟨h, hdistinct, hnamed, hbounded, hlanes⟩

end

/-- The `i`-th node id of a flood. -/
def nodeIdOf (i : Nat) : Bytes 32 := ⟨toLE 8 i ++ List.replicate 24 0, by simp⟩

/-- 2049 nodes, each found in the minority of two disputes. -/
def doubleFlood : List DisputeOutcome :=
  (List.range (maxFaultMarket + 1) ++ List.range (maxFaultMarket + 1)).map fun i =>
    .majority (.replicate 32 0) (nodeIdOf i)

theorem nodeIdOf_inj {i j : Nat} (hi : i < 2 ^ 64) (hj : j < 2 ^ 64) (h : nodeIdOf i = nodeIdOf j) :
    i = j :=
  toLE_inj hi hj (List.append_cancel_right (congrArg List.Vector.toList h))

theorem slashedIds_doubleFlood :
    slashedIds doubleFlood = (List.range (maxFaultMarket + 1)).map nodeIdOf
      ++ (List.range (maxFaultMarket + 1)).map nodeIdOf := by
  rw [slashedIds, doubleFlood, List.flatMap_map, ← List.map_append]
  exact List.flatMap_pure_eq_map _ _

/-- **A flood named twice is counted more than once.** -/
theorem doubleFlood_not_conserved :
    ¬ Conserved doubleFlood (fun _ => 1) (.replicate 32 7) := by
  intro h
  have htotal := h.total
  rw [total_eq_seen, Reservoir.seen_eq_card_iff, slashedIds_doubleFlood] at htotal
  have hnodup : ((List.range (maxFaultMarket + 1)).map nodeIdOf).Nodup := by
    refine List.Nodup.map_on ?_ List.nodup_range
    intro i hi j hj hij
    have hi : i < 2049 := List.mem_range.mp hi
    have hj : j < 2049 := List.mem_range.mp hj
    exact nodeIdOf_inj (by omega) (by omega) hij
  refine Reservoir.not_noReentry_twice ?_ htotal
  rw [List.toFinset_card_of_nodup hnodup, List.length_map, List.length_range]
  exact Nat.lt_succ_self _

/-! ## Order independence -/

namespace FaultEntry

theorem le_trans {a b c : FaultEntry} (hab : a.le b = true) (hbc : b.le c = true) :
    a.le c = true := by
  simp only [le, Bool.or_eq_true, Bool.and_eq_true, decide_eq_true_eq, beq_iff_eq] at *
  rcases hab with hab | ⟨hab, hab'⟩
  · rcases hbc with hbc | ⟨hbc, -⟩
    · exact .inl (UInt64.lt_trans hbc hab)
    · exact .inl (hbc ▸ hab)
  · rcases hbc with hbc | ⟨hbc, hbc'⟩
    · exact .inl (hab ▸ hbc)
    · exact .inr ⟨hbc.trans hab, List.le_trans hab' hbc'⟩

theorem le_total (a b : FaultEntry) : (a.le b || b.le a) = true := by
  simp only [le, Bool.or_eq_true, Bool.and_eq_true, decide_eq_true_eq, beq_iff_eq]
  by_cases heq : isqrtU64 b.priority = isqrtU64 a.priority
  · rcases List.le_total a.nodeId.toList b.nodeId.toList with hid | hid
    · exact .inl (.inr ⟨heq, hid⟩)
    · exact .inr (.inr ⟨heq.symm, hid⟩)
  · rcases UInt64.lt_or_lt_of_ne heq with h | h
    · exact .inl (.inl h)
    · exact .inr (.inl h)

theorem nodeId_eq_of_le {a b : FaultEntry} (hab : a.le b = true) (hba : b.le a = true) :
    a.nodeId = b.nodeId := by
  simp only [le, Bool.or_eq_true, Bool.and_eq_true, decide_eq_true_eq, beq_iff_eq] at *
  rcases hab with hab | ⟨hab, hab'⟩
  · rcases hba with hba | ⟨hba, -⟩
    · exact absurd hba (UInt64.not_lt.mpr (UInt64.le_of_lt hab))
    · exact absurd hab (hba ▸ UInt64.lt_irrefl _)
  · rcases hba with hba | ⟨-, hba'⟩
    · exact absurd hba (hab ▸ UInt64.lt_irrefl _)
    · exact List.Vector.toList_injective (List.le_antisymm hab' hba')

end FaultEntry

theorem FaultEntry.eq_of_nodeId {stake : StakeOracle} {a b : FaultEntry} (h : a.nodeId = b.nodeId)
    (ha : a.priority = stake a.nodeId) (hb : b.priority = stake b.nodeId) : a = b := by
  cases a with
  | mk na pa =>
      cases b with
      | mk nb pb =>
          dsimp only at h ha hb
          rw [h, ha, hb, h]

theorem settle_congr {market market' : FaultMarket} (entropy : Bytes 32)
    (hlen : market.entries.len = market'.entries.len)
    (hsort : market.entries.asSlice.mergeSort FaultEntry.le
      = market'.entries.asSlice.mergeSort FaultEntry.le)
    (hover : market.overflowDropped = market'.overflowDropped) :
    settle market entropy = settle market' entropy := by
  unfold settle
  rw [hlen, hsort, hover]

theorem mergeSort_eq_of_perm {stake : StakeOracle} {l l' : List FaultEntry} (h : l.Perm l')
    (hl : ∀ e ∈ l, e.priority = stake e.nodeId) :
    l.mergeSort FaultEntry.le = l'.mergeSort FaultEntry.le := by
  have hsorted : ∀ l : List FaultEntry,
      (l.mergeSort FaultEntry.le).Pairwise (fun a b => a.le b = true) := by
    intro l
    exact @List.pairwise_mergeSort _ FaultEntry.le
      (fun _ _ _ hab hbc => FaultEntry.le_trans hab hbc) FaultEntry.le_total l
  have hsort : ∀ l : List FaultEntry, (l.mergeSort FaultEntry.le).Perm l := fun l =>
    List.mergeSort_perm l FaultEntry.le
  have hperm : (l.mergeSort FaultEntry.le).Perm (l'.mergeSort FaultEntry.le) :=
    (hsort l).trans (h.trans (hsort l').symm)
  refine List.Perm.eq_of_pairwise ?_ (hsorted l) (hsorted l') hperm
  intro a b ha hb hab hba
  exact FaultEntry.eq_of_nodeId (FaultEntry.nodeId_eq_of_le hab hba)
    (hl a ((hsort l).mem_iff.mp ha)) (hl b (h.mem_iff.mpr ((hsort l').mem_iff.mp hb)))

section
variable (stake : StakeOracle) (entropy : Bytes 32)

theorem marketOf_of_card_le {ids : List (Bytes 32)} (h : ids.toFinset.card ≤ maxFaultMarket) :
    (marketOf stake entropy ids).overflowDropped = 0
      ∧ (marketOf stake entropy ids).entries.asSlice.Nodup
      ∧ ∀ e, e ∈ (marketOf stake entropy ids).entries.asSlice
          ↔ e.nodeId ∈ ids ∧ e.priority = stake e.nodeId := by
  obtain ⟨hids, hpriced⟩ := marketOf_spec stake entropy ids
  obtain ⟨hzero, hmem⟩ := Reservoir.entries_of_card_le (FaultMarket.reservoirSlot entropy) h
  have hnodup := (Reservoir.inv_run maxFaultMarket (FaultMarket.reservoirSlot entropy) ids).nodup
  rw [← entries_marketOf stake entropy] at hnodup
  refine ⟨(congrArg Reservoir.dropped hids).trans hzero, List.Nodup.of_map _ hnodup, ?_⟩
  intro e
  constructor
  · intro he
    refine ⟨(hmem _).mp ?_, hpriced e he⟩
    rw [← entries_marketOf stake entropy]
    exact List.mem_map_of_mem he
  · rintro ⟨hid, hprio⟩
    have hid := (hmem _).mpr hid
    rw [← entries_marketOf stake entropy] at hid
    obtain ⟨e', he', heq⟩ := List.mem_map.mp hid
    rw [← FaultEntry.eq_of_nodeId heq (hpriced e' he') hprio]
    exact he'

/-- **Order independence.**  Two lists of outcomes that name the same nodes, at most
`MAX_FAULT_MARKET` of them, have the same report. -/
theorem applyEpochPenalties_order_free {outcomes outcomes' : List DisputeOutcome}
    (hsame : ∀ id, id ∈ slashedIds outcomes ↔ id ∈ slashedIds outcomes')
    (hcard : (slashedIds outcomes).toFinset.card ≤ maxFaultMarket) :
    applyEpochPenalties outcomes stake entropy = applyEpochPenalties outcomes' stake entropy := by
  have hcard' : (slashedIds outcomes').toFinset.card ≤ maxFaultMarket := by
    have hset : (slashedIds outcomes').toFinset = (slashedIds outcomes).toFinset := by
      ext id
      rw [List.mem_toFinset, List.mem_toFinset, hsame]
    rw [hset]
    exact hcard
  obtain ⟨hzero, hnodup, hmem⟩ := marketOf_of_card_le stake entropy hcard
  obtain ⟨hzero', hnodup', hmem'⟩ := marketOf_of_card_le stake entropy hcard'
  have hperm : (marketOf stake entropy (slashedIds outcomes)).entries.asSlice.Perm
      (marketOf stake entropy (slashedIds outcomes')).entries.asSlice := by
    refine (List.perm_ext_iff_of_nodup hnodup hnodup').mpr ?_
    intro e
    rw [hmem, hmem', hsame]
  rw [applyEpochPenalties_eq, applyEpochPenalties_eq]
  refine settle_congr entropy hperm.length_eq ?_ (hzero.trans hzero'.symm)
  exact mergeSort_eq_of_perm hperm fun e he => ((hmem e).mp he).2

end

/-- The same three faults, in two orders and with repeats. -/
theorem applyEpochPenalties_two_orders :
    applyEpochPenalties
        [.totalDivergence ⟨[nodeIdOf 1, nodeIdOf 2, nodeIdOf 3], rfl⟩] (fun _ => 5)
          (.replicate 32 7)
      = applyEpochPenalties
        [.majority (nodeIdOf 0) (nodeIdOf 3), .unanimous (nodeIdOf 0),
          .majority (nodeIdOf 0) (nodeIdOf 1), .majority (nodeIdOf 0) (nodeIdOf 3),
          .majority (nodeIdOf 0) (nodeIdOf 2)] (fun _ => 5) (.replicate 32 7) := by
  refine applyEpochPenalties_order_free _ _ ?_ ?_
  · intro id
    show id ∈ [nodeIdOf 1, nodeIdOf 2, nodeIdOf 3]
      ↔ id ∈ [nodeIdOf 3, nodeIdOf 1, nodeIdOf 3, nodeIdOf 2]
    simp only [List.mem_cons, List.not_mem_nil, or_false]
    tauto
  · exact (List.toFinset_card_le _).trans (by decide)

end GoatCoin
