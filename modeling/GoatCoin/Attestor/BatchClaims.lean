/-
# `GoatCoin.Attestor.BatchClaims` — the split of the attestor and the share of the contract

The attestor splits the gross of every operator at a take between 8 % and 10 %, and rounds each
share down.  The contract pays at most 90 % of the gross of the batch, rounded down once:

    attestor   Σ ⌊g · (10000 − take) / 10000⌋       contract   ⌊(Σ g) · 9000 / 10000⌋

The two agree at a take of 10 %.  Below it the attestor's side is larger by `(1000 − take) · Σ g`
ten-thousandths, and it fits only if the roundings eat that up (`Covered`): a batch of a few coins
may, and one of `10000` wei for each operator does not.  Where it fits, every leaf can be claimed,
in whatever order (`checkPayout_leaf`).
-/
import GoatCoin.Attestor.EpochBatch
import GoatCoin.Contracts.ProxyClaims

namespace GoatCoin.Attestor

open Evm

/-! ## Two ways to round -/

/-- The roundings of the split cover what the take leaves out. -/
def Covered (takeBps : Word 32) (totals : List OperatorEpochTotal) : Prop :=
  (maxTakeBps - takeBps.val) * (totals.map (·.grossGoatWei.val)).sum
    ≤ (totals.map fun t => t.grossGoatWei.val * (bpsDenom - takeBps.val) % bpsDenom).sum

instance (takeBps : Word 32) (totals : List OperatorEpochTotal) :
    Decidable (Covered takeBps totals) :=
  inferInstanceAs (Decidable (_ ≤ _))

theorem sum_div_mod (gs : List Nat) (rate : Nat) :
    (gs.map fun g => g * rate / bpsDenom).sum * bpsDenom + (gs.map fun g => g * rate % bpsDenom).sum
      = gs.sum * rate := by
  induction gs with
  | nil => rw [List.map_nil, List.map_nil, List.sum_nil, Nat.zero_mul, Nat.zero_mul, Nat.zero_add]
  | cons g gs ih =>
      rw [List.map_cons, List.map_cons, List.sum_cons, List.sum_cons, List.sum_cons, Nat.add_mul,
        Nat.add_mul, ← ih]
      have hg := Nat.div_add_mod' (g * rate) bpsDenom
      omega

/-- **The payouts fit in the operators' share exactly if the roundings cover the take.** -/
theorem payouts_le_iff {takeBps : Word 32} {totals : List OperatorEpochTotal}
    (hband : inTakeBand takeBps) (hsplit : ∀ t ∈ totals,
      splitGross t.grossGoatWei takeBps = .ok (t.payoutGoatWei, t.protocolGoatWei)) :
    (totals.map (·.payoutGoatWei.val)).sum
        ≤ (totals.map (·.grossGoatWei.val)).sum * ProxyRevenueSettlement.operatorBps
          / ProxyRevenueSettlement.bpsDenom
      ↔ Covered takeBps totals := by
  have hpayouts : totals.map (·.payoutGoatWei.val)
      = (totals.map (·.grossGoatWei.val)).map fun g => g * (bpsDenom - takeBps.val) / bpsDenom := by
    rw [List.map_map]
    exact List.map_congr_left fun t ht => (splitGross_ok.mp (hsplit t ht)).2.2.1
  have hremainders : (totals.map fun t => t.grossGoatWei.val * (bpsDenom - takeBps.val) % bpsDenom)
      = (totals.map (·.grossGoatWei.val)).map fun g => g * (bpsDenom - takeBps.val) % bpsDenom := by
    rw [List.map_map]
    rfl
  rw [Covered, hpayouts, hremainders]
  have hsum := sum_div_mod (totals.map (·.grossGoatWei.val)) (bpsDenom - takeBps.val)
  generalize (totals.map (·.grossGoatWei.val)) = gs at hsum ⊢
  have hle : takeBps.val ≤ 1000 := hband.2
  have hrate : gs.sum * (bpsDenom - takeBps.val)
      = gs.sum * 9000 + (maxTakeBps - takeBps.val) * gs.sum := by
    have heq : bpsDenom - takeBps.val = 9000 + (maxTakeBps - takeBps.val) := by
      unfold bpsDenom maxTakeBps
      omega
    rw [heq, Nat.mul_add, Nat.mul_comm gs.sum (maxTakeBps - takeBps.val)]
  rw [Nat.le_div_iff_mul_le (by decide)]
  show (gs.map fun g => g * (bpsDenom - takeBps.val) / bpsDenom).sum * bpsDenom ≤ gs.sum * 9000 ↔ _
  omega

/-! ## Claims -/

/-- A leaf as the contract sees it. -/
def onChain (leaf : ProxyLeaf) : GoatCoin.ProxyLeaf :=
  ⟨leaf.operator, widen word128_le leaf.totalBytes, widen word128_le leaf.payoutGoatWei⟩

/-- `keccak256` does not collide on the claims of an epoch that were made. -/
def ClaimsCollisionFree (leaves : List ProxyLeaf) (epochId : Uint256)
    (ks : List ProxyCall) : Prop :=
  ∀ sender operator totalBytes payout proof,
    .pool sender (.claim epochId operator totalBytes payout proof) ∈ ks →
    NoCollision abiEncodeProxyLeaf leaves (proxyClaimBytes operator epochId totalBytes payout) proof

theorem claimsAmong_leaves {leaves : List ProxyLeaf} (hne : leaves ≠ []) {epochId : Uint256}
    {ks : List ProxyCall} (hfree : ClaimsCollisionFree leaves epochId ks) :
    ClaimsAmong (leaves.map onChain) epochId (proxyTree leaves).root ks := by
  intro sender operator totalBytes payout proof hmem hverify
  rw [proxyLeafOf_eq] at hverify
  obtain ⟨leaf, hleaf, heq⟩ :=
    mem_of_verify hne (hfree sender operator totalBytes payout proof hmem) hverify
  obtain ⟨hoperator, -, hbytes, hpayout⟩ := encodeProxyLeaf_inj heq
  refine List.mem_map.mpr ⟨leaf, hleaf, ?_⟩
  rw [onChain, hoperator]
  exact congrArg₂ (GoatCoin.ProxyLeaf.mk operator) (Fin.ext hbytes) (Fin.ext hpayout)

/-- The claim of a leaf passes the bounds of the pool and of the operators' share. -/
def LeafPasses (batch : ProxyEpochBatch) : Prop :=
  ∀ (d : ProxySite) (start : ProxyChain), start.Fresh d → ∀ (ks : List ProxyCall) (c : ProxyChain),
    d.run start ks = c →
    (c.pool.batchOf (widen word64_le batch.epochId)).status = .finalized →
    (c.pool.batchOf (widen word64_le batch.epochId)).root = batch.merkleRoot →
    (c.pool.batchOf (widen word64_le batch.epochId)).grossGoatWei = batch.totalGrossGoatWei.val →
    c.now.val ≤ (c.pool.batchOf (widen word64_le batch.epochId)).claimEnd →
    ClaimsCollisionFree batch.leaves (widen word64_le batch.epochId) ks →
    ∀ leaf ∈ batch.leaves, c.pool.claimed (widen word64_le batch.epochId) leaf.operator = false →
      c.pool.checkPayout (widen word64_le batch.epochId) leaf.payoutGoatWei.val = .ok ()

section
variable {epochId : Word 64} {totals : List OperatorEpochTotal} {controls : EpochFraudControls}
  {funded reserve : Word 128} {takeBps : Word 32} {batch : ProxyEpochBatch}

/-- **Leaves that fit in the share are claimed in whatever order.** -/
theorem leafPasses_of_le
    (h : buildProxyEpochBatch epochId totals controls funded reserve takeBps = .ok batch)
    (hsum : (totals.map (·.payoutGoatWei.val)).sum
      ≤ (totals.map (·.grossGoatWei.val)).sum * ProxyRevenueSettlement.operatorBps
        / ProxyRevenueSettlement.bpsDenom) : LeafPasses batch := by
  obtain ⟨hadmitted, hbatch⟩ := admitted_of_build h
  intro d start hfresh ks c hc hfinal hroot hgross hopen hfree leaf hleaf hunclaimed
  subst hc
  have hdistinct : ((batch.leaves.map onChain).map GoatCoin.ProxyLeaf.operator).Nodup := by
    rw [hbatch.leaves, List.map_map, List.map_map]
    exact hadmitted.distinct
  have hne : batch.leaves ≠ [] := by
    rw [hbatch.leaves]
    exact fun hnil => hadmitted.nonempty (List.map_eq_nil_iff.mp hnil)
  have hpayouts : payouts (batch.leaves.map onChain) = (totals.map (·.payoutGoatWei.val)).sum := by
    rw [payouts, hbatch.leaves, List.map_map, List.map_map]
    rfl
  have hamong := claimsAmong_leaves hne hfree
  rw [← hbatch.merkleRoot, ← hroot] at hamong
  have hpaid := ProxyChain.claimed_run hfresh hdistinct ks hamong hfinal rfl
  -- with this leaf the claims are still within what the leaves pay in all
  have hnext := paidSum_update hdistinct (List.mem_map_of_mem hleaf) hunclaimed
  have hall := paidSum_le (batch.leaves.map onChain) (Function.update
    ((d.run start ks).pool.claimed (widen word64_le batch.epochId)) (onChain leaf).operator true)
  have hshare : ((d.run start ks).pool.batchOf (widen word64_le batch.epochId)).claimedGoatWei
      + leaf.payoutGoatWei.val
      ≤ ((d.run start ks).pool.batchOf (widen word64_le batch.epochId)).grossGoatWei
        * ProxyRevenueSettlement.operatorBps / ProxyRevenueSettlement.bpsDenom := by
    rw [hgross, hbatch.totalGross, hpaid]
    calc _ = _ := hnext.symm
      _ ≤ payouts (batch.leaves.map onChain) := hall
      _ ≤ _ := hpayouts ▸ hsum
  have hfits : ((d.run start ks).pool.batchOf (widen word64_le batch.epochId)).grossGoatWei
      * ProxyRevenueSettlement.operatorBps < 2 ^ 256 := by
    rw [hgross]
    have hlt := batch.totalGrossGoatWei.isLt
    unfold ProxyRevenueSettlement.operatorBps
    omega
  have hview := ProxyChain.view_sound_run hfresh ks (widen word64_le batch.epochId)
  have hs := ProxyChain.solvent_run hfresh ks
  exact ProxyChain.checkPayout_of_le hs.sound (ProxyChain.left_of_open hview hfinal hopen hshare)
    hfits hshare

/-- **Every leaf of a batch is claimable exactly if the roundings cover the take.** -/
theorem claimable_iff
    (h : buildProxyEpochBatch epochId totals controls funded reserve takeBps = .ok batch) :
    ((batch.leaves.map (·.payoutGoatWei.val)).sum
          ≤ batch.totalGrossGoatWei.val * ProxyRevenueSettlement.operatorBps
          / ProxyRevenueSettlement.bpsDenom
        ∧ batch.totalGrossGoatWei.val ≤ funded.val ∧ LeafPasses batch)
      ↔ Covered takeBps totals := by
  obtain ⟨hadmitted, hbatch⟩ := admitted_of_build h
  have hiff := payouts_le_iff hadmitted.band hadmitted.split
  have hpayouts : batch.leaves.map (·.payoutGoatWei.val) = totals.map (·.payoutGoatWei.val) := by
    rw [hbatch.leaves, List.map_map]
    rfl
  rw [hpayouts, hbatch.totalGross]
  constructor
  · rintro ⟨hsum, -, -⟩
    exact hiff.mp hsum
  · intro hcovered
    have hsum := hiff.mpr hcovered
    exact ⟨hsum, hadmitted.pool.trans (Nat.sub_le _ _), leafPasses_of_le h hsum⟩

end

theorem claimable_iff_sample : ∃ batch, buildProxyEpochBatch 8000000000000 [sampleTotal]
    (sampleControls [] []) 10000 0 1000 = .ok batch ∧ LeafPasses batch := by
  obtain ⟨batch, hbatch⟩ := build_of_admitted (sampleTotal_admitted [] [] rfl rfl)
  exact ⟨batch, hbatch, ((claimable_iff hbatch).mpr (by decide)).2.2⟩

/-! ### A take of 8 % -/

def sampleLowTotal : OperatorEpochTotal := ⟨1, 1048576, 1, 10000, 9200, 800⟩

theorem sampleLowTotal_admitted :
    Admitted 8000000000000 [sampleLowTotal] (sampleControls [] []) 10000 0 800 where
  epoch := by decide
  nonempty := List.cons_ne_nil _ _
  band := by decide
  distinct := List.nodup_singleton _
  split := fun t ht => by
    rw [List.mem_singleton.mp ht]
    exact splitGross_ok.mpr (by decide)
  sequences := rfl
  ceiling := ok_of_toOption (by decide +kernel)
  concentration := rfl
  pool := by decide

theorem share_of_checkPayout {p : ProxyRevenueSettlement} {epochId : Uint256} {amount : Nat}
    (h : p.checkPayout epochId amount = .ok ()) : (p.batchOf epochId).claimedGoatWei + amount
      ≤ (p.batchOf epochId).grossGoatWei * ProxyRevenueSettlement.operatorBps
        / ProxyRevenueSettlement.bpsDenom := by
  obtain ⟨_, -, _, -, _, -, _, -, h⟩ := bind_ok₄.mp h
  obtain ⟨_, -, _, -, claimed, hclaimed, share, hshare, h⟩ := bind_ok₄.mp h
  obtain ⟨-, rfl⟩ := checked_ok.mp hclaimed
  obtain ⟨-, rfl⟩ := checked_ok.mp hshare
  exact require_ok.mp h

/-- The attestor builds the batch, and its one leaf is over the share of the contract. -/
theorem low_take_refused : ∃ batch, buildProxyEpochBatch 8000000000000 [sampleLowTotal]
      (sampleControls [] []) 10000 0 800 = .ok batch
    ∧ batch.totalGrossGoatWei.val = 10000
    ∧ (batch.leaves.map (·.payoutGoatWei.val)).sum = 9200
    ∧ batch.totalGrossGoatWei.val * ProxyRevenueSettlement.operatorBps
      / ProxyRevenueSettlement.bpsDenom = 9000
    ∧ ∀ leaf ∈ batch.leaves, ∀ p : ProxyRevenueSettlement,
      (p.batchOf 8000000000000).grossGoatWei = batch.totalGrossGoatWei.val →
      p.checkPayout 8000000000000 leaf.payoutGoatWei.val ≠ .ok () := by
  obtain ⟨batch, hbuild⟩ := build_of_admitted sampleLowTotal_admitted
  have hbatch := (admitted_of_build hbuild).2
  have hgross : batch.totalGrossGoatWei.val = 10000 := hbatch.totalGross
  refine ⟨batch, hbuild, hgross, ?_, ?_, fun leaf hleaf p hp hok => ?_⟩
  · rw [hbatch.leaves]
    rfl
  · rw [hgross]
    decide
  · have hshare := share_of_checkPayout hok
    rw [hbatch.leaves, List.map_singleton, List.mem_singleton] at hleaf
    have hpayout : leaf.payoutGoatWei.val = 9200 := by
      rw [hleaf]
      rfl
    have hnine :
      10000 * ProxyRevenueSettlement.operatorBps / ProxyRevenueSettlement.bpsDenom = 9000 := by
      decide
    rw [hp, hgross, hpayout, hnine] at hshare
    omega

end GoatCoin.Attestor
