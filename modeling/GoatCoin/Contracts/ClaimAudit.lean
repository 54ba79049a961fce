/-
# `GoatCoin.Contracts.ClaimAudit` — what the claims of a worker mint, over whole runs

An audit follows a run and keeps an account for every worker:

    claims       the claims that succeeded
    minted       what they minted, liquid, fee and holdback
    worth        the score they moved the watermark by, at the rate of the batch
    baselineAt   when the baseline was set
    mints        for each epoch, the claims that minted

Is what a claim mints worth the score it uses up?  The watermark moves by
`goatAmount / rate`, so exactly when the division leaves no rest: when the cap does
not bind, or binds at a multiple of the rate, or at less than one unit of score
(`Fits`).  Otherwise the rest is minted, and its score can be claimed once more.
-/
import GoatCoin.Contracts.ComputeLane
import GoatCoin.Lib.Runs

namespace GoatCoin

open Function (update update_self update_of_ne)
open Evm EpochSettlement

structure Account where
  claims : Nat
  minted : Nat
  worth : Nat
  baselineAt : Option Nat
  mints : Uint256 → Nat

def Account.empty : Account := ⟨0, 0, 0, none, fun _ => 0⟩

/-- The score that a worker was paid for, or that was below the baseline. -/
def Chain.watermark (c : Chain) (worker : Address) : Nat :=
  c.settlement.lastClaimedCumulative worker

def Chain.batchRate (c : Chain) (epoch : Uint256) : Nat := (c.settlement.batches epoch).rate

/-- What was minted between two states. -/
def Chain.mintedSince (before after : Chain) : Nat :=
  after.goat.totalSupply - before.goat.totalSupply

/-- The entry for a claim that succeeded. -/
def Account.book (a : Account) (epoch : Uint256) (worker : Address)
    (before after : Chain) : Account where
  claims := a.claims + 1
  minted := a.minted + before.mintedSince after
  worth := a.worth + before.batchRate epoch * (after.watermark worker - before.watermark worker)
  baselineAt :=
    if before.settlement.hasBaseline worker = after.settlement.hasBaseline worker then a.baselineAt
    else some before.now.val
  mints := update a.mints epoch
    (a.mints epoch + if before.mintedSince after = 0 then 0 else 1)

/-- A chain with the accounts of its workers. -/
structure Audit where
  chain : Chain
  accounts : Address → Account

namespace Audit

def start (c : Chain) : Audit := ⟨c, fun _ => .empty⟩

/-- The accounts after a call that succeeded. -/
def record (a : Audit) (k : ChainCall) (after : Chain) : Address → Account :=
  match k with
  | .settlement _ (.claimPayout epoch worker _ _) =>
      update a.accounts worker ((a.accounts worker).book epoch worker a.chain after)
  | _ => a.accounts

def step (d : Deployment) (a : Audit) (k : ChainCall) : Except Revert Audit := do
  let after ← d.act a.chain k
  .ok ⟨after, a.record k after⟩

def run (d : Deployment) (c : Chain) (ks : List ChainCall) : Audit :=
  ks.foldl (attempt (step d)) (start c)

theorem attempt_chain (d : Deployment) (a : Audit) (k : ChainCall) :
    (attempt (step d) a k).chain = attempt d.act a.chain k := by
  unfold attempt step
  cases d.act a.chain k with
  | error e => rfl
  | ok after => rfl

theorem run_chain (d : Deployment) (c : Chain) (ks : List ChainCall) :
    (run d c ks).chain = d.run c ks := by
  induction ks using List.reverseRecOn with
  | nil => rfl
  | append_singleton ks k ih =>
      rw [run, Deployment.run, Runs.foldl_snoc, Runs.foldl_snoc, attempt_chain]
      exact congrArg (attempt d.act · k) ih

theorem step_ok {d : Deployment} {a a' : Audit} {k : ChainCall} (h : step d a k = .ok a') :
    ∃ handover, d.Effect a.chain k a'.chain handover ∧ a'.accounts = a.record k a'.chain := by
  obtain ⟨after, hact, h⟩ := bind_ok.mp h
  obtain ⟨handover, hstep⟩ := d.act_ok hact
  cases h
  exact ⟨handover, Deployment.step_effect hstep, rfl⟩

end Audit

/-! ## What a claim mints, and what it uses up -/

namespace Settlement

theorem maxGoat_le (capPerDay elapsed : Nat) : maxGoat capPerDay elapsed ≤ maxUint256 := by
  unfold maxGoat
  split
  · exact le_rfl
  split
  · exact Nat.zero_le _
  split
  · exact le_rfl
  · rename_i helapsed hfits
    have hprod : capPerDay * elapsed ≤ maxUint256 :=
      (Nat.le_div_iff_mul_le (Nat.pos_of_ne_zero helapsed)).mp (Nat.le_of_not_lt hfits)
    exact (Nat.div_le_self ..).trans hprod

theorem min_rawGoat (delta rate : Nat) {cap : Nat} (hcap : cap ≤ maxUint256) :
    min (rawGoat delta rate) cap = min (delta * rate) cap := by
  unfold rawGoat
  split
  · rename_i h
    have hover : maxUint256 < rate * delta := (Nat.div_lt_iff_lt_mul h.1).mp h.2
    rw [Nat.min_eq_right hcap, Nat.min_eq_right]
    rw [Nat.mul_comm delta rate]
    omega
  · rfl

theorem goatAmount_eq (s : Settlement) (now : Nat) (epoch : Uint256)
    (worker : Address) (score : Nat) :
    s.goatAmount now epoch worker score
      = min ((score - s.lastClaimedCumulative worker) * (s.batches epoch).rate)
          (maxGoat s.capPerDay (now - s.lastClaimTime worker)) :=
  min_rawGoat _ _ (maxGoat_le _ _)

theorem recordClaim_watermark (s : Settlement) (now : Nat) (epoch : Uint256) (worker : Address)
    (n : Nat) : (s.recordClaim now epoch worker n).lastClaimedCumulative worker = n :=
  update_self ..

end Settlement

/-- A part of a worth is worth its whole units exactly when nothing is left over. -/
theorem le_mul_div_iff {delta rate cap : Nat} (hunit : min (delta * rate) cap / rate ≠ 0) :
    min (delta * rate) cap ≤ rate * (min (delta * rate) cap / rate)
      ↔ delta * rate ≤ cap ∨ rate ∣ cap ∨ cap < rate := by
  have hfloor := Nat.mul_div_le (min (delta * rate) cap) rate
  have hlarge : ¬ cap < rate := fun hlt =>
    hunit (Nat.div_eq_of_lt (Nat.lt_of_le_of_lt (Nat.min_le_right ..) hlt))
  constructor
  · intro hle
    have hdvd : rate ∣ min (delta * rate) cap := ⟨_, Nat.le_antisymm hle hfloor⟩
    rcases Nat.le_total (delta * rate) cap with hc | hc
    · exact .inl hc
    · rw [Nat.min_eq_right hc] at hdvd
      exact .inr (.inl hdvd)
  · intro h
    have hdvd : rate ∣ min (delta * rate) cap := by
      rcases Nat.le_total (delta * rate) cap with hc | hc
      · rw [Nat.min_eq_left hc]
        exact Nat.dvd_mul_left rate delta
      · rw [Nat.min_eq_right hc]
        rcases h with h | h | h
        · rw [Nat.le_antisymm hc h]
          exact Nat.dvd_mul_left rate delta
        · exact h
        · exact absurd h hlarge
    exact Nat.le_of_eq (Nat.mul_div_cancel' hdvd).symm

namespace Chain

/-- The claim is of a worker who is paid by score: enrolled, not yet paid for the epoch,
with a baseline and a score above the watermark. -/
def PaidByScore (c : Chain) (epoch : Uint256) (worker : Address) (score : Nat) : Prop :=
  c.registry.enrolled worker = true ∧ c.settlement.claimed epoch worker = false
    ∧ c.settlement.hasBaseline worker = true ∧ c.watermark worker < score

/-- What the daily cap allows the worker now. -/
def allowance (c : Chain) (worker : Address) : Nat :=
  Settlement.maxGoat c.settlement.capPerDay (c.now.val - c.settlement.lastClaimTime worker)

/-- The cap does not bind, or binds at a multiple of the rate, or below one unit of score. -/
def Fits (c : Chain) (epoch : Uint256) (worker : Address) (score : Nat) : Prop :=
  c.PaidByScore epoch worker score →
    (score - c.watermark worker) * c.batchRate epoch ≤ c.allowance worker
      ∨ c.batchRate epoch ∣ c.allowance worker ∨ c.allowance worker < c.batchRate epoch

end Chain

section
variable {d : Deployment} {c c' : Chain} {handover : Handover} {sender : Address} {epoch : Uint256}
  {worker : Address} {score : Uint256} {proof : List Bytes32}

theorem mintedSince_minted {keeperFee amount : Nat} {s : Settlement} {e : Escrow} {g : Goat}
    (hpay : Settlement.payClaim d.settlement d.escrow.self keeperFee c.escrow c.goat
      c.now.val sender
      epoch worker amount = .ok (e, g)) :
    c.mintedSince { c with settlement := s, escrow := e, goat := g } = amount := by
  have hsupply := Settlement.payClaim_supply hpay
  show g.totalSupply - c.goat.totalSupply = amount
  omega

/-- **A claim that succeeds mints no more than the worth of the score it uses up exactly
when it fits.** -/
theorem claim_bounded_iff
    (h : d.Effect c (.settlement sender (.claimPayout epoch worker score proof)) c' handover) :
    c.mintedSince c' ≤ c.batchRate epoch * (c'.watermark worker - c.watermark worker)
      ↔ c.Fits epoch worker score.val := by
  obtain ⟨-, -, -, s, e, g, rfl, hout⟩ := h.claim_cases
  have hamount := c.settlement.goatAmount_eq c.now.val epoch worker score.val
  cases hout with
  | nothing hwhy =>
      have hzero : c.mintedSince c = 0 := Nat.sub_self _
      refine iff_of_true (hzero.trans_le (Nat.zero_le _)) fun hpaid => ?_
      obtain ⟨henrolled, hnew, hbase, hscore⟩ := hpaid
      obtain ⟨hrate, hnone⟩ := hwhy henrolled hnew hbase hscore
      rw [hamount] at hnone
      have hless : min _ _ < c.batchRate epoch :=
        (Nat.div_eq_zero_iff_lt (Nat.pos_of_ne_zero hrate)).mp hnone
      -- a score above the watermark is worth at least the rate
      have hunit : c.batchRate epoch ≤ (score.val - c.watermark worker) * c.batchRate epoch :=
        Nat.le_mul_of_pos_left _ (Nat.sub_pos_of_lt hscore)
      rcases min_lt_iff.mp hless with hlt | hlt
      · exact absurd hlt (Nat.not_lt.mpr hunit)
      · exact .inr (.inr hlt)
  | baseline hbase _ =>
      have hzero : c.mintedSince
          { c with settlement := c.settlement.setBaseline c.now.val epoch worker score.val } = 0 :=
        Nat.sub_self _
      refine iff_of_true (hzero.trans_le (Nat.zero_le _)) fun hpaid => ?_
      exact Bool.noConfusion (hbase.symm.trans hpaid.2.2.1)
  | minted henrolled hbase hnew hscore _ hunit hpay =>
      rw [mintedSince_minted hpay]
      change _ ≤ c.batchRate epoch * ((c.settlement.recordClaim c.now.val epoch worker
        _).lastClaimedCumulative worker - c.settlement.lastClaimedCumulative worker) ↔ _
      rw [Settlement.recordClaim_watermark, Nat.add_sub_cancel_left, hamount]
      rw [hamount] at hunit
      refine (le_mul_div_iff hunit).trans ⟨fun h _ => h, fun h => ?_⟩
      exact h ⟨henrolled, hnew, hbase, hscore⟩

end

/-! ## All the claims of a run -/

namespace Deployment

variable (d : Deployment)

/-- If the call is a claim that succeeds, it mints no more than the worth of its score. -/
def ClaimBounded (c : Chain) (k : ChainCall) : Prop :=
  ∀ sender epoch worker score proof c',
    k = .settlement sender (.claimPayout epoch worker score proof) → d.act c k = .ok c' →
    c.mintedSince c' ≤ c.batchRate epoch * (c'.watermark worker - c.watermark worker)

/-- If the call is a claim that succeeds, it fits. -/
def ClaimFits (c : Chain) (k : ChainCall) : Prop :=
  ∀ sender epoch worker score proof c',
    k = .settlement sender (.claimPayout epoch worker score proof) →
    d.act c k = .ok c' → c.Fits epoch worker score.val

theorem claimBounded_iff (c : Chain) (k : ChainCall) : d.ClaimBounded c k ↔ d.ClaimFits c k := by
  constructor
  · intro h sender epoch worker score proof c' hk hact
    obtain ⟨handover, hstep⟩ := d.act_ok hact
    have heffect := step_effect hstep
    rw [hk] at heffect
    exact (claim_bounded_iff heffect).mp (h sender epoch worker score proof c' hk hact)
  · intro h sender epoch worker score proof c' hk hact
    obtain ⟨handover, hstep⟩ := d.act_ok hact
    have heffect := step_effect hstep
    rw [hk] at heffect
    exact (claim_bounded_iff heffect).mpr (h sender epoch worker score proof c' hk hact)

end Deployment

namespace Audit

theorem record_claim (a : Audit) (sender : Address) (epoch : Uint256) (worker : Address)
    (score : Uint256) (proof : List Bytes32) (after : Chain) :
    a.record (.settlement sender (.claimPayout epoch worker score proof)) after worker
      = (a.accounts worker).book epoch worker a.chain after := update_self ..

theorem record_other {a : Audit} {k : ChainCall} {worker : Address}
    (hk : ∀ sender epoch score proof,
      k ≠ .settlement sender (.claimPayout epoch worker score proof))
    (after : Chain) : a.record k after worker = a.accounts worker := by
  unfold record
  split
  · rename_i sender epoch other score proof
    have hne : worker ≠ other := by
      rintro rfl
      exact hk sender epoch score proof rfl
    exact update_of_ne hne _ _
  · rfl

theorem minted_le_worth_step {d : Deployment} {a : Audit} {k : ChainCall} {worker : Address}
    (hle : (a.accounts worker).minted ≤ (a.accounts worker).worth) (hk : d.ClaimBounded a.chain k) :
    ((attempt (step d) a k).accounts worker).minted
    ≤ ((attempt (step d) a k).accounts worker).worth := by
  rcases attempt_cases (step d) a k with ⟨h, -⟩ | h
  · rw [h]
    exact hle
  obtain ⟨after, hact, h⟩ := bind_ok.mp h
  rw [← Except.ok.inj h]
  show (a.record k after worker).minted ≤ (a.record k after worker).worth
  by_cases hclaim : ∃ sender epoch score proof,
      k = .settlement sender (.claimPayout epoch worker score proof)
  · obtain ⟨sender, epoch, score, proof, rfl⟩ := hclaim
    rw [record_claim]
    exact Nat.add_le_add hle (hk sender epoch worker score proof after rfl hact)
  · rw [record_other fun sender epoch score proof heq => hclaim ⟨sender, epoch, score, proof, heq⟩]
    exact hle

theorem minted_le_worth {d : Deployment} {c : Chain} {ks : List ChainCall}
    (h : Runs.Guarded (attempt d.act) d.ClaimBounded c ks) (worker : Address) :
    ((run d c ks).accounts worker).minted ≤ ((run d c ks).accounts worker).worth := by
  induction ks using List.reverseRecOn with
  | nil => exact le_rfl
  | append_singleton ks k ih =>
      have hbefore := ih fun before k' hk' => h before k' (hk'.trans (List.prefix_append ks [k]))
      rw [run, Runs.foldl_snoc]
      refine minted_le_worth_step hbefore ?_
      have hlast := h ks k (List.prefix_refl _)
      rwa [← Deployment.run, ← run_chain] at hlast

end Audit

/-- **Every claim of a run mints at most the worth of the score it uses up exactly when
every claim of the run fits; and then so does everything minted for a worker.** -/
theorem minted_within_score (d : Deployment) (start : Chain) (ks : List ChainCall) :
    (Runs.Guarded (attempt d.act) d.ClaimBounded start ks
        ↔ Runs.Guarded (attempt d.act) d.ClaimFits start ks)
      ∧ (Runs.Guarded (attempt d.act) d.ClaimFits start ks → ∀ worker,
          ((Audit.run d start ks).accounts worker).minted
            ≤ ((Audit.run d start ks).accounts worker).worth) := by
  have hiff : Runs.Guarded (attempt d.act) d.ClaimBounded start ks
      ↔ Runs.Guarded (attempt d.act) d.ClaimFits start ks :=
    forall_congr' fun _ => forall_congr' fun _ => forall_congr' fun _ => d.claimBounded_iff _ _
  exact ⟨hiff, fun h worker => Audit.minted_le_worth (hiff.mpr h) worker⟩

/-! ### A claim over its score

The rate is 2 and the cap one a second; the worker claims five units of score three
seconds after the baseline. -/

def sampleDeployment : Deployment where
  goatSafe := 1
  escrow := ⟨2, 1, 3⟩
  settlement := ⟨4, 1, 0, 0, by decide⟩
  minter := ⟨5, 1⟩

def sampleSettlement : Settlement where
  rate := 2
  capPerDay := 86400
  keeperFee := 0
  epochCap := maxUint256
  challengeWindow := 0
  proposerBond := 0
  challengerBond := 0
  resolver := 6
  watcher := 7
  watcherGrace := 86400
  batches _ := .empty
  lastClaimedCumulative _ := 0
  claimed _ _ := false
  hasBaseline _ := false
  lastClaimTime _ := 0

def sampleChain : Chain where
  now := 0
  registry := ⟨fun _ => true, fun _ => true⟩
  bound _ := true
  goat := .new
  escrow := .new
  settlement := sampleSettlement
  minter := .new
  received := 0
  paid := 0

theorem sampleChain_fresh : sampleChain.Fresh :=
  ⟨⟨2, 86400, 0, 0, 0, 6, 7, rfl⟩, rfl, rfl, rfl, rfl, rfl⟩

/-- Two batches of one leaf each, and what it takes to make them final. -/
def sampleBatches (root₁ root₂ : Bytes32) : List ChainCall :=
  [.goat 1 (.setMinter 4 true),
   .settlement 8 (.proposeBatch 0 1 root₁ 0),
   .settlement 8 (.proposeBatch 0 2 root₂ 0),
   .advance 100000,
   .settlement 8 (.finalizeBatch 1),
   .settlement 8 (.finalizeBatch 2)]

/-- The claim for the baseline, and the time until the next one. -/
def sampleFirst : List ChainCall := [.settlement 8 (.claimPayout 1 9 0 []), .advance 100003]

def sampleCalls : List ChainCall :=
  sampleBatches (Settlement.leafOf 9 0) (Settlement.leafOf 9 5) ++ sampleFirst
    ++ [.settlement 8 (.claimPayout 2 9 5 [])]

def sampleAt (now : Word 64) (batches : Uint256 → Batch) : Chain :=
  { sampleChain with
    now
    goat := { Goat.new with isMinter := update (fun _ => false) 4 true }
    settlement := { sampleSettlement with batches } }

def sampleBatch (root : Bytes32) (status : Status) : Batch := ⟨8, 0, 0, 0, root, 2, 0, 0, 0, status⟩

theorem sample_propose {batches : Uint256 → Batch} {epoch : Uint256} {root : Bytes32} (h : root ≠ 0)
    (hnew : batches epoch = .empty) :
    sampleDeployment.act (sampleAt 0 batches) (.settlement 8 (.proposeBatch 0 epoch root 0))
      = .ok (sampleAt 0 (update batches epoch (sampleBatch root .proposed))) := by
  have hbatch : (sampleAt 0 batches).settlement.batches epoch = .empty := hnew
  simp only [Deployment.act, Deployment.step, Deployment.settlementCall, Settlement.proposeBatch,
    require_of h, hbatch]
  rfl

theorem sample_finalize {batches : Uint256 → Batch} {epoch : Uint256} {root : Bytes32}
    (hnew : batches epoch = sampleBatch root .proposed) :
    sampleDeployment.act (sampleAt 100000 batches) (.settlement 8 (.finalizeBatch epoch))
      = .ok (sampleAt 100000 (update batches epoch (sampleBatch root .finalized))) := by
  have hbatch :
    (sampleAt 100000 batches).settlement.batches epoch = sampleBatch root .proposed := hnew
  have hopen :
    (sampleBatch root .proposed).challengeDeadline < (sampleAt 100000 batches).now.val := by
    show 0 < (100000 : Word 64).val
    decide
  have hgrace : ¬ ((sampleBatch root .proposed).watcherConfirmedAt = 0
      ∧ (sampleAt 100000 batches).now.val ≤ (sampleBatch root .proposed).challengeDeadline
        + (sampleAt 100000 batches).settlement.watcherGrace) := by
    show ¬ (0 = 0 ∧ (100000 : Word 64).val ≤ 0 + 86400)
    decide
  simp only [Deployment.act, Deployment.step, Deployment.settlementCall, Settlement.finalizeBatch,
    hbatch, require_of hopen, require_of hgrace]
  rfl

/-- The chain with both batches final. -/
def sampleFinal (root₁ root₂ : Bytes32) : Chain :=
  let proposed := update (update (fun _ => Batch.empty)
    1 (sampleBatch root₁ .proposed)) 2 (sampleBatch root₂ .proposed)
  sampleAt 100000 (update (update proposed
    1 (sampleBatch root₁ .finalized)) 2 (sampleBatch root₂ .finalized))

theorem run_sampleBatches {root₁ root₂ : Bytes32} (h₁ : root₁ ≠ 0) (h₂ : root₂ ≠ 0) :
    sampleDeployment.run sampleChain (sampleBatches root₁ root₂) = sampleFinal root₁ root₂ := by
  have hminter : sampleDeployment.act sampleChain (.goat 1 (.setMinter 4 true))
      = .ok (sampleAt 0 fun _ => .empty) := rfl
  have hnow : (0 : Word 64) ≤ 100000 := by decide
  have hadvance : ∀ batches, sampleDeployment.act (sampleAt 0 batches) (.advance 100000)
      = .ok (sampleAt 100000 batches) := fun _ => Deployment.act_advance _ hnow
  rw [sampleBatches, Deployment.run_of_ok _ hminter,
    Deployment.run_of_ok _ (sample_propose h₁ rfl), Deployment.run_of_ok _ (sample_propose h₂ rfl),
    Deployment.run_of_ok _ (hadvance _), Deployment.run_of_ok _ (sample_finalize rfl),
    Deployment.run_of_ok _ (sample_finalize rfl)]
  rfl

theorem leafOf_ne_zero : Settlement.leafOf 9 0 ≠ 0 ∧ Settlement.leafOf 9 5 ≠ 0 := by
  have hleaf : ∀ a b, Settlement.leafOf a b = _ := fun a b => by
    rw [Settlement.leafOf, keccak256_eval, keccak256_eval]
  rw [hleaf, hleaf]
  decide +kernel

/-- The chain before the second claim. -/
def sampleBaseline (root₁ root₂ : Bytes32) : Chain :=
  { sampleFinal root₁ root₂ with
    now := 100003
    settlement := (sampleFinal root₁ root₂).settlement.setBaseline 100000 1 9 0 }

-- the roots are variables here, so that nothing evaluates a digest

theorem run_sampleBaseline {root₁ root₂ : Bytes32} (h₁ : root₁ ≠ 0) (h₂ : root₂ ≠ 0)
    (hroot : MerkleProof.verify [] root₁ (Settlement.leafOf 9 0) = true) :
    sampleDeployment.run sampleChain (sampleBatches root₁ root₂ ++ sampleFirst)
      = sampleBaseline root₁ root₂ := by
  have hproof : MerkleProof.verify [] ((sampleFinal root₁ root₂).settlement.batches 1).merkleRoot
      (Settlement.leafOf 9 0) = true := hroot
  have hclaim :
    sampleDeployment.act (sampleFinal root₁ root₂) (.settlement 8 (.claimPayout 1 9 0 []))
      = .ok { sampleBaseline root₁ root₂ with now := 100000 } := by
    simp only [Deployment.act, Deployment.step, Deployment.settlementCall, Settlement.claimPayout,
      require_of hproof]
    rfl
  have hnow : (100000 : Word 64) ≤ 100003 := by decide
  have hadvance : sampleDeployment.act { sampleBaseline root₁ root₂ with now := 100000 }
      (.advance 100003) = .ok (sampleBaseline root₁ root₂) := Deployment.act_advance _ hnow
  rw [Deployment.run_append, run_sampleBatches h₁ h₂]
  rw [sampleFirst, Deployment.run_of_ok _ hclaim, Deployment.run_of_ok _ hadvance]
  rfl

theorem sample_claim (root₁ : Bytes32) {root₂ : Bytes32}
    (hroot : MerkleProof.verify [] root₂ (Settlement.leafOf 9 5) = true) :
    ∃ c, sampleDeployment.act (sampleBaseline root₁ root₂) (.settlement 8 (.claimPayout 2 9 5 []))
      = .ok c ∧ (sampleBaseline root₁ root₂).mintedSince c = 3 ∧ c.watermark 9 = 1 := by
  have hpay : ∃ g, Settlement.payClaim sampleDeployment.settlement 2 0 .new
      (sampleBaseline 0 0).goat 100003 8 2 9 3 = .ok (.new, g) ∧ g.totalSupply = 3 := ⟨_, rfl, rfl⟩
  obtain ⟨g, hpay, hsupply⟩ := hpay
  generalize hc : sampleBaseline root₁ root₂ = c
  have hrate : (c.settlement.batches 2).rate = 2 := by rw [← hc]; rfl
  have hmark : c.settlement.lastClaimedCumulative 9 = 0 := by rw [← hc]; rfl
  have hlast : c.settlement.lastClaimTime 9 = 100000 := by rw [← hc]; rfl
  have hcap : c.settlement.capPerDay = 86400 := by rw [← hc]; rfl
  have hpaid : Settlement.payClaim sampleDeployment.settlement 2 c.settlement.keeperFee c.escrow
      c.goat 100003 8 2 9 3 = .ok (.new, g) := by
    rw [← hc]
    exact hpay
  have hdelta : c.settlement.claimDelta sampleDeployment.settlement 2 c.escrow c.goat 100003 8 2 9 5
      = .ok (c.settlement.recordClaim 100003 2 9 1, .new, g) := by
    have h := Settlement.claimDelta_eq 5 3 (by rw [hlast]; decide)
      (by rw [hrate, hlast, hcap]; decide) (by rw [hrate]; decide)
        (by rw [hrate, hmark]; decide) hpaid
    rw [hrate, hmark] at h
    exact h
  have hclaim : c.settlement.claimPayout sampleDeployment.settlement 2 c.escrow c.goat c.registry
      c.bound 100003 8 2 9 5 [] = .ok (c.settlement.recordClaim 100003 2 9 1, .new, g) := by
    have hscore : c.settlement.lastClaimedCumulative 9 < (5 : Uint256).val := by
      rw [hmark]
      decide
    rw [← hc] at hdelta hscore ⊢
    rw [Settlement.claimPayout_eq rfl hroot rfl rfl rfl rfl hscore]
    exact hdelta
  have hnow : c.now.val = 100003 := by rw [← hc]; rfl
  have hstep : sampleDeployment.settlementCall c 8 (.claimPayout 2 9 5 [])
      = .ok ({ c with
               settlement := c.settlement.recordClaim 100003 2 9 1, escrow := .new, goat := g },
          .nothing) := by
    refine bind_ok.mpr ⟨(c.settlement.recordClaim 100003 2 9 1, .new, g), ?_, rfl⟩
    rw [hnow]
    exact hclaim
  refine ⟨_, bind_ok.mpr ⟨_, bind_ok.mpr ⟨(), require_of (by decide), hstep⟩, rfl⟩, ?_, ?_⟩
  · show g.totalSupply - c.goat.totalSupply = 3
    rw [hsupply, ← hc]
    rfl
  · exact Settlement.recordClaim_watermark ..

/-- **Three are minted for one unit of score, at a rate of two.** -/
theorem claim_exceeds_score : sampleChain.Fresh
    ∧ ¬ Runs.Guarded (attempt sampleDeployment.act) sampleDeployment.ClaimBounded sampleChain
        sampleCalls := by
  refine ⟨sampleChain_fresh, fun h => ?_⟩
  obtain ⟨h₁, h₂⟩ := leafOf_ne_zero
  obtain ⟨c, hact, hminted, hmark⟩ := sample_claim (Settlement.leafOf 9 0)
    (MerkleProof.verify_nil (Settlement.leafOf 9 5))
  have hlast := h (sampleBatches (Settlement.leafOf 9 0) (Settlement.leafOf 9 5) ++ sampleFirst)
    (.settlement 8 (.claimPayout 2 9 5 [])) (List.prefix_refl _) 8 2 9 5 [] c rfl
  rw [← Deployment.run, run_sampleBaseline h₁ h₂ (MerkleProof.verify_nil _)] at hlast
  have hle := hlast hact
  rw [hminted, hmark] at hle
  exact absurd hle (by decide)

end GoatCoin
