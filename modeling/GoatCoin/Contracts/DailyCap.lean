/-
# `GoatCoin.Contracts.DailyCap` — the daily cap over whole histories

A claim may mint what the cap allows for the time since the worker's last claim.
The allowances are floors of consecutive times, so together they are no more than
the floor of the whole:

    minted  ≤  ⌊cap · (last claim - baseline) / 1 day⌋        `Account.Capped`

The rest is the order of a worker's claims (`Account.Orderly`): the first sets the
baseline, an epoch mints once, the watermark does not fall, and it never passes a
score that one of the claims proved in a final batch (`ProvenScore`).
-/
import GoatCoin.Contracts.ClaimAudit

namespace GoatCoin

open Function (update update_self update_of_ne update_eq_self)
open Evm EpochSettlement

/-! ## The order of a worker's claims -/

namespace Audit

theorem step_worker {d : Deployment} {a a' : Audit} {k : ChainCall} (h : step d a k = .ok a')
    (worker : Address) :
    (a'.accounts worker = a.accounts worker
        ∧ a.chain.settlement.SameWorker worker a'.chain.settlement ∧ a.chain.now ≤ a'.chain.now)
      ∨ ∃ sender epoch score proof s e g,
        k = .settlement sender (.claimPayout epoch worker score proof)
        ∧ a'.accounts worker = (a.accounts worker).book epoch worker a.chain a'.chain
        ∧ a'.chain = { a.chain with settlement := s, escrow := e, goat := g }
        ∧ a.chain.settlement.Outcome d.settlement d.escrow.self a.chain.escrow a.chain.goat
            a.chain.registry a.chain.now.val sender epoch worker score.val s e g := by
  obtain ⟨handover, heffect, hrecord⟩ := step_ok h
  by_cases hclaim : ∃ sender epoch score proof,
      k = .settlement sender (.claimPayout epoch worker score proof)
  · obtain ⟨sender, epoch, score, proof, rfl⟩ := hclaim
    obtain ⟨-, -, -, s, e, g, hchain, hout⟩ := heffect.claim_cases
    refine .inr ⟨sender, epoch, score, proof, s, e, g, rfl, ?_, hchain, hout⟩
    rw [hrecord, record_claim]
  · refine .inl ⟨?_, (heffect.worker_cases worker).resolve_right hclaim, heffect.now_le⟩
    rw [hrecord]
    exact record_other
      (fun sender epoch score proof heq => hclaim ⟨sender, epoch, score, proof, heq⟩) _

end Audit

/-- What holds of a worker's account in every run. -/
structure Account.Orderly (worker : Address) (c : Chain) (x : Account) : Prop where
  first : x.claims = 0 → c.settlement.hasBaseline worker = false
  unmarked : ∀ epoch, c.settlement.claimed epoch worker = false → x.mints epoch = 0
  once : ∀ epoch, x.mints epoch ≤ 1
  before : c.settlement.hasBaseline worker = false →
    x.minted = 0 ∧ x.baselineAt = none ∧ c.watermark worker = 0
  since : c.settlement.hasBaseline worker = true → ∃ t, x.baselineAt = some t
    ∧ t ≤ c.settlement.lastClaimTime worker ∧ c.settlement.lastClaimTime worker ≤ c.now.val

namespace Account

section
variable {x : Account} {epoch : Uint256} {worker : Address} {c c' : Chain}

theorem book_unminted (x : Account) (epoch : Uint256) (worker : Address)
    (h : c.mintedSince c' = 0) :
    (x.book epoch worker c c').minted = x.minted ∧ (x.book epoch worker c c').mints = x.mints := by
  constructor
  · show x.minted + c.mintedSince c' = x.minted
    rw [h, Nat.add_zero]
  · show update x.mints epoch (x.mints epoch + _) = x.mints
    rw [if_pos h, Nat.add_zero, update_eq_self]

theorem book_mints (x : Account) (epoch : Uint256) (worker : Address)
    (h : c.mintedSince c' ≠ 0) :
    (x.book epoch worker c c').mints = update x.mints epoch (x.mints epoch + 1) := by
  show update x.mints epoch (x.mints epoch + _) = _
  rw [if_neg h]

theorem claimed_of_marked {claimed : Uint256 → Address → Bool} {epoch' : Uint256}
    (h : update claimed epoch (update (claimed epoch) worker true) epoch' worker
      = false) : epoch' ≠ epoch ∧ claimed epoch' worker = false := by
  rcases eq_or_ne epoch' epoch with rfl | hne
  · rw [update_self, update_self] at h
    cases h
  · rw [update_of_ne hne] at h
    exact ⟨hne, h⟩

theorem Orderly.frame (hx : x.Orderly worker c)
    (hsame : c.settlement.SameWorker worker c'.settlement) (hnow : c.now ≤ c'.now) :
    x.Orderly worker c' where
  first h := hsame.hasBaseline_eq.trans (hx.first h)
  unmarked epoch h := hx.unmarked epoch ((hsame.claimed_eq epoch).symm.trans h)
  once := hx.once
  before h := by
    obtain ⟨hminted, hnone, hmark⟩ := hx.before (hsame.hasBaseline_eq.symm.trans h)
    exact ⟨hminted, hnone, hsame.lastClaimedCumulative_eq.trans hmark⟩
  since h := by
    obtain ⟨t, ht, hlast, hle⟩ := hx.since (hsame.hasBaseline_eq.symm.trans h)
    rw [hsame.lastClaimTime_eq]
    exact ⟨t, ht, hlast, hle.trans hnow⟩

variable {d : Deployment} {sender : Address} {score : Nat} {s : Settlement} {e : Escrow} {g : Goat}

theorem Orderly.book (hx : x.Orderly worker c)
    (hout : c.settlement.Outcome d.settlement d.escrow.self c.escrow c.goat c.registry c.now.val
      sender epoch worker score s e g) :
    (x.book epoch worker c { c with settlement := s, escrow := e, goat := g }).Orderly worker
      { c with settlement := s, escrow := e, goat := g } := by
  have hcounted : x.claims + 1 ≠ 0 := Nat.succ_ne_zero _
  cases hout with
  | nothing _ =>
      have hzero : c.mintedSince c = 0 := Nat.sub_self _
      obtain ⟨hminted, hmints⟩ := book_unminted x epoch worker hzero
      have hbase : (x.book epoch worker c c).baselineAt = x.baselineAt := if_pos rfl
      refine ⟨fun h => absurd h hcounted, ?_, ?_, ?_, ?_⟩
      · intro ep h
        exact (congrFun hmints ep).trans (hx.unmarked ep h)
      · intro ep
        exact (congrFun hmints ep).trans_le (hx.once ep)
      · intro h
        obtain ⟨hold, hnone, hmark⟩ := hx.before h
        exact ⟨hminted.trans hold, hbase.trans hnone, hmark⟩
      · intro h
        obtain ⟨t, ht, hrest⟩ := hx.since h
        exact ⟨t, hbase.trans ht, hrest⟩
  | baseline hbase hnew =>
      have hset :
        (c.settlement.setBaseline c.now.val epoch worker score).hasBaseline worker = true :=
        update_self ..
      have htime : (c.settlement.setBaseline c.now.val epoch worker score).lastClaimTime worker
          = c.now.val := update_self ..
      have hzero : c.mintedSince
          { c with settlement := c.settlement.setBaseline c.now.val epoch worker score } = 0 :=
        Nat.sub_self _
      obtain ⟨-, hmints⟩ := book_unminted x epoch worker hzero
      refine ⟨fun h => absurd h hcounted, ?_, ?_, ?_, ?_⟩
      · intro ep h
        exact (congrFun hmints ep).trans (hx.unmarked ep (claimed_of_marked h).2)
      · intro ep
        exact (congrFun hmints ep).trans_le (hx.once ep)
      · intro h
        exact Bool.noConfusion (hset.symm.trans h)
      · intro _
        refine ⟨c.now.val, if_neg ?_, htime.ge, htime.le⟩
        rw [hbase, hset]
        rintro ⟨⟩
  | minted _ hbase hnew hscore htime hunit hpay =>
      have hpos : ∀ s, c.mintedSince { c with settlement := s, escrow := e, goat := g } ≠ 0 := by
        intro s hzero
        rw [mintedSince_minted hpay] at hzero
        rw [hzero, Nat.zero_div] at hunit
        exact hunit rfl
      have hmints := fun s => book_mints x epoch worker (hpos s)
      have hlast : ∀ n, (c.settlement.recordClaim c.now.val epoch worker n).lastClaimTime worker
          = c.now.val := fun n => update_self ..
      obtain ⟨t, ht, hle, hnow⟩ := hx.since hbase
      refine ⟨fun h => absurd h hcounted, ?_, ?_, ?_, ?_⟩
      · intro ep h
        obtain ⟨hne, hold⟩ := claimed_of_marked h
        rw [hmints, update_of_ne hne]
        exact hx.unmarked ep hold
      · intro ep
        rw [hmints]
        rcases eq_or_ne ep epoch with rfl | hne
        · rw [update_self, hx.unmarked ep hnew]
        · rw [update_of_ne hne]
          exact hx.once ep
      · intro h
        exact Bool.noConfusion (hbase.symm.trans h)
      · intro _
        exact ⟨t, (if_pos rfl).trans ht, (hle.trans hnow).trans (hlast _).ge, (hlast _).le⟩

/-! ## The daily cap -/

/-- What was minted up to the last claim is within the cap since the baseline. -/
def Capped (cap : Nat) (worker : Address) (c : Chain) (x : Account) : Prop :=
  ∀ t, x.baselineAt = some t → x.minted ≤ cap * (c.settlement.lastClaimTime worker - t) / 86400

theorem Capped.frame {cap : Nat} (hx : x.Capped cap worker c)
    (hsame : c.settlement.SameWorker worker c'.settlement) : x.Capped cap worker c' := by
  intro t ht
  rw [hsame.lastClaimTime_eq]
  exact hx t ht

theorem maxGoat_eq {cap elapsed : Nat} (hcap : 0 < cap) (hfits : cap * elapsed < 2 ^ 256) :
    Settlement.maxGoat cap elapsed = cap * elapsed / 86400 := by
  unfold Settlement.maxGoat
  rw [if_neg hcap.ne']
  split
  · rename_i hzero
    rw [hzero, Nat.mul_zero, Nat.zero_div]
  · rename_i hpos
    have hle : cap * elapsed ≤ maxUint256 := by
      unfold maxUint256
      omega
    rw [if_neg]
    exact Nat.not_lt.mpr ((Nat.le_div_iff_mul_le (Nat.pos_of_ne_zero hpos)).mpr hle)

/-- The allowances of consecutive times add up to no more than that of the whole time. -/
theorem allowance_add {cap t last now minted amount : Nat} (hlast : t ≤ last) (hnow : last ≤ now)
    (hminted : minted ≤ cap * (last - t) / 86400) (hamount : amount ≤ cap * (now - last) / 86400) :
    minted + amount ≤ cap * (now - t) / 86400 := by
  have hsplit : cap * (last - t) + cap * (now - last) = cap * (now - t) := by
    rw [← Nat.mul_add]
    congr 1
    omega
  calc minted + amount
      ≤ cap * (last - t) / 86400 + cap * (now - last) / 86400 := Nat.add_le_add hminted hamount
    _ ≤ (cap * (last - t) + cap * (now - last)) / 86400 := Nat.div_add_div_le_add_div ..
    _ = cap * (now - t) / 86400 := by rw [hsplit]

theorem Capped.book {cap : Nat} (hcap : 0 < cap) (hconst : c.settlement.capPerDay = cap)
    (hfits : c.settlement.hasBaseline worker = true →
      cap * (c.now.val - c.settlement.lastClaimTime worker) < 2 ^ 256)
    (horderly : x.Orderly worker c) (hx : x.Capped cap worker c)
    (hout : c.settlement.Outcome d.settlement d.escrow.self c.escrow c.goat c.registry c.now.val
      sender epoch worker score s e g) :
    (x.book epoch worker c { c with settlement := s, escrow := e, goat := g }).Capped cap worker
      { c with settlement := s, escrow := e, goat := g } := by
  intro t ht
  cases hout with
  | nothing _ =>
      have hzero : c.mintedSince c = 0 := Nat.sub_self _
      have hbase : (x.book epoch worker c c).baselineAt = x.baselineAt := if_pos rfl
      exact (book_unminted x epoch worker hzero).1.trans_le (hx t (hbase.symm.trans ht))
  | baseline hbase hnew =>
      have hzero : c.mintedSince
          { c with settlement := c.settlement.setBaseline c.now.val epoch worker score } = 0 :=
        Nat.sub_self _
      have hminted := (book_unminted x epoch worker hzero).1.trans (horderly.before hbase).1
      exact hminted.trans_le (Nat.zero_le _)
  | minted _ hbase hnew hscore htime hunit hpay =>
      obtain ⟨t', ht', hlast, hnow⟩ := horderly.since hbase
      have hsome : some t' = some t := ht'.symm.trans ((if_pos rfl).symm.trans ht)
      obtain rfl := Option.some.inj hsome
      have hclock : ∀ n, (c.settlement.recordClaim c.now.val epoch worker n).lastClaimTime worker
          = c.now.val := fun n => update_self ..
      have hamount : c.settlement.goatAmount c.now.val epoch worker score
          ≤ cap * (c.now.val - c.settlement.lastClaimTime worker) / 86400 := by
        rw [← maxGoat_eq hcap (hfits hbase), ← hconst]
        exact Nat.min_le_right ..
      show x.minted + c.mintedSince _
        ≤ cap * ((c.settlement.recordClaim c.now.val epoch worker _).lastClaimTime worker - t')
        / 86400
      rw [mintedSince_minted hpay, hclock]
      exact allowance_add hlast hnow (hx t' ht') hamount

end

end Account

/-! ## Whole histories -/

namespace Chain

/-- `cap * elapsed` stays below `2^256` at a claim of a worker with a baseline. -/
def CapInRange (cap : Nat) (c : Chain) (k : ChainCall) : Prop :=
  ∀ sender epoch worker score proof,
    k = .settlement sender (.claimPayout epoch worker score proof) →
    c.settlement.hasBaseline worker = true →
    cap * (c.now.val - c.settlement.lastClaimTime worker) < 2 ^ 256

end Chain

section
variable {d : Deployment} {c : Chain} {worker : Address}

theorem Chain.Fresh.orderly (h : c.Fresh) (worker : Address) : Account.empty.Orderly worker c := by
  obtain ⟨_, _, _, _, _, _, _, hnew⟩ := h.settlement_new
  obtain ⟨-, -, -, -, hnew⟩ := bind_ok₂.mp hnew
  have hbase : c.settlement.hasBaseline worker = false := by
    rw [← Except.ok.inj hnew]
  have hmark : c.watermark worker = 0 := by
    rw [Chain.watermark, ← Except.ok.inj hnew]
  refine ⟨fun _ => hbase, fun _ _ => rfl, fun _ => Nat.zero_le _, fun _ => ⟨rfl, rfl, hmark⟩,
    fun h => ?_⟩
  exact Bool.noConfusion (hbase.symm.trans h)

variable {a : Audit} {k : ChainCall} {ks : List ChainCall}

theorem Audit.attempt_orderly (ha : (a.accounts worker).Orderly worker a.chain)
    (k : ChainCall) :
    ((attempt (Audit.step d) a k).accounts worker).Orderly worker
      (attempt (Audit.step d) a k).chain := by
  refine attempt_preserves (I := fun a => (a.accounts worker).Orderly worker a.chain) ?_ a k ha
  intro a k a' ha h
  rcases Audit.step_worker h worker with ⟨hacc, hsame, hnow⟩
    | ⟨_, _, _, _, s, e, g, -, hacc, hchain, hout⟩
  · rw [hacc]
    exact ha.frame hsame hnow
  · rw [hacc, hchain]
    exact ha.book hout

theorem Audit.attempt_capped {cap : Nat} (hcap : 0 < cap)
    (hconst : a.chain.settlement.capPerDay = cap) (hfits : a.chain.CapInRange cap k)
    (horderly : (a.accounts worker).Orderly worker a.chain)
    (ha : (a.accounts worker).Capped cap worker a.chain) :
    ((attempt (Audit.step d) a k).accounts worker).Capped cap worker
      (attempt (Audit.step d) a k).chain := by
  rcases attempt_cases (Audit.step d) a k with ⟨h, -⟩ | h
  · rw [h]
    exact ha
  rcases Audit.step_worker h worker with
    ⟨hacc, hsame, -⟩ | ⟨sender, epoch, score, proof, s, e, g, hk, hacc, hchain, hout⟩
  · rw [hacc]
    exact ha.frame hsame
  · rw [hacc, hchain]
    exact ha.book hcap hconst (hfits sender epoch worker score proof hk) horderly hout

theorem Audit.run_orderly (d : Deployment) (worker : Address) (hc : c.Fresh) (ks : List ChainCall) :
    ((Audit.run d c ks).accounts worker).Orderly worker (Audit.run d c ks).chain :=
  Runs.invariant (I := fun a : Audit => (a.accounts worker).Orderly worker a.chain)
    (fun _ k ha => Audit.attempt_orderly ha k) ks _ (hc.orderly worker)

theorem Audit.run_capped (d : Deployment) (worker : Address) {cap : Nat}
    (hcap : 0 < cap) (hc : c.Fresh)
    (hconst : Runs.Throughout (attempt d.act) (fun c => c.settlement.capPerDay = cap) c ks)
    (hfits : Runs.Guarded (attempt d.act) (Chain.CapInRange cap) c ks) :
    ((Audit.run d c ks).accounts worker).Capped cap worker (Audit.run d c ks).chain := by
  induction ks using List.reverseRecOn with
  | nil => intro t ht; cases ht
  | append_singleton ks k ih =>
      have hpre : ks <+: ks ++ [k] := List.prefix_append ks [k]
      have hbefore := ih (fun before hb => hconst before (hb.trans hpre))
        (fun before k' hb => hfits before k' (hb.trans hpre))
      have hcap' := hconst ks hpre
      have hfits' := hfits ks k (List.prefix_refl _)
      rw [← Deployment.run, ← Audit.run_chain] at hcap' hfits'
      rw [Audit.run, Runs.foldl_snoc]
      exact Audit.attempt_capped hcap hcap' hfits' (Audit.run_orderly d worker hc ks) hbefore

/-! ## The watermark -/

theorem watermark_mono {c' : Chain} (h : d.act c k = .ok c')
    (hbase : c.settlement.hasBaseline worker = true) :
    c'.settlement.hasBaseline worker = true ∧ c.watermark worker ≤ c'.watermark worker := by
  obtain ⟨handover, hstep⟩ := d.act_ok h
  have heffect := Deployment.step_effect hstep
  rcases heffect.worker_cases worker with hsame | ⟨sender, epoch, score, proof, rfl⟩
  · exact ⟨hsame.hasBaseline_eq.trans hbase, hsame.lastClaimedCumulative_eq.ge⟩
  · obtain ⟨-, -, -, s, e, g, rfl, hout⟩ := heffect.claim_cases
    cases hout with
    | nothing _ => exact ⟨hbase, le_rfl⟩
    | baseline hnone _ => exact Bool.noConfusion (hnone.symm.trans hbase)
    | minted _ _ _ _ _ _ _ =>
        refine ⟨hbase, ?_⟩
        show _ ≤ (c.settlement.recordClaim c.now.val epoch worker _).lastClaimedCumulative worker
        rw [Settlement.recordClaim_watermark]
        exact Nat.le_add_right ..

theorem watermark_mono_run (hbase : c.settlement.hasBaseline worker = true) (ks : List ChainCall) :
    (d.run c ks).settlement.hasBaseline worker = true
      ∧ c.watermark worker ≤ (d.run c ks).watermark worker := by
  refine Runs.invariant (I := fun c' : Chain => c'.settlement.hasBaseline worker = true
    ∧ c.watermark worker ≤ c'.watermark worker) ?_ ks c ⟨hbase, le_rfl⟩
  intro c₁ k hc₁
  refine attempt_preserves (I := fun c' : Chain => c'.settlement.hasBaseline worker = true
    ∧ c.watermark worker ≤ c'.watermark worker) ?_ c₁ k hc₁
  intro c₁ k c₂ hc₁ hact
  obtain ⟨hbase', hle⟩ := watermark_mono hact hc₁.1
  exact ⟨hbase', hc₁.2.trans hle⟩

/-- The watermark is within a score that one of the claims proved in a final batch. -/
def ProvenScore (worker : Address) (ks : List ChainCall) (c : Chain) : Prop :=
  ∃ sender epoch score proof, .settlement sender (.claimPayout epoch worker score proof) ∈ ks
    ∧ (c.settlement.batches epoch).status = .finalized
    ∧ MerkleProof.verify proof (c.settlement.batches epoch).merkleRoot
        (Settlement.leafOf worker score) = true
    ∧ c.watermark worker ≤ score.val

theorem ProvenScore.frame {c' : Chain} {handover : Handover}
    (h : ProvenScore worker ks c) (heffect : d.Effect c k c' handover)
    (hmark : c'.watermark worker = c.watermark worker) : ProvenScore worker (ks ++ [k]) c' := by
  obtain ⟨sender, epoch, score, proof, hmem, hfinal, hproof, hle⟩ := h
  refine ⟨sender, epoch, score, proof, List.mem_append_left _ hmem, ?_, ?_, hmark.trans_le hle⟩
  · rw [heffect.finalized_batch hfinal]
    exact hfinal
  · rw [heffect.finalized_batch hfinal]
    exact hproof

theorem goatAmount_div_le (s : Settlement) (now : Nat) (epoch : Uint256) (worker : Address)
    (score : Nat) (hscore : s.lastClaimedCumulative worker < score) :
    s.lastClaimedCumulative worker + s.goatAmount now epoch worker score / (s.batches epoch).rate
      ≤ score := by
  have hdiv : s.goatAmount now epoch worker score / (s.batches epoch).rate
      ≤ score - s.lastClaimedCumulative worker := by
    refine Nat.div_le_of_le_mul ?_
    rw [s.goatAmount_eq, Nat.mul_comm]
    exact Nat.min_le_left ..
  omega

theorem ProvenScore.step {c' : Chain}
    (h : c.settlement.hasBaseline worker = true → ProvenScore worker ks c)
    (hact : d.act c k = .ok c')
    (hbase : c'.settlement.hasBaseline worker = true) : ProvenScore worker (ks ++ [k]) c' := by
  obtain ⟨handover, hstep⟩ := d.act_ok hact
  have heffect := Deployment.step_effect hstep
  rcases heffect.worker_cases worker with hsame | ⟨sender, epoch, score, proof, rfl⟩
  · have hold := hsame.hasBaseline_eq.symm.trans hbase
    exact (h hold).frame heffect hsame.lastClaimedCumulative_eq
  · obtain ⟨-, hfinal, hproof, s, e, g, rfl, hout⟩ := heffect.claim_cases
    have hnew : .settlement sender (.claimPayout epoch worker score proof)
        ∈ ks ++ [.settlement sender (.claimPayout epoch worker score proof)] :=
      List.mem_append_right _ (List.mem_singleton_self _)
    cases hout with
    | nothing _ => exact (h hbase).frame heffect rfl
    | baseline _ _ =>
        refine ⟨sender, epoch, score, proof, hnew, hfinal, hproof, ?_⟩
        exact (update_self ..).le
    | minted _ _ _ hscore _ _ _ =>
        refine ⟨sender, epoch, score, proof, hnew, hfinal, hproof, ?_⟩
        show (c.settlement.recordClaim c.now.val epoch worker _).lastClaimedCumulative worker ≤ _
        rw [Settlement.recordClaim_watermark]
        exact goatAmount_div_le _ _ _ _ _ hscore

theorem provenScore_run (hc : c.settlement.hasBaseline worker = false) (ks : List ChainCall) :
    (d.run c ks).settlement.hasBaseline worker = true → ProvenScore worker ks (d.run c ks) := by
  induction ks using List.reverseRecOn with
  | nil =>
      intro hbase
      exact Bool.noConfusion (hc.symm.trans hbase)
  | append_singleton ks k ih =>
      rw [Deployment.run, Runs.foldl_snoc, ← Deployment.run]
      rcases attempt_cases d.act (d.run c ks) k with ⟨h, -⟩ | h
      · rw [h]
        intro hbase
        obtain ⟨sender, epoch, score, proof, hmem, hrest⟩ := ih hbase
        exact ⟨sender, epoch, score, proof, List.mem_append_left _ hmem, hrest⟩
      · exact ProvenScore.step ih h

theorem first_mints_nothing {c' : Chain} {sender : Address} {epoch : Uint256}
    {score : Uint256} {proof : List Bytes32} (ha : (a.accounts worker).Orderly worker a.chain)
    (hfirst : (a.accounts worker).claims = 0)
    (hact : d.act a.chain (.settlement sender (.claimPayout epoch worker score proof)) = .ok c') :
    a.chain.mintedSince c' = 0 := by
  obtain ⟨handover, hstep⟩ := d.act_ok hact
  obtain ⟨-, -, -, s, e, g, rfl, hout⟩ := (Deployment.step_effect hstep).claim_cases
  cases hout with
  | nothing _ => exact Nat.sub_self _
  | baseline _ _ => exact Nat.sub_self _
  | minted _ hbase _ _ _ _ _ => exact Bool.noConfusion ((ha.first hfirst).symm.trans hbase)

end

/-- **The daily cap over a history.**  While the cap is a constant and its products stay in
range: what was minted for a worker is within the cap since the baseline; the first claim
mints nothing; the watermark does not fall once it is set, and is within a proven score;
and an epoch mints at most once. -/
theorem daily_cap (d : Deployment) {start : Chain} (hstart : start.Fresh) {cap : Nat}
    (hcap : 0 < cap) (ks : List ChainCall)
    (hconst : Runs.Throughout (attempt d.act) (fun c => c.settlement.capPerDay = cap) start ks)
    (hfits : Runs.Guarded (attempt d.act) (Chain.CapInRange cap) start ks) (worker : Address) :
    (∀ t, ((Audit.run d start ks).accounts worker).baselineAt = some t →
        ((Audit.run d start ks).accounts worker).minted
          ≤ cap * ((d.run start ks).now.val - t) / 86400)
      ∧ (((Audit.run d start ks).accounts worker).baselineAt = none →
        ((Audit.run d start ks).accounts worker).minted = 0)
      ∧ (∀ before sender epoch score proof c',
        before ++ [.settlement sender (.claimPayout epoch worker score proof)] <+: ks →
        ((Audit.run d start before).accounts worker).claims = 0 →
        d.act (d.run start before) (.settlement sender (.claimPayout epoch worker score proof))
          = .ok c' →
        (d.run start before).mintedSince c' = 0)
      ∧ (∀ before, before <+: ks → (d.run start before).settlement.hasBaseline worker = true →
        (d.run start before).watermark worker ≤ (d.run start ks).watermark worker)
      ∧ ((d.run start ks).watermark worker = 0 ∨ ProvenScore worker ks (d.run start ks))
      ∧ ∀ epoch, ((Audit.run d start ks).accounts worker).mints epoch ≤ 1 := by
  have horderly := Audit.run_orderly d worker hstart ks
  have hcapped := Audit.run_capped d worker hcap hstart hconst hfits
  rw [Audit.run_chain] at horderly hcapped
  refine ⟨?_, ?_, ?_, ?_, ?_, horderly.once⟩
  · intro t ht
    have hbase : (d.run start ks).settlement.hasBaseline worker = true := by
      refine Bool.eq_true_of_not_eq_false fun hnone => ?_
      exact absurd (ht.symm.trans (horderly.before hnone).2.1) nofun
    obtain ⟨t', ht', hlast, hnow⟩ := horderly.since hbase
    refine (hcapped t ht).trans (Nat.div_le_div_right (Nat.mul_le_mul_left cap ?_))
    exact Nat.sub_le_sub_right hnow t
  · intro hnone
    refine (horderly.before (Bool.eq_false_iff.mpr fun hbase => ?_)).1
    obtain ⟨t, ht, -⟩ := horderly.since hbase
    exact absurd (ht.symm.trans hnone) nofun
  · intro before sender epoch score proof c' _ hfirst hact
    have hbefore := Audit.run_orderly d worker hstart before
    rw [← Audit.run_chain] at hact ⊢
    exact first_mints_nothing hbefore hfirst hact
  · intro before hpre hbase
    obtain ⟨rest, rfl⟩ := hpre
    rw [d.run_append]
    exact (watermark_mono_run hbase rest).2
  · by_cases hbase : (d.run start ks).settlement.hasBaseline worker = true
    · have hnone : start.settlement.hasBaseline worker = false := (hstart.orderly worker).first rfl
      exact .inr (provenScore_run hnone ks hbase)
    · exact .inl (horderly.before (Bool.eq_false_iff.mpr hbase)).2.2

theorem capPerDay_kept {d : Deployment} {c c' : Chain} {k : ChainCall}
    (hk : ∀ sender v, k ≠ .settlement sender (.setParam (.capPerDay v))) (h : d.act c k = .ok c') :
    c'.settlement.capPerDay = c.settlement.capPerDay := by
  obtain ⟨handover, hstep⟩ := d.act_ok h
  cases Deployment.step_effect hstep with
  | elsewhere hs _ _ _ _ => rw [hs]
  | turn _ _ _ => rfl
  | claim _ _ _ hout =>
      cases hout with
      | nothing _ => rfl
      | baseline _ _ => rfl
      | minted _ _ _ _ _ _ _ => rfl
  | @param sender p s hs =>
      cases p <;> obtain ⟨-, -, hs⟩ := bind_ok.mp hs
      case capPerDay v _ => exact absurd rfl (hk sender v)
      case rate => obtain ⟨-, -, hs⟩ := bind_ok.mp hs; cases hs; rfl
      case resolver => obtain ⟨-, -, hs⟩ := bind_ok.mp hs; cases hs; rfl
      case watcher => obtain ⟨-, -, hs⟩ := bind_ok.mp hs; cases hs; rfl
      all_goals cases hs; rfl

theorem capPerDay_throughout {d : Deployment} {c : Chain} {ks : List ChainCall}
    (hks : ∀ k ∈ ks, ∀ sender v, k ≠ .settlement sender (.setParam (.capPerDay v))) :
    Runs.Throughout (attempt d.act) (fun c' => c'.settlement.capPerDay = c.settlement.capPerDay) c
      ks := by
  intro before hbefore
  induction before using List.reverseRecOn with
  | nil => rfl
  | append_singleton before k ih =>
      have hprev := ih ((List.prefix_append before [k]).trans hbefore)
      have hmem : k ∈ ks := hbefore.subset (List.mem_append_right _ (List.mem_singleton_self k))
      rw [Runs.foldl_snoc]
      rcases attempt_cases d.act (before.foldl (attempt d.act) c) k with ⟨h, -⟩ | h
      · rw [h]
        exact hprev
      · exact (capPerDay_kept (hks k hmem) h).trans hprev

/-- The history of the two claims. -/
theorem daily_cap_sample : sampleChain.Fresh
    ∧ ∀ t, ((Audit.run sampleDeployment sampleChain sampleCalls).accounts 9).baselineAt = some t →
      ((Audit.run sampleDeployment sampleChain sampleCalls).accounts 9).minted
        ≤ 86400 * ((sampleDeployment.run sampleChain sampleCalls).now.val - t) / 86400 := by
  have hconst : ∀ k ∈ sampleCalls, ∀ sender v,
    k ≠ .settlement sender (.setParam (.capPerDay v)) := by
    intro k hk sender v
    simp only [sampleCalls, sampleBatches, sampleFirst, List.cons_append, List.nil_append,
      List.mem_cons, List.not_mem_nil, or_false] at hk
    rcases hk with rfl | rfl | rfl | rfl | rfl | rfl | rfl | rfl | rfl <;> rintro ⟨⟩
  have hfits : Runs.Guarded (attempt sampleDeployment.act) (Chain.CapInRange 86400) sampleChain
      sampleCalls := by
    intro before k _ sender epoch worker score proof _ _
    have hnow := (before.foldl (attempt sampleDeployment.act) sampleChain).now.isLt
    omega
  exact ⟨sampleChain_fresh, (daily_cap sampleDeployment sampleChain_fresh (by decide) sampleCalls
    (capPerDay_throughout hconst) hfits 9).1⟩

end GoatCoin
