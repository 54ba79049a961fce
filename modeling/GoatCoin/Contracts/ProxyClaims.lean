/-
# `GoatCoin.Contracts.ProxyClaims` — who can still be paid out of a batch

A batch is claimed between the moment it is final and the end of its claim window,
and swept after:

    claim        now ≤ proposedAt + challengeWindow + claimWindow
    sweep        now > proposedAt + challengeWindow + claimWindow

While the window is open nothing but the take and the claims has left the epoch,

    goatClaimed + reserveHeld   =   10 % of gross + claimedGoatWei

so claims of at most 90 % of gross do not get in each other's way, whatever else is
called in between (`order_free_claims`).

All windows run from the proposal.  A challenge is decided after the challenge window,
if at all, so it uses up the claim window: a batch whose challenge was decided late is
final with its claim window closed (`late_claim_iff`).
-/
import GoatCoin.Contracts.ProxyDocket

namespace GoatCoin

open Function (update update_self update_of_ne)
open Evm ProxyRevenueSettlement

/-! ## The take -/

theorem takeOf_ok {gross : Nat} {x : Take} (h : takeOf gross = .ok x) :
    gross * takeBps < 2 ^ 256 ∧ x.takeGoatWei = gross * takeBps / bpsDenom
      ∧ x.toTreasury + x.toAttestor + x.toReserve = gross * takeBps / bpsDenom := by
  obtain ⟨take, htake, h⟩ := bind_ok.mp h
  obtain ⟨hlt, rfl⟩ := checked_ok.mp htake
  obtain ⟨treasury, -, attestor, -, rest, hrest, h⟩ := bind_ok₃.mp h
  obtain ⟨htreasury, rfl⟩ := checkedSub_ok.mp hrest
  obtain ⟨toReserve, hreserve, h⟩ := bind_ok.mp h
  obtain ⟨hattestor, rfl⟩ := checkedSub_ok.mp hreserve
  cases h
  refine ⟨hlt, rfl, ?_⟩
  dsimp only
  omega

theorem takeOf_of_lt {gross : Nat} (h : gross * takeBps < 2 ^ 256) : ∃ x, takeOf gross = .ok x := by
  have htreasury : gross * treasuryBps ≤ gross * takeBps := Nat.mul_le_mul_left _ (by decide)
  have hattestor : gross * attestorBps ≤ gross * takeBps := Nat.mul_le_mul_left _ (by decide)
  have hfirst : gross * treasuryBps / bpsDenom ≤ gross * takeBps / bpsDenom :=
    Nat.div_le_div_right htreasury
  have hsecond : gross * attestorBps / bpsDenom
      ≤ gross * takeBps / bpsDenom - gross * treasuryBps / bpsDenom := by
    unfold takeBps treasuryBps attestorBps bpsDenom
    omega
  exact ⟨_,
    bind_ok₃.mpr ⟨_, checked_ok.mpr ⟨h, rfl⟩, _, checked_ok.mpr ⟨htreasury.trans_lt h, rfl⟩, _,
    checked_ok.mpr ⟨hattestor.trans_lt h, rfl⟩, bind_ok₂.mpr ⟨_, checkedSub_ok.mpr ⟨hfirst, rfl⟩, _,
    checkedSub_ok.mpr ⟨hsecond, rfl⟩, rfl⟩⟩⟩

theorem take_add_share_le (gross : Nat) :
    gross * takeBps / bpsDenom + gross * operatorBps / bpsDenom ≤ gross := by
  unfold takeBps operatorBps bpsDenom
  omega

/-! ## What has left an epoch -/

namespace EpochView

/-- What always holds of an epoch: nothing leaves it before its batch is final, and while the batch
can be claimed nothing has left it but the take and the claims. -/
structure Sound (now : Nat) (v : EpochView) : Prop where
  untouched : v.batch.status ≠ .finalized → v.funding.goatClaimed = 0 ∧ v.funding.reserveHeld = 0
    ∧ v.batch.claimedGoatWei = 0 ∧ ∀ operator, v.claimed operator = false
  covered : v.batch.status = .finalized → v.batch.grossGoatWei ≤ v.funding.goatFunded
  spent : v.batch.status = .finalized → now ≤ v.batch.claimEnd →
    v.funding.goatClaimed + v.funding.reserveHeld
      = v.batch.grossGoatWei * takeBps / bpsDenom + v.batch.claimedGoatWei

variable {c : ProxyChain} {epochId : Uint256} {v v' : EpochView} {k : ProxyCall} {now now' : Nat}

theorem Sound.later (h : v.Sound now) (hle : now ≤ now') : v.Sound now' :=
  ⟨h.untouched, h.covered, fun hs hopen => h.spent hs (hle.trans hopen)⟩

theorem Sound.unfinal {b : Batch} (h : v.Sound now) (hs : v.batch.status ≠ .finalized)
    (hb : b.status ≠ .finalized) (hclaimed : b.claimedGoatWei = 0) :
    Sound now { v with batch := b } := by
  obtain ⟨hout, hreserve, -, hnobody⟩ := h.untouched hs
  exact ⟨fun _ => ⟨hout, hreserve, hclaimed, hnobody⟩, fun hfinal => absurd hfinal hb,
    fun hfinal => absurd hfinal hb⟩

theorem Sound.step (h : v.Sound c.now.val) (hstep : EpochStep c epochId v k v') :
    v'.Sound c.now.val := by
  cases hstep with
  | same _ => exact h
  | inflow => exact ⟨h.untouched, h.covered, h.spent⟩
  | fund => exact ⟨h.untouched, fun hs => (h.covered hs).trans (Nat.le_add_right _ _), h.spent⟩
  | propose hs =>
      refine h.unfinal ?_ nofun rfl
      rw [hs]
      exact nofun
  | challenge hs _ _ =>
      have hne : v.batch.status ≠ .finalized := by
        rw [hs]
        exact nofun
      exact h.unfinal hne nofun (h.untouched hne).2.2.1
  | resolve proposerWon hs =>
      have hne : v.batch.status ≠ .finalized := by
        rw [hs]
        exact nofun
      refine h.unfinal hne ?_ (h.untouched hne).2.2.1
      cases proposerWon with
      | true => exact nofun
      | false => exact nofun
  | timeout hs _ =>
      have hne : v.batch.status ≠ .finalized := by
        rw [hs]
        exact nofun
      exact h.unfinal hne nofun (h.untouched hne).2.2.1
  | reset hs =>
      refine h.unfinal ?_ nofun rfl
      rw [hs]
      exact nofun
  | finalize hripe hfunded hx =>
      obtain ⟨hout, hreserve, hclaimed, -⟩ := h.untouched hripe.unfinal
      obtain ⟨-, -, hsum⟩ := takeOf_ok hx
      refine ⟨fun hs => absurd rfl hs, fun _ => hfunded, fun _ _ => ?_⟩
      show v.funding.goatClaimed + _ + (v.funding.reserveHeld + _) = _ + v.batch.claimedGoatWei
      rw [hout, hreserve, hclaimed, Nat.zero_add, Nat.zero_add, Nat.add_zero]
      exact hsum
  | claim hs hopen hclaimed hproof =>
      refine ⟨fun hne => absurd hs hne, h.covered, fun _ hopen => ?_⟩
      have hspent := h.spent hs hopen
      show v.funding.goatClaimed + _ + v.funding.reserveHeld
        = v.batch.grossGoatWei * takeBps / bpsDenom + (v.batch.claimedGoatWei + _)
      omega
  | sweep hs hclosed =>
      exact ⟨fun hne => absurd hs hne, h.covered,
        fun _ hopen => absurd hopen (Nat.not_le.mpr hclosed)⟩

end EpochView

namespace ProxyChain

variable {d : ProxySite} {c c' : ProxyChain}

theorem Fresh.view_eq (h : c.Fresh d) (epochId : Uint256) :
    c.view epochId = ⟨.empty, .empty, fun _ => false⟩ := by
  obtain ⟨-, -, hnew⟩ := bind_ok.mp h.pool_new
  unfold view
  rw [← Except.ok.inj hnew]

theorem view_sound_run (h : c.Fresh d) (ks : List ProxyCall) (epochId : Uint256) :
    ((d.run c ks).view epochId).Sound (d.run c ks).now.val := by
  refine Runs.invariant (I := fun c : ProxyChain => (c.view epochId).Sound c.now.val)
    (fun s k hs => ?_) ks c ?_
  · refine attempt_preserves (I := fun c : ProxyChain => (c.view epochId).Sound c.now.val)
      (fun s k s' hs hok => ?_) s k hs
    obtain ⟨hstep, hnow⟩ := ProxySite.act_epoch hok epochId
    exact (hs.step hstep).later hnow
  · rw [h.view_eq]
    exact ⟨fun _ => ⟨rfl, rfl, rfl, fun _ => rfl⟩, nofun, nofun⟩

end ProxyChain

/-! ## When a claim goes through -/

namespace Accounts

variable {a : Accounts} {epochId : Uint256}

theorem Sound.within (h : a.Sound) {amount : Nat}
    (hleft : (a.fundingOf epochId).goatClaimed + amount + (a.fundingOf epochId).reserveHeld
      ≤ (a.fundingOf epochId).goatFunded) :
    a.totalClaimed + amount + a.reserveHeld ≤ a.totalFunded ∧ amount ≤ a.held := by
  have hsum := h.sum_left
  have hreserve := h.reserve_le
  have hepoch : amount ≤ left (a.fundingOf epochId) := by
    unfold left
    omega
  have hall := hepoch.trans (le_sum (fun i => left (a.fundingOf i)) epochId)
  refine ⟨?_, hall.trans (Nat.le_add_right _ _)⟩
  generalize ∑ i, left (a.fundingOf i) = rest at hsum hall
  generalize ∑ i, (a.fundingOf i).reserveHeld = reserves at hsum hreserve
  omega

end Accounts

namespace ProxyChain

variable {d : ProxySite} {c c' : ProxyChain} {epochId : Uint256} {operator sender : Address}
  {totalBytes payout : Uint256} {proof : List Bytes32}

/-- A claim that an operator can make, in the state of the pool. -/
structure Claimable (c : ProxyChain) (epochId : Uint256) (operator : Address)
    (totalBytes payout : Uint256) (proof : List Bytes32) : Prop where
  root_ne_zero : (c.pool.batchOf epochId).root ≠ 0
  unclaimed : c.pool.claimed epochId operator = false
  payout_ne_zero : payout ≠ 0
  enrolled : c.enrolled operator = true
  proved : MerkleProof.verify proof (c.pool.batchOf epochId).root
    (leafOf operator epochId totalBytes payout) = true
  within : (c.pool.batchOf epochId).claimedGoatWei + payout.val
    ≤ (c.pool.batchOf epochId).grossGoatWei * operatorBps / bpsDenom

theorem checkPayout_of_le {p : ProxyRevenueSettlement} {amount : Nat} (hs : p.accounts.Sound)
    (hleft : (p.fundingOf epochId).goatClaimed + amount + (p.fundingOf epochId).reserveHeld
      ≤ (p.fundingOf epochId).goatFunded)
    (hfits : (p.batchOf epochId).grossGoatWei * operatorBps < 2 ^ 256)
    (hshare : (p.batchOf epochId).claimedGoatWei + amount
      ≤ (p.batchOf epochId).grossGoatWei * operatorBps / bpsDenom) :
    p.checkPayout epochId amount = .ok () := by
  obtain ⟨hall, -⟩ := hs.within hleft
  have hall : p.totalClaimed + amount + p.reserveHeld ≤ p.totalFunded := hall
  have htotal : p.totalFunded < 2 ^ 256 := hs.funded_lt
  have hepoch : (p.fundingOf epochId).goatFunded ≤ p.totalFunded :=
    (le_sum (fun i => (p.fundingOf i).goatFunded) epochId).trans hs.funded_sum.le
  have hsmall : (p.batchOf epochId).claimedGoatWei + amount < 2 ^ 256 :=
    Nat.lt_of_le_of_lt (hshare.trans (Nat.div_le_self _ _)) hfits
  exact bind_ok₄.mpr ⟨_, checked_ok.mpr ⟨by omega, rfl⟩, _, checkedSub_ok.mpr ⟨by omega, rfl⟩, _,
    require_of (by omega), _, checked_ok.mpr ⟨by omega, rfl⟩,
    bind_ok₄.mpr ⟨_, checkedSub_ok.mpr ⟨by omega, rfl⟩,
    _, require_of (by omega), _, checked_ok.mpr ⟨hsmall, rfl⟩, _, checked_ok.mpr ⟨hfits, rfl⟩,
    require_of hshare⟩⟩

theorem bookPayout_of_le {p : ProxyRevenueSettlement} {amount : Nat} (hs : p.accounts.Sound)
    (hleft : (p.fundingOf epochId).goatClaimed + amount + (p.fundingOf epochId).reserveHeld
      ≤ (p.fundingOf epochId).goatFunded) : ∃ p', p.bookPayout epochId amount = .ok p' := by
  obtain ⟨hall, -⟩ := hs.within hleft
  have hall : p.totalClaimed + amount + p.reserveHeld ≤ p.totalFunded := hall
  have htotal : p.totalFunded < 2 ^ 256 := hs.funded_lt
  have hepoch : (p.fundingOf epochId).goatFunded ≤ p.totalFunded :=
    (le_sum (fun i => (p.fundingOf i).goatFunded) epochId).trans hs.funded_sum.le
  exact ⟨_,
    bind_ok₂.mpr ⟨_, checked_ok.mpr ⟨by omega, rfl⟩, _, checked_ok.mpr ⟨by omega, rfl⟩, rfl⟩⟩

theorem left_of_open (hview : (c.view epochId).Sound c.now.val)
    (hfinal : (c.pool.batchOf epochId).status = .finalized)
    (hopen : c.now.val ≤ (c.pool.batchOf epochId).claimEnd) {amount : Nat}
    (hshare : (c.pool.batchOf epochId).claimedGoatWei + amount
      ≤ (c.pool.batchOf epochId).grossGoatWei * operatorBps / bpsDenom) :
    (c.pool.fundingOf epochId).goatClaimed + amount + (c.pool.fundingOf epochId).reserveHeld
      ≤ (c.pool.fundingOf epochId).goatFunded := by
  have hspent : (c.pool.fundingOf epochId).goatClaimed + (c.pool.fundingOf epochId).reserveHeld
      = (c.pool.batchOf epochId).grossGoatWei * takeBps / bpsDenom
        + (c.pool.batchOf epochId).claimedGoatWei := hview.spent hfinal hopen
  have hcovered : (c.pool.batchOf epochId).grossGoatWei ≤ (c.pool.fundingOf epochId).goatFunded :=
    hview.covered hfinal
  have hgross := take_add_share_le (c.pool.batchOf epochId).grossGoatWei
  omega

/-- **A claim inside its window goes through**, and pays the operator. -/
theorem claim_acts (hself : d.self ≠ 0) (hs : c.Solvent d)
    (hview : (c.view epochId).Sound c.now.val)
    (hfinal : (c.pool.batchOf epochId).status = .finalized)
    (hopen : c.now.val ≤ (c.pool.batchOf epochId).claimEnd)
    (hfits : (c.pool.batchOf epochId).grossGoatWei * operatorBps < 2 ^ 256)
    (hclaim : c.Claimable epochId operator totalBytes payout proof) (hoperator : operator ≠ 0)
    (hsender : d.IsAccount sender) :
    ∃ c', d.act c (.pool sender (.claim epochId operator totalBytes payout proof)) = .ok c'
      ∧ c'.goat.balances = Erc20.moved c.goat.balances d.self operator payout.val := by
  have hleft := left_of_open hview hfinal hopen hclaim.within
  have hepoch : IsProxyEpoch epochId := by
    refine hs.sound.inSpace epochId fun hzero => hclaim.payout_ne_zero ?_
    have hnone : (c.pool.fundingOf epochId).goatFunded = 0 := hzero
    exact Fin.val_eq_zero_iff.mp (by omega)
  have hbalance : payout.val ≤ c.goat.balances d.self :=
    (hs.sound.within hleft).2.trans hs.covered
  obtain ⟨p, hbook⟩ := bookPayout_of_le hs.sound hleft
  have hcall :
    c.pool.claim d.self c.goat c.enrolled c.now.val epochId operator totalBytes payout proof
      = .ok ({ p.setBatch epochId { c.pool.batchOf epochId with
            claimedGoatWei := (c.pool.batchOf epochId).claimedGoatWei + payout.val } with
          claimed := update p.claimed epochId
            (update (p.claimed epochId) operator true) },
        c.goat.move d.self operator payout.val hbalance) := by
    rw [claim, require_of hepoch]
    exact bind_ok₄.mpr ⟨_, rfl, _, require_of hfinal, _, require_of hopen, _,
      require_of hclaim.root_ne_zero,
      bind_ok₄.mpr ⟨_, require_of hclaim.unclaimed, _, require_of hclaim.payout_ne_zero, _,
      require_of hclaim.enrolled, _, require_of hclaim.proved, bind_ok₃.mpr ⟨_,
      checkPayout_of_le hs.sound hleft hfits hclaim.within, _, hbook, _,
      Erc20.transfer_of_le hself hoperator hbalance, rfl⟩⟩⟩
  exact ⟨_, ProxySite.act_pool hsender (bind_ok.mpr ⟨_, hcall, rfl⟩), rfl⟩

theorem claim_passed
    (h : d.act c (.pool sender (.claim epochId operator totalBytes payout proof)) = .ok c') :
    c.now.val ≤ (c.pool.batchOf epochId).claimEnd
      ∧ (c.pool.batchOf epochId).grossGoatWei * operatorBps < 2 ^ 256 ∧ operator ≠ 0 := by
  obtain ⟨-, -, h⟩ := bind_ok.mp h
  obtain ⟨⟨p, t⟩, hp, -⟩ := bind_ok.mp h
  have hclaims := ProxySite.claim_ok hp
  have hcheck := hclaims.checked
  obtain ⟨goatClaimed, -, payable, -, -, -, totalClaimed, -, hcheck⟩ := bind_ok₄.mp hcheck
  obtain ⟨totalPayable, -, -, -, claimedGoatWei, -, share, hshare, -⟩ := bind_ok₄.mp hcheck
  obtain ⟨-, -, hpaid⟩ := bind_ok.mp hclaims.paid
  obtain ⟨_, hoperator, -⟩ := bind_ok.mp hpaid
  exact ⟨hclaims.inTime, (checked_ok.mp hshare).1, require_ok.mp hoperator⟩

end ProxyChain

/-! ## A challenge that is decided late -/

namespace EpochStep

variable {c : ProxyChain} {epochId : Uint256} {v v' : EpochView} {k : ProxyCall}

theorem final (h : EpochStep c epochId v k v') (hs : v.batch.status = .finalized) :
    v'.batch = { v.batch with claimedGoatWei := v'.batch.claimedGoatWei } := by
  cases h with
  | same _ => rfl
  | inflow => rfl
  | fund => rfl
  | propose hs' => cases hs.symm.trans hs'
  | challenge hs' _ _ => cases hs.symm.trans hs'
  | resolve _ hs' => cases hs.symm.trans hs'
  | timeout hs' _ => cases hs.symm.trans hs'
  | reset hs' => cases hs.symm.trans hs'
  | finalize hripe _ _ => exact absurd hs hripe.unfinal
  | claim _ _ _ _ => rfl
  | sweep _ _ => rfl

/-- No call for an epoch leaves its batch unsettled once the proposer has won. -/
theorem won (h : EpochStep c epochId v k v') (hs : v.batch.status = .proposerWon) :
    v'.batch = v.batch ∨ v'.batch.status = .finalized := by
  cases h with
  | same _ => exact .inl rfl
  | inflow => exact .inl rfl
  | fund => exact .inl rfl
  | propose hs' => cases hs.symm.trans hs'
  | challenge hs' _ _ => cases hs.symm.trans hs'
  | resolve _ hs' => cases hs.symm.trans hs'
  | timeout hs' _ => cases hs.symm.trans hs'
  | reset hs' => cases hs.symm.trans hs'
  | finalize _ _ _ => exact .inr rfl
  | claim hs' _ _ _ => cases hs.symm.trans hs'
  | sweep hs' _ => cases hs.symm.trans hs'

end EpochStep

/-- The call ends a challenge for the proposer: the resolver says so, or it is timed out at the
first moment at which it can be. -/
inductive ProxySite.Ends (d : ProxySite) (c : ProxyChain) (epochId : Uint256) : ProxyCall → Prop
  | resolved : d.Ends c epochId (.pool d.config.resolver (.resolveChallenge epochId true))
  | timedOut {sender : Address} : c.now.val = (c.pool.batchOf epochId).resolveEnd + 1 →
      d.Ends c epochId (.pool sender (.timeoutChallenge epochId))

namespace ProxyChain

variable {d : ProxySite} {c c' : ProxyChain} {epochId : Uint256} {sender : Address} {k : ProxyCall}

theorem ended (hends : d.Ends c epochId k) (h : d.act c k = .ok c') :
    c'.now = c.now ∧ c'.pool.batchOf epochId = { c.pool.batchOf epochId with
      status := .proposerWon, proposerBondPosted := 0, challengerBondPosted := 0 } := by
  have hstep := (ProxySite.act_epoch h epochId).1
  obtain ⟨v, hv⟩ : ∃ v, c'.view epochId = v := ⟨_, rfl⟩
  rw [hv] at hstep
  have hbatch : c'.pool.batchOf epochId = v.batch := congrArg EpochView.batch hv
  cases hends with
  | resolved =>
      obtain ⟨-, -, h⟩ := bind_ok.mp h
      refine ⟨(ProxySite.poolCall_now h).1, hbatch.trans ?_⟩
      cases hstep with
      | same hne => exact absurd rfl hne
      | resolve _ _ => rfl
  | timedOut _ =>
      obtain ⟨-, -, h⟩ := bind_ok.mp h
      refine ⟨(ProxySite.poolCall_now h).1, hbatch.trans ?_⟩
      cases hstep with
      | same hne => exact absurd rfl hne
      | timeout _ _ => rfl

theorem block_run (hwon : (c.pool.batchOf epochId).status = .proposerWon) (mid : List ProxyCall)
    (hblock : ∀ k ∈ mid, ∀ now, k ≠ .advance now) :
    (d.run c mid).now = c.now ∧ ((d.run c mid).pool.batchOf epochId = c.pool.batchOf epochId
      ∨ ((d.run c mid).pool.batchOf epochId).status = .finalized) := by
  induction mid using List.reverseRecOn with
  | nil => exact ⟨rfl, .inl rfl⟩
  | append_singleton mid k ih =>
      obtain ⟨hnow, hbatch⟩ := ih fun k' hk' => hblock k' (List.mem_append_left _ hk')
      have hlast := hblock k (List.mem_append_right _ (List.mem_singleton_self k))
      have hrun : d.run c (mid ++ [k]) = attempt d.act (d.run c mid) k := Runs.foldl_snoc mid k c
      rw [hrun]
      rcases attempt_cases d.act (d.run c mid) k with ⟨hsame, -⟩ | hok
      · rw [hsame]
        exact ⟨hnow, hbatch⟩
      · have hstep := (ProxySite.act_epoch hok epochId).1
        refine ⟨(ProxySite.act_now hok hlast).trans hnow, ?_⟩
        rcases hbatch with hbatch | hfinal
        · rcases hstep.won ((congrArg Batch.status hbatch).trans hwon) with hkept | hfinal
          · exact .inl (hkept.trans hbatch)
          · exact .inr hfinal
        · exact .inr ((congrArg Batch.status (hstep.final hfinal)).trans hfinal)

theorem finalized_view (hview : (c.view epochId).Sound c.now.val)
    (h : d.act c (.pool sender (.finalizeBatch epochId)) = .ok c') :
    (c.pool.batchOf epochId).status ≠ .finalized ∧ (c'.pool.batchOf epochId).status = .finalized
      ∧ (c'.pool.batchOf epochId).claimEnd = (c.pool.batchOf epochId).claimEnd
      ∧ (c'.pool.batchOf epochId).claimedGoatWei = 0
      ∧ ∀ operator, c'.pool.claimed epochId operator = false := by
  have hstep := (ProxySite.act_epoch h epochId).1
  obtain ⟨v, hv⟩ : ∃ v, c'.view epochId = v := ⟨_, rfl⟩
  rw [hv] at hstep
  have hbatch : c'.pool.batchOf epochId = v.batch := congrArg EpochView.batch hv
  have hclaimed : c'.pool.claimed epochId = v.claimed := congrArg EpochView.claimed hv
  rw [hbatch, hclaimed]
  cases hstep with
  | same hne => exact absurd rfl hne
  | finalize hripe _ _ =>
      obtain ⟨-, -, hnone, hnobody⟩ := hview.untouched hripe.unfinal
      exact ⟨hripe.unfinal, rfl, rfl, hnone, hnobody⟩

theorem sweep_passed {dst : Address}
    (h : d.act c (.pool sender (.sweepUnclaimed epochId dst)) = .ok c') :
    (c.pool.batchOf epochId).claimEnd < c.now.val := by
  obtain ⟨-, -, h⟩ := bind_ok.mp h
  have hfiling := ProxySite.poolCall_filing h
  generalize c'.docket = D at hfiling
  cases hfiling with
  | still hfiles => cases hfiles
  | sweep _ hclosed => exact hclosed

theorem root_passed {operator : Address} {totalBytes payout : Uint256} {proof : List Bytes32}
    (h : d.act c (.pool sender (.claim epochId operator totalBytes payout proof)) = .ok c') :
    (c.pool.batchOf epochId).root ≠ 0 := by
  obtain ⟨-, -, h⟩ := bind_ok.mp h
  obtain ⟨⟨p, t⟩, hp, -⟩ := bind_ok.mp h
  exact (ProxySite.claim_ok hp).rooted

end ProxyChain

/-- **After a challenge that ended for the proposer, the operators of the batch can be paid exactly
if its claim window is still open**; a challenge that is timed out as soon as it can be leaves it
open exactly if the claim window is longer than the resolve window. -/
theorem late_claim_iff (d : ProxySite) (hself : d.self ≠ 0) {start : ProxyChain}
    (hfresh : start.Fresh d) (before mid : List ProxyCall) {c₀ c₁ c₂ c : ProxyChain}
    {epochId : Uint256} {k : ProxyCall} {finalizer : Address} (h₀ : d.run start before = c₀)
    (hends : d.Ends c₀ epochId k) (h₁ : d.act c₀ k = .ok c₁)
    (hblock : ∀ k ∈ mid, ∀ now, k ≠ .advance now) (h₂ : d.run c₁ mid = c₂)
    (h₃ : d.act c₂ (.pool finalizer (.finalizeBatch epochId)) = .ok c)
    {operator sender : Address} {totalBytes payout : Uint256} {proof : List Bytes32}
    (hsender : d.IsAccount sender) (henrolled : c.enrolled operator = true)
    (hproof : MerkleProof.verify proof (c.pool.batchOf epochId).root
      (leafOf operator epochId totalBytes payout) = true) (hpayout : payout ≠ 0)
    (hshare : payout.val ≤ (c.pool.batchOf epochId).grossGoatWei * operatorBps / bpsDenom) :
    (((∃ c', d.act c (.pool sender (.claim epochId operator totalBytes payout proof)) = .ok c')
        ∧ ∀ safe dst, ∃ e, d.act c (.pool safe (.sweepUnclaimed epochId dst)) = .error e)
      ↔ c.now.val ≤ (c.pool.batchOf epochId).claimEnd
        ∧ (c.pool.batchOf epochId).grossGoatWei * operatorBps < 2 ^ 256 ∧ operator ≠ 0
        ∧ (c.pool.batchOf epochId).root ≠ 0)
      ∧ ∀ caller, k = .pool caller (.timeoutChallenge epochId) →
          (c.now.val ≤ (c.pool.batchOf epochId).claimEnd
            ↔ (c₀.pool.batchOf epochId).resolveWindowSnap
              < (c₀.pool.batchOf epochId).claimWindowSnap) := by
  have hrun : d.run start (before ++ [k] ++ mid) = c₂ := by
    rw [← h₂, ← attempt_of_ok h₁, ← h₀]
    unfold ProxySite.run
    rw [List.foldl_append, List.foldl_append]
    rfl
  have hview₂ := ProxyChain.view_sound_run hfresh (before ++ [k] ++ mid) epochId
  have hs₂ := ProxyChain.solvent_run hfresh (before ++ [k] ++ mid)
  rw [hrun] at hview₂ hs₂
  obtain ⟨hunfinal, hfinal, hend, hnone, hnobody⟩ := ProxyChain.finalized_view hview₂ h₃
  obtain ⟨hstep, hle⟩ := ProxySite.act_epoch h₃ epochId
  have hview := (hview₂.step hstep).later hle
  have hs := ProxyChain.solvent_step hs₂ h₃
  refine ⟨⟨?_, ?_⟩, ?_⟩
  · rintro ⟨⟨c', hclaim⟩, -⟩
    obtain ⟨hopen, hfits, hoperator⟩ := ProxyChain.claim_passed hclaim
    exact ⟨hopen, hfits, hoperator, ProxyChain.root_passed hclaim⟩
  · rintro ⟨hopen, hfits, hoperator, hroot⟩
    have hclaim : c.Claimable epochId operator totalBytes payout proof := by
      refine ⟨hroot, hnobody operator, hpayout, henrolled, hproof, ?_⟩
      rw [hnone, Nat.zero_add]
      exact hshare
    obtain ⟨c', hok, -⟩ :=
      ProxyChain.claim_acts hself hs hview hfinal hopen hfits hclaim hoperator hsender
    refine ⟨⟨c', hok⟩, fun safe dst => ?_⟩
    cases hsweep : d.act c (.pool safe (.sweepUnclaimed epochId dst)) with
    | error e => exact ⟨e, rfl⟩
    | ok c' => exact absurd (ProxyChain.sweep_passed hsweep) (Nat.not_lt.mpr hopen)
  · rintro caller rfl
    obtain ⟨hnow₁, hbatch₁⟩ := ProxyChain.ended hends h₁
    have hwon : (c₁.pool.batchOf epochId).status = .proposerWon := by
      rw [hbatch₁]
    obtain ⟨hnow₂, hbatch₂⟩ := ProxyChain.block_run (d := d) hwon mid hblock
    rw [h₂] at hnow₂ hbatch₂
    have hkept := hbatch₂.resolve_right hunfinal
    have hnow : c.now = c₀.now := by
      rw [ProxySite.act_now h₃ nofun, hnow₂, hnow₁]
    rw [hend, hkept, hbatch₁, hnow]
    cases hends with
    | timedOut hfirst =>
        rw [hfirst]
        show (c₀.pool.batchOf epochId).proposedAt.val
          + (c₀.pool.batchOf epochId).challengeWindowSnap.val
            + (c₀.pool.batchOf epochId).resolveWindowSnap.val + 1
          ≤ (c₀.pool.batchOf epochId).proposedAt.val
            + (c₀.pool.batchOf epochId).challengeWindowSnap.val
            + (c₀.pool.batchOf epochId).claimWindowSnap.val ↔ _
        rw [Fin.lt_def]
        omega

/-! ### A challenge that nobody resolves -/

/-- The root of the tree with one leaf: nine coins for operator 30. -/
def sampleRoot : Bytes32 := 0x485a0a7702388f60c6bff81179ed950875a1d48fde41d4f656fcc24b358aa050

theorem sampleRoot_leaf : leafOf 30 8000000000000 7 9 = sampleRoot := by
  rw [leafOf, keccak256_eval, keccak256_eval, proxyLeafDomain, keccak256_eval]
  decide +kernel

theorem sampleRoot_proof :
    MerkleProof.verify [] sampleRoot (leafOf 30 8000000000000 7 9) = true := by
  rw [sampleRoot_leaf]
  exact MerkleProof.verify_nil _

/-- A challenge window of ten, a resolve window of five, and funding that needs no backing. -/
def sampleTimed (claimWindow : Word 64) : ProxySite :=
  { sampleSite with
    config := { sampleSite.config with
      challengeWindow := 10, claimWindow, resolveWindow := 5, referenceRateUsdtPerGoat := 0 } }

/-- The funder has a hundred coins, and lets the pool take them. -/
def sampleTimedChain (claimWindow : Word 64) : ProxyChain :=
  { sampleProxy with
    goat := sampleCoins
    pool := { samplePool with
      challengeWindow := 10, claimWindow, resolveWindow := 5, referenceRateUsdtPerGoat := 0 } }

theorem sampleTimedChain_fresh (claimWindow : Word 64) :
    (sampleTimedChain claimWindow).Fresh (sampleTimed claimWindow) := by
  refine ⟨rfl, fun spender => ?_, rfl, Nat.two_pow_pos 256⟩
  show update (fun _ _ => 0) 7 (update (fun _ => 0) 20 100) 20 spender = 0
  rw [update_of_ne (by decide)]

/-- A batch is proposed, challenged, and left alone until the challenge can be timed out. -/
def sampleAbandoned : List ProxyCall :=
  [.pool 7 (.fundEpoch 8000000000000 100 0),
   .pool 8 (.proposeBatch 0 8000000000000 sampleRoot 0 100),
   .pool 13 (.challengeBatch 0 8000000000000),
   .advance 16]

def sampleTimeout : ProxyCall := .pool 14 (.timeoutChallenge 8000000000000)

def sampleFinalize : ProxyCall := .pool 8 (.finalizeBatch 8000000000000)

/-- The batch is final, in the block in which the challenge was timed out. -/
def sampleLate (claimWindow : Word 64) : ProxyChain :=
  (sampleTimed claimWindow).run (sampleTimedChain claimWindow)
    (sampleAbandoned ++ [sampleTimeout] ++ [sampleFinalize])

theorem late_claim_iff_sample :
    ∃ c', (sampleTimed 20).act (sampleLate 20) (.pool 13 (.claim 8000000000000 30 7 9 []))
    = .ok c' := by
  have hended := ok_of_isOk (sampleTimed 20).act
    (s := (sampleTimed 20).run (sampleTimedChain 20) sampleAbandoned) (k := sampleTimeout)
    (by decide +kernel)
  have hfinal := ok_of_isOk (sampleTimed 20).act
    (s := (sampleTimed 20).run (sampleTimedChain 20) (sampleAbandoned ++ [sampleTimeout]))
    (k := sampleFinalize) (by decide +kernel)
  have hstate : attempt (sampleTimed 20).act
      ((sampleTimed 20).run (sampleTimedChain 20) (sampleAbandoned ++ [sampleTimeout]))
        sampleFinalize
      = sampleLate 20 := (Runs.foldl_snoc _ _ _).symm
  rw [hstate] at hfinal
  have hroot : ((sampleLate 20).pool.batchOf 8000000000000).root = sampleRoot := by decide +kernel
  have hproof : MerkleProof.verify [] ((sampleLate 20).pool.batchOf 8000000000000).root
      (leafOf 30 8000000000000 7 9) = true := by
    rw [hroot]
    exact sampleRoot_proof
  have hsender : (sampleTimed 20).IsAccount 13 := by decide
  have hcondition := late_claim_iff (sampleTimed 20) (by decide) (sampleTimedChain_fresh 20)
    sampleAbandoned [] rfl (.timedOut (by decide +kernel)) hended nofun
    (Runs.foldl_snoc _ _ _).symm hfinal hsender (by decide +kernel) hproof (by decide)
      (by decide +kernel)
  exact (hcondition.1.mpr ⟨by decide +kernel, by decide +kernel, by decide, by decide +kernel⟩).1

/-- With a claim window of five, the operator is refused and the funder swept to. -/
theorem late_claim_refused : (sampleTimedChain 5).Fresh (sampleTimed 5)
    ∧ ((sampleTimed 5).run (sampleTimedChain 5) sampleAbandoned).now.val
      = (((sampleTimed 5).run (sampleTimedChain 5) sampleAbandoned).pool.batchOf
        8000000000000).resolveEnd + 1
    ∧ ((sampleLate 5).pool.batchOf 8000000000000).status = .finalized
    ∧ ((sampleLate 5).pool.batchOf 8000000000000).root = sampleRoot
    ∧ MerkleProof.verify [] sampleRoot (leafOf 30 8000000000000 7 9) = true
    ∧ (sampleLate 5).enrolled 30 = true
    ∧ 9 ≤ ((sampleLate 5).pool.batchOf 8000000000000).grossGoatWei * operatorBps / bpsDenom
    ∧ (∀ c', (sampleTimed 5).act (sampleLate 5) (.pool 13 (.claim 8000000000000 30 7 9 []))
      ≠ .ok c')
    ∧ ∃ c', (sampleTimed 5).act (sampleLate 5) (.pool 1 (.sweepUnclaimed 8000000000000 7))
      = .ok c' := by
  refine ⟨sampleTimedChain_fresh 5, by decide +kernel, by decide +kernel, by decide +kernel,
    sampleRoot_proof, by decide +kernel, by decide +kernel, fun c' hclaim => ?_, ?_⟩
  · have hclosed :
      ¬ (sampleLate 5).now.val ≤ ((sampleLate 5).pool.batchOf 8000000000000).claimEnd := by
      decide +kernel
    exact hclosed (ProxyChain.claim_passed hclaim).1
  · exact ⟨_, ok_of_isOk (sampleTimed 5).act (by decide +kernel)⟩

/-! ## Claims in any order -/

structure ProxyLeaf where
  operator : Address
  totalBytes : Uint256
  payout : Uint256

/-- What the leaves pay in all. -/
def payouts (leaves : List ProxyLeaf) : Nat := (leaves.map fun leaf => leaf.payout.val).sum

/-- What the leaves have paid so far. -/
def paidSum (leaves : List ProxyLeaf) (claimed : Address → Bool) : Nat :=
  (leaves.map fun leaf => if claimed leaf.operator then leaf.payout.val else 0).sum

theorem paidSum_le (leaves : List ProxyLeaf) (claimed : Address → Bool) :
    paidSum leaves claimed ≤ payouts leaves := by
  induction leaves with
  | nil => exact le_rfl
  | cons leaf leaves ih =>
      refine Nat.add_le_add ?_ ih
      dsimp only
      split
      · exact le_rfl
      · exact Nat.zero_le _

variable {leaves : List ProxyLeaf} {claimed : Address → Bool}

theorem paidSum_none
    (h : ∀ operator, claimed operator = false) : paidSum leaves claimed = 0 := by
  unfold paidSum
  simp [h]

theorem paidSum_congr {claimed' : Address → Bool}
    (h : ∀ leaf ∈ leaves, claimed leaf.operator = claimed' leaf.operator) :
    paidSum leaves claimed = paidSum leaves claimed' := by
  refine congrArg List.sum (List.map_congr_left fun leaf hleaf => ?_)
  rw [h leaf hleaf]

theorem paidSum_update {leaf : ProxyLeaf}
    (hdistinct : (leaves.map ProxyLeaf.operator).Nodup) (hleaf : leaf ∈ leaves)
    (hfirst : claimed leaf.operator = false) :
    paidSum leaves (update claimed leaf.operator true)
      = paidSum leaves claimed + leaf.payout.val := by
  induction leaves with
  | nil => cases hleaf
  | cons l leaves ih =>
      obtain ⟨hhead, htail⟩ := List.nodup_cons.mp hdistinct
      show (if update claimed leaf.operator true l.operator then l.payout.val else 0)
          + paidSum leaves (update claimed leaf.operator true)
        = (if claimed l.operator then l.payout.val else 0) + paidSum leaves claimed
          + leaf.payout.val
      rcases List.mem_cons.mp hleaf with rfl | hleaf
      · -- nobody else in the list is the operator of the head
        have hrest : paidSum leaves (update claimed leaf.operator true)
            = paidSum leaves claimed := by
          refine paidSum_congr fun l hl => update_of_ne (fun heq => hhead ?_) _ _
          rw [← heq]
          exact List.mem_map_of_mem hl
        rw [update_self, if_pos rfl, hfirst, if_neg Bool.false_ne_true, hrest]
        omega
      · have hne : l.operator ≠ leaf.operator := by
          intro heq
          rw [heq] at hhead
          exact hhead (List.mem_map_of_mem hleaf)
        rw [update_of_ne hne, ih htail hleaf]
        omega

/-- An operator was paid out of an epoch. -/
def ProxySite.Paid (d : ProxySite) (start : ProxyChain) (ks : List ProxyCall) (epochId : Uint256)
    (operator : Address) : Prop :=
  ∃ before sender totalBytes payout proof,
    before ++ [.pool sender (.claim epochId operator totalBytes payout proof)] <+: ks
      ∧ ∃ c', d.act (d.run start before)
        (.pool sender (.claim epochId operator totalBytes payout proof)) = .ok c'

/-- Every claim of an epoch that its root proves is one of the leaves. -/
def ClaimsAmong (leaves : List ProxyLeaf) (epochId : Uint256) (root : Bytes32)
    (ks : List ProxyCall) :
    Prop :=
  ∀ sender operator totalBytes payout proof,
    .pool sender (.claim epochId operator totalBytes payout proof) ∈ ks →
    MerkleProof.verify proof root (leafOf operator epochId totalBytes payout) = true →
    ⟨operator, totalBytes, payout⟩ ∈ leaves

namespace ProxyChain

variable {d : ProxySite} {start : ProxyChain} {epochId : Uint256}

theorem paid_run (hfresh : start.Fresh d) (operator : Address) (ks : List ProxyCall)
    (hclaimed : (d.run start ks).pool.claimed epochId operator = true) :
    d.Paid start ks epochId operator := by
  induction ks using List.reverseRecOn with
  | nil =>
      have hview := hfresh.view_eq epochId
      have hnone : start.pool.claimed epochId = fun _ => false := congrArg EpochView.claimed hview
      have hclaimed : start.pool.claimed epochId operator = true := hclaimed
      rw [hnone] at hclaimed
      cases hclaimed
  | append_singleton ks k ih =>
      have hearlier : (d.run start ks).pool.claimed epochId operator = true →
          d.Paid start (ks ++ [k]) epochId operator := by
        intro h
        obtain ⟨before, sender, totalBytes, payout, proof, hpre, hok⟩ := ih h
        exact ⟨before, sender, totalBytes, payout, proof, hpre.trans (List.prefix_append _ _), hok⟩
      have hrun : d.run start (ks ++ [k]) = attempt d.act (d.run start ks) k :=
        Runs.foldl_snoc ks k start
      rw [hrun] at hclaimed
      rcases attempt_cases d.act (d.run start ks) k with ⟨hsame, -⟩ | hok
      · rw [hsame] at hclaimed
        exact hearlier hclaimed
      · have hstep := (ProxySite.act_epoch hok epochId).1
        obtain ⟨v, hv⟩ : ∃ v, (attempt d.act (d.run start ks) k).view epochId = v := ⟨_, rfl⟩
        rw [hv] at hstep
        have hclaimed : v.claimed operator = true :=
          (congrFun (congrArg EpochView.claimed hv) operator).symm.trans hclaimed
        cases hstep with
        | @claim sender operator' totalBytes payout proof _ _ _ _ =>
            rcases eq_or_ne operator operator' with rfl | hne
            · exact ⟨ks, sender, totalBytes, payout, proof, List.prefix_refl _, _, hok⟩
            · dsimp only at hclaimed
              rw [update_of_ne hne] at hclaimed
              exact hearlier hclaimed
        | same _ => exact hearlier hclaimed
        | inflow => exact hearlier hclaimed
        | fund => exact hearlier hclaimed
        | propose _ => exact hearlier hclaimed
        | challenge _ _ _ => exact hearlier hclaimed
        | resolve _ _ => exact hearlier hclaimed
        | timeout _ _ => exact hearlier hclaimed
        | reset _ => exact hearlier hclaimed
        | finalize _ _ _ => exact hearlier hclaimed
        | sweep _ _ => exact hearlier hclaimed

theorem claimed_run (hfresh : start.Fresh d) {leaves : List ProxyLeaf} {root : Bytes32}
    (hdistinct : (leaves.map ProxyLeaf.operator).Nodup) (ks : List ProxyCall)
    (hleaves : ClaimsAmong leaves epochId root ks)
    (hfinal : ((d.run start ks).pool.batchOf epochId).status = .finalized)
    (hroot : ((d.run start ks).pool.batchOf epochId).root = root) :
    ((d.run start ks).pool.batchOf epochId).claimedGoatWei
      = paidSum leaves ((d.run start ks).pool.claimed epochId) := by
  induction ks using List.reverseRecOn with
  | nil =>
      have hbatch : start.pool.batchOf epochId = .empty :=
        congrArg EpochView.batch (hfresh.view_eq epochId)
      have hfinal : (start.pool.batchOf epochId).status = .finalized := hfinal
      rw [hbatch] at hfinal
      cases hfinal
  | append_singleton ks k ih =>
      have hbefore := ih fun sender operator totalBytes payout proof hmem =>
        hleaves sender operator totalBytes payout proof (List.mem_append_left _ hmem)
      have hview := view_sound_run hfresh ks epochId
      have hrun : d.run start (ks ++ [k]) = attempt d.act (d.run start ks) k :=
        Runs.foldl_snoc ks k start
      rw [hrun] at hfinal hroot ⊢
      rcases attempt_cases d.act (d.run start ks) k with ⟨hsame, -⟩ | hok
      · rw [hsame] at hfinal hroot ⊢
        exact hbefore hfinal hroot
      · have hstep := (ProxySite.act_epoch hok epochId).1
        obtain ⟨v, hv⟩ : ∃ v, (attempt d.act (d.run start ks) k).view epochId = v := ⟨_, rfl⟩
        rw [hv] at hstep
        change ((attempt d.act (d.run start ks) k).view epochId).batch.status = _ at hfinal
        change ((attempt d.act (d.run start ks) k).view epochId).batch.root = _ at hroot
        change ((attempt d.act (d.run start ks) k).view epochId).batch.claimedGoatWei
          = paidSum leaves ((attempt d.act (d.run start ks) k).view epochId).claimed
        rw [hv] at hfinal hroot ⊢
        cases hstep with
        | same _ => exact hbefore hfinal hroot
        | inflow => exact hbefore hfinal hroot
        | fund => exact hbefore hfinal hroot
        | propose _ => cases hfinal
        | challenge _ _ _ => cases hfinal
        | resolve proposerWon _ =>
            cases proposerWon with
            | true => cases hfinal
            | false => cases hfinal
        | timeout _ _ => cases hfinal
        | reset _ => cases hfinal
        | finalize hripe _ _ =>
            obtain ⟨-, -, hnone, hnobody⟩ := hview.untouched hripe.unfinal
            exact hnone.trans (paidSum_none hnobody).symm
        | @claim sender operator totalBytes payout proof hs _ hfirst hproof =>
            have hroot : ((d.run start ks).pool.batchOf epochId).root = root := hroot
            have hmem := hleaves sender operator totalBytes payout proof
              (List.mem_append_right _ (List.mem_singleton_self _))
              (hroot ▸ hproof)
            have hpaid := paidSum_update hdistinct hmem hfirst
            exact (congrArg (· + payout.val) (hbefore hs hroot)).trans hpaid.symm
        | sweep hs _ => exact hbefore hs hroot

end ProxyChain

/-- **The claims of a final batch do not get in each other's way.** Whatever has been called, and in
whatever order, the first claim of a leaf inside the claim window goes through and moves its payout
to its operator. -/
theorem order_free_claims (d : ProxySite) (hself : d.self ≠ 0) {start : ProxyChain}
    (hfresh : start.Fresh d) (ks : List ProxyCall) {c : ProxyChain} (hc : d.run start ks = c)
    {epochId : Uint256} (hfinal : (c.pool.batchOf epochId).status = .finalized)
    (hroot : (c.pool.batchOf epochId).root ≠ 0) {leaves : List ProxyLeaf}
    (hdistinct : (leaves.map ProxyLeaf.operator).Nodup)
    (hsum : payouts leaves ≤ (c.pool.batchOf epochId).grossGoatWei * operatorBps / bpsDenom)
    (hfits : (c.pool.batchOf epochId).grossGoatWei * operatorBps < 2 ^ 256)
    (hleaves : ClaimsAmong leaves epochId (c.pool.batchOf epochId).root ks)
    {leaf : ProxyLeaf} (hleaf : leaf ∈ leaves) (hpayout : leaf.payout ≠ 0)
    (henrolled : c.enrolled leaf.operator = true) (hoperator : leaf.operator ≠ 0)
    (hopen : c.now.val ≤ (c.pool.batchOf epochId).claimEnd) {proof : List Bytes32}
    (hproof : MerkleProof.verify proof (c.pool.batchOf epochId).root
      (leafOf leaf.operator epochId leaf.totalBytes leaf.payout) = true)
    (hfirst : ¬ d.Paid start ks epochId leaf.operator) {sender : Address}
    (hsender : d.IsAccount sender) :
    ∃ c', d.act c (.pool sender (.claim epochId leaf.operator leaf.totalBytes leaf.payout proof))
    = .ok c'
      ∧ c'.goat.balances = Erc20.moved c.goat.balances d.self leaf.operator leaf.payout.val := by
  subst hc
  have hs := ProxyChain.solvent_run hfresh ks
  have hview := ProxyChain.view_sound_run hfresh ks epochId
  have hunclaimed : (d.run start ks).pool.claimed epochId leaf.operator = false := by
    refine Bool.eq_false_iff.mpr fun hclaimed => hfirst ?_
    exact ProxyChain.paid_run hfresh leaf.operator ks hclaimed
  have hpaid := ProxyChain.claimed_run hfresh hdistinct ks hleaves hfinal rfl
  -- with this claim the leaves have still paid no more than they can
  have hnext := paidSum_update hdistinct hleaf hunclaimed
  have hall := paidSum_le leaves
    (update ((d.run start ks).pool.claimed epochId) leaf.operator true)
  refine ProxyChain.claim_acts hself hs hview hfinal hopen hfits
    ⟨hroot, hunclaimed, hpayout, henrolled, hproof, ?_⟩ hoperator hsender
  omega

/-! ### Two leaves -/

/-- The hash of the second leaf: ten coins for operator 31. -/
def sampleSibling : Bytes32 := 0xcf19f49f447460fdae6ba4edd022e02a45f066c97dcf3fa9b293dd8ae1bafa56

/-- The root over both. -/
def samplePairRoot : Bytes32 := 0x2b32b44def8fb07d0a7955b4cd3a420ebd19a408236ab4081ab2b5c6a3cca78f

def samplePair : List ProxyLeaf := [⟨30, 7, 9⟩, ⟨31, 8, 10⟩]

theorem sampleSibling_leaf : leafOf 31 8000000000000 8 10 = sampleSibling := by
  rw [leafOf, keccak256_eval, keccak256_eval, proxyLeafDomain, keccak256_eval]
  decide +kernel

/-- A leaf of the pair, with the other one as its proof. -/
def InPair (leaf : ProxyLeaf) (sibling : Bytes32) : Prop :=
  leaf ∈ samplePair ∧ leaf.payout ≠ 0 ∧ leaf.operator ≠ 0
    ∧ MerkleProof.verify [sibling] samplePairRoot
    (leafOf leaf.operator 8000000000000 leaf.totalBytes leaf.payout) = true

theorem first_inPair : InPair ⟨30, 7, 9⟩ sampleSibling := by
  refine ⟨by simp [samplePair], by decide, by decide, MerkleProof.verify_singleton.mpr ?_⟩
  dsimp only
  rw [sampleRoot_leaf, commutativeKeccak256, if_pos (by decide), keccak256_eval]
  decide +kernel

theorem second_inPair : InPair ⟨31, 8, 10⟩ sampleRoot := by
  refine ⟨by simp [samplePair], by decide, by decide, MerkleProof.verify_singleton.mpr ?_⟩
  dsimp only
  rw [sampleSibling_leaf, commutativeKeccak256, if_neg (by decide), keccak256_eval]
  decide +kernel

/-- The batch of both is final. -/
def sampleBoth : List ProxyCall :=
  [.pool 7 (.fundEpoch 8000000000000 100 0),
   .pool 8 (.proposeBatch 0 8000000000000 samplePairRoot 0 100),
   .advance 11,
   sampleFinalize]

def sampleClaim (leaf : ProxyLeaf) (sibling : Bytes32) : ProxyCall :=
  .pool 13 (.claim 8000000000000 leaf.operator leaf.totalBytes leaf.payout [sibling])

/-- The batch is final, and its claims are open. -/
structure PairReady (c : ProxyChain) : Prop where
  final : (c.pool.batchOf 8000000000000).status = .finalized
  root_eq : (c.pool.batchOf 8000000000000).root = samplePairRoot
  gross : (c.pool.batchOf 8000000000000).grossGoatWei = 100
  inTime : c.now.val ≤ (c.pool.batchOf 8000000000000).claimEnd
  enrolled : ∀ operator, c.enrolled operator = true

theorem sampleBoth_ready : PairReady ((sampleTimed 20).run (sampleTimedChain 20) sampleBoth) :=
  ⟨by decide +kernel, by decide +kernel, by decide +kernel, by decide +kernel, fun _ => rfl⟩

theorem PairReady.after {c c' : ProxyChain} (hready : PairReady c) {leaf : ProxyLeaf}
    {sibling : Bytes32}
    (hact : (sampleTimed 20).act c (sampleClaim leaf sibling) = .ok c') : PairReady c' := by
  have hstep := (ProxySite.act_epoch hact 8000000000000).1
  have hnow : c'.now = c.now := ProxySite.act_now hact nofun
  have henrolled : c'.enrolled = c.enrolled := by
    obtain ⟨_, -, hact⟩ := bind_ok.mp hact
    obtain ⟨_, -, hact⟩ := bind_ok.mp hact
    cases hact
    rfl
  obtain ⟨v, hv⟩ : ∃ v, c'.view 8000000000000 = v := ⟨_, rfl⟩
  have hbatch : c'.pool.batchOf 8000000000000 = v.batch := congrArg EpochView.batch hv
  rw [hv] at hstep
  cases hstep with
  | same hne => exact absurd rfl hne
  | claim _ _ _ _ =>
      refine ⟨?_, ?_, ?_, ?_, fun operator => ?_⟩
      · rw [hbatch]
        exact hready.final
      · rw [hbatch]
        exact hready.root_eq
      · rw [hbatch]
        exact hready.gross
      · rw [hbatch, hnow]
        exact hready.inTime
      · rw [henrolled]
        exact hready.enrolled operator

/-- Both leaves are claimed, in either order. -/
theorem order_free_claims_sample :
    (∃ c₁ c₂, (sampleTimed 20).act ((sampleTimed 20).run (sampleTimedChain 20) sampleBoth)
        (sampleClaim ⟨30, 7, 9⟩ sampleSibling) = .ok c₁
      ∧ (sampleTimed 20).act c₁ (sampleClaim ⟨31, 8, 10⟩ sampleRoot) = .ok c₂)
    ∧ ∃ c₁ c₂, (sampleTimed 20).act ((sampleTimed 20).run (sampleTimedChain 20) sampleBoth)
        (sampleClaim ⟨31, 8, 10⟩ sampleRoot) = .ok c₁
      ∧ (sampleTimed 20).act c₁ (sampleClaim ⟨30, 7, 9⟩ sampleSibling) = .ok c₂ := by
  -- after calls that claim nothing but the other leaf, a leaf is claimed
  have hclaim : ∀ {ks : List ProxyCall} {c : ProxyChain} {leaf : ProxyLeaf} {sibling : Bytes32},
      (sampleTimed 20).run (sampleTimedChain 20) ks = c → PairReady c → InPair leaf sibling →
      (∀ sender operator totalBytes payout proof,
        .pool sender (.claim 8000000000000 operator totalBytes payout proof) ∈ ks →
          ⟨operator, totalBytes, payout⟩ ∈ samplePair ∧ operator ≠ leaf.operator) →
      ∃ c', (sampleTimed 20).act c (sampleClaim leaf sibling) = .ok c' := by
    intro ks c leaf sibling hrun hready ⟨hmem, hpayout, hoperator, hproof⟩ hks
    have hsum :
      payouts samplePair ≤ (c.pool.batchOf 8000000000000).grossGoatWei * operatorBps / bpsDenom
        ∧ (c.pool.batchOf 8000000000000).grossGoatWei * operatorBps < 2 ^ 256 := by
      rw [hready.gross]
      decide
    have hpaid : ¬ (sampleTimed 20).Paid (sampleTimedChain 20) ks 8000000000000 leaf.operator := by
      rintro ⟨before, _, _, _, _, hpre, -⟩
      exact (hks
        _ _ _ _ _ (hpre.subset (List.mem_append_right _ (List.mem_singleton_self _)))).2 rfl
    have hroot := hready.root_eq
    obtain ⟨c', hact, -⟩ :=
      order_free_claims (sampleTimed 20) (by decide) (sampleTimedChain_fresh 20) ks hrun
      hready.final (by rw [hroot]; decide) (by decide) hsum.1 hsum.2
        (fun _ _ _ _ _ hk _ => (hks _ _ _ _ _ hk).1)
      hmem hpayout (hready.enrolled _) hoperator hready.inTime (hroot ▸ hproof) hpaid
      (show (sampleTimed 20).IsAccount 13 by decide)
    exact ⟨c', hact⟩
  have hboth : ∀ {x y : ProxyLeaf} {hx hy : Bytes32}, InPair x hx → InPair y hy →
    x.operator ≠ y.operator →
      ∃ c₁ c₂, (sampleTimed 20).act ((sampleTimed 20).run (sampleTimedChain 20) sampleBoth)
        (sampleClaim x hx) = .ok c₁
        ∧ (sampleTimed 20).act c₁ (sampleClaim y hy) = .ok c₂ := by
    intro x y hx hy hpx hpy hne
    obtain ⟨c₁, h₁⟩ := hclaim rfl sampleBoth_ready hpx (by simp [sampleBoth, sampleFinalize])
    have hrun :
      (sampleTimed 20).run (sampleTimedChain 20) (sampleBoth ++ [sampleClaim x hx]) = c₁ := by
      rw [ProxySite.run, Runs.foldl_snoc]
      exact attempt_of_ok h₁
    obtain ⟨c₂, h₂⟩ := hclaim hrun (sampleBoth_ready.after h₁) hpy (by
      intro _ _ _ _ _ hk
      simp only [sampleBoth, sampleFinalize, sampleClaim, List.cons_append,
        List.nil_append, List.mem_cons,
        ProxyCall.pool.injEq, PoolCall.claim.injEq, reduceCtorEq, and_false, List.not_mem_nil,
          or_false, false_or] at hk
      obtain ⟨-, -, rfl, rfl, rfl, -⟩ := hk
      exact ⟨hpx.1, hne⟩)
    exact ⟨c₁, c₂, h₁, h₂⟩
  exact ⟨hboth first_inPair second_inPair (by decide), hboth second_inPair first_inPair (by decide)⟩

/-! ### A gross whose share does not fit in a word -/

/-- The funder has `2 ^ 243` coins. -/
def sampleHoard : Erc20 where
  balances := update (fun _ => 0) 7 (2 ^ 243)
  allowances := update (fun _ _ => 0) 7 (update (fun _ => 0) 20 (2 ^ 243))
  totalSupply := 2 ^ 243
  sum_balances := sum_single 7 (2 ^ 243)
  supply_lt := by decide

def sampleHoardChain : ProxyChain := { sampleTimedChain 20 with goat := sampleHoard }

theorem sampleHoardChain_fresh : sampleHoardChain.Fresh (sampleTimed 20) := by
  refine ⟨rfl, fun spender => ?_, rfl, Nat.two_pow_pos 256⟩
  show update (fun _ _ => 0) 7 (update (fun _ => 0) 20 (2 ^ 243)) 20 spender = 0
  rw [update_of_ne (by decide)]

def sampleHuge : ProxyChain :=
  (sampleTimed 20).run sampleHoardChain
    [.pool 7 (.fundEpoch 8000000000000 (2 ^ 243) 0),
     .pool 8 (.proposeBatch 0 8000000000000 sampleRoot 0 (2 ^ 243)),
     .advance 11,
     sampleFinalize]

/-- The batch is final, but the share of its operators cannot be computed. -/
theorem huge_claim_refused : sampleHoardChain.Fresh (sampleTimed 20)
    ∧ (sampleHuge.pool.batchOf 8000000000000).status = .finalized
    ∧ (sampleHuge.pool.batchOf 8000000000000).root = sampleRoot
    ∧ MerkleProof.verify [] sampleRoot (leafOf 30 8000000000000 7 9) = true
    ∧ sampleHuge.enrolled 30 = true
    ∧ payouts [⟨30, 7, 9⟩] ≤ (sampleHuge.pool.batchOf 8000000000000).grossGoatWei
      * operatorBps / bpsDenom
    ∧ sampleHuge.now.val ≤ (sampleHuge.pool.batchOf 8000000000000).claimEnd
    ∧ sampleHuge.pool.claimed 8000000000000 30 = false
    ∧ ∀ sender c', (sampleTimed 20).act sampleHuge (.pool sender (.claim 8000000000000 30 7 9 []))
      ≠ .ok c' := by
  refine ⟨sampleHoardChain_fresh, by decide +kernel, by decide +kernel, sampleRoot_proof,
    by decide +kernel, by decide +kernel, by decide +kernel, by decide +kernel,
    fun sender c' hclaim => ?_⟩
  have hhuge : ¬ (sampleHuge.pool.batchOf 8000000000000).grossGoatWei * operatorBps < 2 ^ 256 := by
    decide +kernel
  exact hhuge (ProxyChain.claim_passed hclaim).2.1

end GoatCoin
