/-
# `GoatCoin.Contracts.ProxyDocket` — what a call does to the batches

`Booking` follows the counters and the token; `Filing` follows the rest:

    batchOf       the batch of every epoch, through its states
    claimed       who was paid out of it
    bondCredit    the bonds that were credited and not withdrawn
    ether         what the pool holds of them, and of what it was sent besides

            propose           challenge            resolve, timeout
    none ──────────▶ proposed ─────────▶ challenged ───────────────▶ proposerWon
      ▲                 │                     │                          │
      │     finalize    ▼       finalize      │ resolve                  │
      │             finalized ◀───────────────┼──────────────────────────┘
      │   reset                               ▼
      └───────────────────────────────── challengerWon

A batch that is final stays so, and nothing is claimed of an epoch before.
-/
import GoatCoin.Contracts.ProxyPool

namespace GoatCoin

open Function (update update_self update_of_ne update_eq_self)
open Evm ProxyRevenueSettlement

structure Docket where
  batchOf : Uint256 → Batch
  claimed : Uint256 → Address → Bool
  bondCredit : Address → Nat
  ether : Nat

def ProxyChain.docket (c : ProxyChain) : Docket :=
  ⟨c.pool.batchOf, c.pool.claimed, c.pool.bondCredit, c.ether⟩

namespace Docket

def setBatch (k : Docket) (epochId : Uint256) (b : Batch) : Docket :=
  { k with batchOf := update k.batchOf epochId b }

def credit (k : Docket) (who : Address) (amount : Nat) : Docket :=
  { k with bondCredit := update k.bondCredit who (k.bondCredit who + amount) }

def receive (k : Docket) (value : Nat) : Docket := { k with ether := k.ether + value }

/-- The challenge is decided: the winner gets their bond back, the reserve the other one. -/
def settle (k : Docket) (reserveSink : Address) (epochId : Uint256) : Bool → Docket
  | true =>
      ((k.credit (k.batchOf epochId).proposer (k.batchOf epochId).proposerBondPosted).credit
        reserveSink (k.batchOf epochId).challengerBondPosted).setBatch epochId
          { k.batchOf epochId with
            status := .proposerWon, proposerBondPosted := 0, challengerBondPosted := 0 }
  | false =>
      ((k.credit (k.batchOf epochId).challenger (k.batchOf epochId).challengerBondPosted).credit
        reserveSink (k.batchOf epochId).proposerBondPosted).setBatch epochId
          { k.batchOf epochId with
            status := .challengerWon, proposerBondPosted := 0, challengerBondPosted := 0 }

theorem forall_setBatch {k : Docket} {epochId : Uint256} {b : Batch}
    {P : Uint256 → Batch → Prop} (h : ∀ i, P i (k.batchOf i))
    (hb : P epochId b) (i : Uint256) : P i ((k.setBatch epochId b).batchOf i) := by
  show P i (update k.batchOf epochId b i)
  rcases eq_or_ne i epochId with rfl | hne
  · rw [update_self]
    exact hb
  · rw [update_of_ne hne]
    exact h i

end Docket

/-- The calls that change a batch, a claim or a bond. -/
def PoolCall.files : PoolCall → Bool
  | .proposeBatch _ _ _ _ _ => true
  | .challengeBatch _ _ => true
  | .resolveChallenge _ _ => true
  | .timeoutChallenge _ => true
  | .resetBatch _ => true
  | .withdrawBond _ => true
  | .finalizeBatch _ => true
  | .claim _ _ _ _ _ => true
  | .sweepUnclaimed _ _ => true
  | .receive _ => true
  | _ => false

/-- The batch that a proposal opens. -/
def ProxyChain.opened (c : ProxyChain) (sender : Address) (value : Nat) (root evidenceRef : Bytes32)
    (grossGoatWei : Nat) : Batch where
  root := root
  evidenceRef := evidenceRef
  proposedAt := Fin.ofNat (2 ^ 64) c.now.val
  proposer := sender
  challenger := 0
  status := .proposed
  grossGoatWei := grossGoatWei
  takeSettled := 0
  claimedGoatWei := 0
  proposerBondPosted := value
  challengerBondPosted := 0
  challengeWindowSnap := c.pool.challengeWindow
  claimWindowSnap := c.pool.claimWindow
  resolveWindowSnap := c.pool.resolveWindow

/-- The last moment of the challenge window. -/
def ProxyRevenueSettlement.Batch.challengeEnd (b : Batch) : Nat :=
  b.proposedAt.val + b.challengeWindowSnap.val

/-- The last moment at which the batch can be claimed. -/
def ProxyRevenueSettlement.Batch.claimEnd (b : Batch) : Nat :=
  b.proposedAt.val + b.challengeWindowSnap.val + b.claimWindowSnap.val

/-- The last moment at which a challenge cannot be timed out. -/
def ProxyRevenueSettlement.Batch.resolveEnd (b : Batch) : Nat :=
  b.proposedAt.val + b.challengeWindowSnap.val + b.resolveWindowSnap.val

/-- A batch that is ready to be final. -/
inductive ProxyRevenueSettlement.Batch.Ripe (b : Batch) (now : Nat) : Prop
  | unchallenged : b.status = .proposed → b.challengeEnd < 2 ^ 64 →
  b.challengeEnd < now → b.Ripe now
  | proposerWon : b.status = .proposerWon → b.Ripe now

theorem ProxyRevenueSettlement.Batch.Ripe.unfinal {b : Batch} {now : Nat} (h : b.Ripe now) :
    b.status ≠ .finalized := by
  intro hs
  cases h with
  | unchallenged hs' _ _ => cases hs.symm.trans hs'
  | proposerWon hs' => cases hs.symm.trans hs'

/-- What a call that succeeds does to the batches, the claims and the bonds. -/
inductive Filing (d : ProxySite) (c : ProxyChain) (sender : Address) : PoolCall → Docket → Prop
  | still {call : PoolCall} : call.files = false → Filing d c sender call c.docket
  | receive {value : Uint256} : c.ether + value.val < 2 ^ 256 →
      Filing d c sender (.receive value) (c.docket.receive value.val)
  | propose {value epochId : Uint256} {root evidenceRef : Bytes32} {gross : Uint256} :
      sender = d.config.publisher ∨ sender = d.config.safe → IsProxyEpoch epochId →
      value.val = c.pool.proposerBond → gross.val ≠ 0 → (c.pool.batchOf epochId).status = .none →
      c.ether + value.val < 2 ^ 256 →
      Filing d c sender (.proposeBatch value epochId root evidenceRef gross)
        ((c.docket.receive value.val).setBatch epochId
          (c.opened sender value.val root evidenceRef gross.val))
  | challenge {value epochId : Uint256} :
      IsProxyEpoch epochId → (c.pool.batchOf epochId).status = .proposed →
      (c.pool.batchOf epochId).challengeEnd < 2 ^ 64 →
      c.now.val ≤ (c.pool.batchOf epochId).challengeEnd → value.val = c.pool.challengerBond →
      c.ether + value.val < 2 ^ 256 →
      Filing d c sender (.challengeBatch value epochId)
        ((c.docket.receive value.val).setBatch epochId { c.pool.batchOf epochId with
          challenger := sender, challengerBondPosted := value.val, status := .challenged })
  | resolve {epochId : Uint256} {proposerWon : Bool} :
      sender = d.config.resolver → (c.pool.batchOf epochId).status = .challenged →
      Filing d c sender (.resolveChallenge epochId proposerWon)
        (c.docket.settle d.config.reserveSink epochId proposerWon)
  | timeout {epochId : Uint256} :
      (c.pool.batchOf epochId).status = .challenged →
      (c.pool.batchOf epochId).resolveEnd < c.now.val →
      Filing d c sender (.timeoutChallenge epochId)
        (c.docket.settle d.config.reserveSink epochId true)
  | reset {epochId : Uint256} :
      sender = d.config.safe → (c.pool.batchOf epochId).status = .challengerWon →
      Filing d c sender (.resetBatch epochId) (c.docket.setBatch epochId .empty)
  | withdraw :
      c.pool.bondCredit sender ≠ 0 → c.pool.bondCredit sender ≤ c.ether →
      Filing d c sender (.withdrawBond true)
        { c.docket with
          bondCredit := update c.pool.bondCredit sender 0
          ether := c.ether - c.pool.bondCredit sender }
  | finalize {epochId : Uint256} {x : Take} :
      (c.pool.batchOf epochId).Ripe c.now.val →
      (c.pool.batchOf epochId).grossGoatWei ≤ (c.pool.fundingOf epochId).goatFunded →
      takeOf (c.pool.batchOf epochId).grossGoatWei = .ok x →
      Filing d c sender (.finalizeBatch epochId)
        ((c.docket.credit (c.pool.batchOf epochId).proposer
          (c.pool.batchOf epochId).proposerBondPosted).setBatch epochId
            { c.pool.batchOf epochId with
              status := .finalized, takeSettled := x.takeGoatWei, proposerBondPosted := 0 })
  | claim {epochId : Uint256} {operator : Address} {totalBytes payout : Uint256}
      {proof : List Bytes32} :
      (c.pool.batchOf epochId).status = .finalized →
      c.now.val ≤ (c.pool.batchOf epochId).claimEnd → c.pool.claimed epochId operator = false →
      MerkleProof.verify proof (c.pool.batchOf epochId).root
        (leafOf operator epochId totalBytes payout) →
      Filing d c sender (.claim epochId operator totalBytes payout proof)
        { c.docket.setBatch epochId { c.pool.batchOf epochId with
            claimedGoatWei := (c.pool.batchOf epochId).claimedGoatWei + payout.val } with
          claimed := update c.pool.claimed epochId
            (update (c.pool.claimed epochId) operator true) }
  | sweep {epochId : Uint256} {dst : Address} :
      (c.pool.batchOf epochId).status = .finalized →
      (c.pool.batchOf epochId).claimEnd < c.now.val →
      Filing d c sender (.sweepUnclaimed epochId dst) c.docket

/-! ## What the calls check -/

namespace ProxyRevenueSettlement

variable {p p' : ProxyRevenueSettlement} {self sender : Address} {cfg : Config} {t t' : Erc20}
  {now : Nat} {epochId : Uint256}

theorem creditBond_ok {who : Address} {amount : Nat} (h : p.creditBond who amount = .ok p') :
    p' = { p with bondCredit := update p.bondCredit who (p.bondCredit who + amount) } := by
  obtain ⟨credit, hcredit, h⟩ := bind_ok.mp h
  obtain ⟨-, rfl⟩ := checked_ok.mp hcredit
  cases h
  rfl

theorem creditBond_of_lt {who : Address} {amount : Nat} (h : p.bondCredit who + amount < 2 ^ 256) :
    p.creditBond who amount
      = .ok { p with bondCredit := update p.bondCredit who (p.bondCredit who + amount) } :=
  bind_ok.mpr ⟨_, checked_ok.mpr ⟨h, rfl⟩, rfl⟩

theorem checkFinal_ok {b : Batch} : (∃ u, b.checkFinal now = .ok u) ↔ b.Ripe now := by
  constructor
  · rintro ⟨u, h⟩
    unfold Batch.checkFinal at h
    split at h
    · rename_i hs
      obtain ⟨deadline, hdeadline, h⟩ := bind_ok.mp h
      obtain ⟨hlt, rfl⟩ := checked_ok.mp hdeadline
      exact .unchallenged hs hlt (require_ok.mp h)
    · rename_i hs
      exact .proposerWon hs
    · cases h
  · intro h
    refine ⟨(), ?_⟩
    unfold Batch.checkFinal
    cases h with
    | unchallenged hs hlt hnow =>
        rw [hs]
        exact bind_ok.mpr ⟨_, checked_ok.mpr ⟨hlt, rfl⟩, require_of hnow⟩
    | proposerWon hs => rw [hs]

theorem finalizeBatch_ok (h : p.finalizeBatch self cfg t now sender epochId = .ok (p', t')) :
    (sender = cfg.publisher ∨ sender = cfg.safe) ∧ IsProxyEpoch epochId
      ∧ (p.batchOf epochId).Ripe now
      ∧ (p.batchOf epochId).grossGoatWei ≤ (p.fundingOf epochId).goatFunded
      ∧ ∃ x p₁, takeOf (p.batchOf epochId).grossGoatWei = .ok x ∧ p.bookTake epochId x = .ok p₁
        ∧ p' = { p₁ with
            bondCredit := update p₁.bondCredit (p.batchOf epochId).proposer
              (p₁.bondCredit (p.batchOf epochId).proposer + (p.batchOf epochId).proposerBondPosted)
            batchOf := update p₁.batchOf epochId { p.batchOf epochId with
              status := .finalized, takeSettled := x.takeGoatWei, proposerBondPosted := 0 } } := by
  obtain ⟨_, hsender, _, hepoch, _, hripe, _, hfunded, h⟩ := bind_ok₄.mp h
  obtain ⟨x, hx, p₁, hbook, p₂, hcredit, h⟩ := bind_ok₃.mp h
  obtain ⟨t₁, -, t₂, -, h⟩ := bind_ok₂.mp h
  cases h
  obtain rfl := creditBond_ok hcredit
  have hsender := require_ok.mp hsender
  rw [not_and_or, not_not, not_not] at hsender
  exact ⟨hsender, require_ok.mp hepoch, checkFinal_ok.mp ⟨_, hripe⟩,
    require_ok.mp hfunded, x, p₁, hx, hbook, rfl⟩

theorem settleBonds_ok {status : Status} {who : Address} {own other : Nat}
    (h : p.settleBonds cfg epochId status who own other = .ok p') (c : ProxyChain)
    (hp : c.pool = p) :
    ({ c with pool := p' } : ProxyChain).docket
      = ((c.docket.credit who own).credit cfg.reserveSink other).setBatch epochId
          { p.batchOf epochId with
            status, proposerBondPosted := 0, challengerBondPosted := 0 } := by
  obtain ⟨p₁, hown, h⟩ := bind_ok.mp h
  obtain rfl := creditBond_ok hown
  obtain ⟨p₂, hother, h⟩ := bind_ok.mp h
  obtain rfl := creditBond_ok hother
  cases h
  subst hp
  rfl

end ProxyRevenueSettlement

namespace ProxySite

variable {d : ProxySite} {c c' : ProxyChain} {sender : Address}

theorem takeEther_ok {value : Uint256} {ether : Nat} (h : takeEther c value = .ok ether) :
    c.ether + value.val < 2 ^ 256 ∧ c.ether + value.val = ether := checked_ok.mp h

/-- **What a call that succeeds does to the batches, the claims and the bonds.** -/
theorem poolCall_filing {call : PoolCall} (h : d.poolCall c sender call = .ok c') :
    Filing d c sender call c'.docket := by
  have hstill : ∀ {call : PoolCall} {c' : ProxyChain}, call.files = false → c'.docket = c.docket →
      Filing d c sender call c'.docket := by
    intro call c' hcall hdocket
    rw [hdocket]
    exact .still hcall
  cases call with
  | setFunder funder =>
      obtain ⟨p, hp, h⟩ := bind_ok.mp h
      obtain ⟨-, -, -, -, hp⟩ := bind_ok₂.mp hp
      cases hp
      cases h
      exact hstill rfl rfl
  | recordUsdtInflow epochId amount =>
      obtain ⟨p, hp, h⟩ := bind_ok.mp h
      obtain ⟨-, -, -, -, -, -, usdtInflow, -, hp⟩ := bind_ok₄.mp hp
      cases hp
      cases h
      exact hstill rfl rfl
  | fundEpoch epochId goatAmount backedUsdt =>
      obtain ⟨⟨p, t⟩, hp, h⟩ := bind_ok.mp h
      cases h
      obtain ⟨-, -, -, -, -, -, hbatch, hbond, -, hclaimed⟩ := fundEpoch_ok hp
      refine hstill rfl ?_
      simp only [ProxyChain.docket, hbatch, hbond, hclaimed]
  | proposeBatch value epochId root evidenceRef grossGoatWei =>
      obtain ⟨ether, hether, h⟩ := bind_ok.mp h
      obtain ⟨hlt, rfl⟩ := takeEther_ok hether
      obtain ⟨p, hp, h⟩ := bind_ok.mp h
      cases h
      obtain ⟨_, hsender, _, hepoch, _, hvalue, hp⟩ := bind_ok₃.mp hp
      obtain ⟨_, hgross, _, hstatus, hp⟩ := bind_ok₂.mp hp
      cases hp
      have hsender := require_ok.mp hsender
      rw [not_and_or, not_not, not_not] at hsender
      exact .propose hsender (require_ok.mp hepoch) (require_ok.mp hvalue) (require_ok.mp hgross)
        (require_ok.mp hstatus) hlt
  | challengeBatch value epochId =>
      obtain ⟨ether, hether, h⟩ := bind_ok.mp h
      obtain ⟨hlt, rfl⟩ := takeEther_ok hether
      obtain ⟨p, hp, h⟩ := bind_ok.mp h
      cases h
      obtain ⟨_, hepoch, _, hstatus, deadline, hdeadline, hp⟩ := bind_ok₃.mp hp
      obtain ⟨hfits, rfl⟩ := checked_ok.mp hdeadline
      obtain ⟨_, hopen, _, hvalue, hp⟩ := bind_ok₂.mp hp
      cases hp
      exact .challenge (require_ok.mp hepoch) (require_ok.mp hstatus) hfits (require_ok.mp hopen)
        (require_ok.mp hvalue) hlt
  | resolveChallenge epochId proposerWon =>
      obtain ⟨p, hp, h⟩ := bind_ok.mp h
      obtain ⟨-, -, _, hresolver, _, hstatus, hp⟩ := bind_ok₃.mp hp
      cases h
      cases proposerWon with
      | true =>
          rw [if_pos rfl] at hp
          rw [settleBonds_ok hp c rfl]
          exact .resolve (require_ok.mp hresolver) (require_ok.mp hstatus)
      | false =>
          rw [if_neg Bool.false_ne_true] at hp
          rw [settleBonds_ok hp c rfl]
          exact .resolve (require_ok.mp hresolver) (require_ok.mp hstatus)
  | timeoutChallenge epochId =>
      obtain ⟨p, hp, h⟩ := bind_ok.mp h
      obtain ⟨-, -, _, hstatus, _, hlate, hp⟩ := bind_ok₃.mp hp
      cases h
      rw [settleBonds_ok hp c rfl]
      exact .timeout (require_ok.mp hstatus) (require_ok.mp hlate)
  | resetBatch epochId =>
      obtain ⟨p, hp, h⟩ := bind_ok.mp h
      obtain ⟨_, hsafe, -, -, _, hstatus, hp⟩ := bind_ok₃.mp hp
      cases hp
      cases h
      exact .reset (require_ok.mp hsafe) (require_ok.mp hstatus)
  | withdrawBond accepted =>
      obtain ⟨⟨p, amount⟩, hp, h⟩ := bind_ok.mp h
      obtain ⟨ether, hether, h⟩ := bind_ok.mp h
      cases h
      obtain ⟨_, hamount, _, haccepted, hp⟩ := bind_ok₂.mp hp
      cases hp
      obtain ⟨hle, rfl⟩ := checkedSub_ok.mp hether
      obtain rfl := require_ok.mp haccepted
      exact .withdraw (require_ok.mp hamount) hle
  | finalizeBatch epochId =>
      obtain ⟨⟨p, t⟩, hp, h⟩ := bind_ok.mp h
      cases h
      obtain ⟨-, -, hripe, hfunded, x, p₁, hx, hbook, rfl⟩ := finalizeBatch_ok hp
      have hdocket : ({ c with
          pool := { p₁ with
            bondCredit := update p₁.bondCredit (c.pool.batchOf epochId).proposer
              (p₁.bondCredit (c.pool.batchOf epochId).proposer
                + (c.pool.batchOf epochId).proposerBondPosted)
            batchOf := update p₁.batchOf epochId { c.pool.batchOf epochId with
              status := .finalized, takeSettled := x.takeGoatWei, proposerBondPosted := 0 } }
          goat := t } : ProxyChain).docket
          = (c.docket.credit (c.pool.batchOf epochId).proposer
            (c.pool.batchOf epochId).proposerBondPosted).setBatch epochId
              { c.pool.batchOf epochId with
                status := .finalized, takeSettled := x.takeGoatWei, proposerBondPosted := 0 } := by
        obtain ⟨-, -, hbatch, hbond, -, hclaimed⟩ := bookTake_ok hbook
        simp only [ProxyChain.docket, Docket.credit, Docket.setBatch, hbatch, hbond, hclaimed]
      rw [hdocket]
      exact .finalize hripe hfunded hx
  | claim epochId operator totalBytes payoutGoatWei proof =>
      obtain ⟨⟨p, t⟩, hp, h⟩ := bind_ok.mp h
      cases h
      have hclaims := claim_ok hp
      obtain ⟨p₁, hbook, rfl⟩ := hclaims.booked
      obtain ⟨-, hbatch, hbond, -, hclaimed⟩ := bookPayout_ok hbook
      simp only [ProxyChain.docket, hbatch, hbond, hclaimed]
      exact .claim hclaims.finalized hclaims.inTime hclaims.unclaimed hclaims.proved
  | releaseReserve dst amount =>
      obtain ⟨⟨p, t⟩, hp, h⟩ := bind_ok.mp h
      cases h
      obtain ⟨-, -, -, -, -, -, t₁, -, hp⟩ := bind_ok₄.mp hp
      cases hp
      exact hstill rfl rfl
  | sweepUnclaimed epochId dst =>
      obtain ⟨⟨p, t⟩, hp, h⟩ := bind_ok.mp h
      cases h
      obtain ⟨hstatus, hclosed, amount, -, -, hbook⟩ := sweepUnclaimed_ok hp
      obtain ⟨-, hbatch, hbond, -, hclaimed⟩ := bookPayout_ok hbook
      simp only [ProxyChain.docket, hbatch, hbond, hclaimed]
      exact .sweep hstatus hclosed
  | setWindows challengeWindow claimWindow resolveWindow =>
      obtain ⟨p, hp, h⟩ := bind_ok.mp h
      obtain ⟨-, -, hp⟩ := bind_ok.mp hp
      cases hp
      cases h
      exact hstill rfl rfl
  | setBonds proposerBond challengerBond =>
      obtain ⟨p, hp, h⟩ := bind_ok.mp h
      obtain ⟨-, -, hp⟩ := bind_ok.mp hp
      cases hp
      cases h
      exact hstill rfl rfl
  | setReferenceRate rate =>
      obtain ⟨p, hp, h⟩ := bind_ok.mp h
      obtain ⟨-, -, hp⟩ := bind_ok.mp hp
      cases hp
      cases h
      exact hstill rfl rfl
  | receive value =>
      obtain ⟨ether, hether, h⟩ := bind_ok.mp h
      obtain ⟨hlt, rfl⟩ := takeEther_ok hether
      cases h
      exact .receive hlt

end ProxySite

/-! ## One epoch -/

/-- What the pool keeps of an epoch. -/
structure EpochView where
  funding : Funding
  batch : Batch
  claimed : Address → Bool

def ProxyChain.view (c : ProxyChain) (epochId : Uint256) : EpochView :=
  ⟨c.pool.fundingOf epochId, c.pool.batchOf epochId, c.pool.claimed epochId⟩

/-- The epoch that a call is for. -/
def ProxyCall.epoch : ProxyCall → Option Uint256
  | .pool _ (.recordUsdtInflow epochId _) => some epochId
  | .pool _ (.fundEpoch epochId _ _) => some epochId
  | .pool _ (.proposeBatch _ epochId _ _ _) => some epochId
  | .pool _ (.challengeBatch _ epochId) => some epochId
  | .pool _ (.resolveChallenge epochId _) => some epochId
  | .pool _ (.timeoutChallenge epochId) => some epochId
  | .pool _ (.resetBatch epochId) => some epochId
  | .pool _ (.finalizeBatch epochId) => some epochId
  | .pool _ (.claim epochId _ _ _ _) => some epochId
  | .pool _ (.sweepUnclaimed epochId _) => some epochId
  | _ => none

/-- The status after a challenge is decided. -/
def ProxyRevenueSettlement.Status.decided : Bool → Status
  | true => .proposerWon
  | false => .challengerWon

/-- What a call that succeeds does to one epoch. -/
inductive EpochStep (c : ProxyChain) (epochId : Uint256) (v : EpochView) : ProxyCall →
    EpochView → Prop
  | same {k : ProxyCall} : k.epoch ≠ some epochId → EpochStep c epochId v k v
  | inflow {sender : Address} {amount : Uint256} :
      EpochStep c epochId v (.pool sender (.recordUsdtInflow epochId amount))
        { v with funding := { v.funding with usdtInflow := v.funding.usdtInflow + amount.val } }
  | fund {sender : Address} {amount backed : Uint256} :
      EpochStep c epochId v (.pool sender (.fundEpoch epochId amount backed))
        { v with funding := { v.funding with
          usdtBacked := v.funding.usdtBacked + backed.val
          goatFunded := v.funding.goatFunded + amount.val } }
  | propose {sender : Address} {value gross : Uint256} {root evidenceRef : Bytes32} :
      v.batch.status = .none →
      EpochStep c epochId v (.pool sender (.proposeBatch value epochId root evidenceRef gross))
        { v with batch := c.opened sender value.val root evidenceRef gross.val }
  | challenge {sender : Address} {value : Uint256} :
      v.batch.status = .proposed → v.batch.challengeEnd < 2 ^ 64 →
      c.now.val ≤ v.batch.challengeEnd →
      EpochStep c epochId v (.pool sender (.challengeBatch value epochId))
        { v with batch := { v.batch with
          challenger := sender, challengerBondPosted := value.val, status := .challenged } }
  | resolve {sender : Address} (proposerWon : Bool) :
      v.batch.status = .challenged →
      EpochStep c epochId v (.pool sender (.resolveChallenge epochId proposerWon))
        { v with batch := { v.batch with
          status := .decided proposerWon, proposerBondPosted := 0, challengerBondPosted := 0 } }
  | timeout {sender : Address} :
      v.batch.status = .challenged → v.batch.resolveEnd < c.now.val →
      EpochStep c epochId v (.pool sender (.timeoutChallenge epochId))
        { v with batch := { v.batch with
          status := .proposerWon, proposerBondPosted := 0, challengerBondPosted := 0 } }
  | reset {sender : Address} :
      v.batch.status = .challengerWon →
      EpochStep c epochId v (.pool sender (.resetBatch epochId)) { v with batch := .empty }
  | finalize {sender : Address} {x : Take} :
      v.batch.Ripe c.now.val → v.batch.grossGoatWei ≤ v.funding.goatFunded →
      takeOf v.batch.grossGoatWei = .ok x →
      EpochStep c epochId v (.pool sender (.finalizeBatch epochId))
        { v with
          funding := { v.funding with
            goatClaimed := v.funding.goatClaimed + (x.toTreasury + x.toAttestor)
            reserveHeld := v.funding.reserveHeld + x.toReserve }
          batch := { v.batch with
            status := .finalized, takeSettled := x.takeGoatWei, proposerBondPosted := 0 } }
  | claim {sender operator : Address} {totalBytes payout : Uint256} {proof : List Bytes32} :
      v.batch.status = .finalized → c.now.val ≤ v.batch.claimEnd → v.claimed operator = false →
      MerkleProof.verify proof v.batch.root (leafOf operator epochId totalBytes payout) →
      EpochStep c epochId v (.pool sender (.claim epochId operator totalBytes payout proof))
        { funding := { v.funding with goatClaimed := v.funding.goatClaimed + payout.val }
          batch := { v.batch with claimedGoatWei := v.batch.claimedGoatWei + payout.val }
          claimed := update v.claimed operator true }
  | sweep {sender dst : Address} {amount : Nat} :
      v.batch.status = .finalized → v.batch.claimEnd < c.now.val →
      EpochStep c epochId v (.pool sender (.sweepUnclaimed epochId dst))
        { v with funding := { v.funding with goatClaimed := v.funding.goatClaimed + amount } }

namespace ProxySite

variable {d : ProxySite} {c c' : ProxyChain} {sender : Address} {call : PoolCall} {k : ProxyCall}

theorem epoch_of_write {touched : Uint256} {f : Funding} {b : Batch} {claimed : Address → Bool}
    (hepoch : k.epoch = some touched)
    (hfunding : c'.pool.fundingOf = update c.pool.fundingOf touched f)
    (hbatch : c'.pool.batchOf = update c.pool.batchOf touched b)
    (hclaimed : c'.pool.claimed = update c.pool.claimed touched claimed)
    (hstep : EpochStep c touched (c.view touched) k ⟨f, b, claimed⟩) (epochId : Uint256) :
    EpochStep c epochId (c.view epochId) k (c'.view epochId) := by
  unfold ProxyChain.view at hstep ⊢
  rw [hfunding, hbatch, hclaimed]
  rcases eq_or_ne epochId touched with rfl | hne
  · rw [update_self, update_self, update_self]
    exact hstep
  · rw [update_of_ne hne, update_of_ne hne, update_of_ne hne]
    refine .same ?_
    rw [hepoch]
    exact fun heq => hne (Option.some.inj heq).symm

theorem epoch_of_setBatch {D : Docket} {touched : Uint256} {b : Batch}
    (hepoch : k.epoch = some touched)
    (haccounts : c'.pool.accounts = c.pool.accounts) (hdocket : c'.docket = D.setBatch touched b)
    (hbatch : D.batchOf = c.pool.batchOf) (hclaimed : D.claimed = c.pool.claimed)
    (hstep : EpochStep c touched (c.view touched) k { c.view touched with batch := b })
    (epochId : Uint256) : EpochStep c epochId (c.view epochId) k (c'.view epochId) := by
  refine epoch_of_write hepoch ?_ ?_ ?_ hstep epochId
  · exact (congrArg Accounts.fundingOf haccounts).trans (update_eq_self touched _).symm
  · rw [← hbatch]
    exact congrArg Docket.batchOf hdocket
  · exact (congrArg Docket.claimed hdocket).trans
      (hclaimed.trans (update_eq_self touched _).symm)

theorem epoch_of_setFunding {a : Accounts} {touched : Uint256} {f : Funding}
    (hepoch : k.epoch = some touched) (haccounts : c'.pool.accounts = a)
    (hfunding : a.fundingOf = update c.pool.fundingOf touched f) (hdocket : c'.docket = c.docket)
    (hstep : EpochStep c touched (c.view touched) k { c.view touched with funding := f })
    (epochId : Uint256) : EpochStep c epochId (c.view epochId) k (c'.view epochId) := by
  refine epoch_of_write hepoch ?_ ?_ ?_ hstep epochId
  · exact (congrArg Accounts.fundingOf haccounts).trans hfunding
  · exact (congrArg Docket.batchOf hdocket).trans (update_eq_self touched _).symm
  · exact (congrArg Docket.claimed hdocket).trans (update_eq_self touched _).symm

theorem epoch_of_none (hepoch : k.epoch = none) (hfunding : c'.pool.fundingOf = c.pool.fundingOf)
    (hbatch : c'.pool.batchOf = c.pool.batchOf) (hclaimed : c'.pool.claimed = c.pool.claimed)
    (epochId : Uint256) : EpochStep c epochId (c.view epochId) k (c'.view epochId) := by
  have hview : c'.view epochId = c.view epochId := by
    unfold ProxyChain.view
    rw [hfunding, hbatch, hclaimed]
  rw [hview]
  refine .same ?_
  rw [hepoch]
  exact nofun

theorem poolCall_epoch (h : d.poolCall c sender call = .ok c') (epochId : Uint256) :
    EpochStep c epochId (c.view epochId) (.pool sender call) (c'.view epochId) := by
  have hbook := poolCall_booking h
  have hfiling := poolCall_filing h
  obtain ⟨a, ha⟩ : ∃ a, c'.pool.accounts = a := ⟨_, rfl⟩
  obtain ⟨D, hD⟩ : ∃ D, c'.docket = D := ⟨_, rfl⟩
  obtain ⟨t, ht⟩ : ∃ t, c'.goat = t := ⟨_, rfl⟩
  rw [ha, ht] at hbook
  rw [hD] at hfiling
  cases hfiling with
  | still hfiles =>
      cases hbook with
      | still hbooks =>
          refine epoch_of_none ?_ (congrArg Accounts.fundingOf ha) (congrArg Docket.batchOf hD)
            (congrArg Docket.claimed hD) epochId
          cases call <;> first | rfl | exact Bool.noConfusion hfiles | exact Bool.noConfusion hbooks
      | inflow => exact epoch_of_setFunding rfl ha rfl hD .inflow epochId
      | fund _ _ _ _ _ => exact epoch_of_setFunding rfl ha rfl hD .fund epochId
      | take _ _ _ => cases hfiles
      | claim _ _ => cases hfiles
      | sweep _ _ => cases hfiles
      | release _ _ _ _ =>
          exact epoch_of_none rfl (congrArg Accounts.fundingOf ha) (congrArg Docket.batchOf hD)
            (congrArg Docket.claimed hD) epochId
  | receive _ =>
      cases hbook with
      | still _ =>
          exact epoch_of_none rfl (congrArg Accounts.fundingOf ha) (congrArg Docket.batchOf hD)
            (congrArg Docket.claimed hD) epochId
  | propose _ _ _ _ hs _ =>
      cases hbook with
      | still _ => exact epoch_of_setBatch rfl ha hD rfl rfl (.propose hs) epochId
  | challenge _ hs hfits hopen _ _ =>
      cases hbook with
      | still _ => exact epoch_of_setBatch rfl ha hD rfl rfl (.challenge hs hfits hopen) epochId
  | @resolve _ proposerWon _ hs =>
      cases hbook with
      | still _ =>
          cases proposerWon with
          | true => exact epoch_of_setBatch rfl ha hD rfl rfl (.resolve true hs) epochId
          | false => exact epoch_of_setBatch rfl ha hD rfl rfl (.resolve false hs) epochId
  | timeout hs hlate =>
      cases hbook with
      | still _ => exact epoch_of_setBatch rfl ha hD rfl rfl (.timeout hs hlate) epochId
  | reset _ hs =>
      cases hbook with
      | still _ => exact epoch_of_setBatch rfl ha hD rfl rfl (.reset hs) epochId
  | withdraw _ _ =>
      cases hbook with
      | still _ =>
          exact epoch_of_none rfl (congrArg Accounts.fundingOf ha) (congrArg Docket.batchOf hD)
            (congrArg Docket.claimed hD) epochId
  | finalize _ _ _ =>
      obtain ⟨⟨p, t'⟩, hp, h⟩ := bind_ok.mp h
      cases h
      obtain ⟨-, -, hripe, hfunded, x, p₁, hx, hbook, rfl⟩ := finalizeBatch_ok hp
      obtain ⟨-, haccounts, hbatch, -, -, hclaimed⟩ := bookTake_ok hbook
      refine epoch_of_write rfl ?_ ?_ ?_ (.finalize hripe hfunded hx) epochId
      · exact congrArg Accounts.fundingOf haccounts
      · exact congrArg (update · _ _) hbatch
      · exact hclaimed.trans (update_eq_self _ _).symm
  | claim hs hopen hclaimed hproof =>
      cases hbook with
      | still hbooks => cases hbooks
      | claim _ _ =>
          exact epoch_of_write rfl (congrArg Accounts.fundingOf ha) (congrArg Docket.batchOf hD)
            (congrArg Docket.claimed hD) (.claim hs hopen hclaimed hproof) epochId
  | sweep hs hclosed =>
      cases hbook with
      | still hbooks => cases hbooks
      | sweep _ _ => exact epoch_of_setFunding rfl ha rfl hD (.sweep hs hclosed) epochId

theorem poolCall_now (h : d.poolCall c sender call = .ok c') :
    c'.now = c.now ∧ c'.enrolled = c.enrolled := by
  -- some bind the ether besides
  cases call <;> obtain ⟨_, _, h⟩ := bind_ok.mp h
  all_goals
    first
    | cases h
      exact ⟨rfl, rfl⟩
    | obtain ⟨_, _, h⟩ := bind_ok.mp h
      cases h
      exact ⟨rfl, rfl⟩

/-- **What a call that succeeds does to one epoch**; time only goes on. -/
theorem act_epoch (h : d.act c k = .ok c') (epochId : Uint256) :
    EpochStep c epochId (c.view epochId) k (c'.view epochId) ∧ c.now ≤ c'.now := by
  cases k with
  | advance now =>
      obtain ⟨_, hnow, h⟩ := bind_ok.mp h
      cases h
      exact ⟨.same nofun, require_ok.mp hnow⟩
  | enrol enrolled =>
      cases h
      exact ⟨.same nofun, le_rfl⟩
  | goat sender call =>
      obtain ⟨-, -, t, -, h⟩ := bind_ok₂.mp h
      cases h
      exact ⟨.same nofun, le_rfl⟩
  | pool sender call =>
      obtain ⟨-, -, h⟩ := bind_ok.mp h
      exact ⟨poolCall_epoch h epochId, (poolCall_now h).1.ge⟩

theorem act_now (h : d.act c k = .ok c') (hk : ∀ now, k ≠ .advance now) : c'.now = c.now := by
  cases k with
  | advance now => exact absurd rfl (hk now)
  | enrol enrolled =>
      cases h
      rfl
  | goat sender call =>
      obtain ⟨-, -, t, -, h⟩ := bind_ok₂.mp h
      cases h
      rfl
  | pool sender call =>
      obtain ⟨-, -, h⟩ := bind_ok.mp h
      exact (poolCall_now h).1

end ProxySite

end GoatCoin
