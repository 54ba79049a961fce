/-
# `GoatCoin.Contracts.ProxyRevenue` — the pool of `ProxyRevenueSettlement.sol`

    recordUsdtInflow, fundEpoch      what an epoch may pay out, bounded by what came in
    proposeBatch … resetBatch        None → Proposed → Challenged → ProposerWon, ChallengerWon
    finalizeBatch                    books the take, Proposed or ProposerWon → Finalized
    claim                            an operator's share, by Merkle proof, while the window is open
    releaseReserve                   the reserve, by the Safe
    sweepUnclaimed                   the rest of an epoch, by the Safe, once the window is closed

The pool holds one balance of GOAT for all epochs.  What is left of an epoch's funding
is kept in two counters of the epoch, `goatClaimed` and `reserveHeld`; the reserve has
a counter of its own besides, which `releaseReserve` takes from.

Deadlines are sums of 64-bit words.  `challengeBatch` and `finalizeBatch` add them in
64 bits, the others in 256.
-/
import GoatCoin.Contracts.Erc20
import GoatCoin.Contracts.Merkle

namespace GoatCoin

open Function (update)
open Evm

namespace ProxyRevenueSettlement

/-- `PROXY_LEAF_DOMAIN`. -/
def proxyLeafDomain : Bytes32 := keccak256 "GOAT_PROXY_REVENUE_LEAF_V1".toUTF8.toList

def proxyEpochBase : Nat := 8000000000000
def proxyEpochCeiling : Nat := 9000000000000
def operatorBps : Nat := 9000
def takeBps : Nat := 1000
def treasuryBps : Nat := 600
def attestorBps : Nat := 200
def bpsDenom : Nat := 10000

/-- Where a batch stands. -/
inductive Status where
  | none
  | proposed
  | challenged
  | proposerWon
  | challengerWon
  | finalized
deriving DecidableEq

/-- What the constructor fixes. -/
structure Config where
  safe : Address
  goat : Address
  registry : Address
  treasury : Address
  attestorSafe : Address
  reserveSink : Address
  funder : Address
  publisher : Address
  gateway : Address
  usdtTreasury : Address
  resolver : Address
  watcher : Address
  challengeWindow : Word 64
  claimWindow : Word 64
  resolveWindow : Word 64
  proposerBond : Uint256
  challengerBond : Uint256
  referenceRateUsdtPerGoat : Uint256

/-- The money of an epoch. -/
structure Funding where
  goatFunded : Nat
  usdtBacked : Nat
  usdtInflow : Nat
  goatClaimed : Nat
  reserveHeld : Nat

def Funding.empty : Funding := ⟨0, 0, 0, 0, 0⟩

/-- The batch of an epoch. -/
structure Batch where
  root : Bytes32
  evidenceRef : Bytes32
  proposedAt : Word 64
  proposer : Address
  challenger : Address
  status : Status
  grossGoatWei : Nat
  takeSettled : Nat
  claimedGoatWei : Nat
  proposerBondPosted : Nat
  challengerBondPosted : Nat
  challengeWindowSnap : Word 64
  claimWindowSnap : Word 64
  resolveWindowSnap : Word 64

def Batch.empty : Batch := ⟨0, 0, 0, 0, 0, .none, 0, 0, 0, 0, 0, 0, 0, 0⟩

end ProxyRevenueSettlement

structure ProxyRevenueSettlement where
  isFunder : Address → Bool
  challengeWindow : Word 64
  claimWindow : Word 64
  resolveWindow : Word 64
  proposerBond : Nat
  challengerBond : Nat
  referenceRateUsdtPerGoat : Nat
  totalFunded : Nat
  totalClaimed : Nat
  reserveHeld : Nat
  fundingOf : Uint256 → ProxyRevenueSettlement.Funding
  batchOf : Uint256 → ProxyRevenueSettlement.Batch
  claimed : Uint256 → Address → Bool
  bondCredit : Address → Nat

namespace ProxyRevenueSettlement

/-- The constructor. -/
def new (c : Config) : Except Revert ProxyRevenueSettlement := do
  require (¬ (c.safe = 0 ∨ c.goat = 0 ∨ c.registry = 0 ∨ c.treasury = 0 ∨ c.attestorSafe = 0
    ∨ c.reserveSink = 0 ∨ c.funder = 0 ∨ c.publisher = 0 ∨ c.gateway = 0 ∨ c.usdtTreasury = 0
    ∨ c.resolver = 0 ∨ c.watcher = 0)) .zeroAddress
  .ok
    { isFunder := update (fun _ => false) c.funder true
      challengeWindow := c.challengeWindow
      claimWindow := c.claimWindow
      resolveWindow := c.resolveWindow
      proposerBond := c.proposerBond.val
      challengerBond := c.challengerBond.val
      referenceRateUsdtPerGoat := c.referenceRateUsdtPerGoat.val
      totalFunded := 0
      totalClaimed := 0
      reserveHeld := 0
      fundingOf := fun _ => .empty
      batchOf := fun _ => .empty
      claimed := fun _ _ => false
      bondCredit := fun _ => 0 }

def IsProxyEpoch (epochId : Uint256) : Prop :=
  proxyEpochBase ≤ epochId.val ∧ epochId.val < proxyEpochCeiling

instance (epochId : Uint256) : Decidable (IsProxyEpoch epochId) :=
  inferInstanceAs (Decidable (_ ∧ _))

def setFunding (p : ProxyRevenueSettlement) (epochId : Uint256) (f : Funding) :
    ProxyRevenueSettlement :=
  { p with fundingOf := update p.fundingOf epochId f }

def setBatch (p : ProxyRevenueSettlement) (epochId : Uint256) (b : Batch) :
    ProxyRevenueSettlement :=
  { p with batchOf := update p.batchOf epochId b }

def setFunder (p : ProxyRevenueSettlement) (cfg : Config) (sender funder : Address) :
    Except Revert ProxyRevenueSettlement := do
  require (sender = cfg.safe) .notSafe
  require (funder ≠ 0) .zeroAddress
  .ok { p with isFunder := update p.isFunder funder true }

def recordUsdtInflow (p : ProxyRevenueSettlement) (cfg : Config) (sender : Address)
    (epochId : Uint256) (amount : Nat) : Except Revert ProxyRevenueSettlement := do
  require (IsProxyEpoch epochId) .epochNotInProxySpace
  require (¬ (sender ≠ cfg.gateway ∧ sender ≠ cfg.usdtTreasury)) .notGateway
  require (amount ≠ 0) .zeroAmount
  let f := p.fundingOf epochId
  let usdtInflow ← checked 256 (f.usdtInflow + amount) .panic
  .ok (p.setFunding epochId { f with usdtInflow })

def fundEpoch (p : ProxyRevenueSettlement) (self : Address) (goat : Erc20) (sender : Address)
    (epochId : Uint256) (goatAmount backedUsdt : Nat) :
    Except Revert (ProxyRevenueSettlement × Erc20) := do
  require (IsProxyEpoch epochId) .epochNotInProxySpace
  require (p.isFunder sender) .notFunder
  require (goatAmount ≠ 0) .zeroAmount
  let f := p.fundingOf epochId
  let usdtBacked ← checked 256 (f.usdtBacked + backedUsdt) .panic
  require (usdtBacked ≤ f.usdtInflow) .backingExceedsInflow
  let asked ← checked 256 (goatAmount * p.referenceRateUsdtPerGoat) .panic
  let backing ← checked 256 (backedUsdt * 10 ^ 18) .panic
  require (asked ≤ backing) .backingBelowReferenceRate
  let goatFunded ← checked 256 (f.goatFunded + goatAmount) .panic
  let totalFunded ← checked 256 (p.totalFunded + goatAmount) .panic
  let goat ← goat.transferFrom self sender self goatAmount
  .ok ({ p.setFunding epochId { f with usdtBacked, goatFunded } with totalFunded }, goat)

def proposeBatch (p : ProxyRevenueSettlement) (cfg : Config) (now : Nat) (sender : Address)
    (value : Nat) (epochId : Uint256) (root evidenceRef : Bytes32) (grossGoatWei : Nat) :
    Except Revert ProxyRevenueSettlement := do
  require (¬ (sender ≠ cfg.publisher ∧ sender ≠ cfg.safe)) .notPublisher
  require (IsProxyEpoch epochId) .epochNotInProxySpace
  require (value = p.proposerBond) .badBond
  require (grossGoatWei ≠ 0) .zeroAmount
  require ((p.batchOf epochId).status = .none) .rootAlreadyPublished
  .ok (p.setBatch epochId
    { root
      evidenceRef
      -- `uint64(block.timestamp)` cuts the high bits off
      proposedAt := Fin.ofNat (2 ^ 64) now
      proposer := sender
      challenger := 0
      status := .proposed
      grossGoatWei
      takeSettled := 0
      claimedGoatWei := 0
      proposerBondPosted := value
      challengerBondPosted := 0
      challengeWindowSnap := p.challengeWindow
      claimWindowSnap := p.claimWindow
      resolveWindowSnap := p.resolveWindow })

/-- `b.proposedAt + b.challengeWindowSnap`, in 64 bits. -/
def Batch.challengeDeadline (b : Batch) : Except Revert Nat :=
  checked 64 (b.proposedAt.val + b.challengeWindowSnap.val) .panic

/-- The counter root goes into the log only. -/
def challengeBatch (p : ProxyRevenueSettlement) (now : Nat) (sender : Address) (value : Nat)
    (epochId : Uint256) : Except Revert ProxyRevenueSettlement := do
  require (IsProxyEpoch epochId) .epochNotInProxySpace
  let b := p.batchOf epochId
  require (b.status = .proposed) .badStatus
  let deadline ← b.challengeDeadline
  require (now ≤ deadline) .windowClosed
  require (value = p.challengerBond) .badBond
  .ok (p.setBatch epochId
    { b with challenger := sender, challengerBondPosted := value, status := .challenged })

/-- `bondCredit[who] += amount`. -/
def creditBond (p : ProxyRevenueSettlement) (who : Address) (amount : Nat) :
    Except Revert ProxyRevenueSettlement := do
  let credit ← checked 256 (p.bondCredit who + amount) .panic
  .ok { p with bondCredit := update p.bondCredit who credit }

/-- The bonds of a batch that was challenged: `who` gets their own back, the reserve the other. -/
def settleBonds (p : ProxyRevenueSettlement) (cfg : Config) (epochId : Uint256) (status : Status)
    (who : Address) (own other : Nat) : Except Revert ProxyRevenueSettlement := do
  let p ← p.creditBond who own
  let p ← p.creditBond cfg.reserveSink other
  .ok (p.setBatch epochId
    { p.batchOf epochId with status, proposerBondPosted := 0, challengerBondPosted := 0 })

def resolveChallenge (p : ProxyRevenueSettlement) (cfg : Config) (sender : Address)
    (epochId : Uint256) (proposerWon : Bool) : Except Revert ProxyRevenueSettlement := do
  require (IsProxyEpoch epochId) .epochNotInProxySpace
  require (sender = cfg.resolver) .notResolver
  let b := p.batchOf epochId
  require (b.status = .challenged) .badStatus
  if proposerWon then
    p.settleBonds cfg epochId .proposerWon b.proposer b.proposerBondPosted b.challengerBondPosted
  else
    p.settleBonds cfg epochId .challengerWon b.challenger b.challengerBondPosted
      b.proposerBondPosted

/-- Nobody has decided in time. -/
def timeoutChallenge (p : ProxyRevenueSettlement) (cfg : Config) (now : Nat) (epochId : Uint256) :
    Except Revert ProxyRevenueSettlement := do
  require (IsProxyEpoch epochId) .epochNotInProxySpace
  let b := p.batchOf epochId
  require (b.status = .challenged) .badStatus
  require (b.proposedAt.val + b.challengeWindowSnap.val + b.resolveWindowSnap.val < now) .windowOpen
  p.settleBonds cfg epochId .proposerWon b.proposer b.proposerBondPosted b.challengerBondPosted

def resetBatch (p : ProxyRevenueSettlement) (cfg : Config) (sender : Address) (epochId : Uint256) :
    Except Revert ProxyRevenueSettlement := do
  require (sender = cfg.safe) .notSafe
  require (IsProxyEpoch epochId) .epochNotInProxySpace
  require ((p.batchOf epochId).status = .challengerWon) .badStatus
  .ok (p.setBatch epochId .empty)

/-- The amount that the sender is paid, who may refuse it. -/
def withdrawBond (p : ProxyRevenueSettlement) (sender : Address) (accepted : Bool) :
    Except Revert (ProxyRevenueSettlement × Nat) := do
  let amount := p.bondCredit sender
  require (amount ≠ 0) .nothingToWithdraw
  require (accepted = true) .bondWithdrawalFailed
  .ok ({ p with bondCredit := update p.bondCredit sender 0 }, amount)

/-- The three shares of the take. -/
structure Take where
  takeGoatWei : Nat
  toTreasury : Nat
  toAttestor : Nat
  toReserve : Nat

/-- The take, and its three parts. -/
def takeOf (grossGoatWei : Nat) : Except Revert Take := do
  let take ← checked 256 (grossGoatWei * takeBps) .panic
  let treasury ← checked 256 (grossGoatWei * treasuryBps) .panic
  let attestor ← checked 256 (grossGoatWei * attestorBps) .panic
  let takeGoatWei := take / bpsDenom
  let toTreasury := treasury / bpsDenom
  let toAttestor := attestor / bpsDenom
  let rest ← checkedSub takeGoatWei toTreasury .panic
  let toReserve ← checkedSub rest toAttestor .panic
  .ok ⟨takeGoatWei, toTreasury, toAttestor, toReserve⟩

/-- Whether a batch may become final. -/
def Batch.checkFinal (b : Batch) (now : Nat) : Except Revert Unit :=
  match b.status with
  | .proposed => do
      let deadline ← b.challengeDeadline
      require (deadline < now) .windowOpen
  | .proposerWon => .ok ()
  | _ => .error .badStatus

/-- The counters of the take, with both checks that they do not exceed the funding. -/
def bookTake (p : ProxyRevenueSettlement) (epochId : Uint256) (take : Take) :
    Except Revert ProxyRevenueSettlement := do
  let f := p.fundingOf epochId
  let reserveOfEpoch ← checked 256 (f.reserveHeld + take.toReserve) .panic
  let sent ← checked 256 (take.toTreasury + take.toAttestor) .panic
  let goatClaimed ← checked 256 (f.goatClaimed + sent) .panic
  let reserveHeld ← checked 256 (p.reserveHeld + take.toReserve) .panic
  let totalClaimed ← checked 256 (p.totalClaimed + sent) .panic
  let epochSum ← checked 256 (goatClaimed + reserveOfEpoch) .panic
  require (epochSum ≤ f.goatFunded) .poolWouldBeOverdrawn
  let sum ← checked 256 (totalClaimed + reserveHeld) .panic
  require (sum ≤ p.totalFunded) .poolWouldBeOverdrawn
  .ok { p.setFunding epochId { f with goatClaimed, reserveHeld := reserveOfEpoch } with
    reserveHeld, totalClaimed }

def finalizeBatch (p : ProxyRevenueSettlement) (self : Address) (cfg : Config) (goat : Erc20)
    (now : Nat) (sender : Address) (epochId : Uint256) :
    Except Revert (ProxyRevenueSettlement × Erc20) := do
  require (¬ (sender ≠ cfg.publisher ∧ sender ≠ cfg.safe)) .notPublisher
  require (IsProxyEpoch epochId) .epochNotInProxySpace
  let b := p.batchOf epochId
  b.checkFinal now
  require (b.grossGoatWei ≤ (p.fundingOf epochId).goatFunded) .grossExceedsFunding
  let take ← takeOf b.grossGoatWei
  let p ← p.bookTake epochId take
  let p ← p.creditBond b.proposer b.proposerBondPosted
  let p := p.setBatch epochId
    { b with status := .finalized, takeSettled := take.takeGoatWei, proposerBondPosted := 0 }
  let goat ← goat.transfer self cfg.treasury take.toTreasury
  let goat ← goat.transfer self cfg.attestorSafe take.toAttestor
  .ok (p, goat)

/-- The leaf of an operator: two hashes over the five words. -/
def leafOf (operator : Address) (epochId : Uint256)
    (totalBytes payoutGoatWei : Uint256) : Bytes32 :=
  keccak256 (abiWord (keccak256 (abiWord proxyLeafDomain.val ++ abiWord operator.val
    ++ abiWord epochId.val ++ abiWord totalBytes.val ++ abiWord payoutGoatWei.val)).val)

/-- `f.goatClaimed += amount; totalClaimed += amount`. -/
def bookPayout (p : ProxyRevenueSettlement) (epochId : Uint256) (amount : Nat) :
    Except Revert ProxyRevenueSettlement := do
  let f := p.fundingOf epochId
  let goatClaimed ← checked 256 (f.goatClaimed + amount) .panic
  let totalClaimed ← checked 256 (p.totalClaimed + amount) .panic
  .ok { p.setFunding epochId { f with goatClaimed } with totalClaimed }

/-- The three bounds of a payout. -/
def checkPayout (p : ProxyRevenueSettlement) (epochId : Uint256) (payoutGoatWei : Nat) :
    Except Revert Unit := do
  let f := p.fundingOf epochId
  let b := p.batchOf epochId
  let goatClaimed ← checked 256 (f.goatClaimed + payoutGoatWei) .panic
  let payable ← checkedSub f.goatFunded f.reserveHeld .panic
  require (goatClaimed ≤ payable) .poolWouldBeOverdrawn
  let totalClaimed ← checked 256 (p.totalClaimed + payoutGoatWei) .panic
  let totalPayable ← checkedSub p.totalFunded p.reserveHeld .panic
  require (totalClaimed ≤ totalPayable) .poolWouldBeOverdrawn
  let claimedGoatWei ← checked 256 (b.claimedGoatWei + payoutGoatWei) .panic
  let share ← checked 256 (b.grossGoatWei * operatorBps) .panic
  require (claimedGoatWei ≤ share / bpsDenom) .operatorShareExceeded

/-- An operator claims its leaf. -/
def claim (p : ProxyRevenueSettlement) (self : Address) (goat : Erc20) (enrolled : Address → Bool)
    (now : Nat) (epochId : Uint256) (operator : Address) (totalBytes payoutGoatWei : Uint256)
    (proof : List Bytes32) : Except Revert (ProxyRevenueSettlement × Erc20) := do
  require (IsProxyEpoch epochId) .epochNotInProxySpace
  let b := p.batchOf epochId
  require (b.status = .finalized) .badStatus
  require (now ≤ b.proposedAt.val + b.challengeWindowSnap.val + b.claimWindowSnap.val) .windowClosed
  require (b.root ≠ 0) .rootMissing
  require (p.claimed epochId operator = false) .alreadyClaimed
  require (payoutGoatWei ≠ 0) .zeroAmount
  require (enrolled operator) .notEnrolled
  require (MerkleProof.verify proof b.root (leafOf operator epochId totalBytes payoutGoatWei))
    .badProof
  p.checkPayout epochId payoutGoatWei.val
  let p ← p.bookPayout epochId payoutGoatWei.val
  let p := p.setBatch epochId { b with claimedGoatWei := b.claimedGoatWei + payoutGoatWei.val }
  let goat ← goat.transfer self operator payoutGoatWei.val
  .ok ({ p with
    claimed := update p.claimed epochId
      (update (p.claimed epochId) operator true) }, goat)

def releaseReserve (p : ProxyRevenueSettlement) (self : Address) (cfg : Config) (goat : Erc20)
    (sender dst : Address) (amount : Nat) : Except Revert (ProxyRevenueSettlement × Erc20) := do
  require (sender = cfg.safe) .notSafe
  require (dst = cfg.reserveSink) .notReserveSink
  require (¬ (amount = 0 ∨ p.reserveHeld < amount)) .zeroAmount
  let goat ← goat.transfer self dst amount
  .ok ({ p with reserveHeld := p.reserveHeld - amount }, goat)

def sweepUnclaimed (p : ProxyRevenueSettlement) (self : Address) (cfg : Config) (goat : Erc20)
    (now : Nat) (sender : Address) (epochId : Uint256) (dst : Address) :
    Except Revert (ProxyRevenueSettlement × Erc20) := do
  require (sender = cfg.safe) .notSafe
  require (IsProxyEpoch epochId) .epochNotInProxySpace
  require (p.isFunder dst) .notFunder
  let b := p.batchOf epochId
  require (b.status = .finalized) .badStatus
  require (b.proposedAt.val + b.challengeWindowSnap.val + b.claimWindowSnap.val < now) .windowOpen
  let f := p.fundingOf epochId
  let unclaimed ← checkedSub f.goatFunded f.goatClaimed .panic
  let amount ← checkedSub unclaimed f.reserveHeld .panic
  require (amount ≠ 0) .zeroAmount
  let p ← p.bookPayout epochId amount
  let goat ← goat.transfer self dst amount
  .ok (p, goat)

def setWindows (p : ProxyRevenueSettlement) (cfg : Config) (sender : Address)
    (challengeWindow claimWindow resolveWindow : Word 64) :
    Except Revert ProxyRevenueSettlement := do
  require (sender = cfg.safe) .notSafe
  .ok { p with challengeWindow, claimWindow, resolveWindow }

def setBonds (p : ProxyRevenueSettlement) (cfg : Config) (sender : Address)
    (proposerBond challengerBond : Nat) : Except Revert ProxyRevenueSettlement := do
  require (sender = cfg.safe) .notSafe
  .ok { p with proposerBond, challengerBond }

def setReferenceRate (p : ProxyRevenueSettlement) (cfg : Config) (sender : Address) (rate : Nat) :
    Except Revert ProxyRevenueSettlement := do
  require (sender = cfg.safe) .notSafe
  .ok { p with referenceRateUsdtPerGoat := rate }

end ProxyRevenueSettlement

end GoatCoin
