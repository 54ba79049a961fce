/-
# `GoatCoin.Contracts.EpochSettlement` — optimistic settlement of `EpochSettlement.sol`

A batch of scores is proposed under a bond, may be challenged under another, and
is final once its window has passed undisputed or the dispute was won:

    None ──propose──▶ Proposed ──challenge──▶ Challenged ──settle──▶ ProposerWon
      ▲                  │                        │                      │
      │                  └────────finalize────────┼──────────────────────┤
    ChallengerWon ◀───────────────settle──────────┘                   Finalized

A worker then claims against a finalized root.  The first claim stamps a baseline
and mints nothing; a later one mints the score above the watermark at the rate of
the batch, up to what the daily cap allows for the time since the last claim, and
moves the watermark by the score that corresponds to it.

Every entry point checks, writes, and only then hands control to someone else, if
at all: it pays (`_send`) or notifies the resolver.  So a call is what it writes,
together with the `Handover` that comes last.
-/
import GoatCoin.Contracts.HoldbackEscrow
import GoatCoin.Contracts.Merkle

namespace GoatCoin

open Function (update update_self update_of_ne)
open Evm

namespace EpochSettlement

/-- Where a batch stands. -/
inductive Status where
  | none
  | proposed
  | challenged
  | proposerWon
  | challengerWon
  | finalized
deriving DecidableEq

/-- The batch of an epoch. -/
structure Batch where
  proposer : Address
  proposerBond : Nat
  challenger : Address
  challengerBond : Nat
  merkleRoot : Bytes32
  rate : Nat
  evidenceRef : Bytes32
  challengeDeadline : Nat
  watcherConfirmedAt : Nat
  status : Status

def Batch.empty : Batch := ⟨0, 0, 0, 0, 0, 0, 0, 0, 0, .none⟩

/-- The immutables, and the address of the contract. -/
structure Config where
  self : Address
  safe : Address
  holdbackBps : Nat
  holdbackBackstop : Nat
  holdbackBps_le : holdbackBps ≤ 10000

/-- The last thing a call does: nothing, a payment, or a note to the resolver. -/
inductive Handover where
  | nothing
  | pay (dst : Address) (amount : Nat)
  | notify (resolver : Address)
deriving DecidableEq

/-- `_send`: nothing is sent for nothing. -/
def send (dst : Address) (amount : Nat) : Handover :=
  if amount = 0 then .nothing else .pay dst amount

/-- The ether that goes out with a handover. -/
def Handover.amount : Handover → Nat
  | .pay _ amount => amount
  | _ => 0

theorem send_amount (dst : Address) (amount : Nat) : (send dst amount).amount = amount := by
  unfold send
  split
  · rename_i h
    exact h.symm
  · rfl

end EpochSettlement

open EpochSettlement

structure Settlement where
  rate : Nat
  capPerDay : Nat
  keeperFee : Nat
  epochCap : Nat
  challengeWindow : Nat
  proposerBond : Nat
  challengerBond : Nat
  resolver : Address
  watcher : Address
  watcherGrace : Nat
  batches : Uint256 → Batch
  lastClaimedCumulative : Address → Nat
  claimed : Uint256 → Address → Bool
  hasBaseline : Address → Bool
  lastClaimTime : Address → Nat

namespace Settlement

/-- The constructor; the addresses it checks for zero are not modelled as storage. -/
def new (rate capPerDay challengeWindow proposerBond challengerBond : Nat)
    (resolver watcher : Address) : Except Revert Settlement := do
  require (watcher ≠ 0 ∧ resolver ≠ 0) .badArg
  require (rate ≠ 0) .badArg
  .ok
    { rate, capPerDay, challengeWindow, proposerBond, challengerBond, resolver, watcher
      keeperFee := 0
      epochCap := maxUint256
      watcherGrace := 86400
      batches := fun _ => .empty
      lastClaimedCumulative := fun _ => 0
      claimed := fun _ _ => false
      hasBaseline := fun _ => false
      lastClaimTime := fun _ => 0 }

def setBatch (s : Settlement) (epoch : Uint256) (b : Batch) : Settlement :=
  { s with batches := update s.batches epoch b }

/-! ## Parameters -/

inductive Param where
  | rate (v : Uint256)
  | capPerDay (v : Uint256)
  | keeperFee (v : Uint256)
  | epochCap (v : Uint256)
  | challengeWindow (v : Word 64)
  | bonds (p q : Uint256)
  | resolver (v : Address)
  | watcher (v : Address)
  | watcherGrace (v : Word 64)

/-- `setRate`, `setCapPerDay`, `setKeeperFee`, `setEpochCap`, `setChallengeWindow`,
`setBonds`, `setResolver`, `setWatcher`, `setWatcherGrace`. -/
def setParam (s : Settlement) (cfg : Config) (sender : Address) :
    Param → Except Revert Settlement
  | .rate v => do
      require (sender = cfg.safe) .notSafe
      require (v.val ≠ 0) .badArg
      .ok { s with rate := v.val }
  | .capPerDay v => do
      require (sender = cfg.safe) .notSafe
      .ok { s with capPerDay := v.val }
  | .keeperFee v => do
      require (sender = cfg.safe) .notSafe
      .ok { s with keeperFee := v.val }
  | .epochCap v => do
      require (sender = cfg.safe) .notSafe
      .ok { s with epochCap := v.val }
  | .challengeWindow v => do
      require (sender = cfg.safe) .notSafe
      .ok { s with challengeWindow := v.val }
  | .bonds p q => do
      require (sender = cfg.safe) .notSafe
      .ok { s with proposerBond := p.val, challengerBond := q.val }
  | .resolver v => do
      require (sender = cfg.safe) .notSafe
      require (v ≠ 0) .badArg
      .ok { s with resolver := v }
  | .watcher v => do
      require (sender = cfg.safe) .notSafe
      require (v ≠ 0) .badArg
      .ok { s with watcher := v }
  | .watcherGrace v => do
      require (sender = cfg.safe) .notSafe
      .ok { s with watcherGrace := v.val }

/-! ## The batch state machine -/

def proposeBatch (s : Settlement) (now : Nat) (sender : Address) (value : Nat) (epoch : Uint256)
    (merkleRoot evidenceRef : Bytes32) : Except Revert (Settlement × Handover) := do
  let b := s.batches epoch
  require (b.status = .none ∨ b.status = .challengerWon) .wrongStatus
  require (merkleRoot ≠ 0) .badArg
  require (value = s.proposerBond) .bondMismatch
  let challengeDeadline ← checked 64 (now + s.challengeWindow) .panic
  .ok (s.setBatch epoch
    { proposer := sender
      proposerBond := value
      challenger := 0
      challengerBond := 0
      merkleRoot
      rate := s.rate
      evidenceRef
      challengeDeadline
      watcherConfirmedAt := 0
      status := .proposed }, .nothing)

def challengeBatch (s : Settlement) (now : Nat) (sender : Address) (value : Nat)
    (epoch : Uint256) : Except Revert (Settlement × Handover) := do
  let b := s.batches epoch
  require (b.status = .proposed) .wrongStatus
  require (now ≤ b.challengeDeadline) .windowClosed
  require (value = s.challengerBond) .bondMismatch
  .ok (s.setBatch epoch
    { b with challenger := sender, challengerBond := value, status := .challenged },
    .notify s.resolver)

def settleDispute (s : Settlement) (sender : Address) (epoch : Uint256) (proposerWon : Bool) :
    Except Revert (Settlement × Handover) := do
  require (sender = s.resolver) .notResolver
  let b := s.batches epoch
  require (b.status = .challenged) .wrongStatus
  if proposerWon then
    .ok (s.setBatch epoch { b with challengerBond := 0, status := .proposerWon },
      send b.proposer b.challengerBond)
  else do
    let award ← checked 256 (b.proposerBond + b.challengerBond) .panic
    .ok (s.setBatch epoch
      { b with proposerBond := 0, challengerBond := 0, status := .challengerWon },
      send b.challenger award)

/-- The watcher confirms a batch. -/
def confirmEpoch (s : Settlement) (now : Nat) (sender : Address) (epoch : Uint256) :
    Except Revert (Settlement × Handover) := do
  require (sender = s.watcher) .notWatcher
  let b := s.batches epoch
  require (b.status = .proposed ∨ b.status = .proposerWon) .wrongStatus
  require (b.challengeDeadline < now) .windowOpen
  .ok (s.setBatch epoch { b with watcherConfirmedAt := now }, .nothing)

def finalizeBatch (s : Settlement) (now : Nat) (epoch : Uint256) :
    Except Revert (Settlement × Handover) := do
  let b := s.batches epoch
  require (b.status = .proposed ∨ b.status = .proposerWon) .wrongStatus
  require (b.challengeDeadline < now) .windowOpen
  require (¬ (b.watcherConfirmedAt = 0 ∧ now ≤ b.challengeDeadline + s.watcherGrace)) .notConfirmed
  .ok (s.setBatch epoch { b with proposerBond := 0, status := .finalized },
    send b.proposer b.proposerBond)

/-! ## Claims -/

/-- `keccak256(abi.encode(epoch, worker))`. -/
def holdbackJobId (epoch : Uint256) (worker : Address) : Bytes32 :=
  keccak256 (abiWord epoch.val ++ abiWord worker.val)

/-- `keccak256(bytes.concat(keccak256(abi.encode(worker, score))))`. -/
def leafOf (worker : Address) (score : Uint256) : Bytes32 :=
  keccak256 (abiWord (keccak256 (abiWord worker.val ++ abiWord score.val)).val)

/-- What the daily cap allows for a time: `maxGoat` of `claimPayout`. -/
def maxGoat (capPerDay elapsed : Nat) : Nat :=
  if capPerDay = 0 then maxUint256
  else if elapsed = 0 then 0
  else if maxUint256 / elapsed < capPerDay then maxUint256
  else capPerDay * elapsed / 86400

/-- The worth of a score, saturated: `rawGoat` of `claimPayout`. -/
def rawGoat (delta rate : Nat) : Nat :=
  if 0 < delta ∧ maxUint256 / delta < rate then maxUint256 else delta * rate

/-- The first claim of a worker. -/
def setBaseline (s : Settlement) (now : Nat) (epoch : Uint256) (worker : Address) (score : Nat) :
    Settlement :=
  { s with
    lastClaimedCumulative := update s.lastClaimedCumulative worker score
    hasBaseline := update s.hasBaseline worker true
    lastClaimTime := update s.lastClaimTime worker now
    claimed := update s.claimed epoch (update (s.claimed epoch) worker true) }

/-- The watermark and the clock of a worker, as a minting claim leaves them. -/
def recordClaim (s : Settlement) (now : Nat) (epoch : Uint256) (worker : Address)
    (newCumulative : Nat) : Settlement :=
  { s with
    lastClaimedCumulative := update s.lastClaimedCumulative worker newCumulative
    lastClaimTime := update s.lastClaimTime worker now
    claimed := update s.claimed epoch (update (s.claimed epoch) worker true) }

/-- The keeper's part of what is liquid. -/
def keeperPart (keeperFee liquid : Nat) : Nat :=
  if 0 < keeperFee ∧ 0 < liquid then min liquid keeperFee else 0

/-- The holdback of a claim: minted to the escrow and credited to the worker. -/
def holdBack (cfg : Config) (escrowAddr : Address) (e : Escrow) (g : Goat) (now : Nat)
    (epoch : Uint256) (worker : Address) (hb : Nat) : Except Revert (Escrow × Goat) :=
  if 0 < hb then do
    let g ← g.mint cfg.self escrowAddr hb
    let deadline ← checked 64 (now + cfg.holdbackBackstop) .panic
    let e ← e.credit cfg.self (holdbackJobId epoch worker) worker hb deadline
    .ok (e, g)
  else .ok (e, g)

/-- The three mints of a claim of `goatAmount`: keeper, worker, escrow. -/
def payClaim (cfg : Config) (escrowAddr : Address) (keeperFee : Nat) (e : Escrow) (g : Goat)
    (now : Nat) (sender : Address) (epoch : Uint256) (worker : Address) (goatAmount : Nat) :
    Except Revert (Escrow × Goat) := do
  let product ← checked 256 (goatAmount * cfg.holdbackBps) .panic
  let hb := product / 10000
  let liquid ← checkedSub goatAmount hb .panic
  let fee := keeperPart keeperFee liquid
  let g ← g.mintSome cfg.self sender fee
  let g ← g.mintSome cfg.self worker (liquid - fee)
  holdBack cfg escrowAddr e g now epoch worker hb

/-- A claim of a worker with a baseline, for a score above the watermark. -/
def claimDelta (s : Settlement) (cfg : Config) (escrowAddr : Address) (e : Escrow) (g : Goat)
    (now : Nat) (sender : Address) (epoch : Uint256) (worker : Address) (delta : Nat) :
    Except Revert (Settlement × Escrow × Goat) := do
  let rate := (s.batches epoch).rate
  let elapsed ← checkedSub now (s.lastClaimTime worker) .panic
  require (rate ≠ 0) .panic
  let goatAmount := min (rawGoat delta rate) (maxGoat s.capPerDay elapsed)
  let cappedScore := goatAmount / rate
  if cappedScore = 0 then .ok (s, e, g)
  else do
    let newCumulative ← checked 256 (s.lastClaimedCumulative worker + cappedScore) .panic
    let (e, g) ← payClaim cfg escrowAddr s.keeperFee e g now sender epoch worker goatAmount
    .ok (s.recordClaim now epoch worker newCumulative, e, g)

def claimPayout (s : Settlement) (cfg : Config) (escrowAddr : Address) (e : Escrow) (g : Goat)
    (r : Registry) (bound : Address → Bool) (now : Nat) (sender : Address) (epoch : Uint256)
    (worker : Address) (score : Uint256) (proof : List Bytes32) :
    Except Revert (Settlement × Escrow × Goat) := do
  let b := s.batches epoch
  require (b.status = .finalized) .wrongStatus
  require (MerkleProof.verify proof b.merkleRoot (leafOf worker score)) .badProof
  if r.enrolled worker = false then .ok (s, e, g)
  else if s.claimed epoch worker then .ok (s, e, g)
  else do
    require (bound worker) .notBound
    if s.hasBaseline worker = false then
      .ok (s.setBaseline now epoch worker score.val, e, g)
    else if score.val ≤ s.lastClaimedCumulative worker then .ok (s, e, g)
    else
      s.claimDelta cfg escrowAddr e g now sender epoch worker
        (score.val - s.lastClaimedCumulative worker)

/-- What the settlement has on record of a worker stays as it is. -/
structure SameWorker (s : Settlement) (worker : Address) (s' : Settlement) : Prop where
  lastClaimedCumulative_eq : s'.lastClaimedCumulative worker = s.lastClaimedCumulative worker
  claimed_eq : ∀ epoch, s'.claimed epoch worker = s.claimed epoch worker
  hasBaseline_eq : s'.hasBaseline worker = s.hasBaseline worker
  lastClaimTime_eq : s'.lastClaimTime worker = s.lastClaimTime worker

theorem SameWorker.refl (s : Settlement) (worker : Address) : s.SameWorker worker s :=
  ⟨rfl, fun _ => rfl, rfl, rfl⟩

theorem setParam_ok {s s' : Settlement} {cfg : Config} {sender : Address} {p : Param}
    (h : s.setParam cfg sender p = .ok s') :
    s'.batches = s.batches ∧ ∀ worker, s.SameWorker worker s' := by
  cases p <;> obtain ⟨-, -, h⟩ := bind_ok.mp h
  case rate =>
    obtain ⟨-, -, h⟩ := bind_ok.mp h; cases h; exact ⟨rfl, fun _ => ⟨rfl, fun _ => rfl, rfl, rfl⟩⟩
  case resolver =>
    obtain ⟨-, -, h⟩ := bind_ok.mp h; cases h; exact ⟨rfl, fun _ => ⟨rfl, fun _ => rfl, rfl, rfl⟩⟩
  case watcher =>
    obtain ⟨-, -, h⟩ := bind_ok.mp h; cases h; exact ⟨rfl, fun _ => ⟨rfl, fun _ => rfl, rfl, rfl⟩⟩
  all_goals cases h; exact ⟨rfl, fun _ => ⟨rfl, fun _ => rfl, rfl, rfl⟩⟩

/-! ## What a successful call did to a batch -/

/-- What is done to a batch. -/
inductive Move where
  | propose (proposer : Address) (merkleRoot evidenceRef : Bytes32)
  | challenge (challenger : Address)
  | settle (proposerWon : Bool)
  | confirm
  | finalize

/-- The turns of a batch: the batch after, the bond that comes in, and the handover. -/
inductive Turn (s : Settlement) (now : Nat) (b : Batch) : Move → Batch → Nat → Handover → Prop
  | propose {proposer : Address} {merkleRoot evidenceRef : Bytes32} :
      b.status = .none ∨ b.status = .challengerWon →
      Turn s now b (.propose proposer merkleRoot evidenceRef)
        { proposer, proposerBond := s.proposerBond, challenger := 0, challengerBond := 0
          merkleRoot, rate := s.rate, evidenceRef, challengeDeadline := now + s.challengeWindow
          watcherConfirmedAt := 0, status := .proposed }
        s.proposerBond .nothing
  | challenge {challenger : Address} :
      b.status = .proposed → now ≤ b.challengeDeadline →
      Turn s now b (.challenge challenger)
        { b with challenger, challengerBond := s.challengerBond, status := .challenged }
        s.challengerBond (.notify s.resolver)
  | proposerWon :
      b.status = .challenged →
      Turn s now b (.settle true) { b with challengerBond := 0, status := .proposerWon } 0
        (send b.proposer b.challengerBond)
  | challengerWon :
      b.status = .challenged →
      Turn s now b (.settle false)
        { b with proposerBond := 0, challengerBond := 0, status := .challengerWon } 0
        (send b.challenger (b.proposerBond + b.challengerBond))
  | confirm :
      b.status = .proposed ∨ b.status = .proposerWon → b.challengeDeadline < now →
      Turn s now b .confirm { b with watcherConfirmedAt := now } 0 .nothing
  | finalize :
      b.status = .proposed ∨ b.status = .proposerWon → b.challengeDeadline < now →
      Turn s now b .finalize { b with proposerBond := 0, status := .finalized } 0
        (send b.proposer b.proposerBond)

section
variable {s s' : Settlement} {now : Nat} {sender : Address} {value : Nat} {epoch : Uint256}
  {h : Handover}

theorem proposeBatch_ok {merkleRoot evidenceRef : Bytes32}
    (hok : s.proposeBatch now sender value epoch merkleRoot evidenceRef = .ok (s', h)) :
    ∃ b, s' = s.setBatch epoch b
      ∧ s.Turn now (s.batches epoch) (.propose sender merkleRoot evidenceRef) b value h := by
  obtain ⟨_, hstatus, -, -, _, hvalue, deadline, hdeadline, hok⟩ := bind_ok₄.mp hok
  obtain ⟨-, rfl⟩ := checked_ok.mp hdeadline
  obtain rfl := require_ok.mp hvalue
  cases hok
  exact ⟨_, rfl, .propose (require_ok.mp hstatus)⟩

theorem challengeBatch_ok (hok : s.challengeBatch now sender value epoch = .ok (s', h)) :
    ∃ b, s' = s.setBatch epoch b ∧ s.Turn now (s.batches epoch) (.challenge sender) b value h := by
  obtain ⟨_, hstatus, _, hwindow, _, hvalue, hok⟩ := bind_ok₃.mp hok
  obtain rfl := require_ok.mp hvalue
  cases hok
  exact ⟨_, rfl, .challenge (require_ok.mp hstatus) (require_ok.mp hwindow)⟩

theorem settleDispute_ok {won : Bool} (hok : s.settleDispute sender epoch won = .ok (s', h))
    (now : Nat) :
    ∃ b, s' = s.setBatch epoch b ∧ s.Turn now (s.batches epoch) (.settle won) b 0 h := by
  obtain ⟨-, -, _, hstatus, hok⟩ := bind_ok₂.mp hok
  cases won with
  | true =>
      cases hok
      exact ⟨_, rfl, .proposerWon (require_ok.mp hstatus)⟩
  | false =>
      obtain ⟨award, haward, hok⟩ := bind_ok.mp hok
      obtain ⟨-, rfl⟩ := checked_ok.mp haward
      cases hok
      exact ⟨_, rfl, .challengerWon (require_ok.mp hstatus)⟩

theorem confirmEpoch_ok (hok : s.confirmEpoch now sender epoch = .ok (s', h)) :
    ∃ b, s' = s.setBatch epoch b ∧ s.Turn now (s.batches epoch) .confirm b 0 h := by
  obtain ⟨-, -, _, hstatus, _, hwindow, hok⟩ := bind_ok₃.mp hok
  cases hok
  exact ⟨_, rfl, .confirm (require_ok.mp hstatus) (require_ok.mp hwindow)⟩

theorem finalizeBatch_ok (hok : s.finalizeBatch now epoch = .ok (s', h)) :
    ∃ b, s' = s.setBatch epoch b ∧ s.Turn now (s.batches epoch) .finalize b 0 h := by
  obtain ⟨_, hstatus, _, hwindow, -, -, hok⟩ := bind_ok₃.mp hok
  cases hok
  exact ⟨_, rfl, .finalize (require_ok.mp hstatus) (require_ok.mp hwindow)⟩

end

theorem Turn.not_finalized {s : Settlement} {now value : Nat} {b b' : Batch} {m : Move}
    {h : Handover} (hturn : s.Turn now b m b' value h) : b.status ≠ .finalized := by
  intro hfinal
  cases hturn with
  | propose hs => rw [hfinal] at hs; exact hs.elim nofun nofun
  | challenge hs => rw [hfinal] at hs; cases hs
  | proposerWon hs => rw [hfinal] at hs; cases hs
  | challengerWon hs => rw [hfinal] at hs; cases hs
  | confirm hs => rw [hfinal] at hs; exact hs.elim nofun nofun
  | finalize hs => rw [hfinal] at hs; exact hs.elim nofun nofun

/-! ## What a successful claim did -/

/-- What a claim mints: the worth of the score, up to the cap. -/
def goatAmount (s : Settlement) (now : Nat) (epoch : Uint256) (worker : Address)
    (score : Nat) : Nat :=
  min (rawGoat (score - s.lastClaimedCumulative worker) (s.batches epoch).rate)
    (maxGoat s.capPerDay (now - s.lastClaimTime worker))

/-- The three ways in which a claim succeeds. -/
inductive Outcome (s : Settlement) (cfg : Config) (escrowAddr : Address) (e : Escrow) (g : Goat)
    (r : Registry) (now : Nat) (sender : Address) (epoch : Uint256) (worker : Address)
    (score : Nat) : Settlement → Escrow → Goat → Prop
  | nothing :
      (r.enrolled worker = true → s.claimed epoch worker = false → s.hasBaseline worker = true →
        s.lastClaimedCumulative worker < score →
        (s.batches epoch).rate ≠ 0
          ∧ s.goatAmount now epoch worker score / (s.batches epoch).rate = 0) →
      Outcome s cfg escrowAddr e g r now sender epoch worker score s e g
  | baseline :
      s.hasBaseline worker = false → s.claimed epoch worker = false →
      Outcome s cfg escrowAddr e g r now sender epoch worker score
        (s.setBaseline now epoch worker score) e g
  | minted {e' : Escrow} {g' : Goat} :
      r.enrolled worker = true → s.hasBaseline worker = true → s.claimed epoch worker = false →
      s.lastClaimedCumulative worker < score → s.lastClaimTime worker ≤ now →
      s.goatAmount now epoch worker score / (s.batches epoch).rate ≠ 0 →
      payClaim cfg escrowAddr s.keeperFee e g now sender epoch worker
        (s.goatAmount now epoch worker score) = .ok (e', g') →
      Outcome s cfg escrowAddr e g r now sender epoch worker score
        (s.recordClaim now epoch worker (s.lastClaimedCumulative worker
          + s.goatAmount now epoch worker score / (s.batches epoch).rate)) e' g'

section
variable {s s' : Settlement} {cfg : Config} {escrowAddr : Address} {e e' : Escrow} {g g' : Goat}
  {r : Registry} {now : Nat} {sender : Address} {epoch : Uint256} {worker : Address}
variable {score amount : Nat}

theorem claimDelta_ok (henrolled : r.enrolled worker = true)
    (hbase : s.hasBaseline worker = true) (hnew : s.claimed epoch worker = false)
    (hscore : s.lastClaimedCumulative worker < score)
    (h : s.claimDelta cfg escrowAddr e g now sender epoch worker
      (score - s.lastClaimedCumulative worker) = .ok (s', e', g')) :
    s.Outcome cfg escrowAddr e g r now sender epoch worker score s' e' g' := by
  obtain ⟨elapsed, helapsed, h⟩ := bind_ok.mp h
  obtain ⟨htime, rfl⟩ := checkedSub_ok.mp helapsed
  obtain ⟨_, hrate, h⟩ := bind_ok.mp h
  dsimp only at h
  split at h
  · rename_i hzero
    cases h
    exact .nothing fun _ _ _ _ => ⟨require_ok.mp hrate, hzero⟩
  · rename_i hcapped
    obtain ⟨newCumulative, hnewc, h⟩ := bind_ok.mp h
    obtain ⟨-, rfl⟩ := checked_ok.mp hnewc
    obtain ⟨⟨e₁, g₁⟩, hpay, h⟩ := bind_ok.mp h
    cases h
    exact .minted henrolled hbase hnew hscore htime hcapped hpay

/-- **A claim is made against a final root, and has one of three outcomes.** -/
theorem claimPayout_ok {bound : Address → Bool} {score : Uint256} {proof : List Bytes32}
    (h : s.claimPayout cfg escrowAddr e g r bound now sender epoch worker score proof
      = .ok (s', e', g')) :
    (s.batches epoch).status = .finalized
      ∧ MerkleProof.verify proof (s.batches epoch).merkleRoot (leafOf worker score) = true
      ∧ s.Outcome cfg escrowAddr e g r now sender epoch worker score.val s' e' g' := by
  obtain ⟨_, hfinal, _, hproof, h⟩ := bind_ok₂.mp h
  refine ⟨require_ok.mp hfinal, require_ok.mp hproof, ?_⟩
  split at h
  · rename_i hskip
    cases h
    exact .nothing fun henrolled => Bool.noConfusion (hskip.symm.trans henrolled)
  rename_i henrolled
  split at h
  · rename_i hdone
    cases h
    exact .nothing fun _ hnew => Bool.noConfusion (hdone.symm.trans hnew)
  rename_i hnew
  obtain ⟨-, -, h⟩ := bind_ok.mp h
  split at h
  · rename_i hbase
    cases h
    exact .baseline hbase (Bool.eq_false_iff.mpr hnew)
  rename_i hbase
  split at h
  · rename_i hscore
    cases h
    exact .nothing fun _ _ _ hlt => absurd hlt (Nat.not_lt.mpr hscore)
  · rename_i hscore
    exact claimDelta_ok (Bool.eq_true_of_not_eq_false henrolled)
      (Bool.eq_true_of_not_eq_false hbase) (Bool.eq_false_iff.mpr hnew) (Nat.lt_of_not_le hscore) h

theorem claimPayout_eq {bound : Address → Bool} {score : Uint256} {proof : List Bytes32}
    (hfinal : (s.batches epoch).status = .finalized)
    (hproof : MerkleProof.verify proof (s.batches epoch).merkleRoot (leafOf worker score) = true)
    (henrolled : r.enrolled worker = true) (hnew : s.claimed epoch worker = false)
    (hbound : bound worker = true) (hbase : s.hasBaseline worker = true)
    (hscore : s.lastClaimedCumulative worker < score.val) :
    s.claimPayout cfg escrowAddr e g r bound now sender epoch worker score proof
      = s.claimDelta cfg escrowAddr e g now sender epoch worker
          (score.val - s.lastClaimedCumulative worker) := by
  simp only [claimPayout, require_of hfinal, require_of hproof, require_of hbound]
  rw [if_neg (by rw [henrolled]; decide), if_neg (by rw [hnew]; decide),
    if_neg (by rw [hbase]; decide), if_neg (Nat.not_le.mpr hscore)]
  rfl

theorem claimDelta_eq (delta amount : Nat) (htime : s.lastClaimTime worker ≤ now)
    (hamount : min (rawGoat delta (s.batches epoch).rate)
      (maxGoat s.capPerDay (now - s.lastClaimTime worker)) = amount)
    (hunit : amount / (s.batches epoch).rate ≠ 0)
    (hrange : s.lastClaimedCumulative worker + amount / (s.batches epoch).rate < 2 ^ 256)
    (hpay : payClaim cfg escrowAddr s.keeperFee e g now sender epoch worker amount = .ok (e', g')) :
    s.claimDelta cfg escrowAddr e g now sender epoch worker delta
      = .ok (s.recordClaim now epoch worker
          (s.lastClaimedCumulative worker + amount / (s.batches epoch).rate), e', g') := by
  have hrate : (s.batches epoch).rate ≠ 0 := by
    intro hzero
    rw [hzero, Nat.div_zero] at hunit
    exact hunit rfl
  refine bind_ok.mpr ⟨_, checkedSub_ok.mpr ⟨htime, rfl⟩, ?_⟩
  refine bind_ok.mpr ⟨(), require_of hrate, ?_⟩
  dsimp only
  rw [hamount, if_neg hunit]
  refine bind_ok.mpr ⟨_, checked_ok.mpr ⟨hrange, rfl⟩, ?_⟩
  exact bind_ok.mpr ⟨_, hpay, rfl⟩

theorem Outcome.batches_eq
    (h : s.Outcome cfg escrowAddr e g r now sender epoch worker score s' e' g') :
    s'.batches = s.batches := by
  cases h with
  | nothing _ => rfl
  | baseline _ _ => rfl
  | minted _ _ _ _ _ _ _ => rfl

theorem Outcome.sameWorker {other : Address}
    (h : s.Outcome cfg escrowAddr e g r now sender epoch worker score s' e' g')
    (hne : other ≠ worker) : s.SameWorker other s' := by
  have hclaimed : ∀ ep, update s.claimed epoch (update (s.claimed epoch) worker true)
      ep other = s.claimed ep other := by
    intro ep
    rcases eq_or_ne ep epoch with rfl | hep
    · rw [update_self, update_of_ne hne]
    · rw [update_of_ne hep]
  cases h with
  | nothing _ => exact ⟨rfl, fun _ => rfl, rfl, rfl⟩
  | baseline _ _ =>
      exact ⟨update_of_ne hne _ _, hclaimed, update_of_ne hne _ _,
        update_of_ne hne _ _⟩
  | minted _ _ _ _ _ _ _ =>
      exact ⟨update_of_ne hne _ _, hclaimed, rfl, update_of_ne hne _ _⟩

theorem mintSome_supply {dst : Address}
    (h : g.mintSome sender dst amount = .ok g') :
    g'.totalSupply = g.totalSupply + amount := by
  unfold Goat.mintSome at h
  split at h
  · exact (Goat.mint_ok h).2.supply_eq
  · rename_i hzero
    cases h
    omega

theorem keeperPart_le (keeperFee liquid : Nat) : keeperPart keeperFee liquid ≤ liquid := by
  unfold keeperPart
  split
  · exact Nat.min_le_left ..
  · exact Nat.zero_le _

theorem holdBack_ok {hb : Nat}
    (h : holdBack cfg escrowAddr e g now epoch worker hb = .ok (e', g')) :
    g'.totalSupply = g.totalSupply + hb
      ∧ Escrow.Backed escrowAddr cfg.self (holdbackJobId epoch worker) (· = worker) e e' g g' := by
  unfold holdBack at h
  split at h
  · obtain ⟨g₁, hmint, h⟩ := bind_ok.mp h
    obtain ⟨deadline, -, e₁, hcredit, h⟩ := bind_ok₂.mp h
    cases h
    exact ⟨(Goat.mint_ok hmint).2.supply_eq, Escrow.backed_credit rfl hmint hcredit⟩
  · rename_i hzero
    cases h
    exact ⟨by omega, .refl e g⟩

/-- **The three mints of a claim add up to its amount.** -/
theorem payClaim_supply {keeperFee : Nat}
    (h : payClaim cfg escrowAddr keeperFee e g now sender epoch worker amount = .ok (e', g')) :
    g'.totalSupply = g.totalSupply + amount := by
  obtain ⟨product, -, liquid, hliquid, h⟩ := bind_ok₂.mp h
  obtain ⟨hle, rfl⟩ := checkedSub_ok.mp hliquid
  obtain ⟨g₁, hfee, g₂, hrest, h⟩ := bind_ok₂.mp h
  have hpart := keeperPart_le keeperFee (amount - product / 10000)
  have h₁ := mintSome_supply hfee
  have h₂ := mintSome_supply hrest
  have h₃ := (holdBack_ok h).1
  omega

theorem payClaim_backed {keeperFee : Nat} (hworker : worker ≠ escrowAddr)
    (hsender : sender ≠ escrowAddr)
    (h : payClaim cfg escrowAddr keeperFee e g now sender epoch worker amount = .ok (e', g')) :
    Escrow.Backed escrowAddr cfg.self (holdbackJobId epoch worker) (· = worker) e e' g g' := by
  obtain ⟨product, -, liquid, -, g₁, hfee, g₂, hrest, h⟩ := bind_ok₄.mp h
  exact ((Escrow.backed_mintSome hsender hfee).trans
    (Escrow.backed_mintSome hworker hrest)).trans (holdBack_ok h).2

end

end Settlement

end GoatCoin
