/-
# `GoatCoin.Contracts.WorkMinter` — the free-market mint of `WorkMinter.sol`

    createJob       the Safe only; a reward above zero marks a job that exists
    mintBatch       units × reward for each worker: the holdback to the escrow, the rest liquid
    closeJob        once the holdback is released or past its deadline

A manifest is minted once.  A batch stops at the first worker that cannot be paid
and then mints for nobody; a batch that succeeds is `Escrow.Backed`.
-/
import GoatCoin.Contracts.HoldbackEscrow

namespace GoatCoin

open Evm

namespace WorkMinter

/-- A job of the minter. -/
structure Job where
  catalogHash : Bytes32
  unitReward : Nat
  minted : Nat
  holdbackBps : Nat
  externalAcceptor : Address
  founderAcceptOnly : Bool
  closed : Bool
  lastMint : Nat

def Job.empty : Job := ⟨0, 0, 0, 0, 0, false, false, 0⟩

/-- The immutables, and the address of the contract. -/
structure Config where
  self : Address
  safe : Address

/-- 30 days. -/
def backstop : Nat := 2592000

end WorkMinter

/-- The storage of the minter. -/
structure WorkMinter where
  jobs : Bytes32 → WorkMinter.Job
  usedManifest : Bytes32 → Bool

namespace WorkMinter

def new : WorkMinter := ⟨fun _ => .empty, fun _ => false⟩

def setJob (m : WorkMinter) (jobId : Bytes32) (job : Job) : WorkMinter :=
  { m with jobs := Function.update m.jobs jobId job }

/-- The Safe creates a job. -/
def createJob (m : WorkMinter) (cfg : Config) (sender : Address) (jobId catalogHash : Bytes32)
    (unitReward : Uint256) (holdbackBps : Word 16) (externalAcceptor : Address)
    (founderAcceptOnly : Bool) : Except Revert WorkMinter := do
  require (sender = cfg.safe) .notSafe
  require ((m.jobs jobId).unitReward = 0) .jobExists
  require (unitReward.val ≠ 0) .invalidUnitReward
  require (holdbackBps.val ≤ 10000) .invalidHoldback
  require (¬ (externalAcceptor = 0 ∧ founderAcceptOnly = false)) .founderAcceptRequired
  .ok (m.setJob jobId
    { catalogHash
      unitReward := unitReward.val
      minted := 0
      holdbackBps := holdbackBps.val
      externalAcceptor
      founderAcceptOnly
      closed := false
      lastMint := 0 })

/-- What one worker of a batch gets: liquid, and held back. -/
def payWorker (cfg : Config) (escrowAddr : Address) (jobId : Bytes32) (deadline : Nat)
    (worker : Address) (liquid hb : Nat) (e : Escrow) (g : Goat) :
    Except Revert (Escrow × Goat) := do
  let g ← g.mintSome cfg.self worker liquid
  if 0 < hb then do
    let g ← g.mint cfg.self escrowAddr hb
    let e ← e.credit cfg.self jobId worker hb deadline
    .ok (e, g)
  else .ok (e, g)

/-- The loop of `mintBatch` over the workers that are left, with the totals so far. -/
def mintUnits (cfg : Config) (escrowAddr : Address) (jobId : Bytes32) (job : Job) (deadline : Nat) :
    List (Address × Uint256) → Nat → Nat → Escrow → Goat → Except Revert (Nat × Escrow × Goat)
  | [], _, totalGoat, e, g => .ok (totalGoat, e, g)
  | (worker, units) :: rest, totalUnits, totalGoat, e, g => do
      let goatAmount ← checked 256 (units.val * job.unitReward) .panic
      let totalUnits ← checked 256 (totalUnits + units.val) .panic
      let totalGoat ← checked 256 (totalGoat + goatAmount) .panic
      let product ← checked 256 (goatAmount * job.holdbackBps) .panic
      let hb := product / 10000
      let liquid ← checkedSub goatAmount hb .panic
      let (e, g) ← payWorker cfg escrowAddr jobId deadline worker liquid hb e g
      mintUnits cfg escrowAddr jobId job deadline rest totalUnits totalGoat e g

def mintBatch (m : WorkMinter) (cfg : Config) (escrowAddr : Address) (e : Escrow) (g : Goat)
    (now : Nat) (sender : Address) (jobId manifestRoot : Bytes32) (workers : List Address)
    (units : List Uint256) : Except Revert (WorkMinter × Escrow × Goat) := do
  require (sender = cfg.safe) .notSafe
  let job := m.jobs jobId
  require (job.unitReward ≠ 0) .jobUnknown
  require (job.closed = false) .jobClosed
  require (workers.length = units.length) .lengthMismatch
  require (m.usedManifest manifestRoot = false) .manifestReplayed
  let deadline ← checked 64 (now + backstop) .panic
  let (totalGoat, e, g) ← mintUnits cfg escrowAddr jobId job deadline (workers.zip units) 0 0 e g
  let minted ← checked 256 (job.minted + totalGoat) .panic
  let m := m.setJob jobId { job with minted, lastMint := now }
  .ok ({ m with usedManifest := Function.update m.usedManifest manifestRoot true }, e, g)

/-- No more is minted for the job. -/
def closeJob (m : WorkMinter) (cfg : Config) (e : Escrow) (now : Nat) (sender : Address)
    (jobId : Bytes32) : Except Revert WorkMinter := do
  require (sender = cfg.safe) .notSafe
  let job := m.jobs jobId
  require (job.unitReward ≠ 0) .jobUnknown
  require (job.closed = false) .jobClosed
  require (¬ (0 < job.minted ∧ e.jobReleased jobId = false ∧ now ≤ e.jobDeadline jobId))
    .holdbackOpen
  .ok (m.setJob jobId { job with closed := true })

/-! ## What a successful batch did -/

section
variable {cfg : Config} {escrowAddr : Address} {jobId : Bytes32} {ws : Address → Prop}

theorem payWorker_ok {deadline liquid hb : Nat} {worker : Address} {e e' : Escrow} {g g' : Goat}
    (hworker : ws worker) (hne : worker ≠ escrowAddr)
    (h : payWorker cfg escrowAddr jobId deadline worker liquid hb e g = .ok (e', g')) :
    Escrow.Backed escrowAddr cfg.self jobId ws e e' g g' := by
  obtain ⟨g₁, hliquid, h⟩ := bind_ok.mp h
  have hfirst : Escrow.Backed escrowAddr cfg.self jobId ws e e g g₁ :=
    Escrow.backed_mintSome hne hliquid
  split at h
  · obtain ⟨g₂, hmint, h⟩ := bind_ok.mp h
    obtain ⟨e₂, hcredit, h⟩ := bind_ok.mp h
    cases h
    exact hfirst.trans (Escrow.backed_credit hworker hmint hcredit)
  · cases h
    exact hfirst

theorem mintUnits_ok {job : Job} {deadline : Nat} :
    ∀ {pairs : List (Address × Uint256)} {totalUnits totalGoat total : Nat} {e e' : Escrow}
      {g g' : Goat}, (∀ p ∈ pairs, ws p.1 ∧ p.1 ≠ escrowAddr) →
      mintUnits cfg escrowAddr jobId job deadline pairs totalUnits totalGoat e g
        = .ok (total, e', g') →
      Escrow.Backed escrowAddr cfg.self jobId ws e e' g g' := by
  intro pairs
  induction pairs with
  | nil =>
      intro _ _ _ e e' g g' _ h
      cases h
      exact .refl e g
  | cons p rest ih =>
      intro _ _ _ e e' g g' hws h
      obtain ⟨goatAmount, -, _, -, _, -, h⟩ := bind_ok₃.mp h
      obtain ⟨_, -, _, -, h⟩ := bind_ok₂.mp h
      obtain ⟨⟨e₁, g₁⟩, hpay, h⟩ := bind_ok.mp h
      obtain ⟨hworker, hne⟩ := hws p List.mem_cons_self
      have hrest := ih (fun q hq => hws q (List.mem_cons_of_mem p hq)) h
      exact (payWorker_ok hworker hne hpay).trans hrest

/-- **A batch credits what it mints to the escrow.** -/
theorem mintBatch_ok {m m' : WorkMinter} {e e' : Escrow} {g g' : Goat} {now : Nat}
    {sender : Address} {manifestRoot : Bytes32} {workers : List Address} {units : List Uint256}
    (hescrow : escrowAddr ∉ workers)
    (h : m.mintBatch cfg escrowAddr e g now sender jobId manifestRoot workers units
      = .ok (m', e', g')) :
    Escrow.Backed escrowAddr cfg.self jobId (· ∈ workers) e e' g g' := by
  obtain ⟨-, -, -, -, -, -, -, -, h⟩ := bind_ok₄.mp h
  obtain ⟨-, -, deadline, -, h⟩ := bind_ok₂.mp h
  obtain ⟨⟨total, e₁, g₁⟩, hloop, h⟩ := bind_ok.mp h
  obtain ⟨_, -, h⟩ := bind_ok.mp h
  cases h
  refine mintUnits_ok (fun p hp => ?_) hloop
  have hmem : p.1 ∈ workers := (List.of_mem_zip hp).1
  exact ⟨hmem, fun heq => hescrow (heq ▸ hmem)⟩

end

end WorkMinter

end GoatCoin
