/-
# `GoatCoin.Contracts.JobVault` — the funded mint of `JobVault.sol`

    createJob       the Safe only; the funder pays the budget in
    mintBatch       mints to the workers and moves the value of what was minted to the desk
    closeJob        once the holdback is released or past its deadline; refunds the rest

The value of what a job has minted is rounded up over all its batches, not batch by
batch: a batch moves the difference of two ceilings,

    backing   =   ⌈(minted + total) · RATE / 1e18⌉ - usdtFunded

which may be less than the value of the batch.
-/
import GoatCoin.Contracts.HoldbackEscrow
import Mathlib.Algebra.Order.Floor.Div

namespace GoatCoin

open Evm

namespace JobVault

/-- USDT units of six decimals for `1e18` of GOAT. -/
def rate : Nat := 10000

/-- 30 days. -/
def backstop : Nat := 2592000

/-- A job of the vault. -/
structure Job where
  catalogHash : Bytes32
  funder : Address
  contributorBudgetUsdt : Nat
  minted : Nat
  holdbackBps : Nat
  externalAcceptor : Address
  rehearsal : Bool
  closed : Bool
  lastMint : Nat

def Job.empty : Job := ⟨0, 0, 0, 0, 0, 0, false, false, 0⟩

/-- The immutables, and the address of the contract. -/
structure Config where
  self : Address
  safe : Address
  desk : Address

end JobVault

/-- The storage of the vault. -/
structure JobVault where
  jobs : Bytes32 → JobVault.Job
  usdtFunded : Bytes32 → Nat

namespace JobVault

def new : JobVault := ⟨fun _ => .empty, fun _ => 0⟩

def setJob (v : JobVault) (jobId : Bytes32) (job : Job) : JobVault :=
  { v with jobs := Function.update v.jobs jobId job }

def usdtValueCeil (goatAmount : Nat) : Except Revert Nat := do
  let product ← checked 256 (goatAmount * rate) .panic
  let sum ← checked 256 (product + 10 ^ 18) .panic
  .ok ((sum - 1) / 10 ^ 18)

def createJob (v : JobVault) (cfg : Config) (usdt : Erc20) (sender : Address)
    (jobId catalogHash : Bytes32) (funder : Address) (contributorBudgetUsdt : Uint256)
    (holdbackBps : Word 16) (externalAcceptor : Address) (rehearsal : Bool) :
    Except Revert (JobVault × Erc20) := do
  require (sender = cfg.safe) .notSafe
  require ((v.jobs jobId).funder = 0) .jobExists
  require (¬ (externalAcceptor = 0 ∧ rehearsal = false)) .rehearsalRequired
  require (holdbackBps.val ≤ 10000) .invalidHoldback
  let usdt ← usdt.transferFrom cfg.self funder cfg.self contributorBudgetUsdt.val
  .ok (v.setJob jobId
    { catalogHash
      funder
      contributorBudgetUsdt := contributorBudgetUsdt.val
      minted := 0
      holdbackBps := holdbackBps.val
      externalAcceptor
      rehearsal
      closed := false
      lastMint := 0 }, usdt)

/-- The loop that adds up the amounts. -/
def addAmounts : List Uint256 → Nat → Except Revert Nat
  | [], total => .ok total
  | amount :: rest, total => do
      let total ← checked 256 (total + amount.val) .panic
      addAmounts rest total

/-- What is held back of an amount. -/
def holdBack (cfg : Config) (escrowAddr : Address) (jobId : Bytes32) (deadline : Nat)
    (worker : Address) (hb : Nat) (e : Escrow) (g : Goat) : Except Revert (Escrow × Goat) :=
  if 0 < hb then do
    let g ← g.mint cfg.self escrowAddr hb
    let e ← e.credit cfg.self jobId worker hb deadline
    .ok (e, g)
  else .ok (e, g)

/-- The loop that mints, over the workers that are left. -/
def mintAmounts (cfg : Config) (escrowAddr : Address) (jobId : Bytes32)
    (holdbackBps deadline : Nat) :
    List (Address × Uint256) → Escrow → Goat → Except Revert (Escrow × Goat)
  | [], e, g => .ok (e, g)
  | (worker, amount) :: rest, e, g => do
      let product ← checked 256 (amount.val * holdbackBps) .panic
      let hb := product / 10000
      let liquid ← checkedSub amount.val hb .panic
      let g ← g.mint cfg.self worker liquid
      let (e, g) ← holdBack cfg escrowAddr jobId deadline worker hb e g
      mintAmounts cfg escrowAddr jobId holdbackBps deadline rest e g

/-- The manifest root goes into the log only. -/
def mintBatch (v : JobVault) (cfg : Config) (escrowAddr : Address) (usdt : Erc20) (e : Escrow)
    (g : Goat) (now : Nat) (sender : Address) (jobId : Bytes32) (workers : List Address)
    (amounts : List Uint256) : Except Revert (JobVault × Erc20 × Escrow × Goat) := do
  require (sender = cfg.safe) .notSafe
  let job := v.jobs jobId
  require (job.funder ≠ 0) .jobUnknown
  require (job.closed = false) .jobClosed
  require (workers.length = amounts.length) .lengthMismatch
  let total ← addAmounts amounts 0
  let minted ← checked 256 (job.minted + total) .panic
  let fundedAfter ← usdtValueCeil minted
  require (fundedAfter ≤ job.contributorBudgetUsdt) .mintExceedsEscrow
  let deadline ← checked 64 (now + backstop) .panic
  let (e, g) ← mintAmounts cfg escrowAddr jobId job.holdbackBps deadline (workers.zip amounts) e g
  let backing ← checkedSub fundedAfter (v.usdtFunded jobId) .panic
  let usdt ← usdt.transfer cfg.self cfg.desk backing
  let v := v.setJob jobId { job with minted, lastMint := now }
  .ok ({ v with usdtFunded := Function.update v.usdtFunded jobId fundedAfter }, usdt, e, g)

/-- `if (refund > 0) usdt.safeTransfer(job.funder, refund)`. -/
def payRefund (cfg : Config) (usdt : Erc20) (funder : Address)
    (refund : Nat) : Except Revert Erc20 :=
  if 0 < refund then usdt.transfer cfg.self funder refund else .ok usdt

def closeJob (v : JobVault) (cfg : Config) (usdt : Erc20) (e : Escrow) (now : Nat)
    (sender : Address) (jobId : Bytes32) : Except Revert (JobVault × Erc20) := do
  require (sender = cfg.safe) .notSafe
  let job := v.jobs jobId
  require (job.funder ≠ 0) .jobUnknown
  require (job.closed = false) .jobClosed
  require (¬ (0 < job.minted ∧ e.jobReleased jobId = false ∧ now ≤ e.jobDeadline jobId))
    .holdbackOpen
  let refund ← checkedSub job.contributorBudgetUsdt (v.usdtFunded jobId) .panic
  let usdt ← payRefund cfg usdt job.funder refund
  .ok (v.setJob jobId { job with closed := true }, usdt)

/-! ## What a successful call did -/

theorem usdtValueCeil_ok {n m : Nat} (h : usdtValueCeil n = .ok m) : m = n * rate ⌈/⌉ 10 ^ 18 := by
  obtain ⟨product, hproduct, sum, hsum, h⟩ := bind_ok₂.mp h
  obtain ⟨-, rfl⟩ := checked_ok.mp hproduct
  obtain ⟨-, rfl⟩ := checked_ok.mp hsum
  cases h
  rfl

theorem addAmounts_ok {amounts : List Uint256} :
    ∀ {start total : Nat}, addAmounts amounts start = .ok total →
      total = start + (amounts.map Fin.val).sum := by
  induction amounts with
  | nil =>
      intro start total h
      cases h
      rfl
  | cons amount rest ih =>
      intro start total h
      obtain ⟨sum, hsum, h⟩ := bind_ok.mp h
      obtain ⟨-, rfl⟩ := checked_ok.mp hsum
      rw [ih h, List.map_cons, List.sum_cons, Nat.add_assoc]

/-- What minting does to the coin, whoever holds it. -/
structure Grown (g g' : Goat) (amount : Nat) : Prop where
  supply_eq : g'.totalSupply = g.totalSupply + amount
  outside_le : ∀ held, g'.outside held ≤ g.outside held + amount

section
variable {g g' g'' : Goat} {m n : Nat}

theorem Grown.trans (h : Grown g g' m) (h' : Grown g' g'' n) : Grown g g'' (m + n) where
  supply_eq := by rw [h'.supply_eq, h.supply_eq, Nat.add_assoc]
  outside_le held := by
    have h₁ := h.outside_le held
    have h₂ := h'.outside_le held
    omega

theorem grown_mint {sender dst : Address} (h : g.mint sender dst m = .ok g') : Grown g g' m := by
  obtain ⟨-, hminted⟩ := Goat.mint_ok h
  exact ⟨hminted.supply_eq, fun _ => hminted.outside_le⟩

end

section
variable {cfg : Config} {escrowAddr : Address} {jobId : Bytes32} {e e' : Escrow} {g g' : Goat}

theorem holdBack_ok {deadline hb : Nat} {worker : Address}
    (h : holdBack cfg escrowAddr jobId deadline worker hb e g = .ok (e', g')) : Grown g g' hb := by
  unfold holdBack at h
  split at h
  · obtain ⟨g₁, hmint, h⟩ := bind_ok.mp h
    obtain ⟨e₁, -, h⟩ := bind_ok.mp h
    cases h
    exact grown_mint hmint
  · rename_i hzero
    cases h
    rw [Nat.eq_zero_of_not_pos hzero]
    exact ⟨rfl, fun _ => le_rfl⟩

theorem mintAmounts_ok {holdbackBps deadline : Nat} {ws : List (Address × Uint256)} :
    ∀ {e e' : Escrow} {g g' : Goat},
      mintAmounts cfg escrowAddr jobId holdbackBps deadline ws e g = .ok (e', g') →
      Grown g g' (ws.map fun w => w.2.val).sum := by
  induction ws with
  | nil =>
      intro e e' g g' h
      cases h
      exact ⟨rfl, fun _ => le_rfl⟩
  | cons w rest ih =>
      intro e e' g g' h
      obtain ⟨worker, amount⟩ := w
      obtain ⟨product, -, liquid, hliquid, h⟩ := bind_ok₂.mp h
      obtain ⟨hle, rfl⟩ := checkedSub_ok.mp hliquid
      obtain ⟨g₁, hmint, h⟩ := bind_ok.mp h
      obtain ⟨⟨e₂, g₂⟩, hheld, h⟩ := bind_ok.mp h
      have hgrown := ((grown_mint hmint).trans (holdBack_ok hheld)).trans (ih h)
      rw [Nat.sub_add_cancel hle] at hgrown
      rw [List.map_cons, List.sum_cons]
      exact hgrown

end

/-- A batch: what it mints, what it moves to the desk, and what it writes down. -/
structure Batch (cfg : Config) (jobId : Bytes32) (total fundedAfter : Nat) (v v' : JobVault)
    (usdt usdt' : Erc20) (g g' : Goat) : Prop where
  funder_ne : (v.jobs jobId).funder ≠ 0
  isOpen : (v.jobs jobId).closed = false
  funded_eq : fundedAfter = ((v.jobs jobId).minted + total) * rate ⌈/⌉ 10 ^ 18
  funded_le : fundedAfter ≤ (v.jobs jobId).contributorBudgetUsdt
  funded_mono : v.usdtFunded jobId ≤ fundedAfter
  paid : usdt.transfer cfg.self cfg.desk (fundedAfter - v.usdtFunded jobId) = .ok usdt'
  grown : Grown g g' total
  jobs_eq : ∃ now, v'.jobs = Function.update v.jobs jobId
    { v.jobs jobId with minted := (v.jobs jobId).minted + total, lastMint := now }
  usdtFunded_eq : v'.usdtFunded = Function.update v.usdtFunded jobId fundedAfter

variable {v v' : JobVault} {sender : Address} {usdt usdt' : Erc20}

theorem mintBatch_ok {cfg : Config} {escrowAddr : Address}
    {e e' : Escrow} {g g' : Goat} {now : Nat} {jobId : Bytes32}
    {workers : List Address} {amounts : List Uint256}
    (h : v.mintBatch cfg escrowAddr usdt e g now sender jobId workers amounts
      = .ok (v', usdt', e', g')) :
    ∃ total fundedAfter, Batch cfg jobId total fundedAfter v v' usdt usdt' g g' := by
  obtain ⟨-, -, _, hfunder, _, hopen, _, hlength, h⟩ := bind_ok₄.mp h
  obtain ⟨total, htotal, minted, hminted, h⟩ := bind_ok₂.mp h
  obtain ⟨-, rfl⟩ := checked_ok.mp hminted
  obtain ⟨fundedAfter, hfunded, _, hbudget, deadline, -, h⟩ := bind_ok₃.mp h
  obtain ⟨⟨e₁, g₁⟩, hmint, h⟩ := bind_ok.mp h
  obtain ⟨backing, hbacking, h⟩ := bind_ok.mp h
  obtain ⟨hmono, rfl⟩ := checkedSub_ok.mp hbacking
  obtain ⟨usdt₁, hpaid, h⟩ := bind_ok.mp h
  cases h
  have hsum : ((workers.zip amounts).map fun w => w.2.val).sum = total := by
    have hsnd : (workers.zip amounts).map Prod.snd = amounts :=
      List.map_snd_zip (require_ok.mp hlength).ge
    have hmap : (workers.zip amounts).map (fun w => w.2.val) = amounts.map Fin.val := by
      conv_rhs => rw [← hsnd, List.map_map]
      rfl
    rw [hmap, addAmounts_ok htotal, Nat.zero_add]
  refine ⟨total, fundedAfter, require_ok.mp hfunder, require_ok.mp hopen, usdtValueCeil_ok hfunded,
    require_ok.mp hbudget, hmono, hpaid, ?_, ⟨now, rfl⟩, rfl⟩
  rw [← hsum]
  exact mintAmounts_ok hmint

theorem createJob_ok {cfg : Config}
    {jobId catalogHash : Bytes32} {funder : Address} {budget : Uint256} {holdbackBps : Word 16}
    {externalAcceptor : Address} {rehearsal : Bool}
    (h : v.createJob cfg usdt sender jobId catalogHash funder budget holdbackBps externalAcceptor
      rehearsal = .ok (v', usdt')) :
    (v.jobs jobId).funder = 0 ∧ usdt.transferFrom cfg.self funder cfg.self budget.val = .ok usdt'
      ∧ ∃ job, job.funder = funder ∧ job.contributorBudgetUsdt = budget.val ∧ job.minted = 0
        ∧ job.closed = false ∧ v' = v.setJob jobId job := by
  obtain ⟨-, -, _, hnew, -, -, h⟩ := bind_ok₃.mp h
  obtain ⟨-, -, usdt₁, hpaid, h⟩ := bind_ok₂.mp h
  cases h
  exact ⟨require_ok.mp hnew, hpaid, _, rfl, rfl, rfl, rfl, rfl⟩

theorem closeJob_ok {cfg : Config} {e : Escrow} {now : Nat}
    {jobId : Bytes32} (h : v.closeJob cfg usdt e now sender jobId = .ok (v', usdt')) :
    (v.jobs jobId).funder ≠ 0 ∧ (v.jobs jobId).closed = false
      ∧ v' = v.setJob jobId { v.jobs jobId with closed := true }
      ∧ payRefund cfg usdt (v.jobs jobId).funder
          ((v.jobs jobId).contributorBudgetUsdt - v.usdtFunded jobId) = .ok usdt' := by
  obtain ⟨-, -, _, hfunder, _, hopen, h⟩ := bind_ok₃.mp h
  obtain ⟨-, -, refund, hrefund, h⟩ := bind_ok₂.mp h
  obtain ⟨-, rfl⟩ := checkedSub_ok.mp hrefund
  obtain ⟨usdt₁, hpaid, h⟩ := bind_ok.mp h
  cases h
  exact ⟨require_ok.mp hfunder, require_ok.mp hopen, rfl, hpaid⟩

end JobVault

end GoatCoin
