/-
# `GoatCoin.Contracts.HoldbackEscrow` — the holdback of `HoldbackEscrow.sol`

    credit(job, worker, v, deadline)    the vault only; not released
    release(job)                        the Safe only
    releaseAfterDeadline(job)           anyone, past the deadline
    slash(job, worker, v)               the Safe only; not released; to the reserve

A job keeps the list of the workers it was credited for and their balances.  The
list has each of them once and misses no balance, and a job carries that as fields
(`JobState`).  A release walks the list, and what it pays is every balance of the
job (`releaseJob_ok`): nothing is left behind.

The lanes that mint against the escrow all do the same to it (`Backed`): what they
mint to it they credit, to the workers they pay.
-/
import GoatCoin.Contracts.Goat

namespace GoatCoin

open Function (update update_self update_of_ne)
open Evm

structure JobState where
  deadline : Nat
  released : Bool
  workers : List Address
  balances : Address → Nat
  seen : Address → Bool
  nodup_workers : workers.Nodup
  mem_workers : ∀ w, w ∈ workers ↔ seen w = true
  covered : ∀ w, balances w ≠ 0 → seen w = true

namespace JobState

def empty : JobState where
  deadline := 0
  released := false
  workers := []
  balances _ := 0
  seen _ := false
  nodup_workers := List.nodup_nil
  mem_workers _ := ⟨nofun, nofun⟩
  covered _ h := absurd rfl h

/-- What the job still owes. -/
def total (j : JobState) : Nat := ∑ w, j.balances w

/-- `if (!j.seen[worker]) { j.seen[worker] = true; j.workers.push(worker); }`, then
`j.balances[worker] += amount` and the deadline. -/
def credit (j : JobState) (worker : Address) (amount deadline : Nat) : JobState where
  deadline := max j.deadline deadline
  released := j.released
  workers := if j.seen worker then j.workers else j.workers ++ [worker]
  balances := update j.balances worker (j.balances worker + amount)
  seen := update j.seen worker true
  nodup_workers := by
    split
    · exact j.nodup_workers
    · rename_i hnew
      refine List.nodup_append.mpr ⟨j.nodup_workers, List.nodup_singleton _, ?_⟩
      intro a ha b hb hab
      rw [List.mem_singleton.mp hb] at hab
      exact hnew ((j.mem_workers worker).mp (hab ▸ ha))
  mem_workers w := by
    rcases eq_or_ne w worker with rfl | hne
    · rw [update_self]
      refine ⟨fun _ => rfl, fun _ => ?_⟩
      split
      · rename_i hseen
        exact (j.mem_workers w).mpr hseen
      · exact List.mem_append_right _ (List.mem_singleton_self w)
    · rw [update_of_ne hne]
      split
      · exact j.mem_workers w
      · rw [List.mem_append, List.mem_singleton]
        exact ⟨fun h => (j.mem_workers w).mp (h.resolve_right hne),
          fun h => .inl ((j.mem_workers w).mpr h)⟩
  covered w h := by
    rcases eq_or_ne w worker with rfl | hne
    · exact update_self ..
    · rw [update_of_ne hne] at h ⊢
      exact j.covered w h

def debit (j : JobState) (worker : Address) (amount : Nat) : JobState :=
  { j with
    balances := update j.balances worker (j.balances worker - amount)
    covered := fun w h => by
      rcases eq_or_ne w worker with rfl | hne
      · rw [update_self] at h
        exact j.covered w (by omega)
      · rw [update_of_ne hne] at h
        exact j.covered w h }

def setReleased (j : JobState) : JobState := { j with released := true }

/-- `j.balances[w] = 0`. -/
def clear (j : JobState) (worker : Address) : JobState := j.debit worker (j.balances worker)

theorem total_credit (j : JobState) (worker : Address) (amount deadline : Nat) :
    (j.credit worker amount deadline).total = j.total + amount := by
  have hsum := sum_update id j.balances worker (j.balances worker + amount)
  simp only [id] at hsum
  show ∑ w, update j.balances worker (j.balances worker + amount) w = ∑ w, j.balances w + _
  omega

theorem total_debit (j : JobState) {worker : Address} {amount : Nat}
    (h : amount ≤ j.balances worker) : (j.debit worker amount).total + amount = j.total := by
  have hsum := sum_update id j.balances worker (j.balances worker - amount)
  simp only [id] at hsum
  show ∑ w, update j.balances worker (j.balances worker - amount) w + _ = ∑ w, j.balances w
  omega

end JobState

/-- The storage of the escrow. -/
structure Escrow where
  vault : Address
  jobs : Bytes32 → JobState

/-- The calls of the escrow. -/
inductive EscrowCall where
  | setVault (vault : Address)
  | credit (jobId : Bytes32) (worker : Address) (amount : Uint256) (deadline : Word 64)
  | release (jobId : Bytes32)
  | releaseAfterDeadline (jobId : Bytes32)
  | slash (jobId : Bytes32) (worker : Address) (amount : Uint256)

/-- The immutables of the escrow, and its address. -/
structure EscrowConfig where
  self : Address
  safe : Address
  reserve : Address

namespace Escrow

def new : Escrow := ⟨0, fun _ => .empty⟩

/-- What the escrow owes over all jobs. -/
def outstanding (e : Escrow) : Nat := ∑ jobId, (e.jobs jobId).total

def setJob (e : Escrow) (jobId : Bytes32) (j : JobState) : Escrow :=
  { e with jobs := update e.jobs jobId j }

def setVault (e : Escrow) (cfg : EscrowConfig) (sender vault : Address) : Except Revert Escrow := do
  require (sender = cfg.safe) .notSafe
  require (e.vault = 0) .vaultAlreadySet
  .ok { e with vault }

def credit (e : Escrow) (sender : Address) (jobId : Bytes32) (worker : Address)
    (amount deadline : Nat) : Except Revert Escrow := do
  require (sender = e.vault) .notVault
  let j := e.jobs jobId
  require (j.released = false) .alreadyReleased
  let _ ← checked 256 (j.balances worker + amount) .panic
  .ok (e.setJob jobId (j.credit worker amount deadline))

/-- `slash`, with the transfer it makes. -/
def slash (e : Escrow) (cfg : EscrowConfig) (g : Goat) (r : Registry) (sender : Address)
    (jobId : Bytes32) (worker : Address) (amount : Nat) : Except Revert (Escrow × Goat) := do
  require (sender = cfg.safe) .notSafe
  let j := e.jobs jobId
  require (j.released = false) .alreadyReleased
  require (amount ≤ j.balances worker) .insufficientHoldback
  let g ← g.transfer r cfg.self cfg.reserve amount
  .ok (e.setJob jobId (j.debit worker amount), g)

/-- The loop of `_release` over the workers that are left. -/
def payWorkers (cfg : EscrowConfig) (r : Registry) :
    List Address → JobState → Goat → Except Revert (JobState × Goat)
  | [], j, g => .ok (j, g)
  | w :: ws, j, g =>
      if 0 < j.balances w then do
        let g ← g.transfer r cfg.self w (j.balances w)
        payWorkers cfg r ws (j.clear w) g
      else payWorkers cfg r ws j g

/-- `_release`. -/
def releaseJob (e : Escrow) (cfg : EscrowConfig) (g : Goat) (r : Registry) (jobId : Bytes32) :
    Except Revert (Escrow × Goat) := do
  let j := e.jobs jobId
  require (j.released = false) .alreadyReleased
  require (j.workers ≠ []) .nothingCredited
  let (j, g) ← payWorkers cfg r j.workers j.setReleased g
  .ok (e.setJob jobId j, g)

/-- The Safe releases a job. -/
def release (e : Escrow) (cfg : EscrowConfig) (g : Goat) (r : Registry) (sender : Address)
    (jobId : Bytes32) : Except Revert (Escrow × Goat) := do
  require (sender = cfg.safe) .notSafe
  e.releaseJob cfg g r jobId

def releaseAfterDeadline (e : Escrow) (cfg : EscrowConfig) (g : Goat) (r : Registry) (now : Nat)
    (jobId : Bytes32) : Except Revert (Escrow × Goat) := do
  require ((e.jobs jobId).deadline < now) .deadlineNotReached
  e.releaseJob cfg g r jobId

def jobReleased (e : Escrow) (jobId : Bytes32) : Bool := (e.jobs jobId).released

def jobDeadline (e : Escrow) (jobId : Bytes32) : Nat := (e.jobs jobId).deadline

def call (e : Escrow) (cfg : EscrowConfig) (g : Goat) (r : Registry) (now : Nat)
    (sender : Address) :
    EscrowCall → Except Revert (Escrow × Goat)
  | .setVault vault => do
      let e ← e.setVault cfg sender vault
      .ok (e, g)
  | .credit jobId worker amount deadline => do
      let e ← e.credit sender jobId worker amount.val deadline.val
      .ok (e, g)
  | .release jobId => e.release cfg g r sender jobId
  | .releaseAfterDeadline jobId => e.releaseAfterDeadline cfg g r now jobId
  | .slash jobId worker amount => e.slash cfg g r sender jobId worker amount.val

/-! ## What a successful call did -/

theorem setJob_self (e : Escrow) (jobId : Bytes32) (j : JobState) :
    (e.setJob jobId j).jobs jobId = j :=
  update_self ..

theorem setJob_other (e : Escrow) {jobId i : Bytes32} (h : i ≠ jobId) (j : JobState) :
    (e.setJob jobId j).jobs i = e.jobs i := update_of_ne h _ _

theorem outstanding_setJob (e : Escrow) (jobId : Bytes32) (j : JobState) :
    (e.setJob jobId j).outstanding + (e.jobs jobId).total = e.outstanding + j.total :=
  sum_update JobState.total e.jobs jobId j

variable {sender : Address} {cfg : EscrowConfig} {r : Registry} {held : Finset Address}

theorem credit_ok {e e' : Escrow} {jobId : Bytes32} {worker : Address}
    {amount deadline : Nat} (h : e.credit sender jobId worker amount deadline = .ok e') :
    sender = e.vault ∧ (e.jobs jobId).released = false
      ∧ e' = e.setJob jobId ((e.jobs jobId).credit worker amount deadline) := by
  obtain ⟨_, hvault, _, hopen, -, -, h⟩ := bind_ok₃.mp h
  cases h
  exact ⟨require_ok.mp hvault, require_ok.mp hopen, rfl⟩

theorem slash_ok {e e' : Escrow} {g g' : Goat}
    {jobId : Bytes32} {worker : Address} {amount : Nat}
    (h : e.slash cfg g r sender jobId worker amount = .ok (e', g')) :
    amount ≤ (e.jobs jobId).balances worker
      ∧ e' = e.setJob jobId ((e.jobs jobId).debit worker amount)
      ∧ g.Moved g' cfg.self cfg.reserve amount ∧ g'.token.allowances = g.token.allowances := by
  obtain ⟨-, -, -, -, _, hle, g₁, htransfer, h⟩ := bind_ok₄.mp h
  cases h
  obtain ⟨hmoved, hallow⟩ := Goat.transfer_ok htransfer
  exact ⟨require_ok.mp hle, rfl, hmoved, hallow⟩

theorem payWorkers_outside
    (hself : cfg.self ∉ held) :
    ∀ {ws : List Address} {j j' : JobState} {g g' : Goat},
      payWorkers cfg r ws j g = .ok (j', g') → g'.outside held ≤ g.outside held := by
  intro ws
  induction ws with
  | nil =>
      intro j j' g g' h
      cases h
      exact le_rfl
  | cons w ws ih =>
      intro j j' g g' h
      unfold payWorkers at h
      split at h
      · obtain ⟨g₁, htransfer, h⟩ := bind_ok.mp h
        exact (ih h).trans ((Goat.transfer_ok htransfer).1.outside_le hself)
      · exact ih h

theorem releaseJob_outside {e e' : Escrow} {g g' : Goat}
    {jobId : Bytes32} (hself : cfg.self ∉ held)
    (h : e.releaseJob cfg g r jobId = .ok (e', g')) : g'.outside held ≤ g.outside held := by
  obtain ⟨-, -, -, -, h⟩ := bind_ok₂.mp h
  obtain ⟨⟨j', g₁⟩, hpay, h⟩ := bind_ok.mp h
  cases h
  exact payWorkers_outside hself hpay

theorem call_outside {e e' : Escrow} {g g' : Goat} {now : Nat}
    {call : EscrowCall} (hself : cfg.self ∉ held)
    (h : e.call cfg g r now sender call = .ok (e', g')) : g'.outside held ≤ g.outside held := by
  cases call with
  | setVault vault =>
      obtain ⟨e₁, -, h⟩ := bind_ok.mp h
      cases h
      exact le_rfl
  | credit jobId worker amount deadline =>
      obtain ⟨e₁, -, h⟩ := bind_ok.mp h
      cases h
      exact le_rfl
  | release jobId =>
      obtain ⟨-, -, h⟩ := bind_ok.mp h
      exact releaseJob_outside hself h
  | releaseAfterDeadline jobId =>
      obtain ⟨-, -, h⟩ := bind_ok.mp h
      exact releaseJob_outside hself h
  | slash jobId worker amount => exact (slash_ok h).2.2.1.outside_le hself

/-- What a release pays out of a job: to everyone but the escrow itself, the balance
of those on the list, and nothing stays with them. -/
structure Paid (cfg : EscrowConfig) (ws : List Address) (j j' : JobState) (g g' : Goat) : Prop where
  cleared : ∀ w ∈ ws, j'.balances w = 0
  kept : ∀ w, w ∉ ws → j'.balances w = j.balances w
  seen_eq : j'.seen = j.seen
  released_eq : j'.released = j.released
  received : ∀ a, a ≠ cfg.self →
    g'.balanceOf a = g.balanceOf a + if a ∈ ws then j.balances a else 0
  escrow_eq : g'.balanceOf cfg.self + j.total = g.balanceOf cfg.self + j'.total
  supply_eq : g'.totalSupply = g.totalSupply
  allowances_eq : g'.token.allowances = g.token.allowances
  isMinter_eq : g'.isMinter = g.isMinter
  paused_eq : g'.paused = g.paused

theorem payWorkers_ok :
    ∀ {ws : List Address} {j j' : JobState} {g g' : Goat}, ws.Nodup → cfg.self ∉ ws →
      payWorkers cfg r ws j g = .ok (j', g') → Paid cfg ws j j' g g' := by
  intro ws
  induction ws with
  | nil =>
      intro j j' g g' _ _ h
      cases h
      exact ⟨nofun, fun _ _ => rfl, rfl, rfl, fun _ _ => rfl, rfl, rfl, rfl, rfl, rfl⟩
  | cons w ws ih =>
      intro j j' g g' hnd hself h
      obtain ⟨hw, hnd⟩ := List.nodup_cons.mp hnd
      have hne : cfg.self ≠ w := fun h => hself (h ▸ List.mem_cons_self)
      have hrest : cfg.self ∉ ws := fun h => hself (List.mem_cons_of_mem w h)
      unfold payWorkers at h
      split at h
      · obtain ⟨g₁, htransfer, h⟩ := bind_ok.mp h
        obtain ⟨hmoved, hallow⟩ := Goat.transfer_ok htransfer
        have hpaid := ih hnd hrest h
        have hother : ∀ a, a ≠ w → (j.clear w).balances a = j.balances a :=
          fun a ha => update_of_ne ha _ _
        have hzero : (j.clear w).balances w = 0 :=
          (update_self ..).trans (Nat.sub_self _)
        refine ⟨?_, ?_, hpaid.seen_eq, hpaid.released_eq, ?_, ?_,
          hpaid.supply_eq.trans hmoved.supply_eq, hpaid.allowances_eq.trans hallow,
          hpaid.isMinter_eq.trans hmoved.isMinter_eq, hpaid.paused_eq.trans hmoved.paused_eq⟩
        · intro a ha
          rcases List.mem_cons.mp ha with rfl | ha
          · rw [hpaid.kept a hw, hzero]
          · exact hpaid.cleared a ha
        · intro a ha
          rw [List.mem_cons, not_or] at ha
          rw [hpaid.kept a ha.2, hother a ha.1]
        · intro a ha
          rw [hpaid.received a ha, hmoved.balances_eq]
          rcases eq_or_ne a w with rfl | haw
          · rw [Erc20.moved_dst hne, if_neg hw, if_pos List.mem_cons_self]
            rfl
          · rw [Erc20.moved_other ha haw, hother a haw]
            simp only [List.mem_cons, haw, false_or]
        · have hsrc : g₁.balanceOf cfg.self = g.balanceOf cfg.self - j.balances w := by
            rw [hmoved.balances_eq, Erc20.moved_src hne]
          have htotal := j.total_debit (Nat.le_refl (j.balances w))
          have hescrow := hpaid.escrow_eq
          have hle := hmoved.le
          rw [hsrc] at hescrow
          change (j.clear w).total + _ = _ at htotal
          omega
      · rename_i hzero
        have hbal : j.balances w = 0 := Nat.eq_zero_of_not_pos hzero
        have hpaid := ih hnd hrest h
        refine ⟨?_, ?_, hpaid.seen_eq, hpaid.released_eq, ?_, hpaid.escrow_eq, hpaid.supply_eq,
          hpaid.allowances_eq, hpaid.isMinter_eq, hpaid.paused_eq⟩
        · intro a ha
          rcases List.mem_cons.mp ha with rfl | ha
          · rw [hpaid.kept a hw, hbal]
          · exact hpaid.cleared a ha
        · intro a ha
          exact hpaid.kept a fun h => ha (List.mem_cons_of_mem w h)
        · intro a ha
          rw [hpaid.received a ha]
          rcases eq_or_ne a w with rfl | haw
          · rw [if_neg hw, if_pos List.mem_cons_self, hbal]
          · simp only [List.mem_cons, haw, false_or]

/-- **A release pays every balance of the job, and no balance stays.** -/
theorem releaseJob_ok {e e' : Escrow} {g g' : Goat}
    {jobId : Bytes32} (hself : (e.jobs jobId).seen cfg.self = false)
    (h : e.releaseJob cfg g r jobId = .ok (e', g')) :
    (e.jobs jobId).released = false ∧ ∃ j', e' = e.setJob jobId j' ∧ j'.released = true
      ∧ (∀ w, j'.balances w = 0) ∧ j'.seen = (e.jobs jobId).seen
      ∧ (∀ a, a ≠ cfg.self → g'.balanceOf a = g.balanceOf a + (e.jobs jobId).balances a)
      ∧ g'.balanceOf cfg.self + (e.jobs jobId).total = g.balanceOf cfg.self
      ∧ g'.totalSupply = g.totalSupply ∧ g'.token.allowances = g.token.allowances
      ∧ g'.isMinter = g.isMinter ∧ g'.paused = g.paused
      ∧ ∃ w, (e.jobs jobId).seen w = true := by
  obtain ⟨_, hopen, _, hcredited, h⟩ := bind_ok₂.mp h
  obtain ⟨⟨j', g₁⟩, hpay, h⟩ := bind_ok.mp h
  cases h
  have hnot : cfg.self ∉ (e.jobs jobId).workers := by
    rw [(e.jobs jobId).mem_workers, hself]
    exact Bool.false_ne_true
  have hpaid := payWorkers_ok (e.jobs jobId).nodup_workers hnot hpay
  have hunseen : ∀ w, w ∉ (e.jobs jobId).workers → (e.jobs jobId).balances w = 0 := by
    intro w hw
    refine Classical.byContradiction fun hne => hw ?_
    exact ((e.jobs jobId).mem_workers w).mpr ((e.jobs jobId).covered w hne)
  have hclear : ∀ w, j'.balances w = 0 := by
    intro w
    by_cases hw : w ∈ (e.jobs jobId).workers
    · exact hpaid.cleared w hw
    · exact (hpaid.kept w hw).trans (hunseen w hw)
  refine ⟨require_ok.mp hopen, j', rfl, hpaid.released_eq, hclear, hpaid.seen_eq, ?_, ?_,
    hpaid.supply_eq, hpaid.allowances_eq, hpaid.isMinter_eq, hpaid.paused_eq, ?_⟩
  · intro a ha
    rw [hpaid.received a ha]
    split
    · rfl
    · rename_i hw
      rw [hunseen a hw]
  · have htotal : j'.total = 0 := Finset.sum_eq_zero fun w _ => hclear w
    have hescrow := hpaid.escrow_eq
    rw [htotal] at hescrow
    exact hescrow
  · obtain ⟨w, hw⟩ := List.exists_mem_of_ne_nil _ (require_ok.mp hcredited)
    exact ⟨w, ((e.jobs jobId).mem_workers w).mp hw⟩

/-! ## What a minting lane does -/

/-- A lane mints, and credits what it minted to the escrow: the workers it credits are
among `ws`, under one job, and it credits any only as the vault. -/
structure Backed (escrow lane : Address) (jobId : Bytes32) (ws : Address → Prop) (e e' : Escrow)
    (g g' : Goat) : Prop where
  vault_eq : e'.vault = e.vault
  changed : e' = e ∨ lane = e.vault
  balance_eq : g'.balanceOf escrow + e.outstanding = g.balanceOf escrow + e'.outstanding
  released_eq : ∀ j, (e'.jobs j).released = (e.jobs j).released
  other_eq : ∀ j, j ≠ jobId → e'.jobs j = e.jobs j
  seen_of : ∀ w, (e'.jobs jobId).seen w = true → (e.jobs jobId).seen w = true ∨ ws w
  seen_mono : ∀ j w, (e.jobs j).seen w = true → (e'.jobs j).seen w = true
  allowances_eq : g'.token.allowances = g.token.allowances

section
variable {escrow lane : Address} {jobId : Bytes32} {ws : Address → Prop} {e e' e'' : Escrow}
  {g g' g'' : Goat}

theorem Backed.refl (e : Escrow) (g : Goat) : Backed escrow lane jobId ws e e g g :=
  ⟨rfl, .inl rfl, rfl, fun _ => rfl, fun _ _ => rfl, fun _ h => .inl h, fun _ _ h => h, rfl⟩

theorem Backed.trans (h : Backed escrow lane jobId ws e e' g g')
    (h' : Backed escrow lane jobId ws e' e'' g' g'') : Backed escrow lane jobId ws e e'' g g'' where
  vault_eq := h'.vault_eq.trans h.vault_eq
  changed := by
    rcases h.changed with rfl | hlane
    · exact h'.changed
    · exact .inr hlane
  balance_eq := by
    have h₁ := h.balance_eq
    have h₂ := h'.balance_eq
    omega
  released_eq j := (h'.released_eq j).trans (h.released_eq j)
  other_eq j hj := (h'.other_eq j hj).trans (h.other_eq j hj)
  seen_of w hw := (h'.seen_of w hw).elim (h.seen_of w) .inr
  seen_mono j w hw := h'.seen_mono j w (h.seen_mono j w hw)
  allowances_eq := h'.allowances_eq.trans h.allowances_eq

theorem backed_mint {sender dst : Address} {amount : Nat} (hdst : dst ≠ escrow)
    (h : g.mint sender dst amount = .ok g') : Backed escrow lane jobId ws e e g g' := by
  obtain ⟨-, hminted⟩ := Goat.mint_ok h
  refine ⟨rfl, .inl rfl, ?_, fun _ => rfl, fun _ _ => rfl, fun _ h => .inl h, fun _ _ h => h,
    hminted.allowances_eq⟩
  rw [hminted.balances_eq, update_of_ne hdst.symm]

theorem backed_mintSome {sender dst : Address} {amount : Nat} (hdst : dst ≠ escrow)
    (h : g.mintSome sender dst amount = .ok g') : Backed escrow lane jobId ws e e g g' := by
  unfold Goat.mintSome at h
  split at h
  · exact backed_mint hdst h
  · cases h
    exact .refl e g

theorem backed_credit {sender worker : Address} {amount deadline : Nat} (hworker : ws worker)
    (hmint : g.mint sender escrow amount = .ok g')
    (hcredit : e.credit lane jobId worker amount deadline = .ok e') :
    Backed escrow lane jobId ws e e' g g' := by
  obtain ⟨-, hminted⟩ := Goat.mint_ok hmint
  obtain ⟨hvault, -, rfl⟩ := credit_ok hcredit
  refine ⟨rfl, .inr hvault, ?_, fun j => ?_, fun j hj => e.setJob_other hj _, fun w hw => ?_,
    fun j w hw => ?_, hminted.allowances_eq⟩
  · have hsum := e.outstanding_setJob jobId ((e.jobs jobId).credit worker amount deadline)
    have htotal := (e.jobs jobId).total_credit worker amount deadline
    rw [hminted.balances_eq, update_self]
    omega
  · rcases eq_or_ne j jobId with rfl | hj
    · rw [setJob_self]
      rfl
    · rw [setJob_other e hj]
  · rw [setJob_self] at hw
    rcases eq_or_ne w worker with rfl | hne
    · exact .inr hworker
    · exact .inl ((update_of_ne hne _ _).symm.trans hw)
  · rcases eq_or_ne j jobId with rfl | hj
    · rw [setJob_self]
      show update (e.jobs j).seen worker true w = true
      rcases eq_or_ne w worker with rfl | hne
      · exact update_self ..
      · rw [update_of_ne hne]
        exact hw
    · rw [setJob_other e hj]
      exact hw

end

end Escrow

end GoatCoin
