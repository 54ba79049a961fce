/-
# `GoatCoin.Contracts.JobLane` — the job lane is solvent

The vault, the desk, the escrow and the two tokens of one season, run together.  The
desk can buy back all the coins that are out, at the published rate:

    outside · RATE   ≤   usdt.balanceOf(desk) · 1e18

where `outside` leaves out what the beneficiary and the reserve hold, who keep what
they get (`Kept`).  A batch may move less to the desk than its coins are worth, so this
alone is not an invariant.  What is one has the rounding of all jobs in it:

    Σ usdtFunded · 1e18 + outside · RATE   ≤   usdt.balanceOf(desk) · 1e18 + Σ minted · RATE

and for every job the first term is at least the last.  USDT is a standard ERC-20 that
others may be given more of at any time.
-/
import GoatCoin.Contracts.JobVault
import GoatCoin.Contracts.RedemptionDesk
import GoatCoin.Lib.Runs
import Mathlib.Algebra.BigOperators.Ring.Finset
import Mathlib.GroupTheory.GroupAction.Ring

namespace GoatCoin

open Function (update update_self update_of_ne update_eq_self)
open Evm

/-- The immutables of a season, and what its deployment sees to. -/
structure Season where
  goatSafe : Address
  escrow : EscrowConfig
  vault : JobVault.Config
  desk : RedemptionDesk.Config
  wired : vault.desk = desk.self
  desk_ne_vault : desk.self ≠ vault.self
  escrow_ne_beneficiary : escrow.self ≠ desk.beneficiary
  escrow_ne_reserve : escrow.self ≠ escrow.reserve

structure JobLane where
  now : Word 64
  registry : Registry
  usdt : Erc20
  goat : Goat
  escrow : Escrow
  vault : JobVault
  desk : RedemptionDesk

/-- The calls of the vault. -/
inductive VaultCall where
  | createJob (jobId catalogHash : Bytes32) (funder : Address) (contributorBudgetUsdt : Uint256)
      (holdbackBps : Word 16) (externalAcceptor : Address) (rehearsal : Bool)
  | mintBatch (jobId : Bytes32) (workers : List Address) (amounts : List Uint256)
  | closeJob (jobId : Bytes32)

/-- The calls of the desk. -/
inductive DeskCall where
  | openWindow (start finish : Word 64) (perAccountCapGoat : Uint256)
  | redeem (goatAmount : Uint256)

inductive LaneCall where
  | advance (now : Word 64)
  | enrol (registry : Registry)
  | usdt (sender : Address) (call : TokenCall)
  | goat (sender : Address) (call : GoatCall)
  | escrow (sender : Address) (call : EscrowCall)
  | vault (sender : Address) (call : VaultCall)
  | desk (sender : Address) (call : DeskCall)

namespace Season

variable (d : Season)

/-- Someone who may send a transaction, or a contract of someone else's. -/
def IsAccount (a : Address) : Prop := a ≠ 0 ∧ a ≠ d.escrow.self ∧ a ≠ d.vault.self ∧ a ≠ d.desk.self

instance (a : Address) : Decidable (d.IsAccount a) := inferInstanceAs (Decidable (_ ∧ _))

/-- A call of the vault. -/
def vaultCall (c : JobLane) (sender : Address) : VaultCall → Except Revert JobLane
  | .createJob jobId catalogHash funder budget holdbackBps externalAcceptor rehearsal => do
      let (vault, usdt) ← c.vault.createJob d.vault c.usdt sender jobId catalogHash funder budget
        holdbackBps externalAcceptor rehearsal
      .ok { c with vault, usdt }
  | .mintBatch jobId workers amounts => do
      let (vault, usdt, escrow, goat) ← c.vault.mintBatch d.vault d.escrow.self
        c.usdt c.escrow c.goat c.now.val sender jobId workers amounts
      .ok { c with vault, usdt, escrow, goat }
  | .closeJob jobId => do
      let (vault, usdt) ← c.vault.closeJob d.vault c.usdt c.escrow c.now.val sender jobId
      .ok { c with vault, usdt }

/-- A call of the desk. -/
def deskCall (c : JobLane) (sender : Address) : DeskCall → Except Revert JobLane
  | .openWindow start finish perAccountCapGoat => do
      let desk ← c.desk.openWindow d.desk sender start finish perAccountCapGoat
      .ok { c with desk }
  | .redeem goatAmount => do
      let (desk, usdt, goat) ← c.desk.redeem d.desk c.usdt c.goat c.registry c.now.val sender
        goatAmount.val
      .ok { c with desk, usdt, goat }

def act (c : JobLane) : LaneCall → Except Revert JobLane
  | .advance now => do
      require (c.now ≤ now) .badArg
      .ok { c with now }
  | .enrol registry => .ok { c with registry }
  | .usdt sender call => do
      require (d.IsAccount sender) .notAnAccount
      let usdt ← c.usdt.call sender call
      .ok { c with usdt }
  | .goat sender call => do
      require (d.IsAccount sender) .notAnAccount
      let goat ← c.goat.call d.goatSafe c.registry sender call
      .ok { c with goat }
  | .escrow sender call => do
      require (d.IsAccount sender) .notAnAccount
      let (escrow, goat) ← c.escrow.call d.escrow c.goat c.registry c.now.val sender call
      .ok { c with escrow, goat }
  | .vault sender call => do
      require (d.IsAccount sender) .notAnAccount
      d.vaultCall c sender call
  | .desk sender call => do
      require (d.IsAccount sender) .notAnAccount
      d.deskCall c sender call

/-- The state after a list of calls. -/
def run (c : JobLane) (ks : List LaneCall) : JobLane := ks.foldl (attempt d.act) c

/-- Those who keep the coins they get. -/
def held : Finset Address := {d.desk.beneficiary, d.escrow.reserve}

/-- The beneficiary and the reserve pass no coins on, and nobody else mints any. -/
def Kept : LaneCall → Prop
  | .goat sender (.transfer _ _) => sender ∉ d.held
  | .goat _ (.transferFrom src _ _) => src ∉ d.held
  | .goat _ (.mint _ _) => False
  | .desk sender (.redeem _) => sender ∉ d.held
  | _ => True

/-- The coins that are out. -/
def outside (g : Goat) : Nat := g.outside d.held

theorem escrow_not_held : d.escrow.self ∉ d.held := by
  intro h
  rcases Finset.mem_insert.mp h with h | h
  · exact d.escrow_ne_beneficiary h
  · exact d.escrow_ne_reserve (Finset.mem_singleton.mp h)

end Season

/-- The state after the deployment: the coin and the contracts are new, and the vault and the
desk have not approved anyone. -/
structure JobLane.Fresh (d : Season) (c : JobLane) : Prop where
  goat_new : c.goat = .new
  vault_new : c.vault = .new
  unlent : ∀ spender, c.usdt.allowances d.vault.self spender = 0
    ∧ c.usdt.allowances d.desk.self spender = 0

/-! ## What holds of every state -/

namespace JobVault

/-- What an open job still has of its budget. -/
def owed (v : JobVault) (jobId : Bytes32) : Nat :=
  if (v.jobs jobId).closed then 0 else (v.jobs jobId).contributorBudgetUsdt - v.usdtFunded jobId

structure Booked (v : JobVault) (jobId : Bytes32) : Prop where
  funded_eq : v.usdtFunded jobId = (v.jobs jobId).minted * rate ⌈/⌉ 10 ^ 18
  funded_le : v.usdtFunded jobId ≤ (v.jobs jobId).contributorBudgetUsdt
  unused : (v.jobs jobId).funder = 0 → (v.jobs jobId).minted = 0

/-- What was moved to the desk is worth at least what was minted. -/
theorem Booked.covered {v : JobVault} {jobId : Bytes32} (h : v.Booked jobId) :
    (v.jobs jobId).minted * rate ≤ v.usdtFunded jobId * 10 ^ 18 := by
  have hunit : 0 < 10 ^ 18 := by decide
  rw [h.funded_eq, Nat.mul_comm _ (10 ^ 18)]
  exact le_smul_ceilDiv hunit

end JobVault

/-- The invariant of the lane. -/
structure Sound (d : Season) (c : JobLane) : Prop where
  unlent : ∀ spender, c.usdt.allowances d.vault.self spender = 0
    ∧ c.usdt.allowances d.desk.self spender = 0
  booked : ∀ jobId, c.vault.Booked jobId
  covered : ∑ jobId, c.vault.owed jobId ≤ c.usdt.balances d.vault.self
  backed : (∑ jobId, c.vault.usdtFunded jobId) * 10 ^ 18 + d.outside c.goat * JobVault.rate
    ≤ c.usdt.balances d.desk.self * 10 ^ 18 + (∑ jobId, (c.vault.jobs jobId).minted) * JobVault.rate

variable {out desk rate unit funded minted : Nat}

theorem backed_mint {out' backing total : Nat}
    (h : funded * unit + out * rate ≤ desk * unit + minted * rate) (hout : out' ≤ out + total) :
    (funded + backing) * unit + out' * rate ≤ (desk + backing) * unit
    + (minted + total) * rate := by
  calc (funded + backing) * unit + out' * rate
      ≤ (funded + backing) * unit + (out + total) * rate :=
        Nat.add_le_add_left (Nat.mul_le_mul_right _ hout) _
    _ = (funded * unit + out * rate) + (backing * unit + total * rate) := by
        rw [Nat.add_mul, Nat.add_mul]
        omega
    _ ≤ (desk * unit + minted * rate) + (backing * unit + total * rate) := Nat.add_le_add_right h _
    _ = (desk + backing) * unit + (minted + total) * rate := by
        rw [Nat.add_mul, Nat.add_mul]
        omega

theorem backed_redeem {paid amount : Nat}
    (h : funded * unit + (out + amount) * rate ≤ desk * unit + minted * rate) (hle : paid ≤ desk)
    (hpaid : paid * unit ≤ amount * rate) :
    funded * unit + out * rate ≤ (desk - paid) * unit + minted * rate := by
  have hleft : paid * unit ≤ desk * unit := Nat.mul_le_mul_right _ hle
  rw [Nat.add_mul] at h
  rw [Nat.sub_mul]
  omega

theorem backed_covers
    (h : funded * unit + out * rate ≤ desk * unit + minted * rate)
    (hround : minted * rate ≤ funded * unit) : out * rate ≤ desk * unit := by
  omega

theorem payRefund_kept {cfg : JobVault.Config} {t t' : Erc20}
    {funder other : Address} {refund : Nat}
    (h : JobVault.payRefund cfg t funder refund = .ok t') (hother : other ≠ cfg.self) :
    t'.allowances = t.allowances ∧ t.balances cfg.self ≤ t'.balances cfg.self + refund
      ∧ t.balances other ≤ t'.balances other := by
  unfold JobVault.payRefund at h
  split at h
  · obtain ⟨hle, hb, ha, -⟩ := Erc20.transfer_ok h
    rw [hb]
    refine ⟨ha, ?_, ?_⟩
    · rcases eq_or_ne cfg.self funder with heq | hne
      · rw [← heq, Erc20.moved_self hle]
        exact Nat.le_add_right _ _
      · rw [Erc20.moved_src hne]
        omega
    · rw [Erc20.moved_ne_src hother]
      exact Nat.le_add_right _ _
  · cases h
    exact ⟨rfl, Nat.le_add_right _ _, le_rfl⟩

namespace Sound

variable {d : Season} {c c' : JobLane} {sender : Address}

theorem frame (h : Sound d c) (hvault : c'.vault = c.vault)
    (hallow : ∀ a, a = d.vault.self ∨ a = d.desk.self → ∀ spender,
      c'.usdt.allowances a spender ≤ c.usdt.allowances a spender)
    (husdt : ∀ a, a = d.vault.self ∨ a = d.desk.self → c.usdt.balances a ≤ c'.usdt.balances a)
    (hgoat : d.outside c'.goat ≤ d.outside c.goat) : Sound d c' where
  unlent spender := by
    obtain ⟨hv, hd⟩ := h.unlent spender
    have hv' := hallow _ (.inl rfl) spender
    have hd' := hallow _ (.inr rfl) spender
    omega
  booked := by
    rw [hvault]
    exact h.booked
  covered := by
    rw [hvault]
    exact h.covered.trans (husdt _ (.inl rfl))
  backed := by
    rw [hvault]
    exact le_trans (Nat.add_le_add_left (Nat.mul_le_mul_right _ hgoat) _)
      (h.backed.trans (Nat.add_le_add_right (Nat.mul_le_mul_right _ (husdt _ (.inr rfl))) _))

variable {t : Erc20} {g : Goat} {v : JobVault} {jobId : Bytes32}

theorem usdtCall {call : TokenCall} (h : Sound d c) (hsender : d.IsAccount sender)
    (hok : c.usdt.call sender call = .ok t) : Sound d { c with usdt := t } := by
  have hkept : ∀ a, a = d.vault.self ∨ a = d.desk.self →
      t.balances a = c.usdt.balances a + call.brings a
        ∧ ∀ spender, t.allowances a spender ≤ c.usdt.allowances a spender := by
    rintro a (rfl | rfl)
    · exact Erc20.call_kept hsender.2.2.1.symm (h.unlent sender).1 hok
    · exact Erc20.call_kept hsender.2.2.2.symm (h.unlent sender).2 hok
  refine h.frame rfl (fun a hmem => (hkept a hmem).2) (fun a hmem => ?_) le_rfl
  show c.usdt.balances a ≤ t.balances a
  rw [(hkept a hmem).1]
  exact Nat.le_add_right _ _

theorem moveGoat {e : Escrow} (h : Sound d c) (hgoat : d.outside g ≤ d.outside c.goat) :
    Sound d { c with escrow := e, goat := g } :=
  h.frame rfl (fun _ _ _ => le_rfl) (fun _ _ => le_rfl) hgoat

theorem goatCall {call : GoatCall} (h : Sound d c) (hkept : d.Kept (.goat sender call))
    (hok : c.goat.call d.goatSafe c.registry sender call = .ok g) :
    Sound d { c with goat := g } := by
  have hsame : g.balanceOf = c.goat.balanceOf → Sound d { c with goat := g } := by
    intro hb
    refine h.moveGoat (le_of_eq ?_)
    unfold Season.outside Goat.outside
    rw [hb]
  cases call with
  | transfer dst amount => exact h.moveGoat ((Goat.transfer_ok hok).1.outside_le hkept)
  | transferFrom src dst amount => exact h.moveGoat ((Goat.transferFrom_ok hok).1.outside_le hkept)
  | approve spender amount => exact hsame (Goat.approve_ok hok).1
  | mint dst amount => exact hkept.elim
  | setMinter who status =>
      obtain ⟨-, -, hok⟩ := bind_ok.mp hok
      cases hok
      exact hsame rfl
  | liftRestriction =>
      obtain ⟨-, -, hok⟩ := bind_ok.mp hok
      cases hok
      exact hsame rfl
  | pause =>
      obtain ⟨-, -, -, -, hok⟩ := bind_ok₂.mp hok
      cases hok
      exact hsame rfl
  | unpause =>
      obtain ⟨-, -, -, -, hok⟩ := bind_ok₂.mp hok
      cases hok
      exact hsame rfl

theorem createJob {catalogHash : Bytes32} {funder : Address}
    {budget : Uint256} {holdbackBps : Word 16} {externalAcceptor : Address} {rehearsal : Bool}
    (h : Sound d c)
    (hok : c.vault.createJob d.vault c.usdt sender jobId catalogHash funder budget holdbackBps
      externalAcceptor rehearsal = .ok (v, t)) :
    Sound d { c with vault := v, usdt := t } := by
  obtain ⟨hnew, hpaid, job, hfunder, hbudget, hminted, hopen, rfl⟩ := JobVault.createJob_ok hok
  have hvault := Erc20.transferFrom_kept (h.unlent d.vault.self).1 hpaid
  have hdesk := Erc20.transferFrom_kept (h.unlent d.vault.self).2 hpaid
  rw [if_pos rfl] at hvault
  rw [if_neg d.desk_ne_vault, Nat.add_zero] at hdesk
  have hself : (c.vault.setJob jobId job).jobs jobId = job := update_self ..
  have hother : ∀ j, j ≠ jobId → (c.vault.setJob jobId job).jobs j = c.vault.jobs j :=
    fun j hj => update_of_ne hj _ _
  have hold : (c.vault.jobs jobId).minted = 0 := (h.booked jobId).unused hnew
  have hfunded : c.vault.usdtFunded jobId = 0 := by
    rw [(h.booked jobId).funded_eq, hold, Nat.zero_mul, zero_ceilDiv]
  refine ⟨fun spender => ?_, fun j => ?_, ?_, ?_⟩
  · have hallow := (Erc20.transferFrom_ok hpaid).2.2.2.1
    obtain ⟨hv, hd⟩ := h.unlent spender
    exact ⟨Nat.le_zero.mp ((hallow _ spender).trans hv.le),
      Nat.le_zero.mp ((hallow _ spender).trans hd.le)⟩
  · rcases eq_or_ne j jobId with rfl | hj
    · refine ⟨?_, ?_, fun hzero => ?_⟩
      · rw [hself, hminted, Nat.zero_mul, zero_ceilDiv]
        exact hfunded
      · rw [hself, hbudget]
        exact hfunded.le.trans (Nat.zero_le _)
      · rw [hself, hfunder] at hzero
        exact absurd hzero (Erc20.transferFrom_src_ne_zero hpaid)
    · obtain ⟨hfunded, hle, hunused⟩ := h.booked j
      rw [← hother j hj] at hfunded hle hunused
      exact ⟨hfunded, hle, hunused⟩
  · have hsum : ∑ j, (c.vault.setJob jobId job).owed j + c.vault.owed jobId
        = ∑ j, c.vault.owed j + (c.vault.setJob jobId job).owed jobId := by
      refine sum_change fun j hj => ?_
      unfold JobVault.owed
      rw [hother j hj]
      rfl
    have howed : (c.vault.setJob jobId job).owed jobId ≤ budget.val := by
      unfold JobVault.owed
      rw [hself, hbudget]
      split
      · exact Nat.zero_le _
      · exact Nat.sub_le _ _
    have hcovered := h.covered
    show _ ≤ t.balances d.vault.self
    rw [hvault]
    generalize ∑ j, (c.vault.setJob jobId job).owed j = after at hsum ⊢
    generalize ∑ j, c.vault.owed j = before at hsum hcovered
    omega
  · have hsum : ∑ j, ((c.vault.setJob jobId job).jobs j).minted + (c.vault.jobs jobId).minted
        = ∑ j, (c.vault.jobs j).minted + ((c.vault.setJob jobId job).jobs jobId).minted :=
      sum_change fun j hj => congrArg JobVault.Job.minted (hother j hj)
    rw [hself, hminted, hold, Nat.add_zero, Nat.add_zero] at hsum
    show _ ≤ t.balances d.desk.self * 10 ^ 18
      + (∑ j, ((c.vault.setJob jobId job).jobs j).minted) * _
    rw [hdesk, hsum]
    exact h.backed

theorem mintBatch {e : Escrow}
    {total fundedAfter : Nat} (h : Sound d c)
    (hbatch : JobVault.Batch d.vault jobId total fundedAfter c.vault v c.usdt t c.goat g) :
    Sound d { c with vault := v, usdt := t, escrow := e, goat := g } := by
  obtain ⟨now, hjobs⟩ := hbatch.jobs_eq
  obtain ⟨hle, hb, ha, -⟩ := Erc20.transfer_ok hbatch.paid
  have hne : d.vault.self ≠ d.vault.desk := d.wired ▸ d.desk_ne_vault.symm
  have hvault : t.balances d.vault.self
      = c.usdt.balances d.vault.self - (fundedAfter - c.vault.usdtFunded jobId) := by
    rw [hb, Erc20.moved_src hne]
  have hdesk : t.balances d.desk.self
      = c.usdt.balances d.desk.self + (fundedAfter - c.vault.usdtFunded jobId) := by
    rw [hb, ← d.wired, Erc20.moved_dst hne]
  have hself := congrFun hjobs jobId
  have hfundedSelf := congrFun hbatch.usdtFunded_eq jobId
  rw [update_self] at hself hfundedSelf
  have hother : ∀ j, j ≠ jobId → v.jobs j = c.vault.jobs j :=
    fun j hj => (congrFun hjobs j).trans (update_of_ne hj _ _)
  have hfundedOther : ∀ j, j ≠ jobId → v.usdtFunded j = c.vault.usdtFunded j :=
    fun j hj => (congrFun hbatch.usdtFunded_eq j).trans (update_of_ne hj _ _)
  refine ⟨fun spender => ?_, fun j => ?_, ?_, ?_⟩
  · show t.allowances _ spender = 0 ∧ t.allowances _ spender = 0
    rw [ha]
    exact h.unlent spender
  · rcases eq_or_ne j jobId with rfl | hj
    · refine ⟨?_, ?_, fun hzero => ?_⟩
      · rw [hfundedSelf, hself]
        exact hbatch.funded_eq
      · rw [hfundedSelf, hself]
        exact hbatch.funded_le
      · rw [hself] at hzero
        exact absurd hzero hbatch.funder_ne
    · obtain ⟨hfunded, hle, hunused⟩ := h.booked j
      rw [← hother j hj, ← hfundedOther j hj] at hfunded hle
      rw [← hother j hj] at hunused
      exact ⟨hfunded, hle, hunused⟩
  · have hsum : ∑ j, v.owed j + c.vault.owed jobId = ∑ j, c.vault.owed j + v.owed jobId := by
      refine sum_change fun j hj => ?_
      unfold JobVault.owed
      rw [hother j hj, hfundedOther j hj]
    have hbefore : c.vault.owed jobId
        = (c.vault.jobs jobId).contributorBudgetUsdt - c.vault.usdtFunded jobId := by
      unfold JobVault.owed
      rw [hbatch.isOpen]
      rfl
    have hafter : v.owed jobId = (c.vault.jobs jobId).contributorBudgetUsdt - fundedAfter := by
      unfold JobVault.owed
      rw [hself, hfundedSelf]
      dsimp only
      rw [hbatch.isOpen]
      rfl
    have hcovered := h.covered
    have hbudget := hbatch.funded_le
    have hmono := hbatch.funded_mono
    show _ ≤ t.balances d.vault.self
    rw [hvault]
    generalize ∑ j, v.owed j = after at hsum ⊢
    generalize ∑ j, c.vault.owed j = before at hsum hcovered
    omega
  · have hminted : ∑ j, (v.jobs j).minted = ∑ j, (c.vault.jobs j).minted + total := by
      have hsum : ∑ j, (v.jobs j).minted + (c.vault.jobs jobId).minted
          = ∑ j, (c.vault.jobs j).minted + (v.jobs jobId).minted :=
        sum_change fun j hj => congrArg JobVault.Job.minted (hother j hj)
      rw [hself] at hsum
      dsimp only at hsum
      omega
    have hfunded : ∑ j, v.usdtFunded j
        = ∑ j, c.vault.usdtFunded j + (fundedAfter - c.vault.usdtFunded jobId) := by
      have hsum := sum_change hfundedOther
      have hmono := hbatch.funded_mono
      rw [hfundedSelf] at hsum
      omega
    have hout : d.outside g ≤ d.outside c.goat + total := hbatch.grown.outside_le d.held
    show (∑ j, v.usdtFunded j) * _ + d.outside g * _
      ≤ t.balances _ * _ + (∑ j, (v.jobs j).minted) * _
    rw [hdesk, hminted, hfunded]
    exact backed_mint h.backed hout

theorem closeJob (h : Sound d c)
    (hok : c.vault.closeJob d.vault c.usdt c.escrow c.now.val sender jobId = .ok (v, t)) :
    Sound d { c with vault := v, usdt := t } := by
  obtain ⟨hfunder, hopen, rfl, hrefund⟩ := JobVault.closeJob_ok hok
  obtain ⟨hallow, hvault, hdesk⟩ := payRefund_kept hrefund d.desk_ne_vault
  have hself : (c.vault.setJob jobId { c.vault.jobs jobId with closed := true }).jobs jobId
      = { c.vault.jobs jobId with closed := true } := update_self ..
  have hother : ∀ j, j ≠ jobId →
      (c.vault.setJob jobId { c.vault.jobs jobId with closed := true }).jobs j = c.vault.jobs j :=
    fun j hj => update_of_ne hj _ _
  have hminted :
    ∀ j, ((c.vault.setJob jobId { c.vault.jobs jobId with closed := true }).jobs j).minted
      = (c.vault.jobs j).minted := by
    intro j
    rcases eq_or_ne j jobId with rfl | hj
    · rw [hself]
    · rw [hother j hj]
  refine ⟨fun spender => ?_, fun j => ?_, ?_, ?_⟩
  · show t.allowances _ spender = 0 ∧ t.allowances _ spender = 0
    rw [hallow]
    exact h.unlent spender
  · rcases eq_or_ne j jobId with rfl | hj
    · obtain ⟨hfunded, hle, hunused⟩ := h.booked j
      refine ⟨?_, ?_, ?_⟩
      · rw [hself]
        exact hfunded
      · rw [hself]
        exact hle
      · rw [hself]
        exact hunused
    · obtain ⟨hfunded, hle, hunused⟩ := h.booked j
      rw [← hother j hj] at hfunded hle hunused
      exact ⟨hfunded, hle, hunused⟩
  · have hsum : ∑ j, (c.vault.setJob jobId { c.vault.jobs jobId with closed := true }).owed j
          + c.vault.owed jobId = ∑ j, c.vault.owed j
          + (c.vault.setJob jobId { c.vault.jobs jobId with closed := true }).owed jobId := by
      refine sum_change fun j hj => ?_
      unfold JobVault.owed
      rw [hother j hj]
      rfl
    have hbefore : c.vault.owed jobId
        = (c.vault.jobs jobId).contributorBudgetUsdt - c.vault.usdtFunded jobId := by
      unfold JobVault.owed
      rw [hopen]
      rfl
    have hafter :
      (c.vault.setJob jobId { c.vault.jobs jobId with closed := true }).owed jobId = 0 := by
      unfold JobVault.owed
      rw [hself]
      rfl
    have hcovered := h.covered
    show _ ≤ t.balances d.vault.self
    generalize ∑ j, (c.vault.setJob jobId _).owed j = after at hsum ⊢
    generalize ∑ j, c.vault.owed j = before at hsum hcovered
    omega
  · show _ ≤ _ * _ + (∑ j, ((c.vault.setJob jobId _).jobs j).minted) * _
    rw [Finset.sum_congr rfl fun j _ => hminted j]
    exact h.backed.trans (Nat.add_le_add_right (Nat.mul_le_mul_right _ hdesk) _)

theorem redeem {k : RedemptionDesk} {goatAmount : Nat} (h : Sound d c)
    (hsender : d.IsAccount sender) (hheld : sender ∉ d.held)
    (hok : c.desk.redeem d.desk c.usdt c.goat c.registry c.now.val sender goatAmount
      = .ok (k, t, g)) :
    Sound d { c with desk := k, usdt := t, goat := g } := by
  obtain ⟨hmoved, hpaid⟩ := RedemptionDesk.redeem_ok hok
  obtain ⟨hle, hb, ha, -⟩ := Erc20.transfer_ok hpaid
  have hbeneficiary : d.desk.beneficiary ∈ d.held := Finset.mem_insert_self _ _
  have hout : d.outside g + goatAmount = d.outside c.goat := hmoved.outside_eq hheld hbeneficiary
  refine ⟨fun spender => ?_, h.booked, ?_, ?_⟩
  · show t.allowances _ spender = 0 ∧ t.allowances _ spender = 0
    rw [ha]
    exact h.unlent spender
  · show _ ≤ t.balances d.vault.self
    rw [hb, Erc20.moved_ne_src d.desk_ne_vault.symm]
    exact h.covered.trans (Nat.le_add_right _ _)
  · show _ + d.outside g * _ ≤ t.balances d.desk.self * _ + _
    rw [hb, Erc20.moved_src hsender.2.2.2.symm]
    have hold := h.backed
    rw [← hout] at hold
    exact backed_redeem hold hle (Nat.div_mul_le_self _ _)

end Sound

/-! ## Every run -/

section
variable {d : Season} {c c' : JobLane} {k : LaneCall}

theorem JobLane.Fresh.sound (h : c.Fresh d) : Sound d c := by
  refine ⟨h.unlent, fun jobId => ?_, ?_, ?_⟩
  · rw [h.vault_new]
    refine ⟨?_, le_rfl, fun _ => rfl⟩
    show 0 = 0 * _ ⌈/⌉ _
    rw [Nat.zero_mul, zero_ceilDiv]
  · have hnone : ∑ jobId, c.vault.owed jobId = 0 := by
      rw [h.vault_new]
      exact Finset.sum_eq_zero fun _ _ => rfl
    rw [hnone]
    exact Nat.zero_le _
  · have hfunded : ∑ jobId, c.vault.usdtFunded jobId = 0 := by
      rw [h.vault_new]
      exact Finset.sum_eq_zero fun _ _ => rfl
    have hout : d.outside c.goat = 0 := by
      rw [h.goat_new]
      unfold Season.outside Goat.outside
      exact Finset.sum_eq_zero fun _ _ => rfl
    rw [hfunded, hout, Nat.zero_mul, Nat.zero_mul]
    exact Nat.zero_le _

theorem sound_step (h : Sound d c) (hkept : d.Kept k) (hok : d.act c k = .ok c') : Sound d c' := by
  cases k with
  | advance now =>
      obtain ⟨-, -, hok⟩ := bind_ok.mp hok
      cases hok
      exact h.frame rfl (fun _ _ _ => le_rfl) (fun _ _ => le_rfl) le_rfl
  | enrol registry =>
      cases hok
      exact h.frame rfl (fun _ _ _ => le_rfl) (fun _ _ => le_rfl) le_rfl
  | usdt sender call =>
      obtain ⟨_, hsender, t, hcall, hok⟩ := bind_ok₂.mp hok
      cases hok
      exact h.usdtCall (require_ok.mp hsender) hcall
  | goat sender call =>
      obtain ⟨-, -, g, hcall, hok⟩ := bind_ok₂.mp hok
      cases hok
      exact h.goatCall hkept hcall
  | escrow sender call =>
      obtain ⟨-, -, hok⟩ := bind_ok.mp hok
      obtain ⟨⟨e, g⟩, hcall, hok⟩ := bind_ok.mp hok
      cases hok
      exact h.moveGoat (Escrow.call_outside d.escrow_not_held hcall)
  | vault sender call =>
      obtain ⟨-, -, hok⟩ := bind_ok.mp hok
      cases call with
      | createJob jobId catalogHash funder budget holdbackBps externalAcceptor rehearsal =>
          obtain ⟨⟨v, t⟩, hcall, hok⟩ := bind_ok.mp hok
          cases hok
          exact h.createJob hcall
      | mintBatch jobId workers amounts =>
          obtain ⟨⟨v, t, e, g⟩, hcall, hok⟩ := bind_ok.mp hok
          cases hok
          obtain ⟨total, fundedAfter, hbatch⟩ := JobVault.mintBatch_ok hcall
          exact h.mintBatch hbatch
      | closeJob jobId =>
          obtain ⟨⟨v, t⟩, hcall, hok⟩ := bind_ok.mp hok
          cases hok
          exact h.closeJob hcall
  | desk sender call =>
      obtain ⟨_, hsender, hok⟩ := bind_ok.mp hok
      cases call with
      | openWindow start finish perAccountCapGoat =>
          obtain ⟨desk, -, hok⟩ := bind_ok.mp hok
          cases hok
          exact h.frame rfl (fun _ _ _ => le_rfl) (fun _ _ => le_rfl) le_rfl
      | redeem goatAmount =>
          obtain ⟨⟨desk, t, g⟩, hcall, hok⟩ := bind_ok.mp hok
          cases hok
          exact h.redeem (require_ok.mp hsender) hkept hcall

end

/-! ## What was minted and what was moved, job by job -/

/-- The job that a call mints for. -/
def LaneCall.job : LaneCall → Option Bytes32
  | .vault _ (.mintBatch jobId _ _) => some jobId
  | _ => none

/-- A run with the coins that each job has brought into being, and the USDT that went to the
desk for it. -/
structure Books where
  lane : JobLane
  minted : Bytes32 → Nat
  moved : Bytes32 → Nat

namespace Books

def next (d : Season) (b : Books) (k : LaneCall) : Books :=
  let lane := attempt d.act b.lane k
  match k.job with
  | none => { b with lane }
  | some jobId =>
      { lane
        minted := update b.minted jobId
          (b.minted jobId + (lane.goat.totalSupply - b.lane.goat.totalSupply))
        moved := update b.moved jobId
          (b.moved jobId + (lane.usdt.balances d.desk.self - b.lane.usdt.balances d.desk.self)) }

def run (d : Season) (c : JobLane) (ks : List LaneCall) : Books :=
  ks.foldl (next d) ⟨c, fun _ => 0, fun _ => 0⟩

variable {d : Season} {b : Books} {k : LaneCall}

theorem next_lane : (b.next d k).lane = attempt d.act b.lane k := by
  unfold next
  split
  · rfl
  · rfl

/-- The vault's own books say the same. -/
structure Agree (b : Books) : Prop where
  minted_eq : ∀ jobId, b.minted jobId = (b.lane.vault.jobs jobId).minted
  moved_eq : ∀ jobId, b.moved jobId = b.lane.vault.usdtFunded jobId

theorem Agree.frame {c : JobLane} (h : b.Agree)
    (hminted : ∀ jobId, (c.vault.jobs jobId).minted = (b.lane.vault.jobs jobId).minted)
    (hfunded : c.vault.usdtFunded = b.lane.vault.usdtFunded) : Agree { b with lane := c } :=
  ⟨fun jobId => (h.minted_eq jobId).trans (hminted jobId).symm,
    fun jobId => (h.moved_eq jobId).trans (congrFun hfunded jobId).symm⟩

theorem act_vault_eq {c c' : JobLane} (hk : ∀ sender call, k ≠ .vault sender call)
    (hok : d.act c k = .ok c') : c'.vault = c.vault := by
  cases k with
  | advance now =>
      obtain ⟨-, -, hok⟩ := bind_ok.mp hok
      cases hok
      rfl
  | enrol registry =>
      cases hok
      rfl
  | usdt sender call =>
      obtain ⟨-, -, t, -, hok⟩ := bind_ok₂.mp hok
      cases hok
      rfl
  | goat sender call =>
      obtain ⟨-, -, g, -, hok⟩ := bind_ok₂.mp hok
      cases hok
      rfl
  | escrow sender call =>
      obtain ⟨-, -, hok⟩ := bind_ok.mp hok
      obtain ⟨⟨e, g⟩, -, hok⟩ := bind_ok.mp hok
      cases hok
      rfl
  | vault sender call => exact absurd rfl (hk sender call)
  | desk sender call =>
      obtain ⟨-, -, hok⟩ := bind_ok.mp hok
      cases call with
      | openWindow start finish perAccountCapGoat =>
          obtain ⟨desk, -, hok⟩ := bind_ok.mp hok
          cases hok
          rfl
      | redeem goatAmount =>
          obtain ⟨⟨desk, t, g⟩, -, hok⟩ := bind_ok.mp hok
          cases hok
          rfl

theorem agree_next (h : b.Agree) (hs : Sound d b.lane) : (b.next d k).Agree := by
  rcases attempt_cases d.act b.lane k with ⟨hsame, -⟩ | hok
  · unfold next
    rw [hsame]
    split
    · exact h
    · -- a batch that reverts adds nothing to either book
      refine ⟨fun j => ?_, fun j => ?_⟩
      · dsimp only
        rw [Nat.sub_self, Nat.add_zero, update_eq_self]
        exact h.minted_eq j
      · dsimp only
        rw [Nat.sub_self, Nat.add_zero, update_eq_self]
        exact h.moved_eq j
  generalize hc : attempt d.act b.lane k = c at hok
  have hnone : k.job = none → b.next d k = { b with lane := c } := by
    intro hjob
    unfold next
    rw [hjob, hc]
  cases k with
  | vault sender call =>
      obtain ⟨-, -, hok⟩ := bind_ok.mp hok
      cases call with
      | createJob jobId catalogHash funder budget holdbackBps externalAcceptor rehearsal =>
          obtain ⟨⟨v, t⟩, hcall, hok⟩ := bind_ok.mp hok
          obtain ⟨hnew, -, job, -, -, hminted, -, rfl⟩ := JobVault.createJob_ok hcall
          cases hok
          rw [hnone rfl]
          refine h.frame (fun j => ?_) rfl
          rcases eq_or_ne j jobId with rfl | hj
          · show (update b.lane.vault.jobs j job j).minted = _
            rw [update_self, hminted, (hs.booked j).unused hnew]
          · show (update b.lane.vault.jobs jobId job j).minted = _
            rw [update_of_ne hj]
      | mintBatch jobId workers amounts =>
          obtain ⟨⟨v, t, e, g⟩, hcall, hok⟩ := bind_ok.mp hok
          cases hok
          obtain ⟨total, fundedAfter, hbatch⟩ := JobVault.mintBatch_ok hcall
          obtain ⟨now, hjobs⟩ := hbatch.jobs_eq
          obtain ⟨-, hb, -, -⟩ := Erc20.transfer_ok hbatch.paid
          have hne : d.vault.self ≠ d.vault.desk := d.wired ▸ d.desk_ne_vault.symm
          have hdesk : t.balances d.desk.self = b.lane.usdt.balances d.desk.self
              + (fundedAfter - b.lane.vault.usdtFunded jobId) := by
            rw [hb, ← d.wired, Erc20.moved_dst hne]
          have hsupply := hbatch.grown.supply_eq
          have hmono := hbatch.funded_mono
          unfold next
          rw [hc]
          refine ⟨fun j => ?_, fun j => ?_⟩
          · show update b.minted jobId (b.minted jobId + (g.totalSupply - _)) j = (v.jobs j).minted
            rw [hjobs, hsupply, Nat.add_sub_cancel_left]
            rcases eq_or_ne j jobId with rfl | hj
            · rw [update_self, update_self, h.minted_eq]
            · rw [update_of_ne hj, update_of_ne hj, h.minted_eq]
          · show update b.moved jobId (b.moved jobId + (t.balances d.desk.self - _)) j
              = v.usdtFunded j
            rw [hbatch.usdtFunded_eq, hdesk, Nat.add_sub_cancel_left]
            rcases eq_or_ne j jobId with rfl | hj
            · rw [update_self, update_self, h.moved_eq]
              omega
            · rw [update_of_ne hj, update_of_ne hj, h.moved_eq]
      | closeJob jobId =>
          obtain ⟨⟨v, t⟩, hcall, hok⟩ := bind_ok.mp hok
          obtain ⟨-, -, rfl, -⟩ := JobVault.closeJob_ok hcall
          cases hok
          rw [hnone rfl]
          refine h.frame (fun j => ?_) rfl
          show (update b.lane.vault.jobs jobId _ j).minted = _
          rcases eq_or_ne j jobId with rfl | hj
          · rw [update_self]
          · rw [update_of_ne hj]
  | _ =>
      have hvault : c.vault = b.lane.vault := by
        refine act_vault_eq ?_ hok
        exact nofun
      rw [hnone rfl]
      exact h.frame (fun j => by rw [hvault]) (by rw [hvault])

theorem run_sound {c : JobLane} (hfresh : c.Fresh d) (ks : List LaneCall)
    (hkept : ∀ k ∈ ks, d.Kept k) :
    (run d c ks).lane = d.run c ks ∧ Sound d (d.run c ks) ∧ (run d c ks).Agree := by
  induction ks using List.reverseRecOn with
  | nil =>
      refine ⟨rfl, hfresh.sound, fun jobId => ?_, fun jobId => ?_⟩
      · show 0 = (c.vault.jobs jobId).minted
        rw [hfresh.vault_new]
        rfl
      · show 0 = c.vault.usdtFunded jobId
        rw [hfresh.vault_new]
        rfl
  | append_singleton ks k ih =>
      obtain ⟨hlane, hs, hagree⟩ := ih fun k' hk' => hkept k' (List.mem_append_left _ hk')
      have hlast := hkept k (List.mem_append_right _ (List.mem_singleton_self k))
      have hrun : d.run c (ks ++ [k]) = attempt d.act (d.run c ks) k := Runs.foldl_snoc ks k c
      have hbooks : run d c (ks ++ [k]) = (run d c ks).next d k := Runs.foldl_snoc ks k _
      rw [hrun, hbooks, next_lane, hlane]
      refine ⟨rfl, ?_, agree_next hagree (hlane ▸ hs)⟩
      rcases attempt_cases d.act (d.run c ks) k with ⟨hsame, -⟩ | hok
      · rw [hsame]
        exact hs
      · exact sound_step hs hlast hok

end Books

/-- **The job lane is solvent in every state of every run.** -/
theorem job_lane_solvency (d : Season) {start : JobLane} (hfresh : start.Fresh d)
    (ks : List LaneCall) (hkept : ∀ k ∈ ks, d.Kept k) :
    d.outside (d.run start ks).goat * JobVault.rate / 10 ^ 18
        ≤ (d.run start ks).usdt.balances d.desk.self
      ∧ (∀ jobId, (Books.run d start ks).moved jobId
            = (Books.run d start ks).minted jobId * JobVault.rate ⌈/⌉ 10 ^ 18
          ∧ (Books.run d start ks).minted jobId = ((d.run start ks).vault.jobs jobId).minted
          ∧ (Books.run d start ks).moved jobId = (d.run start ks).vault.usdtFunded jobId
          ∧ (Books.run d start ks).moved jobId
              ≤ ((d.run start ks).vault.jobs jobId).contributorBudgetUsdt)
      ∧ (∑ jobId, if ((d.run start ks).vault.jobs jobId).closed then 0
          else ((d.run start ks).vault.jobs jobId).contributorBudgetUsdt
            - (d.run start ks).vault.usdtFunded jobId)
        ≤ (d.run start ks).usdt.balances d.vault.self := by
  obtain ⟨hlane, hs, hagree⟩ := Books.run_sound hfresh ks hkept
  generalize d.run start ks = c at hlane hs ⊢
  refine ⟨?_, fun jobId => ?_, hs.covered⟩
  · have hrounding : (∑ jobId, (c.vault.jobs jobId).minted) * JobVault.rate
        ≤ (∑ jobId, c.vault.usdtFunded jobId) * 10 ^ 18 := by
      rw [Finset.sum_mul, Finset.sum_mul]
      exact Finset.sum_le_sum fun jobId _ => (hs.booked jobId).covered
    refine Nat.div_le_of_le_mul ?_
    rw [Nat.mul_comm (10 ^ 18)]
    exact backed_covers hs.backed hrounding
  · have hminted := hagree.minted_eq jobId
    have hmoved := hagree.moved_eq jobId
    rw [hlane] at hminted hmoved
    refine ⟨?_, hminted, hmoved, ?_⟩
    · rw [hmoved, hminted]
      exact (hs.booked jobId).funded_eq
    · rw [hmoved]
      exact (hs.booked jobId).funded_le

/-! ### A batch whose value is rounded up -/

def sampleSeason : Season where
  goatSafe := 1
  escrow := ⟨2, 1, 3⟩
  vault := ⟨4, 1, 5⟩
  desk := ⟨5, 1, 6⟩
  wired := rfl
  desk_ne_vault := by decide
  escrow_ne_beneficiary := by decide
  escrow_ne_reserve := by decide

def sampleLane : JobLane := ⟨0, ⟨fun _ => true, fun _ => true⟩, .new, .new, .new, .new, .new⟩

def sampleMint : List LaneCall :=
  [.goat 1 (.setMinter 4 true),
   .escrow 1 (.setVault 4),
   .usdt 7 (.issue 7 100),
   .usdt 7 (.approve 4 100),
   .vault 1 (.createJob 9 0 7 100 1500 8 false),
   .vault 1 (.mintBatch 9 [10] [1000000000000001])]

theorem job_lane_solvency_sample :
    (Books.run sampleSeason sampleLane sampleMint).minted 9 = 1000000000000001
      ∧ (Books.run sampleSeason sampleLane sampleMint).moved 9 = 11
      ∧ (Books.run sampleSeason sampleLane sampleMint).moved 9
        = (Books.run sampleSeason sampleLane sampleMint).minted 9 * JobVault.rate ⌈/⌉ 10 ^ 18 := by
  have hfresh : sampleLane.Fresh sampleSeason := ⟨rfl, rfl, fun _ => ⟨rfl, rfl⟩⟩
  have hkept : ∀ k ∈ sampleMint, sampleSeason.Kept k := by
    intro k hk
    simp only [sampleMint, List.mem_cons, List.not_mem_nil, or_false] at hk
    rcases hk with rfl | rfl | rfl | rfl | rfl | rfl <;> trivial
  exact ⟨rfl, rfl, ((job_lane_solvency sampleSeason hfresh sampleMint hkept).2.1 9).1⟩

end GoatCoin
