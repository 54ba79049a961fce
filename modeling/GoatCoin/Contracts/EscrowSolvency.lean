/-
# `GoatCoin.Contracts.EscrowSolvency` — the escrow holds what it owes

    balanceOf(escrow)   =   the holdbacks of all jobs and workers

as long as nobody else sends it coins and its vault is one of the two lanes
(`Quiet`).  A lane mints to the escrow what it credits; a release and a slash pay out
what they take off the books.

The jobs of the settlement lane are one for each epoch and worker.  A claim that gets
as far as the credit is the first of its epoch and worker, so its job has not been
credited, and a job that has not been credited cannot have been released: a claim
never fails because of a release (`Traceable`).  Nor does it depend on the release of
any other job, since it reads nothing that a release of another job writes (`Alike`).
-/
import GoatCoin.Contracts.ClaimAudit

namespace GoatCoin

open Function (update update_self update_of_ne)
open Evm EpochSettlement

/-- The addresses of a deployment differ where it matters. -/
structure Deployment.Separate (d : Deployment) : Prop where
  reserve_ne : d.escrow.reserve ≠ d.escrow.self
  lanes_ne : d.settlement.self ≠ d.minter.self
  settlement_ne_zero : d.settlement.self ≠ 0
  minter_ne_zero : d.minter.self ≠ 0

/-- The call sends the escrow no coins of its own, and makes no one but a lane its vault. -/
def Deployment.Quiet (d : Deployment) : ChainCall → Prop
  | .goat _ (.transfer dst _) => dst ≠ d.escrow.self
  | .goat _ (.transferFrom _ dst _) => dst ≠ d.escrow.self
  | .goat _ (.mint dst _) => dst ≠ d.escrow.self
  | .escrow _ (.setVault vault) => vault = 0 ∨ vault = d.settlement.self ∨ vault = d.minter.self
  | .settlement _ (.claimPayout _ worker _ _) => worker ≠ d.escrow.self
  | .minter _ (.mintBatch _ _ workers _) => d.escrow.self ∉ workers
  | _ => True

/-- The escrow holds what it owes, and nobody but the escrow can spend it. -/
structure Solvent (d : Deployment) (e : Escrow) (g : Goat) : Prop where
  balance : g.balanceOf d.escrow.self = e.outstanding
  allowances : ∀ spender, g.token.allowances d.escrow.self spender = 0
  unseen : ∀ jobId, (e.jobs jobId).seen d.escrow.self = false
  vault : e.vault = 0 ∨ e.vault = d.settlement.self ∨ e.vault = d.minter.self
  released : ∀ jobId, (e.jobs jobId).released = true → ∃ w, (e.jobs jobId).seen w = true

namespace Solvent

variable {d : Deployment} {e e' : Escrow} {g g' : Goat} {r : Registry} {now : Nat}
  {sender : Address}

theorem vault_ne (h : Solvent d e g) (hsender : d.IsAccount sender) : sender ≠ e.vault := by
  obtain ⟨hzero, -, hsettlement, hminter⟩ := hsender
  intro heq
  rcases h.vault with hv | hv | hv
  · exact hzero (heq.trans hv)
  · exact hsettlement (heq.trans hv)
  · exact hminter (heq.trans hv)

theorem backed {lane : Address} {jobId : Bytes32} {ws : Address → Prop} (h : Solvent d e g)
    (hws : ¬ ws d.escrow.self) (hb : Escrow.Backed d.escrow.self lane jobId ws e e' g g') :
    Solvent d e' g' where
  balance := by
    have hbalance := h.balance
    have hsame := hb.balance_eq
    omega
  allowances spender := by
    rw [hb.allowances_eq]
    exact h.allowances spender
  unseen j := by
    rcases eq_or_ne j jobId with rfl | hne
    · refine Bool.eq_false_iff.mpr fun hseen => ?_
      rcases hb.seen_of _ hseen with hold | hnew
      · exact Bool.noConfusion ((h.unseen j).symm.trans hold)
      · exact hws hnew
    · rw [hb.other_eq j hne]
      exact h.unseen j
  vault := by
    rw [hb.vault_eq]
    exact h.vault
  released j hreleased := by
    rw [hb.released_eq] at hreleased
    obtain ⟨w, hw⟩ := h.released j hreleased
    exact ⟨w, hb.seen_mono j w hw⟩

theorem goatCall {call : GoatCall} (h : Solvent d e g) (hsender : d.IsAccount sender)
    (hquiet : d.Quiet (.goat sender call)) (hok : g.call d.goatSafe r sender call = .ok g') :
    Solvent d e g' := by
  have hne : d.escrow.self ≠ sender := hsender.2.1.symm
  have hother : g'.balanceOf d.escrow.self = g.balanceOf d.escrow.self →
      (∀ spender, g'.token.allowances d.escrow.self spender
        ≤ g.token.allowances d.escrow.self spender) → Solvent d e g' := by
    intro hbalance hallow
    refine ⟨hbalance.trans h.balance, fun spender => ?_, h.unseen, h.vault, h.released⟩
    exact Nat.le_zero.mp ((hallow spender).trans (h.allowances spender).le)
  cases call with
  | transfer dst amount =>
      obtain ⟨hmoved, hallow⟩ := Goat.transfer_ok hok
      refine hother ?_ fun spender => (congrFun (congrFun hallow _) spender).le
      rw [hmoved.balances_eq]
      exact Erc20.moved_other hne hquiet.symm
  | transferFrom src dst amount =>
      obtain ⟨hmoved, hspend⟩ := Goat.transferFrom_ok hok
      refine hother ?_ fun spender => hmoved.allowances_le _ spender
      rw [hmoved.balances_eq]
      rcases eq_or_ne d.escrow.self src with hsrc | hsrc
      · -- nobody was allowed anything, so nothing was moved
        rw [← hsrc, h.allowances] at hspend
        have hzero : amount.val = 0 := by
          rcases hspend with hspend | hspend
          · exact absurd hspend (by decide)
          · exact Nat.le_zero.mp hspend
        rw [← hsrc, Erc20.moved_src hquiet.symm, hzero, Nat.sub_zero]
      · exact Erc20.moved_other hsrc hquiet.symm
  | approve spender amount =>
      obtain ⟨hbalance, -, hallow, -⟩ := Goat.approve_ok hok
      exact hother (congrFun hbalance _) fun spender => (congrFun (hallow _ hne) spender).le
  | mint dst amount =>
      obtain ⟨-, hminted⟩ := Goat.mint_ok hok
      refine hother ?_ fun spender => (congrFun (congrFun hminted.allowances_eq _) spender).le
      rw [hminted.balances_eq, update_of_ne hquiet.symm]
  | setMinter who status =>
      obtain ⟨-, -, hok⟩ := bind_ok.mp hok
      cases hok
      exact hother rfl fun _ => le_rfl
  | liftRestriction =>
      obtain ⟨-, -, hok⟩ := bind_ok.mp hok
      cases hok
      exact hother rfl fun _ => le_rfl
  | pause =>
      obtain ⟨-, -, -, -, hok⟩ := bind_ok₂.mp hok
      cases hok
      exact hother rfl fun _ => le_rfl
  | unpause =>
      obtain ⟨-, -, -, -, hok⟩ := bind_ok₂.mp hok
      cases hok
      exact hother rfl fun _ => le_rfl

theorem releaseJob {jobId : Bytes32} (h : Solvent d e g)
    (hok : e.releaseJob d.escrow g r jobId = .ok (e', g')) : Solvent d e' g' := by
  obtain ⟨-, j, rfl, hreleased, hcleared, hseen, -, hbalance, -, hallow, -, -, hsome⟩ :=
    Escrow.releaseJob_ok (h.unseen jobId) hok
  refine ⟨?_, fun spender => ?_, fun i => ?_, h.vault, fun i hi => ?_⟩
  · have hsum := e.outstanding_setJob jobId j
    have hzero : j.total = 0 := Finset.sum_eq_zero fun w _ => hcleared w
    have hold := h.balance
    omega
  · rw [hallow]
    exact h.allowances spender
  · rcases eq_or_ne i jobId with rfl | hne
    · rw [Escrow.setJob_self, hseen]
      exact h.unseen i
    · rw [Escrow.setJob_other e hne]
      exact h.unseen i
  · rcases eq_or_ne i jobId with rfl | hne
    · rw [Escrow.setJob_self, hseen]
      exact hsome
    · rw [Escrow.setJob_other e hne] at hi ⊢
      exact h.released i hi

theorem slash {jobId : Bytes32} {worker : Address} {amount : Nat} (hd : d.Separate)
    (h : Solvent d e g) (hok : e.slash d.escrow g r sender jobId worker amount = .ok (e', g')) :
    Solvent d e' g' := by
  obtain ⟨hle, rfl, hmoved, hallow⟩ := Escrow.slash_ok hok
  refine ⟨?_, fun spender => ?_, fun i => ?_, h.vault, fun i hi => ?_⟩
  · have hsum := e.outstanding_setJob jobId ((e.jobs jobId).debit worker amount)
    have htotal := (e.jobs jobId).total_debit hle
    have hold := h.balance
    rw [hmoved.balances_eq, Erc20.moved_src hd.reserve_ne.symm]
    omega
  · rw [hallow]
    exact h.allowances spender
  · rcases eq_or_ne i jobId with rfl | hne
    · rw [Escrow.setJob_self]
      exact h.unseen i
    · rw [Escrow.setJob_other e hne]
      exact h.unseen i
  · rcases eq_or_ne i jobId with rfl | hne
    · rw [Escrow.setJob_self] at hi ⊢
      exact h.released i hi
    · rw [Escrow.setJob_other e hne] at hi ⊢
      exact h.released i hi

end Solvent

/-! ## The solvency of every run -/

section
variable {d : Deployment} {c c' : Chain} {handover : Handover}

theorem solvent_step {k : ChainCall} (hd : d.Separate) (h : Solvent d c.escrow c.goat)
    (hquiet : d.Quiet k) (hok : d.step c k = .ok (c', handover)) : Solvent d c'.escrow c'.goat := by
  cases k with
  | advance now =>
      obtain ⟨-, -, hok⟩ := bind_ok.mp hok
      cases hok
      exact h
  | enrol registry bound =>
      cases hok
      exact h
  | goat sender call =>
      obtain ⟨_, hsender, g, hg, hok⟩ := bind_ok₂.mp hok
      cases hok
      exact h.goatCall (require_ok.mp hsender) hquiet hg
  | escrow sender call =>
      obtain ⟨_, hsender, hok⟩ := bind_ok.mp hok
      obtain ⟨⟨e, g⟩, hcall, hok⟩ := bind_ok.mp hok
      cases hok
      cases call with
      | setVault vault =>
          obtain ⟨e₁, hset, hcall⟩ := bind_ok.mp hcall
          cases hcall
          obtain ⟨-, -, -, -, hset⟩ := bind_ok₂.mp hset
          cases hset
          exact ⟨h.balance, h.allowances, h.unseen, hquiet, h.released⟩
      | credit jobId worker amount deadline =>
          obtain ⟨e₁, hcredit, -⟩ := bind_ok.mp hcall
          exact absurd (Escrow.credit_ok hcredit).1 (h.vault_ne (require_ok.mp hsender))
      | release jobId =>
          obtain ⟨-, -, hcall⟩ := bind_ok.mp hcall
          exact h.releaseJob hcall
      | releaseAfterDeadline jobId =>
          obtain ⟨-, -, hcall⟩ := bind_ok.mp hcall
          exact h.releaseJob hcall
      | slash jobId worker amount => exact h.slash hd hcall
  | settlement sender call =>
      cases Deployment.step_effect hok with
      | elsewhere _ _ _ hk _ => exact absurd rfl (hk _ _)
      | param _ => exact h
      | turn _ _ _ => exact h
      | claim hsender _ _ hout =>
          cases hout with
          | nothing _ => exact h
          | baseline _ _ => exact h
          | minted _ _ _ _ _ _ hpay =>
              exact h.backed (fun heq => hquiet heq.symm)
                (Settlement.payClaim_backed hquiet hsender.2.1 hpay)
  | minter sender call =>
      obtain ⟨-, -, hok⟩ := bind_ok.mp hok
      obtain ⟨⟨m, e, g⟩, hcall, hok⟩ := bind_ok.mp hok
      cases hok
      cases call with
      | createJob jobId catalogHash unitReward holdbackBps acceptor founder =>
          obtain ⟨m₁, -, hcall⟩ := bind_ok.mp hcall
          cases hcall
          exact h
      | mintBatch jobId manifestRoot workers units =>
          exact h.backed hquiet (WorkMinter.mintBatch_ok hquiet hcall)
      | closeJob jobId =>
          obtain ⟨m₁, -, hcall⟩ := bind_ok.mp hcall
          cases hcall
          exact h

theorem Chain.Fresh.solvent (h : c.Fresh) : Solvent d c.escrow c.goat := by
  rw [h.escrow_new, h.goat_new]
  refine ⟨?_, fun _ => rfl, fun _ => rfl, .inl rfl, nofun⟩
  have hjobs : Escrow.new.outstanding = 0 :=
    Finset.sum_eq_zero fun _ _ => Finset.sum_eq_zero fun _ _ => rfl
  rw [hjobs]
  rfl

end

/-! ## Where the holdbacks of the settlement lane come from -/

/-- A claim for the epoch and worker is among the calls. -/
def Claims (ks : List ChainCall) (epoch : Uint256) (worker : Address) : Prop :=
  ∃ sender score proof, .settlement sender (.claimPayout epoch worker score proof) ∈ ks

/-- No two claims of the run, by epoch and worker, have jobs that collide. -/
def CollisionFree (ks : List ChainCall) : Prop :=
  ∀ epoch worker epoch' worker', Claims ks epoch worker → Claims ks epoch' worker' →
    Settlement.holdbackJobId epoch worker = Settlement.holdbackJobId epoch' worker' →
    epoch = epoch' ∧ worker = worker'

/-- Unless the other lane is the vault, every job that was credited is the job of a claim
that is marked as made. -/
def Traceable (d : Deployment) (ks : List ChainCall) (c : Chain) : Prop :=
  c.escrow.vault ≠ d.minter.self → ∀ jobId w, (c.escrow.jobs jobId).seen w = true →
    ∃ epoch worker, Claims ks epoch worker ∧ jobId = Settlement.holdbackJobId epoch worker
      ∧ c.settlement.claimed epoch worker = true

section
variable {d : Deployment} {c c' : Chain} {handover : Handover} {ks : List ChainCall} {k : ChainCall}

theorem Claims.mono {epoch : Uint256} {worker : Address} (h : Claims ks epoch worker)
    (more : List ChainCall) : Claims (ks ++ more) epoch worker := by
  obtain ⟨sender, score, proof, hmem⟩ := h
  exact ⟨sender, score, proof, List.mem_append_left _ hmem⟩

theorem claimed_mono (heffect : d.Effect c k c' handover) {epoch : Uint256} {worker : Address}
    (h : c.settlement.claimed epoch worker = true) : c'.settlement.claimed epoch worker = true := by
  rcases heffect.worker_cases worker with hsame | ⟨sender, e, score, proof, rfl⟩
  · exact (hsame.claimed_eq epoch).trans h
  · obtain ⟨-, -, -, s, esc, g, rfl, hout⟩ := heffect.claim_cases
    have hmarked : update c.settlement.claimed e
        (update (c.settlement.claimed e) worker true) epoch worker = true := by
      rcases eq_or_ne epoch e with rfl | hne
      · rw [update_self, update_self]
      · rw [update_of_ne hne]
        exact h
    cases hout with
    | nothing _ => exact h
    | baseline _ _ => exact hmarked
    | minted _ _ _ _ _ _ _ => exact hmarked

theorem Traceable.frame (h : Traceable d ks c) (heffect : d.Effect c k c' handover)
    (hvault : c'.escrow.vault ≠ d.minter.self → c.escrow.vault ≠ d.minter.self)
    (hseen : ∀ jobId w, (c'.escrow.jobs jobId).seen w = true →
      (c.escrow.jobs jobId).seen w = true) :
    Traceable d (ks ++ [k]) c' := by
  intro hne jobId w hw
  obtain ⟨epoch, worker, hclaim, hjob, hmarked⟩ := h (hvault hne) jobId w (hseen jobId w hw)
  exact ⟨epoch, worker, hclaim.mono [k], hjob, claimed_mono heffect hmarked⟩

theorem escrowCall_seen {e e' : Escrow} {g g' : Goat} {r : Registry} {now : Nat} {sender : Address}
    {call : EscrowCall} (hs : Solvent d e g) (hsender : d.IsAccount sender)
    (hok : e.call d.escrow g r now sender call = .ok (e', g')) :
    (e'.vault = e.vault ∨ e.vault = 0) ∧ ∀ jobId, (e'.jobs jobId).seen = (e.jobs jobId).seen := by
  have hrelease : ∀ jobId, e.releaseJob d.escrow g r jobId = .ok (e', g') →
      (e'.vault = e.vault ∨ e.vault = 0) ∧ ∀ jobId, (e'.jobs jobId).seen = (e.jobs jobId).seen := by
    intro jobId hok
    obtain ⟨-, j, rfl, -, -, hseen, -⟩ := Escrow.releaseJob_ok (hs.unseen jobId) hok
    refine ⟨.inl rfl, fun i => ?_⟩
    rcases eq_or_ne i jobId with rfl | hne
    · rw [Escrow.setJob_self]
      exact hseen
    · rw [Escrow.setJob_other e hne]
  cases call with
  | setVault vault =>
      obtain ⟨e₁, hset, hok⟩ := bind_ok.mp hok
      cases hok
      obtain ⟨-, -, _, hzero, hset⟩ := bind_ok₂.mp hset
      cases hset
      exact ⟨.inr (require_ok.mp hzero), fun _ => rfl⟩
  | credit jobId worker amount deadline =>
      obtain ⟨e₁, hcredit, -⟩ := bind_ok.mp hok
      exact absurd (Escrow.credit_ok hcredit).1 (hs.vault_ne hsender)
  | release jobId =>
      obtain ⟨-, -, hok⟩ := bind_ok.mp hok
      exact hrelease jobId hok
  | releaseAfterDeadline jobId =>
      obtain ⟨-, -, hok⟩ := bind_ok.mp hok
      exact hrelease jobId hok
  | slash jobId worker amount =>
      obtain ⟨-, rfl, -, -⟩ := Escrow.slash_ok hok
      refine ⟨.inl rfl, fun i => ?_⟩
      rcases eq_or_ne i jobId with rfl | hne
      · rw [Escrow.setJob_self]
        rfl
      · rw [Escrow.setJob_other e hne]

theorem backed_seen {escrow lane : Address} {jobId : Bytes32} {ws : Address → Prop} {e e' : Escrow}
    {g g' : Goat} (hb : Escrow.Backed escrow lane jobId ws e e' g g') {i : Bytes32} {w : Address}
    (hw : (e'.jobs i).seen w = true) :
    (e.jobs i).seen w = true ∨ (lane = e.vault ∧ i = jobId) := by
  rcases hb.changed with rfl | hlane
  · exact .inl hw
  · rcases eq_or_ne i jobId with rfl | hne
    · exact .inr ⟨hlane, rfl⟩
    · rw [hb.other_eq i hne] at hw
      exact .inl hw

theorem traceable_step (hd : d.Separate) (hs : Solvent d c.escrow c.goat) (hquiet : d.Quiet k)
    (h : Traceable d ks c) (hok : d.step c k = .ok (c', handover)) :
    Traceable d (ks ++ [k]) c' := by
  have heffect := Deployment.step_effect hok
  cases k with
  | advance now =>
      obtain ⟨-, -, hok⟩ := bind_ok.mp hok
      cases hok
      exact h.frame heffect id fun _ _ => id
  | enrol registry bound =>
      cases hok
      exact h.frame heffect id fun _ _ => id
  | goat sender call =>
      obtain ⟨-, -, g, -, hok⟩ := bind_ok₂.mp hok
      cases hok
      exact h.frame heffect id fun _ _ => id
  | escrow sender call =>
      obtain ⟨_, hsender, hok⟩ := bind_ok.mp hok
      obtain ⟨⟨e, g⟩, hcall, hok⟩ := bind_ok.mp hok
      cases hok
      obtain ⟨hvault, hseen⟩ := escrowCall_seen hs (require_ok.mp hsender) hcall
      refine h.frame heffect (fun hne => ?_) fun jobId w hw => ?_
      · rcases hvault with hvault | hvault
        · exact hvault ▸ hne
        · rw [hvault]
          exact hd.minter_ne_zero.symm
      · exact (congrFun (hseen jobId) w).symm.trans hw
  | settlement sender call =>
      cases heffect with
      | elsewhere _ _ _ hk _ => exact absurd rfl (hk _ _)
      | param hs => exact h.frame (.param hs) id fun _ _ => id
      | turn hmove hturn hfunds => exact h.frame (.turn hmove hturn hfunds) id fun _ _ => id
      | @claim _ epoch worker score proof s e g hsender hfinal hproof hout =>
          have heffect : d.Effect c (.settlement sender (.claimPayout epoch worker score proof))
            { c with settlement := s, escrow := e, goat := g } .nothing :=
              .claim hsender hfinal hproof hout
          cases hout with
          | nothing _ => exact h.frame heffect id fun _ _ => id
          | baseline _ _ => exact h.frame heffect id fun _ _ => id
          | minted henrolled hbase hnew hscore htime hunit hpay =>
              have hb := Settlement.payClaim_backed hquiet hsender.2.1 hpay
              intro hne jobId w hw
              have hvault : c.escrow.vault ≠ d.minter.self := hb.vault_eq ▸ hne
              rcases backed_seen hb hw with hold | ⟨-, hjob⟩
              · obtain ⟨ep, wk, hclaim, hjob, hmarked⟩ := h hvault jobId w hold
                exact ⟨ep, wk, hclaim.mono _, hjob, claimed_mono heffect hmarked⟩
              · refine ⟨epoch, worker, ?_, hjob, ?_⟩
                · exact ⟨sender, score, proof, List.mem_append_right _ (List.mem_singleton_self _)⟩
                · show update c.settlement.claimed epoch _ epoch worker = true
                  rw [update_self, update_self]
  | minter sender call =>
      obtain ⟨-, -, hok⟩ := bind_ok.mp hok
      obtain ⟨⟨m, e, g⟩, hcall, hok⟩ := bind_ok.mp hok
      cases hok
      cases call with
      | createJob jobId catalogHash unitReward holdbackBps acceptor founder =>
          obtain ⟨m₁, -, hcall⟩ := bind_ok.mp hcall
          cases hcall
          exact h.frame heffect id fun _ _ => id
      | mintBatch jobId manifestRoot workers units =>
          have hb := WorkMinter.mintBatch_ok hquiet hcall
          refine fun hne => h.frame heffect (fun hne => hb.vault_eq ▸ hne) (fun i w hw => ?_) hne
          rcases backed_seen hb hw with hold | ⟨hlane, -⟩
          · exact hold
          · exact absurd (hb.vault_eq.trans hlane.symm) hne
      | closeJob jobId =>
          obtain ⟨m₁, -, hcall⟩ := bind_ok.mp hcall
          cases hcall
          exact h.frame heffect id fun _ _ => id

end

/-! ## What a claim reverts with -/

section
variable {s : Settlement} {cfg : Config} {escrowAddr : Address} {e : Escrow} {g : Goat}
  {r : Registry} {now : Nat} {sender : Address} {epoch : Uint256} {worker : Address}

theorem mint_not_released {dst : Address} {amount : Nat}
    (h : g.mint sender dst amount = .error .alreadyReleased) : False := by
  rcases bind_error.mp h with h | ⟨_, -, h⟩
  · cases (require_error.mp h).2
  rcases bind_error.mp h with h | ⟨_, -, h⟩
  · cases (require_error.mp h).2
  rcases bind_error.mp h with h | ⟨_, -, h⟩
  · cases (require_error.mp h).2
  rcases bind_error.mp h with h | ⟨_, -, h⟩
  · rcases bind_error.mp h with h | ⟨_, -, h⟩
    · cases (require_error.mp h).2
    · split at h
      · cases h
      · cases h
  · cases h

theorem mintSome_not_released {dst : Address} {amount : Nat}
    (h : g.mintSome sender dst amount = .error .alreadyReleased) : False := by
  unfold Goat.mintSome at h
  split at h
  · exact mint_not_released h
  · cases h

theorem credit_released {lane : Address} {jobId : Bytes32} {amount deadline : Nat}
    (h : e.credit lane jobId worker amount deadline = .error .alreadyReleased) :
    lane = e.vault ∧ (e.jobs jobId).released = true := by
  rcases bind_error.mp h with h | ⟨_, hvault, h⟩
  · cases (require_error.mp h).2
  rcases bind_error.mp h with h | ⟨_, -, h⟩
  · exact ⟨require_ok.mp hvault, Bool.eq_true_of_not_eq_false (require_error.mp h).1⟩
  rcases bind_error.mp h with h | ⟨_, -, h⟩
  · cases checked_error h
  · cases h

theorem holdBack_released {hb : Nat}
    (h : Settlement.holdBack cfg escrowAddr e g now epoch worker hb = .error .alreadyReleased) :
    cfg.self = e.vault ∧ (e.jobs (Settlement.holdbackJobId epoch worker)).released = true := by
  unfold Settlement.holdBack at h
  split at h
  · rcases bind_error.mp h with h | ⟨_, -, h⟩
    · exact (mint_not_released h).elim
    rcases bind_error.mp h with h | ⟨_, -, h⟩
    · cases checked_error h
    rcases bind_error.mp h with h | ⟨_, -, h⟩
    · exact credit_released h
    · cases h
  · cases h

theorem payClaim_released {keeperFee amount : Nat}
    (h : Settlement.payClaim cfg escrowAddr keeperFee e g now sender epoch worker amount
      = .error .alreadyReleased) :
    cfg.self = e.vault ∧ (e.jobs (Settlement.holdbackJobId epoch worker)).released = true := by
  rcases bind_error.mp h with h | ⟨_, -, h⟩
  · cases checked_error h
  rcases bind_error.mp h with h | ⟨_, -, h⟩
  · cases checkedSub_error h
  rcases bind_error.mp h with h | ⟨_, -, h⟩
  · exact (mintSome_not_released h).elim
  rcases bind_error.mp h with h | ⟨_, -, h⟩
  · exact (mintSome_not_released h).elim
  · exact holdBack_released h

theorem claimDelta_released {delta : Nat}
    (h : s.claimDelta cfg escrowAddr e g now sender epoch worker delta = .error .alreadyReleased) :
    cfg.self = e.vault ∧ (e.jobs (Settlement.holdbackJobId epoch worker)).released = true := by
  rcases bind_error.mp h with h | ⟨_, -, h⟩
  · cases checkedSub_error h
  rcases bind_error.mp h with h | ⟨_, -, h⟩
  · cases (require_error.mp h).2
  dsimp only at h
  split at h
  · cases h
  rcases bind_error.mp h with h | ⟨_, -, h⟩
  · cases checked_error h
  rcases bind_error.mp h with h | ⟨_, -, h⟩
  · exact payClaim_released h
  · cases h

/-- A claim reverts with `AlreadyReleased` only if it is the first of its epoch and worker
and the job of the two was released. -/
theorem claimPayout_released {bound : Address → Bool} {score : Uint256} {proof : List Bytes32}
    (h : s.claimPayout cfg escrowAddr e g r bound now sender epoch worker score proof
      = .error .alreadyReleased) :
    s.claimed epoch worker = false ∧ cfg.self = e.vault
      ∧ (e.jobs (Settlement.holdbackJobId epoch worker)).released = true := by
  rcases bind_error.mp h with h | ⟨_, -, h⟩
  · cases (require_error.mp h).2
  rcases bind_error.mp h with h | ⟨_, -, h⟩
  · cases (require_error.mp h).2
  split at h
  · cases h
  split at h
  · cases h
  rename_i hnew
  rcases bind_error.mp h with h | ⟨_, -, h⟩
  · cases (require_error.mp h).2
  split at h
  · cases h
  split at h
  · cases h
  · exact ⟨Bool.eq_false_iff.mpr hnew, claimDelta_released h⟩

end

/-- **A claim of the settlement lane never finds its job released.** -/
theorem claim_not_released {d : Deployment} {c : Chain} {ks : List ChainCall} {sender : Address}
    {epoch : Uint256} {worker : Address} {score : Uint256} {proof : List Bytes32} (hd : d.Separate)
    (hs : Solvent d c.escrow c.goat) (ht : Traceable d ks c)
    (hfree : CollisionFree (ks ++ [.settlement sender (.claimPayout epoch worker score proof)])) :
    d.act c (.settlement sender (.claimPayout epoch worker score proof))
    ≠ .error .alreadyReleased := by
  intro h
  rcases bind_error.mp h with h | ⟨_, -, h⟩
  swap
  · cases h
  rcases bind_error.mp h with h | ⟨_, -, h⟩
  · cases (require_error.mp h).2
  rcases bind_error.mp h with h | ⟨_, -, h⟩
  swap
  · cases h
  obtain ⟨hnew, hvault, hreleased⟩ := claimPayout_released h
  have hlane : c.escrow.vault ≠ d.minter.self := hvault ▸ hd.lanes_ne
  obtain ⟨w, hw⟩ := hs.released _ hreleased
  obtain ⟨epoch', worker', hclaim, hjob, hmarked⟩ := ht hlane _ w hw
  have hself :
    Claims (ks ++ [.settlement sender (.claimPayout epoch worker score proof)]) epoch worker :=
    ⟨sender, score, proof, List.mem_append_right _ (List.mem_singleton_self _)⟩
  obtain ⟨rfl, rfl⟩ := hfree _ _ _ _ hself (hclaim.mono _) hjob
  exact Bool.noConfusion (hnew.symm.trans hmarked)

/-! ## What a claim reads -/

/-- Two states that a claim for the job cannot tell apart; `b` and `b₁` are the balances from
which those of the two states have grown alike. -/
structure Alike (jobId : Bytes32) (b b₁ : Address → Nat) (e e₁ : Escrow) (g g₁ : Goat) : Prop where
  vault_eq : e₁.vault = e.vault
  job_eq : e₁.jobs jobId = e.jobs jobId
  isMinter_eq : g₁.isMinter = g.isMinter
  paused_eq : g₁.paused = g.paused
  supply_eq : g₁.token.totalSupply = g.token.totalSupply
  grown : ∀ a, g.balanceOf a + b₁ a = g₁.balanceOf a + b a

section
variable {b b₁ : Address → Nat} {e e₁ : Escrow} {g g₁ : Goat} {sender : Address} {epoch : Uint256}
  {worker : Address} {jobId : Bytes32}

theorem mint_alike (h : Alike jobId b b₁ e e₁ g g₁) (dst : Address) (amount : Nat) :
    Together (Alike jobId b b₁ e e₁) (g.mint sender dst amount) (g₁.mint sender dst amount) := by
  have htoken : Together (fun t t₁ => t₁.totalSupply = t.totalSupply
      ∧ ∀ a, t.balances a + b₁ a = t₁.balances a + b a)
      (g.token.mint dst amount) (g₁.token.mint dst amount) := by
    unfold Erc20.mint
    refine Together.first _ fun _ => ?_
    by_cases hroom : g.token.totalSupply + amount < 2 ^ 256
    · have hroom₁ : g₁.token.totalSupply + amount < 2 ^ 256 := h.supply_eq ▸ hroom
      rw [dif_pos hroom, dif_pos hroom₁]
      refine .ok ⟨congrArg (· + amount) h.supply_eq, fun a => ?_⟩
      have hgrown : g.token.balances a + b₁ a = g₁.token.balances a + b a := h.grown a
      show update g.token.balances dst (g.token.balances dst + amount) a + b₁ a
        = update g₁.token.balances dst (g₁.token.balances dst + amount) a + b a
      rcases eq_or_ne a dst with rfl | hne
      · rw [update_self, update_self]
        omega
      · rw [update_of_ne hne, update_of_ne hne]
        exact hgrown
    · have hroom₁ : ¬ g₁.token.totalSupply + amount < 2 ^ 256 := h.supply_eq ▸ hroom
      rw [dif_neg hroom, dif_neg hroom₁]
      exact .error _
  unfold Goat.mint
  rw [h.isMinter_eq, h.paused_eq]
  refine Together.first _ fun _ => Together.first _ fun _ => Together.first _ fun _ => ?_
  refine htoken.bind fun t t₁ ht => .ok ?_
  exact ⟨h.vault_eq, h.job_eq, rfl, rfl, ht.1, ht.2⟩

theorem mintSome_alike (h : Alike jobId b b₁ e e₁ g g₁) (dst : Address) (amount : Nat) :
    Together (Alike jobId b b₁ e e₁) (g.mintSome sender dst amount)
      (g₁.mintSome sender dst amount) := by
  unfold Goat.mintSome
  split
  · exact mint_alike h dst amount
  · exact .ok h

theorem credit_alike (h : Alike jobId b b₁ e e₁ g g₁) (lane : Address) (amount deadline : Nat) :
    Together (fun e e₁ => Alike jobId b b₁ e e₁ g g₁) (e.credit lane jobId worker amount deadline)
      (e₁.credit lane jobId worker amount deadline) := by
  unfold Escrow.credit
  rw [h.vault_eq, h.job_eq]
  refine Together.first _ fun _ => Together.first _ fun _ => Together.first _ fun _ => .ok ?_
  refine ⟨h.vault_eq, ?_, h.isMinter_eq, h.paused_eq, h.supply_eq, h.grown⟩
  rw [Escrow.setJob_self, Escrow.setJob_self]

/-- The states of a claim, as pairs. -/
def AlikePair (jobId : Bytes32) (b b₁ : Address → Nat) (x x₁ : Escrow × Goat) : Prop :=
  Alike jobId b b₁ x.1 x₁.1 x.2 x₁.2

theorem holdBack_alike {cfg : Config} {escrowAddr : Address} {now : Nat}
    (h : Alike (Settlement.holdbackJobId epoch worker) b b₁ e e₁ g g₁) (hb : Nat) :
    Together (AlikePair (Settlement.holdbackJobId epoch worker) b b₁)
      (Settlement.holdBack cfg escrowAddr e g now epoch worker hb)
      (Settlement.holdBack cfg escrowAddr e₁ g₁ now epoch worker hb) := by
  unfold Settlement.holdBack
  split
  · refine (mint_alike h escrowAddr hb).bind fun g g₁ hg => Together.first _ fun deadline => ?_
    exact (credit_alike hg cfg.self hb deadline).bind fun e e₁ he => .ok he
  · exact .ok h

theorem payClaim_alike {cfg : Config} {escrowAddr : Address} {now : Nat}
    (h : Alike (Settlement.holdbackJobId epoch worker) b b₁ e e₁ g g₁) (keeperFee amount : Nat) :
    Together (AlikePair (Settlement.holdbackJobId epoch worker) b b₁)
      (Settlement.payClaim cfg escrowAddr keeperFee e g now sender epoch worker amount)
      (Settlement.payClaim cfg escrowAddr keeperFee e₁ g₁ now sender epoch worker amount) := by
  unfold Settlement.payClaim
  refine Together.first _ fun product => Together.first _ fun liquid => ?_
  refine (mintSome_alike h sender _).bind fun g g₁ hg => ?_
  exact (mintSome_alike hg worker _).bind fun g g₁ hg => holdBack_alike hg _

/-- **Where a claim cannot tell two states apart, it does the same.** -/
theorem claimPayout_alike {s : Settlement} {cfg : Config} {escrowAddr : Address} {r : Registry}
    {bound : Address → Bool} {now : Nat} {score : Uint256} {proof : List Bytes32}
    (h : Alike (Settlement.holdbackJobId epoch worker) b b₁ e e₁ g g₁) :
    Together (fun x x₁ => x.1 = x₁.1
      ∧ AlikePair (Settlement.holdbackJobId epoch worker) b b₁ x.2 x₁.2)
      (s.claimPayout cfg escrowAddr e g r bound now sender epoch worker score proof)
      (s.claimPayout cfg escrowAddr e₁ g₁ r bound now sender epoch worker score proof) := by
  unfold Settlement.claimPayout
  refine Together.first _ fun _ => Together.first _ fun _ => ?_
  split
  · exact .ok ⟨rfl, h⟩
  split
  · exact .ok ⟨rfl, h⟩
  refine Together.first _ fun _ => ?_
  split
  · exact .ok ⟨rfl, h⟩
  split
  · exact .ok ⟨rfl, h⟩
  unfold Settlement.claimDelta
  refine Together.first _ fun _ => Together.first _ fun _ => ?_
  dsimp only
  split
  · exact .ok ⟨rfl, h⟩
  refine Together.first _ fun _ => ?_
  exact (payClaim_alike h s.keeperFee _).bind fun x x₁ hx => .ok ⟨rfl, hx⟩

end

/-! ## Every run -/

/-- The call releases the job. -/
def Releases (jobId : Bytes32) (k : ChainCall) : Prop :=
  ∃ sender, k = .escrow sender (.release jobId) ∨ k = .escrow sender (.releaseAfterDeadline jobId)

/-- The results of a claim in two states: the settlement and the job are the same, and every
balance has grown by the same. -/
def SameResult (jobId : Bytes32) (c c₁ x x₁ : Chain) : Prop :=
  x.settlement = x₁.settlement
    ∧ Alike jobId c.goat.balanceOf c₁.goat.balanceOf x.escrow x₁.escrow x.goat x₁.goat

section
variable {d : Deployment} {c c' : Chain} {jobId : Bytes32} {k : ChainCall}

theorem solvent_run (hd : d.Separate) (hfresh : c.Fresh) (ks : List ChainCall)
    (hquiet : ∀ k ∈ ks, d.Quiet k) :
    Solvent d (d.run c ks).escrow (d.run c ks).goat ∧ Traceable d ks (d.run c ks) := by
  induction ks using List.reverseRecOn with
  | nil =>
      refine ⟨hfresh.solvent, fun _ jobId w hw => ?_⟩
      have hnone : (c.escrow.jobs jobId).seen w = false := by
        rw [hfresh.escrow_new]
        rfl
      exact Bool.noConfusion (hnone.symm.trans hw)
  | append_singleton ks k ih =>
      obtain ⟨hs, ht⟩ := ih fun k' hk' => hquiet k' (List.mem_append_left _ hk')
      have hlast := hquiet k (List.mem_append_right _ (List.mem_singleton_self k))
      rw [Deployment.run, Runs.foldl_snoc, ← Deployment.run]
      rcases attempt_cases d.act (d.run c ks) k with ⟨hsame, -⟩ | hok
      · rw [hsame]
        refine ⟨hs, fun hne jobId w hw => ?_⟩
        obtain ⟨epoch, worker, hclaim, hjob, hmarked⟩ := ht hne jobId w hw
        exact ⟨epoch, worker, hclaim.mono [k], hjob, hmarked⟩
      · obtain ⟨handover, hstep⟩ := d.act_ok hok
        exact ⟨solvent_step hd hs hlast hstep, traceable_step hd hs hlast ht hstep⟩

theorem release_ok (hk : Releases jobId k) (hok : d.act c k = .ok c') :
    ∃ e g, c.escrow.releaseJob d.escrow c.goat c.registry jobId = .ok (e, g)
      ∧ c' = { c with escrow := e, goat := g } := by
  obtain ⟨handover, hstep⟩ := d.act_ok hok
  obtain ⟨sender, rfl | rfl⟩ := hk
  · obtain ⟨-, -, hstep⟩ := bind_ok.mp hstep
    obtain ⟨⟨e, g⟩, hcall, hstep⟩ := bind_ok.mp hstep
    obtain ⟨-, -, hcall⟩ := bind_ok.mp hcall
    cases hstep
    exact ⟨e, g, hcall, rfl⟩
  · obtain ⟨-, -, hstep⟩ := bind_ok.mp hstep
    obtain ⟨⟨e, g⟩, hcall, hstep⟩ := bind_ok.mp hstep
    obtain ⟨-, -, hcall⟩ := bind_ok.mp hcall
    cases hstep
    exact ⟨e, g, hcall, rfl⟩

/-- **A release pays every worker its balance, and zeroes it.** -/
theorem release_pays (hs : Solvent d c.escrow c.goat) (hk : Releases jobId k)
    (hok : d.act c k = .ok c') :
    (∀ w, (c'.escrow.jobs jobId).balances w = 0)
      ∧ ∀ a, a ≠ d.escrow.self →
          c'.goat.balanceOf a = c.goat.balanceOf a + (c.escrow.jobs jobId).balances a := by
  obtain ⟨e, g, hrelease, rfl⟩ := release_ok hk hok
  obtain ⟨-, j, rfl, -, hcleared, -, hpaid, -⟩ := Escrow.releaseJob_ok (hs.unseen jobId) hrelease
  refine ⟨fun w => ?_, hpaid⟩
  rw [Escrow.setJob_self]
  exact hcleared w

/-- **The release of another job does not change what a claim does.** -/
theorem claim_alike_release {sender worker : Address} {epoch score : Uint256} {proof : List Bytes32}
    (hs : Solvent d c.escrow c.goat) (hk : Releases jobId k) (hok : d.act c k = .ok c')
    (hother : Settlement.holdbackJobId epoch worker ≠ jobId) :
    Together (SameResult (Settlement.holdbackJobId epoch worker) c c')
      (d.act c (.settlement sender (.claimPayout epoch worker score proof)))
      (d.act c' (.settlement sender (.claimPayout epoch worker score proof))) := by
  obtain ⟨e, g, hrelease, rfl⟩ := release_ok hk hok
  obtain ⟨-, j, rfl, -, -, -, -, -, hsupply, -, hminter, hpaused, -⟩ :=
    Escrow.releaseJob_ok (hs.unseen jobId) hrelease
  have halike : Alike (Settlement.holdbackJobId epoch worker) c.goat.balanceOf g.balanceOf c.escrow
      (c.escrow.setJob jobId j) c.goat g :=
    ⟨rfl, c.escrow.setJob_other hother j, hminter, hpaused, hsupply, fun _ => Nat.add_comm ..⟩
  have hstep : Together (fun x x₁ => SameResult (Settlement.holdbackJobId epoch worker) c
        { c with escrow := c.escrow.setJob jobId j, goat := g } x.1 x₁.1)
      (d.step c (.settlement sender (.claimPayout epoch worker score proof)))
      (d.step { c with escrow := c.escrow.setJob jobId j, goat := g }
        (.settlement sender (.claimPayout epoch worker score proof))) := by
    refine Together.first _ fun _ => ?_
    refine (claimPayout_alike halike).bind fun x x₁ hx => ?_
    exact .ok hx
  exact hstep.bind fun x x₁ hx => .ok hx

/-- **The escrow holds what it owes, in every state of every run, and no release stands in the
way of a claim.** -/
theorem escrow_solvency (d : Deployment) (hd : d.Separate) {start : Chain} (hfresh : start.Fresh)
    (ks : List ChainCall) (hquiet : ∀ k ∈ ks, d.Quiet k) :
    (d.run start ks).goat.balanceOf d.escrow.self
        = ∑ jobId, ∑ w, ((d.run start ks).escrow.jobs jobId).balances w
      ∧ (∀ jobId, ((d.run start ks).escrow.jobs jobId).workers.Nodup
          ∧ d.escrow.self ∉ ((d.run start ks).escrow.jobs jobId).workers
          ∧ ∀ w, ((d.run start ks).escrow.jobs jobId).balances w ≠ 0 →
              w ∈ ((d.run start ks).escrow.jobs jobId).workers)
      ∧ (∀ jobId k c', Releases jobId k → d.act (d.run start ks) k = .ok c' →
          (∀ w, (c'.escrow.jobs jobId).balances w = 0)
            ∧ ∀ a, a ≠ d.escrow.self → c'.goat.balanceOf a
                = (d.run start ks).goat.balanceOf a
                  + ((d.run start ks).escrow.jobs jobId).balances a)
      ∧ ∀ sender epoch worker score proof,
          CollisionFree (ks ++ [.settlement sender (.claimPayout epoch worker score proof)]) →
          d.act (d.run start ks) (.settlement sender (.claimPayout epoch worker score proof))
              ≠ .error .alreadyReleased
            ∧ ∀ epoch' worker' k c', Claims ks epoch' worker' → worker' ≠ worker →
                Releases (Settlement.holdbackJobId epoch' worker') k →
                d.act (d.run start ks) k = .ok c' →
                Together (SameResult (Settlement.holdbackJobId epoch worker) (d.run start ks) c')
                  (d.act (d.run start ks)
                    (.settlement sender (.claimPayout epoch worker score proof)))
                  (d.act c' (.settlement sender (.claimPayout epoch worker score proof))) := by
  obtain ⟨hs, ht⟩ := solvent_run hd hfresh ks hquiet
  refine ⟨hs.balance, fun jobId => ⟨JobState.nodup_workers _, fun hmem => ?_, fun w hw => ?_⟩,
    fun jobId k c' hk hok => release_pays hs hk hok,
    fun sender epoch worker score proof hfree => ?_⟩
  · have hseen := (JobState.mem_workers _ _).mp hmem
    exact Bool.noConfusion ((hs.unseen jobId).symm.trans hseen)
  · exact (JobState.mem_workers _ w).mpr (JobState.covered _ w hw)
  · refine ⟨claim_not_released hd hs ht hfree, fun epoch' worker' k c' hclaim hne hk hok => ?_⟩
    refine claim_alike_release hs hk hok fun hsame => hne ?_
    have hself : Claims (ks ++ [.settlement sender (.claimPayout epoch worker score proof)])
        epoch worker :=
      ⟨sender, score, proof, List.mem_append_right _ (List.mem_singleton_self _)⟩
    exact (hfree _ _ _ _ hself (hclaim.mono _) hsame).2.symm

end

/-! ### A batch with a holdback -/

def sampleHoldback : List ChainCall :=
  [.goat 1 (.setMinter 5 true),
   .escrow 1 (.setVault 5),
   .minter 1 (.createJob 7 0 10 5000 6 false),
   .minter 1 (.mintBatch 7 0 [9, 10] [3, 4])]

theorem escrow_solvency_sample :
    (sampleDeployment.run sampleChain sampleHoldback).goat.balanceOf 2 = 35
      ∧ (sampleDeployment.run sampleChain sampleHoldback).goat.balanceOf 2
        = ∑ jobId, ∑ w,
        ((sampleDeployment.run sampleChain sampleHoldback).escrow.jobs jobId).balances w := by
  have hd : sampleDeployment.Separate := ⟨by decide, by decide, by decide, by decide⟩
  have hquiet : ∀ k ∈ sampleHoldback, sampleDeployment.Quiet k := by
    intro k hk
    simp only [sampleHoldback, List.mem_cons, List.not_mem_nil, or_false] at hk
    rcases hk with rfl | rfl | rfl | rfl
    · trivial
    · exact .inr (.inr rfl)
    · trivial
    · show (2 : Address) ∉ [9, 10]
      decide
  exact ⟨rfl, (escrow_solvency sampleDeployment hd sampleChain_fresh sampleHoldback hquiet).1⟩

end GoatCoin
