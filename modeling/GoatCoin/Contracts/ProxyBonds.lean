/-
# `GoatCoin.Contracts.ProxyBonds` — where the bonds of the pool are

A bond is posted with a proposal or a challenge, is credited once when the batch is
final or the challenge decided, and is withdrawn by whoever it was credited to:

                    posted        credited
    proposer        propose       finalize → proposer    won → proposer      lost → reserve
    challenger      challenge                            won → reserve       lost → challenger

The parameters may change in between: what is credited is what was posted.  So in
every state of every run

    received - withdrawn   =   Σ bondCredit + Σ posted + what was sent besides
    posted                 =   credited, followed by what is held     for each epoch and kind

The last term of the first line is the ether that `receive` takes; nothing credits it.
-/
import GoatCoin.Contracts.Bonds
import GoatCoin.Contracts.ProxyDocket

namespace GoatCoin

open Function (update update_self update_of_ne update_eq_self)
open Evm ProxyRevenueSettlement

namespace ProxyRevenueSettlement.Batch

@[simp] def bond (b : Batch) : BondKind → Nat
  | .proposer => b.proposerBondPosted
  | .challenger => b.challengerBondPosted

@[simp] def owner (b : Batch) : BondKind → Address
  | .proposer => b.proposer
  | .challenger => b.challenger

def stake (b : Batch) : Nat := b.proposerBondPosted + b.challengerBondPosted

/-- A bond of the kind has been posted and has not been credited. -/
def holds (b : Batch) : BondKind → Bool
  | .proposer => b.status = .proposed ∨ b.status = .challenged
  | .challenger => b.status = .challenged

def held (b : Batch) (kind : BondKind) : List (Address × Nat) :=
  if b.holds kind then [(b.owner kind, b.bond kind)] else []

/-- A bond that is not held is zero, and the zero address holds none. -/
structure Tidy (b : Batch) : Prop where
  cleared : ∀ kind, b.holds kind = false → b.bond kind = 0
  owned : ∀ kind, b.holds kind = true → b.owner kind ≠ 0

theorem tidy_empty : Batch.empty.Tidy := by
  refine ⟨fun kind _ => ?_, fun kind hheld => ?_⟩
  · cases kind with
    | proposer => rfl
    | challenger => rfl
  · cases kind with
    | proposer => cases hheld
    | challenger => cases hheld

theorem Tidy.stake_eq_zero {b : Batch} (h : b.Tidy)
    (hheld : ∀ kind, b.holds kind = false) : b.stake = 0 :=
  congrArg₂ (· + ·) (h.cleared .proposer (hheld .proposer))
    (h.cleared .challenger (hheld .challenger))

end ProxyRevenueSettlement.Batch

/-- The ether that comes with a call. -/
def PoolCall.value : PoolCall → Nat
  | .proposeBatch value _ _ _ _ => value.val
  | .challengeBatch value _ => value.val
  | .receive value => value.val
  | _ => 0

def ProxyCall.value : ProxyCall → Nat
  | .pool _ call => call.value
  | _ => 0

/-- The ether that comes with a call and is no bond. -/
def ProxyCall.gift : ProxyCall → Nat
  | .pool _ (.receive value) => value.val
  | _ => 0

/-- What an event credits to someone. -/
@[simp] def BondEvent.credits (who : Address) : BondEvent → Nat
  | .posted _ _ _ _ => 0
  | .left _ _ _ payee amount => if payee = who then amount else 0

def credited (log : List BondEvent) (who : Address) : Nat := (log.map (BondEvent.credits who)).sum

namespace ProxySite

variable (d : ProxySite)

/-- The bonds of a batch whose challenge is decided. -/
@[simp] def settled (b : Batch) (epochId : Uint256) : Bool → List BondEvent
  | true =>
      [.left epochId .proposer b.proposer b.proposer b.proposerBondPosted,
       .left epochId .challenger b.challenger d.config.reserveSink b.challengerBondPosted]
  | false =>
      [.left epochId .challenger b.challenger b.challenger b.challengerBondPosted,
       .left epochId .proposer b.proposer d.config.reserveSink b.proposerBondPosted]

/-- The bond of a batch that becomes final. -/
@[simp] def released (b : Batch) (epochId : Uint256) : List BondEvent :=
  if b.status = .proposed then
    [.left epochId .proposer b.proposer b.proposer b.proposerBondPosted]
  else []

/-- The bonds that a call posts and credits, if it succeeds. -/
def bondEvents (c : ProxyChain) : ProxyCall → List BondEvent
  | .pool sender (.proposeBatch value epochId _ _ _) => [.posted epochId .proposer sender value.val]
  | .pool sender (.challengeBatch value epochId) => [.posted epochId .challenger sender value.val]
  | .pool _ (.resolveChallenge epochId proposerWon) =>
      d.settled (c.pool.batchOf epochId) epochId proposerWon
  | .pool _ (.timeoutChallenge epochId) => d.settled (c.pool.batchOf epochId) epochId true
  | .pool _ (.finalizeBatch epochId) => released (c.pool.batchOf epochId) epochId
  | _ => []

end ProxySite

/-- A run with its bonds, and the ether that came in and went out. -/
structure BondLedger where
  chain : ProxyChain
  log : List BondEvent
  received : Nat
  donated : Nat
  withdrawn : Address → Nat

namespace BondLedger

/-- What a call withdraws: the ether that is missing afterwards. -/
def withdraw (l : BondLedger) (c : ProxyChain) : ProxyCall → Address → Nat
  | .pool sender call =>
      update l.withdrawn sender (l.withdrawn sender + (l.chain.ether + call.value - c.ether))
  | _ => l.withdrawn

def next (d : ProxySite) (l : BondLedger) (k : ProxyCall) : BondLedger :=
  match d.act l.chain k with
  | .error _ => l
  | .ok c =>
      { chain := c
        log := l.log ++ d.bondEvents l.chain k
        received := l.received + k.value
        donated := l.donated + k.gift
        withdrawn := l.withdraw c k }

def run (d : ProxySite) (c : ProxyChain) (ks : List ProxyCall) : BondLedger :=
  ks.foldl (next d) ⟨c, [], 0, 0, fun _ => 0⟩

end BondLedger

/-! ## One call -/

namespace Docket

variable {k : Docket} {epochId : Uint256} {b : Batch}

/-- What the pool owes: the bonds that were credited, and those that are held. -/
def owed (k : Docket) : Nat := ∑ who, k.bondCredit who + ∑ epochId, (k.batchOf epochId).stake

theorem owed_credit (k : Docket) (who : Address) (amount : Nat) :
    (k.credit who amount).owed = k.owed + amount := by
  have hsum := sum_update id k.bondCredit who (k.bondCredit who + amount)
  simp only [id] at hsum
  unfold owed
  show ∑ a, update k.bondCredit who (k.bondCredit who + amount) a
    + ∑ e, (k.batchOf e).stake = _
  omega

theorem owed_setBatch (k : Docket) (epochId : Uint256) (b : Batch) :
    (k.setBatch epochId b).owed + (k.batchOf epochId).stake = k.owed + b.stake := by
  have hsum := sum_update Batch.stake k.batchOf epochId b
  unfold owed
  show ∑ a, k.bondCredit a + ∑ e, (update k.batchOf epochId b e).stake
    + (k.batchOf epochId).stake = _
  omega

theorem owed_receive (k : Docket) (value : Nat) : (k.receive value).owed = k.owed := rfl

theorem owed_turn (k : Docket) (epochId : Uint256) (b : Batch) {taken given : Nat}
    (h : b.stake + taken = (k.batchOf epochId).stake + given) :
    (k.setBatch epochId b).owed + taken = k.owed + given := by
  have hsum := owed_setBatch k epochId b
  omega

theorem owed_settle (k : Docket) (reserveSink : Address) (epochId : Uint256) (won : Bool) :
    (k.settle reserveSink epochId won).owed = k.owed := by
  cases won with
  | true =>
      have hturn := owed_turn ((k.credit (k.batchOf epochId).proposer
          (k.batchOf epochId).proposerBondPosted).credit reserveSink
            (k.batchOf epochId).challengerBondPosted) epochId
        { k.batchOf epochId with
          status := .proposerWon, proposerBondPosted := 0, challengerBondPosted := 0 }
        (show 0 + (k.batchOf epochId).stake = (k.batchOf epochId).stake + 0 from Nat.add_comm 0 _)
      rw [owed_credit, owed_credit] at hturn
      unfold Batch.stake at hturn
      show Docket.owed (setBatch _ _ _) = _
      omega
  | false =>
      have hturn := owed_turn ((k.credit (k.batchOf epochId).challenger
          (k.batchOf epochId).challengerBondPosted).credit reserveSink
            (k.batchOf epochId).proposerBondPosted) epochId
        { k.batchOf epochId with
          status := .challengerWon, proposerBondPosted := 0, challengerBondPosted := 0 }
        (show 0 + (k.batchOf epochId).stake = (k.batchOf epochId).stake + 0 from Nat.add_comm 0 _)
      rw [owed_credit, owed_credit] at hturn
      unfold Batch.stake at hturn
      show Docket.owed (setBatch _ _ _) = _
      omega

/-- The batches are tidy, and nothing is credited to the zero address. -/
structure Tidy (k : Docket) : Prop where
  batches : ∀ epochId, (k.batchOf epochId).Tidy
  unowned : k.bondCredit 0 = 0

theorem Tidy.setBatch (h : k.Tidy) (hb : b.Tidy) : (k.setBatch epochId b).Tidy :=
  ⟨forall_setBatch (P := fun _ b => b.Tidy) h.batches hb, h.unowned⟩

theorem Tidy.receive (h : k.Tidy) (value : Nat) : (k.receive value).Tidy := ⟨h.batches, h.unowned⟩

theorem Tidy.credit {who : Address} {amount : Nat} (h : k.Tidy) (hwho : amount = 0 ∨ who ≠ 0) :
    (k.credit who amount).Tidy := by
  refine ⟨h.batches, ?_⟩
  show update k.bondCredit who (k.bondCredit who + amount) 0 = 0
  rcases eq_or_ne 0 who with rfl | hne
  · rw [update_self, h.unowned, Nat.zero_add]
    exact hwho.resolve_right (fun hwho => hwho rfl)
  · rw [update_of_ne hne]
    exact h.unowned

end Docket

namespace Filing

variable {d : ProxySite} {c : ProxyChain} {k : Docket} {sender : Address} {call : PoolCall}

theorem tidy_settled {b : Batch} {status : Status}
    (hdone : status ≠ .proposed ∧ status ≠ .challenged) :
    Batch.Tidy { b with status, proposerBondPosted := 0, challengerBondPosted := 0 } := by
  refine ⟨fun kind _ => ?_, fun kind hheld => ?_⟩
  · cases kind with
    | proposer => rfl
    | challenger => rfl
  · cases kind with
    | proposer => simp [Batch.holds, hdone] at hheld
    | challenger => simp [Batch.holds, hdone] at hheld

theorem tidy (h : Filing d c sender call k) (hc : c.docket.Tidy) (hsender : sender ≠ 0)
    (hsink : d.config.reserveSink ≠ 0) : k.Tidy := by
  cases h with
  | still _ => exact hc
  | receive _ => exact hc.receive _
  | propose _ _ _ _ _ _ =>
      refine (hc.receive _).setBatch ⟨fun kind hheld => ?_, fun kind hheld => ?_⟩
      · cases kind with
        | proposer => cases hheld
        | challenger => rfl
      · cases kind with
        | proposer => exact hsender
        | challenger => cases hheld
  | @challenge _ epochId _ hs _ _ _ _ =>
      refine (hc.receive _).setBatch ⟨fun kind hheld => ?_, fun kind hheld => ?_⟩
      · cases kind with
        | proposer => simp [Batch.holds] at hheld
        | challenger => simp [Batch.holds] at hheld
      · cases kind with
        | proposer =>
            exact (hc.batches epochId).owned .proposer
              (by simp [Batch.holds, ProxyChain.docket, hs])
        | challenger => exact hsender
  | @resolve epochId proposerWon _ hs =>
      have howned := (hc.batches epochId).owned
      cases proposerWon with
      | true =>
          refine ((hc.credit (.inr ?_)).credit (.inr hsink)).setBatch (tidy_settled (by decide))
          exact howned .proposer (by simp [Batch.holds, ProxyChain.docket, hs])
      | false =>
          refine ((hc.credit (.inr ?_)).credit (.inr hsink)).setBatch (tidy_settled (by decide))
          exact howned .challenger (by simp [Batch.holds, ProxyChain.docket, hs])
  | @timeout epochId hs _ =>
      refine ((hc.credit (.inr ?_)).credit (.inr hsink)).setBatch (tidy_settled (by decide))
      exact (hc.batches epochId).owned .proposer (by simp [Batch.holds, ProxyChain.docket, hs])
  | reset _ _ => exact hc.setBatch Batch.tidy_empty
  | withdraw _ _ =>
      refine ⟨hc.batches, ?_⟩
      show update c.pool.bondCredit sender 0 0 = 0
      rw [update_of_ne hsender.symm]
      exact hc.unowned
  | @finalize epochId x hripe _ _ =>
      have hcleared := (hc.batches epochId).cleared
      have howned := (hc.batches epochId).owned
      refine (hc.credit ?_).setBatch ⟨fun kind _ => ?_, fun kind hheld => ?_⟩
      · cases hripe with
        | unchallenged hs _ _ =>
            exact .inr (howned .proposer (by simp [Batch.holds, ProxyChain.docket, hs]))
        | proposerWon hs =>
            exact .inl (hcleared .proposer (by simp [Batch.holds, ProxyChain.docket, hs]))
      · cases kind with
        | proposer => rfl
        | challenger =>
            refine hcleared .challenger ?_
            cases hripe with
            | unchallenged hs _ _ => simp [Batch.holds, ProxyChain.docket, hs]
            | proposerWon hs => simp [Batch.holds, ProxyChain.docket, hs]
      · cases kind with
        | proposer => simp [Batch.holds] at hheld
        | challenger => simp [Batch.holds] at hheld
  | @claim epochId operator totalBytes payout proof hs _ _ _ =>
      refine ⟨Docket.forall_setBatch (k := c.docket) (P := fun _ b => b.Tidy) hc.batches ?_,
        hc.unowned⟩
      exact ⟨(hc.batches epochId).cleared, (hc.batches epochId).owned⟩
  | sweep _ _ => exact hc

theorem ether_eq (h : Filing d c sender call k) (hc : c.docket.Tidy) :
    k.ether + c.docket.owed = c.ether + k.owed + ProxyCall.gift (.pool sender call) := by
  cases h with
  | still hcall =>
      have hgift : ProxyCall.gift (.pool sender call) = 0 := by
        cases call <;> first | rfl | cases hcall
      rw [hgift]
      exact (Nat.add_zero _).symm
  | receive _ => exact Nat.add_right_comm _ _ _
  | @propose value epochId root evidenceRef gross _ _ _ _ hs _ =>
      have hnone : (c.pool.batchOf epochId).stake = 0 :=
        (hc.batches epochId).stake_eq_zero fun kind => by
          cases kind <;> simp [Batch.holds, ProxyChain.docket, hs]
      have hstake : (c.opened sender value.val root evidenceRef gross.val).stake + 0
          = (c.pool.batchOf epochId).stake + value.val := by
        show value.val + 0 + 0 = _
        omega
      have hturn := Docket.owed_turn (c.docket.receive value.val) epochId _ hstake
      rw [Docket.owed_receive] at hturn
      show c.ether + value.val + _ = c.ether + Docket.owed (Docket.setBatch _ _ _) + 0
      omega
  | @challenge value epochId _ hs _ _ _ _ =>
      have hnone : (c.pool.batchOf epochId).challengerBondPosted = 0 :=
        (hc.batches epochId).cleared .challenger (by simp [Batch.holds, ProxyChain.docket, hs])
      have hstake : Batch.stake { c.pool.batchOf epochId with
            challenger := sender, challengerBondPosted := value.val, status := .challenged } + 0
          = (c.pool.batchOf epochId).stake + value.val := by
        show (c.pool.batchOf epochId).proposerBondPosted + value.val + 0
          = (c.pool.batchOf epochId).proposerBondPosted
            + (c.pool.batchOf epochId).challengerBondPosted + value.val
        omega
      have hturn := Docket.owed_turn (c.docket.receive value.val) epochId _ hstake
      rw [Docket.owed_receive] at hturn
      show c.ether + value.val + _ = c.ether + Docket.owed (Docket.setBatch _ _ _) + 0
      omega
  | @resolve epochId proposerWon _ hs =>
      rw [Docket.owed_settle]
      cases proposerWon with
      | true => exact (Nat.add_zero _).symm
      | false => exact (Nat.add_zero _).symm
  | @timeout epochId hs _ =>
      rw [Docket.owed_settle]
      exact (Nat.add_zero _).symm
  | @reset epochId _ hs =>
      have hnone : (c.pool.batchOf epochId).stake = 0 :=
        (hc.batches epochId).stake_eq_zero fun kind => by
          cases kind <;> simp [Batch.holds, ProxyChain.docket, hs]
      have hstake : Batch.empty.stake + 0 = (c.pool.batchOf epochId).stake + 0 :=
        congrArg (· + 0) hnone.symm
      have hturn := Docket.owed_turn c.docket epochId _ hstake
      show c.ether + _ = c.ether + Docket.owed (Docket.setBatch _ _ _) + 0
      omega
  | withdraw _ hle =>
      have hsum := sum_update id c.pool.bondCredit sender 0
      simp only [id] at hsum
      show c.ether - c.pool.bondCredit sender
          + (∑ a, c.pool.bondCredit a + ∑ e, (c.pool.batchOf e).stake)
        = c.ether + (∑ a, update c.pool.bondCredit sender 0 a
          + ∑ e, (c.pool.batchOf e).stake) + 0
      omega
  | @finalize epochId x hripe _ _ =>
      have hstake : Batch.stake { c.pool.batchOf epochId with
            status := .finalized, takeSettled := x.takeGoatWei, proposerBondPosted := 0 }
            + (c.pool.batchOf epochId).proposerBondPosted
          = (c.pool.batchOf epochId).stake + 0 := by
        show 0 + (c.pool.batchOf epochId).challengerBondPosted + _
          = (c.pool.batchOf epochId).proposerBondPosted
            + (c.pool.batchOf epochId).challengerBondPosted + 0
        omega
      have hturn := Docket.owed_turn (c.docket.credit (c.pool.batchOf epochId).proposer
        (c.pool.batchOf epochId).proposerBondPosted) epochId _ hstake
      rw [Docket.owed_credit] at hturn
      show c.ether + _ = c.ether + Docket.owed (Docket.setBatch _ _ _) + 0
      omega
  | @claim epochId operator totalBytes payout proof hs _ _ _ =>
      have hstake : Batch.stake { c.pool.batchOf epochId with
            claimedGoatWei := (c.pool.batchOf epochId).claimedGoatWei + payout.val } + 0
          = (c.pool.batchOf epochId).stake + 0 := rfl
      have hturn := Docket.owed_turn c.docket epochId _ hstake
      show c.ether + _ = c.ether + Docket.owed (Docket.setBatch c.docket epochId _) + 0
      omega
  | sweep _ _ => exact (Nat.add_zero _).symm

theorem ether_le (h : Filing d c sender call k) : k.ether ≤ c.ether + call.value := by
  cases h with
  | still _ => exact Nat.le_add_right _ _
  | receive _ => exact le_rfl
  | propose _ _ _ _ _ _ => exact le_rfl
  | challenge _ _ _ _ _ _ => exact le_rfl
  | @resolve epochId proposerWon _ _ =>
      cases proposerWon with
      | true => exact Nat.le_add_right _ _
      | false => exact Nat.le_add_right _ _
  | timeout _ _ => exact Nat.le_add_right _ _
  | reset _ _ => exact Nat.le_add_right _ _
  | withdraw _ _ => exact Nat.sub_le _ _
  | finalize _ _ _ => exact Nat.le_add_right _ _
  | claim _ _ _ _ => exact Nat.le_add_right _ _
  | sweep _ _ => exact Nat.le_add_right _ _

theorem ether_lt (h : Filing d c sender call k) (hc : c.ether < 2 ^ 256) : k.ether < 2 ^ 256 := by
  cases h with
  | still _ => exact hc
  | receive hlt => exact hlt
  | propose _ _ _ _ _ hlt => exact hlt
  | challenge _ _ _ _ _ hlt => exact hlt
  | @resolve epochId proposerWon _ _ =>
      cases proposerWon with
      | true => exact hc
      | false => exact hc
  | timeout _ _ => exact hc
  | reset _ _ => exact hc
  | withdraw _ _ => exact Nat.lt_of_le_of_lt (Nat.sub_le _ _) hc
  | finalize _ _ _ => exact hc
  | claim _ _ _ _ => exact hc
  | sweep _ _ => exact hc

theorem credit_apply (k : Docket) (who : Address) (amount : Nat) (a : Address) :
    (k.credit who amount).bondCredit a = k.bondCredit a + if who = a then amount else 0 := by
  show update k.bondCredit who (k.bondCredit who + amount) a = _
  rcases eq_or_ne who a with rfl | hne
  · rw [update_self, if_pos rfl]
  · rw [update_of_ne hne.symm, if_neg hne, Nat.add_zero]

theorem credit_eq (h : Filing d c sender call k) (hc : c.docket.Tidy) (who : Address) :
    k.bondCredit who + (if who = sender then c.ether + call.value - k.ether else 0)
      = c.pool.bondCredit who + credited (d.bondEvents c (.pool sender call)) who := by
  have hkept : ∀ {D : Docket} {value given : Nat}, D.ether = c.ether + value →
      D.bondCredit who = c.pool.bondCredit who + given →
      D.bondCredit who + (if who = sender then c.ether + value - D.ether else 0)
        = c.pool.bondCredit who + given := by
    intro D value given hether hcredit
    rw [hether, Nat.sub_self, ite_self, hcredit, Nat.add_zero]
  cases h with
  | still hcall =>
      have hempty : call.value = 0 ∧ d.bondEvents c (.pool sender call) = [] := by
        cases call <;> first | exact ⟨rfl, rfl⟩ | cases hcall
      rw [hempty.1, hempty.2]
      exact hkept rfl rfl
  | receive _ => exact hkept rfl rfl
  | propose _ _ _ _ _ _ => exact hkept rfl rfl
  | challenge _ _ _ _ _ _ => exact hkept rfl rfl
  | @resolve epochId proposerWon _ _ =>
      cases proposerWon with
      | true =>
          refine hkept rfl ?_
          show Docket.bondCredit (Docket.credit _ _ _) who = _
          rw [credit_apply, credit_apply]
          exact Nat.add_assoc _ _ _
      | false =>
          refine hkept rfl ?_
          show Docket.bondCredit (Docket.credit _ _ _) who = _
          rw [credit_apply, credit_apply]
          exact Nat.add_assoc _ _ _
  | @timeout epochId _ _ =>
      refine hkept rfl ?_
      show Docket.bondCredit (Docket.credit _ _ _) who = _
      rw [credit_apply, credit_apply]
      exact Nat.add_assoc _ _ _
  | reset _ _ => exact hkept rfl rfl
  | withdraw _ hle =>
      have hdrawn :
        c.ether + 0 - (c.ether - c.pool.bondCredit sender) = c.pool.bondCredit sender := by
        omega
      show update c.pool.bondCredit sender 0 who
          + (if who = sender then c.ether + 0 - (c.ether - c.pool.bondCredit sender) else 0)
        = c.pool.bondCredit who + 0
      rw [hdrawn]
      rcases eq_or_ne who sender with rfl | hne
      · rw [update_self, if_pos rfl, Nat.zero_add, Nat.add_zero]
      · rw [update_of_ne hne, if_neg hne]
  | @finalize epochId x hripe _ _ =>
      refine hkept rfl ?_
      show Docket.bondCredit (Docket.credit _ _ _) who = _
      rw [credit_apply]
      cases hripe with
      | unchallenged hs _ _ =>
          simp [credited, ProxySite.bondEvents, ProxyChain.docket, hs]
      | proposerWon hs =>
          have hpaid : (c.pool.batchOf epochId).proposerBondPosted = 0 :=
            (hc.batches epochId).cleared .proposer (by simp [Batch.holds, ProxyChain.docket, hs])
          simp [credited, ProxySite.bondEvents, ProxyChain.docket, hs, hpaid]
  | claim _ _ _ _ => exact hkept rfl rfl
  | sweep _ _ => exact hkept rfl rfl

theorem ledger_turn {D : Docket} {epochId : Uint256} {b : Batch} {events : List BondEvent}
    (hturn : ∀ kind, (D.batchOf epochId).held kind ++ posted events epochId kind
      = left events epochId kind ++ b.held kind)
    (hother : ∀ e kind, epochId ≠ e → posted events e kind = [] ∧ left events e kind = [])
    (e : Uint256) (kind : BondKind) :
    (D.batchOf e).held kind ++ posted events e kind
      = left events e kind ++ ((D.setBatch epochId b).batchOf e).held kind := by
  show _ = _ ++ (update D.batchOf epochId b e).held kind
  rcases eq_or_ne epochId e with rfl | hne
  · rw [update_self]
    exact hturn kind
  · obtain ⟨hposted, hleft⟩ := hother e kind hne
    rw [update_of_ne hne.symm, hposted, hleft, List.append_nil, List.nil_append]

theorem ledger (h : Filing d c sender call k) (epochId : Uint256) (kind : BondKind) :
    (c.pool.batchOf epochId).held kind
        ++ posted (d.bondEvents c (.pool sender call)) epochId kind
      = left (d.bondEvents c (.pool sender call)) epochId kind
        ++ (k.batchOf epochId).held kind := by
  cases h with
  | still hcall =>
      have hempty : d.bondEvents c (.pool sender call) = [] := by
        cases call <;> first | rfl | cases hcall
      rw [hempty]
      exact List.append_nil _
  | receive _ => exact List.append_nil _
  | propose _ _ _ _ hs _ =>
      refine ledger_turn (D := c.docket.receive _) (fun kind => ?_)
        (fun e kind hne => ?_) epochId kind
      · cases kind <;> simp [posted, left, ProxySite.bondEvents, Batch.held,
          Batch.holds, Docket.receive, ProxyChain.docket, ProxyChain.opened, hs]
      · simp [posted, left, ProxySite.bondEvents, hne]
  | challenge _ hs _ _ _ _ =>
      refine ledger_turn (D := c.docket.receive _) (fun kind => ?_)
        (fun e kind hne => ?_) epochId kind
      · cases kind <;> simp [posted, left, ProxySite.bondEvents, Batch.held,
          Batch.holds, Docket.receive, ProxyChain.docket, hs]
      · simp [posted, left, ProxySite.bondEvents, hne]
  | @resolve _ proposerWon _ hs =>
      cases proposerWon with
      | true =>
          refine ledger_turn (D := (c.docket.credit _ _).credit _ _) (fun kind => ?_)
            (fun e kind hne => ?_) epochId kind
          · cases kind <;> simp [posted, left, ProxySite.bondEvents, Batch.held, Batch.holds,
              Docket.credit, ProxyChain.docket, hs]
          · simp [posted, left, ProxySite.bondEvents, hne]
      | false =>
          refine ledger_turn (D := (c.docket.credit _ _).credit _ _) (fun kind => ?_)
            (fun e kind hne => ?_) epochId kind
          · cases kind <;> simp [posted, left, ProxySite.bondEvents, Batch.held, Batch.holds,
              Docket.credit, ProxyChain.docket, hs]
          · simp [posted, left, ProxySite.bondEvents, hne]
  | timeout hs _ =>
      refine ledger_turn (D := (c.docket.credit _ _).credit _ _) (fun kind => ?_)
        (fun e kind hne => ?_) epochId kind
      · cases kind <;> simp [posted, left, ProxySite.bondEvents, Batch.held, Batch.holds,
          Docket.credit, ProxyChain.docket, hs]
      · simp [posted, left, ProxySite.bondEvents, hne]
  | reset _ hs =>
      refine ledger_turn (D := c.docket) (fun kind => ?_) (fun e kind hne => ?_) epochId kind
      · cases kind <;> simp [posted, left, ProxySite.bondEvents, Batch.held, Batch.holds,
          ProxyChain.docket, Batch.empty, hs]
      · simp [posted, left, ProxySite.bondEvents]
  | withdraw _ _ => exact List.append_nil _
  | finalize hripe _ _ =>
      refine ledger_turn (D := c.docket.credit _ _) (fun kind => ?_)
        (fun e kind hne => ?_) epochId kind
      · cases hripe with
        | unchallenged hs _ _ =>
            cases kind <;> simp [posted, left, ProxySite.bondEvents, Batch.held, Batch.holds,
              Docket.credit, ProxyChain.docket, hs]
        | proposerWon hs =>
            cases kind <;> simp [posted, left, ProxySite.bondEvents, Batch.held, Batch.holds,
              Docket.credit, ProxyChain.docket, hs]
      · cases hripe with
        | unchallenged hs _ _ => simp [posted, left, ProxySite.bondEvents, hs, hne]
        | proposerWon hs => simp [posted, left, ProxySite.bondEvents, hs]
  | claim hs _ _ _ =>
      refine ledger_turn (D := c.docket) (fun kind => ?_) (fun e kind hne => ?_) epochId kind
      · cases kind <;> simp [posted, left, ProxySite.bondEvents, Batch.held, Batch.holds,
          ProxyChain.docket, hs]
      · simp [posted, left, ProxySite.bondEvents]
  | sweep _ _ => exact List.append_nil _

end Filing

/-! ## Every run -/

namespace BondLedger

/-- The books of the bonds. -/
structure Sound (start : ProxyChain) (l : BondLedger) : Prop where
  tidy : l.chain.docket.Tidy
  ether_lt : l.chain.ether < 2 ^ 256
  ether_eq : l.chain.ether = start.ether + l.donated + l.chain.docket.owed
  received_eq : l.chain.ether + ∑ who, l.withdrawn who = start.ether + l.received
  ledger : ∀ epochId kind, posted l.log epochId kind
    = left l.log epochId kind ++ (l.chain.pool.batchOf epochId).held kind
  credited_eq : ∀ who, credited l.log who = l.chain.pool.bondCredit who + l.withdrawn who

variable {d : ProxySite} {start c : ProxyChain} {l : BondLedger} {k : ProxyCall}

theorem next_of_ok (hok : d.act l.chain k = .ok c) :
    l.next d k =
      { chain := c
        log := l.log ++ d.bondEvents l.chain k
        received := l.received + k.value
        donated := l.donated + k.gift
        withdrawn := l.withdraw c k } := by
  rw [next, hok]

theorem next_of_error {e : Revert} (herror : d.act l.chain k = .error e) : l.next d k = l := by
  rw [next, herror]

theorem next_chain : (l.next d k).chain = attempt d.act l.chain k := by
  unfold next attempt
  cases d.act l.chain k with
  | error e => rfl
  | ok c => rfl

theorem Sound.still (h : l.Sound start) (hdocket : c.docket = l.chain.docket) :
    Sound start ⟨c, l.log ++ [], l.received + 0, l.donated + 0, l.withdrawn⟩ := by
  have hether : c.ether = l.chain.ether := congrArg Docket.ether hdocket
  have hbatches : c.pool.batchOf = l.chain.pool.batchOf := congrArg Docket.batchOf hdocket
  have hcredit : c.pool.bondCredit = l.chain.pool.bondCredit := congrArg Docket.bondCredit hdocket
  rw [List.append_nil, Nat.add_zero, Nat.add_zero]
  refine ⟨?_, ?_, ?_, ?_, ?_, ?_⟩
  · rw [hdocket]
    exact h.tidy
  · exact hether ▸ h.ether_lt
  · rw [hdocket]
    exact hether.trans h.ether_eq
  · dsimp only
    rw [hether]
    exact h.received_eq
  · dsimp only
    rw [hbatches]
    exact h.ledger
  · dsimp only
    rw [hcredit]
    exact h.credited_eq

theorem Sound.pool {sender : Address} {call : PoolCall} (h : l.Sound start) (hsender : sender ≠ 0)
    (hsink : d.config.reserveSink ≠ 0) (hfiling : Filing d l.chain sender call c.docket) :
    Sound start
      { chain := c
        log := l.log ++ d.bondEvents l.chain (.pool sender call)
        received := l.received + call.value
        donated := l.donated + ProxyCall.gift (.pool sender call)
        withdrawn := l.withdraw c (.pool sender call) } := by
  have hle := hfiling.ether_le
  refine ⟨hfiling.tidy h.tidy hsender hsink, hfiling.ether_lt h.ether_lt, ?_, ?_, ?_, ?_⟩
  · have hturn := hfiling.ether_eq h.tidy
    have hbefore := h.ether_eq
    show c.docket.ether = start.ether + (l.donated + ProxyCall.gift (.pool sender call))
      + c.docket.owed
    generalize l.chain.docket.owed = owed at hturn hbefore
    generalize c.docket.owed = owed' at hturn ⊢
    omega
  · have hsum := sum_update id l.withdrawn sender
      (l.withdrawn sender + (l.chain.ether + call.value - c.ether))
    have hbefore := h.received_eq
    simp only [id] at hsum
    have hle : c.ether ≤ l.chain.ether + call.value := hle
    show c.ether + ∑ who, update l.withdrawn sender _ who = start.ether + (l.received + call.value)
    omega
  · intro epochId kind
    have hturn := hfiling.ledger epochId kind
    unfold posted left
    rw [List.filterMap_append, List.filterMap_append]
    change posted _ epochId kind ++ posted _ epochId kind
      = (left _ epochId kind ++ left _ epochId kind) ++ _
    rw [h.ledger, List.append_assoc, hturn, List.append_assoc]
    rfl
  · intro who
    have hturn := hfiling.credit_eq h.tidy who
    have hbefore := h.credited_eq who
    have hlog : credited (l.log ++ d.bondEvents l.chain (.pool sender call)) who
        = credited l.log who + credited (d.bondEvents l.chain (.pool sender call)) who := by
      unfold credited
      rw [List.map_append, List.sum_append]
    show credited _ who = c.docket.bondCredit who + update l.withdrawn sender _ who
    rw [hlog, hbefore]
    rcases eq_or_ne who sender with rfl | hne
    · rw [if_pos rfl] at hturn
      rw [update_self]
      change _ + (l.chain.ether + call.value - c.ether) = _ at hturn
      omega
    · rw [if_neg hne] at hturn
      rw [update_of_ne hne]
      omega

theorem Sound.next (hsink : d.config.reserveSink ≠ 0) (h : l.Sound start) :
    (l.next d k).Sound start := by
  cases hok : d.act l.chain k with
  | error e =>
      rw [next_of_error hok]
      exact h
  | ok c =>
      rw [next_of_ok hok]
      cases k with
      | advance now =>
          obtain ⟨-, -, hok⟩ := bind_ok.mp hok
          cases hok
          exact h.still rfl
      | enrol enrolled =>
          cases hok
          exact h.still rfl
      | goat sender call =>
          obtain ⟨-, -, t, -, hok⟩ := bind_ok₂.mp hok
          cases hok
          exact h.still rfl
      | pool sender call =>
          obtain ⟨_, hsender, hok⟩ := bind_ok.mp hok
          exact h.pool (require_ok.mp hsender).1 hsink (ProxySite.poolCall_filing hok)

theorem sound_fresh (h : start.Fresh d) : Sound start ⟨start, [], 0, 0, fun _ => 0⟩ := by
  obtain ⟨-, -, hnew⟩ := bind_ok.mp h.pool_new
  have hbatches : ∀ epochId, start.pool.batchOf epochId = .empty := by
    intro epochId
    rw [← Except.ok.inj hnew]
  have hcredits : ∀ who, start.pool.bondCredit who = 0 := by
    intro who
    rw [← Except.ok.inj hnew]
  refine ⟨⟨fun epochId => ?_, hcredits 0⟩, h.ether_lt, ?_, ?_,
    fun epochId kind => ?_, fun who => ?_⟩
  · show (start.pool.batchOf epochId).Tidy
    rw [hbatches]
    exact Batch.tidy_empty
  · have hcredit : ∑ who, start.pool.bondCredit who = 0 :=
      Finset.sum_eq_zero fun who _ => hcredits who
    have hstake : ∑ epochId, (start.pool.batchOf epochId).stake = 0 := by
      refine Finset.sum_eq_zero fun epochId _ => ?_
      rw [hbatches]
      rfl
    show start.ether = start.ether + 0
      + (∑ who, start.pool.bondCredit who + ∑ epochId, (start.pool.batchOf epochId).stake)
    rw [hcredit, hstake, Nat.add_zero]
  · exact congrArg (start.ether + ·) Finset.sum_const_zero
  · show [] = [] ++ (start.pool.batchOf epochId).held kind
    rw [hbatches]
    cases kind with
    | proposer => rfl
    | challenger => rfl
  · exact (hcredits who).symm

theorem run_snoc (ks : List ProxyCall) (k : ProxyCall) :
    run d start (ks ++ [k]) = (run d start ks).next d k := Runs.foldl_snoc ks k _

theorem run_chain (ks : List ProxyCall) : (run d start ks).chain = d.run start ks := by
  induction ks using List.reverseRecOn with
  | nil => rfl
  | append_singleton ks k ih =>
      rw [run_snoc, next_chain, ih]
      exact (Runs.foldl_snoc ks k start).symm

theorem sound_run (h : start.Fresh d) (ks : List ProxyCall) : (run d start ks).Sound start := by
  obtain ⟨-, -, -, hsink, -, -⟩ := h.roles
  exact Runs.invariant (I := fun l : BondLedger => l.Sound start) (fun l k hl => hl.next hsink) ks
    _ (sound_fresh h)

theorem Sound.withdraws {who : Address} (h : l.Sound start) (hself : who ≠ d.self)
    (hcredit : l.chain.pool.bondCredit who ≠ 0) :
    ∃ c, d.act l.chain (.pool who (.withdrawBond true)) = .ok c
      ∧ c.ether + l.chain.pool.bondCredit who = l.chain.ether ∧ c.pool.bondCredit who = 0 := by
  have hzero : who ≠ 0 := by
    rintro rfl
    exact hcredit h.tidy.unowned
  have hle : l.chain.pool.bondCredit who ≤ l.chain.ether := by
    have hsum : l.chain.pool.bondCredit who ≤ l.chain.docket.owed :=
      (le_sum l.chain.pool.bondCredit who).trans (Nat.le_add_right _ _)
    rw [h.ether_eq]
    exact hsum.trans (Nat.le_add_left _ _)
  have hwithdraw : l.chain.pool.withdrawBond who true
      = .ok ({ l.chain.pool with bondCredit := update l.chain.pool.bondCredit who 0 },
        l.chain.pool.bondCredit who) := by
    rw [withdrawBond, require_of hcredit, require_of rfl]
    rfl
  refine ⟨_,
    ProxySite.act_pool ⟨hzero, hself⟩ (bind_ok₂.mpr ⟨_, hwithdraw, _, checkedSub_ok.mpr ⟨hle, rfl⟩,
    rfl⟩), Nat.sub_add_cancel hle, ?_⟩
  exact update_self ..

end BondLedger

/-- **The bonds are conserved along every run.**  The ether received less the ether withdrawn is
what is credited, what the batches hold and what was sent besides; every bond that was posted has
been credited once, with its owner and amount, or is held; a batch that can be reset holds none; and
what is credited to an account it can withdraw. -/
theorem proxy_bond_conservation (d : ProxySite) {start : ProxyChain} (hfresh : start.Fresh d)
    (ks : List ProxyCall) {l : BondLedger} (hl : BondLedger.run d start ks = l) :
    l.chain = d.run start ks
      ∧ l.received = ∑ who, l.withdrawn who
          + (∑ who, l.chain.pool.bondCredit who
            + ∑ epochId, ((l.chain.pool.batchOf epochId).proposerBondPosted
              + (l.chain.pool.batchOf epochId).challengerBondPosted))
          + l.donated
      ∧ l.chain.ether + ∑ who, l.withdrawn who = start.ether + l.received
      ∧ (∀ epochId kind, posted l.log epochId kind
          = left l.log epochId kind ++ (l.chain.pool.batchOf epochId).held kind)
      ∧ (∀ who, credited l.log who = l.chain.pool.bondCredit who + l.withdrawn who)
      ∧ (∀ epochId, (l.chain.pool.batchOf epochId).status = .challengerWon →
          (l.chain.pool.batchOf epochId).proposerBondPosted = 0
            ∧ (l.chain.pool.batchOf epochId).challengerBondPosted = 0)
      ∧ ∀ who, who ≠ d.self → l.chain.pool.bondCredit who ≠ 0 →
          ∃ c, d.act l.chain (.pool who (.withdrawBond true)) = .ok c
            ∧ c.ether + l.chain.pool.bondCredit who = l.chain.ether
            ∧ c.pool.bondCredit who = 0 := by
  have hs : l.Sound start := hl ▸ BondLedger.sound_run hfresh ks
  refine ⟨?_, ?_, hs.received_eq, hs.ledger, hs.credited_eq, fun epochId hlost => ?_, fun who => ?_⟩
  · rw [← hl]
    exact BondLedger.run_chain ks
  · have hether := hs.ether_eq
    have hreceived := hs.received_eq
    change l.received = ∑ who, l.withdrawn who + l.chain.docket.owed + l.donated
    generalize l.chain.docket.owed = owed at hether ⊢
    omega
  · have hcleared := (hs.tidy.batches epochId).cleared
    have hlost : (l.chain.docket.batchOf epochId).status = .challengerWon := hlost
    exact ⟨hcleared .proposer (by simp [Batch.holds, hlost]),
      hcleared .challenger (by simp [Batch.holds, hlost])⟩
  · intro hself hcredit
    exact hs.withdraws hself hcredit

/-! ### A challenge that is lost, and ether for no bond -/

/-- Bonds of five and three. -/
def sampleBondedPool : List ProxyCall :=
  [.pool 1 (.setBonds 5 3),
   .pool 8 (.proposeBatch 5 8000000000000 1 0 100),
   .pool 1 (.setBonds 7 7),
   .pool 13 (.challengeBatch 7 8000000000000),
   .pool 11 (.resolveChallenge 8000000000000 true),
   .pool 8 (.withdrawBond true)]

theorem proxy_bond_conservation_sample :
    (BondLedger.run sampleSite sampleProxy sampleBondedPool).withdrawn 8 = 5
      ∧ (BondLedger.run sampleSite sampleProxy sampleBondedPool).chain.pool.bondCredit 6 = 7
      ∧ ∃ c, sampleSite.act (BondLedger.run sampleSite sampleProxy sampleBondedPool).chain
            (.pool 6 (.withdrawBond true)) = .ok c
        ∧ c.ether + (BondLedger.run sampleSite sampleProxy sampleBondedPool).chain.pool.bondCredit 6
          = (BondLedger.run sampleSite sampleProxy sampleBondedPool).chain.ether
        ∧ c.pool.bondCredit 6 = 0 := by
  have hcredit :
    (BondLedger.run sampleSite sampleProxy sampleBondedPool).chain.pool.bondCredit 6 = 7 := rfl
  refine ⟨rfl, hcredit, ?_⟩
  exact (proxy_bond_conservation sampleSite sampleProxy_fresh sampleBondedPool rfl).2.2.2.2.2.2 6
    (by decide) (by rw [hcredit]; decide)

/-- Ether that is sent for no bond is credited to nobody. -/
theorem gift_not_credited : sampleProxy.Fresh sampleSite
    ∧ (BondLedger.run sampleSite sampleProxy [.pool 9 (.receive 1)]).received
      ≠ ∑ who, (BondLedger.run sampleSite sampleProxy [.pool 9 (.receive 1)]).withdrawn who
        + (∑ who,
          (BondLedger.run sampleSite sampleProxy [.pool 9 (.receive 1)]).chain.pool.bondCredit who
          + ∑ epochId,
              (((BondLedger.run sampleSite sampleProxy [.pool 9 (.receive 1)]).chain.pool.batchOf
                epochId).proposerBondPosted
              + ((BondLedger.run sampleSite sampleProxy [.pool 9 (.receive 1)]).chain.pool.batchOf
                epochId).challengerBondPosted)) := by
  refine ⟨sampleProxy_fresh, ?_⟩
  have hwithdrawn : ∀ who, (BondLedger.run sampleSite sampleProxy
      [.pool 9 (.receive 1)]).withdrawn who = 0 := by
    intro who
    show update (fun _ => 0) 9 0 who = 0
    rw [update_eq_self]
  have hcredit : ∀ who, (BondLedger.run sampleSite sampleProxy
      [.pool 9 (.receive 1)]).chain.pool.bondCredit who = 0 := fun _ => rfl
  have hstake : ∀ epochId, ((BondLedger.run sampleSite sampleProxy
        [.pool 9 (.receive 1)]).chain.pool.batchOf epochId).proposerBondPosted
      + ((BondLedger.run sampleSite sampleProxy
        [.pool 9 (.receive 1)]).chain.pool.batchOf epochId).challengerBondPosted = 0 := fun _ => rfl
  rw [Finset.sum_eq_zero fun who _ => hwithdrawn who, Finset.sum_eq_zero fun who _ => hcredit who,
    Finset.sum_eq_zero fun epochId _ => hstake epochId]
  exact Nat.one_ne_zero

end GoatCoin
