/-
# `GoatCoin.Contracts.Bonds` — where the bonds of the settlement are

The settlement holds the ether of two kinds of bonds.  A proposal posts one, which
leaves when the batch is final or the dispute is settled against it; a challenge
posts the other, which leaves when the dispute is settled:

                    posted        leaves
    proposer        propose       finalize → proposer      settle false → challenger
    challenger      challenge     settle true → proposer   settle false → challenger

Every payment hands control to the payee, who may call anything before it returns.
Nothing guards against that but the order of the code: the batch is written before
the ether is sent.  So at every moment of every execution, also inside a payment,

    received - paid   =   what the batches hold
    posted            =   left, followed by what is held         for each epoch and kind

The bond log is what the calls in effect posted and released, in their order.
-/
import GoatCoin.Contracts.ClaimAudit
import GoatCoin.Lib.Reentry

namespace GoatCoin

open Evm EpochSettlement

/-- Whose bond it is. -/
inductive BondKind where
  | proposer
  | challenger
deriving DecidableEq

/-- What happens to a bond. -/
inductive BondEvent where
  | posted (epoch : Uint256) (kind : BondKind) (owner : Address) (amount : Nat)
  | left (epoch : Uint256) (kind : BondKind) (owner payee : Address) (amount : Nat)

namespace EpochSettlement.Batch

@[simp] def bond (b : Batch) : BondKind → Nat
  | .proposer => b.proposerBond
  | .challenger => b.challengerBond

@[simp] def owner (b : Batch) : BondKind → Address
  | .proposer => b.proposer
  | .challenger => b.challenger

/-- The ether that the batch stands for. -/
def stake (b : Batch) : Nat := b.proposerBond + b.challengerBond

/-- A bond of the kind has been posted and has not left. -/
def holds (b : Batch) : BondKind → Bool
  | .proposer => b.status = .proposed ∨ b.status = .challenged ∨ b.status = .proposerWon
  | .challenger => b.status = .challenged

def held (b : Batch) (kind : BondKind) : List (Address × Nat) :=
  if b.holds kind then [(b.owner kind, b.bond kind)] else []

end EpochSettlement.Batch

namespace Settlement

/-- The bonds that a move posts and releases. -/
@[simp] def Move.events (epoch : Uint256) (b : Batch) (value : Nat) : Move → List BondEvent
  | .propose proposer _ _ => [.posted epoch .proposer proposer value]
  | .challenge challenger => [.posted epoch .challenger challenger value]
  | .settle true => [.left epoch .challenger b.challenger b.proposer b.challengerBond]
  | .settle false =>
      [.left epoch .proposer b.proposer b.challenger b.proposerBond,
       .left epoch .challenger b.challenger b.challenger b.challengerBond]
  | .confirm => []
  | .finalize => [.left epoch .proposer b.proposer b.proposer b.proposerBond]

/-- Whom a move may pay: the proposer, or the winner of the dispute. -/
def Move.Pays (b : Batch) : Move → Address → Prop
  | .settle true, payee => payee = b.proposer
  | .settle false, payee => payee = b.challenger
  | .finalize, payee => payee = b.proposer
  | _, _ => False

end Settlement

namespace BondEvent

/-- Owner and amount of a bond of the epoch and kind that was posted. -/
@[simp] def postedOf (epoch : Uint256) (kind : BondKind) : BondEvent → Option (Address × Nat)
  | .posted e k owner amount => if e = epoch ∧ k = kind then some (owner, amount) else none
  | .left _ _ _ _ _ => none

@[simp] def leftOf (epoch : Uint256) (kind : BondKind) : BondEvent → Option (Address × Nat)
  | .posted _ _ _ _ => none
  | .left e k owner _ amount => if e = epoch ∧ k = kind then some (owner, amount) else none

/-- The ether that leaves with an event. -/
@[simp] def amountLeft : BondEvent → Nat
  | .posted _ _ _ _ => 0
  | .left _ _ _ _ amount => amount

end BondEvent

/-- The bonds of the epoch and kind in the order in which they were posted. -/
def posted (log : List BondEvent) (epoch : Uint256) (kind : BondKind) : List (Address × Nat) :=
  log.filterMap (BondEvent.postedOf epoch kind)

/-- The bonds of the epoch and kind in the order in which they left. -/
def left (log : List BondEvent) (epoch : Uint256) (kind : BondKind) : List (Address × Nat) :=
  log.filterMap (BondEvent.leftOf epoch kind)

namespace Deployment

/-- The bonds that a call posts and releases, if it succeeds. -/
def bondEvents (d : Deployment) (c : Chain) (k : ChainCall) : List BondEvent :=
  match d.step c k, k with
  | .ok _, .settlement sender call =>
      match call.move sender with
      | some (epoch, m) => m.events epoch (c.settlement.batches epoch) call.value
      | none => []
  | _, _ => []

/-- The bonds that a list of calls posts and releases, one after the other. -/
def bondLog (d : Deployment) : Chain → List ChainCall → List BondEvent
  | _, [] => []
  | c, k :: ks => d.bondEvents c k ++ bondLog d (attempt d.act c k) ks

theorem bondLog_snoc (d : Deployment) (ks : List ChainCall) (k : ChainCall) :
    ∀ c, d.bondLog c (ks ++ [k]) = d.bondLog c ks ++ d.bondEvents (d.run c ks) k := by
  induction ks with
  | nil => intro c; exact List.append_nil _
  | cons k' ks ih =>
      intro c
      show d.bondEvents c k' ++ d.bondLog (attempt d.act c k') (ks ++ [k]) = _
      rw [ih, ← List.append_assoc]
      rfl

end Deployment

/-! ## One turn -/

section
variable {s : Settlement} {now value : Nat} {b b' : Batch} {m : Settlement.Move} {h : Handover}

/-- A bond that is not held is zero. -/
def EpochSettlement.Batch.Cleared (b : Batch) : Prop :=
  ∀ kind, b.holds kind = false → b.bond kind = 0

theorem cleared_empty : Batch.empty.Cleared := by
  intro kind _
  cases kind with
  | proposer => rfl
  | challenger => rfl

theorem Turn.cleared (hb : b.Cleared) (hturn : s.Turn now b m b' value h) : b'.Cleared := by
  intro kind hheld
  cases hturn with
  | propose _ =>
      cases kind with
      | proposer => cases hheld
      | challenger => rfl
  | challenge _ _ =>
      cases kind with
      | proposer => cases hheld
      | challenger => cases hheld
  | proposerWon _ =>
      cases kind with
      | proposer => cases hheld
      | challenger => rfl
  | challengerWon _ =>
      cases kind with
      | proposer => rfl
      | challenger => rfl
  | confirm _ _ => exact hb kind hheld
  | finalize hs _ =>
      cases kind with
      | proposer => rfl
      | challenger =>
          refine hb .challenger ?_
          rcases hs with hs | hs
          · rw [Batch.holds, hs]
            rfl
          · rw [Batch.holds, hs]
            rfl

/-- The ether of a turn: what comes in and was there, goes out or is there. -/
theorem Turn.stake_eq (hb : b.Cleared) (hturn : s.Turn now b m b' value h) :
    b'.stake + h.amount = b.stake + value := by
  cases hturn with
  | propose hs =>
      have hnone : b.proposerBond = 0 ∧ b.challengerBond = 0 := by
        refine ⟨hb .proposer ?_, hb .challenger ?_⟩
        all_goals
          rcases hs with hs | hs
          all_goals rw [Batch.holds, hs]; rfl
      show s.proposerBond + 0 + 0 = b.proposerBond + b.challengerBond + s.proposerBond
      omega
  | challenge hs _ =>
      have hnone : b.challengerBond = 0 := by
        refine hb .challenger ?_
        rw [Batch.holds, hs]
        rfl
      show b.proposerBond + s.challengerBond + 0 = b.proposerBond + b.challengerBond
        + s.challengerBond
      omega
  | proposerWon _ =>
      rw [send_amount]
      show b.proposerBond + 0 + b.challengerBond = b.proposerBond + b.challengerBond + 0
      omega
  | challengerWon _ =>
      rw [send_amount]
      show 0 + 0 + (b.proposerBond + b.challengerBond) = b.proposerBond + b.challengerBond + 0
      omega
  | confirm _ _ => rfl
  | finalize _ _ =>
      rw [send_amount]
      show 0 + b.challengerBond + b.proposerBond = b.proposerBond + b.challengerBond + 0
      omega

/-- The ledger of a turn: what was held, with what is posted, leaves or is held. -/
theorem Turn.ledger (hturn : s.Turn now b m b' value h) (epoch : Uint256) (kind : BondKind) :
    b.held kind ++ posted (m.events epoch b value) epoch kind
      = left (m.events epoch b value) epoch kind ++ b'.held kind := by
  cases hturn with
  | propose hs =>
      rcases hs with hs | hs
      · cases kind <;> simp [posted, left, Batch.held, Batch.holds, hs]
      · cases kind <;> simp [posted, left, Batch.held, Batch.holds, hs]
  | challenge hs _ => cases kind <;> simp [posted, left, Batch.held, Batch.holds, hs]
  | proposerWon hs => cases kind <;> simp [posted, left, Batch.held, Batch.holds, hs]
  | challengerWon hs => cases kind <;> simp [posted, left, Batch.held, Batch.holds, hs]
  | confirm _ _ => exact List.append_nil _
  | finalize hs _ =>
      rcases hs with hs | hs
      · cases kind <;> simp [posted, left, Batch.held, Batch.holds, hs]
      · cases kind <;> simp [posted, left, Batch.held, Batch.holds, hs]

theorem events_other (m : Settlement.Move) {epoch other : Uint256} (hne : other ≠ epoch) (b : Batch)
    (value : Nat) (kind : BondKind) :
    posted (m.events epoch b value) other kind = []
    ∧ left (m.events epoch b value) other kind = [] := by
  have hne' : epoch ≠ other := hne.symm
  cases m with
  | settle won => cases won <;> simp [posted, left, hne']
  | propose _ _ _ => simp [posted, left, hne']
  | challenge _ => simp [posted, left, hne']
  | confirm => exact ⟨rfl, rfl⟩
  | finalize => simp [posted, left, hne']

theorem Turn.payment (hturn : s.Turn now b m b' value h) (epoch : Uint256) :
    h.amount = ((m.events epoch b value).map BondEvent.amountLeft).sum
      ∧ ∀ payee amount, h = .pay payee amount → m.Pays b payee
        ∧ ∀ e k owner p a, .left e k owner p a ∈ m.events epoch b value → p = payee := by
  have hsend : ∀ {dst : Address} {n : Nat} {payee : Address} {amount : Nat},
      send dst n = .pay payee amount → payee = dst := by
    intro dst n payee amount hpay
    unfold send at hpay
    split at hpay
    · cases hpay
    · cases hpay
      rfl
  cases hturn with
  | propose _ => exact ⟨rfl, nofun⟩
  | challenge _ _ => exact ⟨rfl, nofun⟩
  | confirm _ _ => exact ⟨rfl, nofun⟩
  | proposerWon _ =>
      refine ⟨by simp [send_amount], fun payee amount hpay => ?_⟩
      obtain rfl := hsend hpay
      refine ⟨rfl, fun e k owner p a hmem => ?_⟩
      simp at hmem
      exact hmem.2.2.2.1
  | challengerWon _ =>
      refine ⟨by simp [send_amount], fun payee amount hpay => ?_⟩
      obtain rfl := hsend hpay
      refine ⟨rfl, fun e k owner p a hmem => ?_⟩
      simp at hmem
      rcases hmem with hmem | hmem
      · exact hmem.2.2.2.1
      · exact hmem.2.2.2.1
  | finalize _ _ =>
      refine ⟨by simp [send_amount], fun payee amount hpay => ?_⟩
      obtain rfl := hsend hpay
      refine ⟨rfl, fun e k owner p a hmem => ?_⟩
      simp at hmem
      exact hmem.2.2.2.1

end

theorem Turn.deadline {s : Settlement} {now value : Nat} {b b' : Batch} {m : Settlement.Move}
    {h : Handover} (hturn : s.Turn now b m b' value h) (hfinal : b'.status = .finalized) :
    b'.challengeDeadline < now := by
  cases hturn with
  | propose _ => cases hfinal
  | challenge _ _ => cases hfinal
  | proposerWon _ => cases hfinal
  | challengerWon _ => cases hfinal
  | confirm _ hlt => exact hlt
  | finalize _ hlt => exact hlt

theorem Turn.of_challengerWon {s : Settlement} {now value : Nat} {b b' : Batch}
    {m : Settlement.Move}
    {h : Handover} (hturn : s.Turn now b m b' value h) (hlost : b.status = .challengerWon) :
    ∃ proposer root evidence, m = .propose proposer root evidence := by
  cases hturn with
  | @propose proposer root evidence _ => exact ⟨proposer, root, evidence, rfl⟩
  | challenge hs _ => rw [hlost] at hs; cases hs
  | proposerWon hs => rw [hlost] at hs; cases hs
  | challengerWon hs => rw [hlost] at hs; cases hs
  | confirm hs _ => rw [hlost] at hs; exact hs.elim nofun nofun
  | finalize hs _ => rw [hlost] at hs; exact hs.elim nofun nofun

theorem Turn.settle_false {s : Settlement} {now value : Nat} {b b' : Batch} {h : Handover}
    (hturn : s.Turn now b (.settle false) b' value h) : b'.status = .challengerWon := by
  cases hturn with
  | challengerWon _ => rfl

theorem call_of_propose {call : SettlementCall} {sender proposer : Address} {epoch : Uint256}
    {root evidence : Bytes32}
    (h : call.move sender = some (epoch, .propose proposer root evidence)) :
    ∃ value, call = .proposeBatch value epoch root evidence := by
  cases call with
  | proposeBatch value e r ev =>
      cases h
      exact ⟨value, rfl⟩
  | setParam _ => cases h
  | challengeBatch _ _ => cases h
  | settleDispute _ _ => cases h
  | confirmEpoch _ => cases h
  | finalizeBatch _ => cases h
  | claimPayout _ _ _ _ => cases h

/-! ## Disputes that a proposal lost -/

/-- The present proposal of the epoch lost its dispute: no proposal came after. -/
def Lost (ks : List ChainCall) (epoch : Uint256) : Prop :=
  ∃ before sender after, ks = before ++ .settlement sender (.settleDispute epoch false) :: after
    ∧ ∀ k ∈ after, ∀ sender value root evidence,
      k ≠ .settlement sender (.proposeBatch value epoch root evidence)

theorem Lost.of_snoc {ks : List ChainCall} {k : ChainCall} {epoch : Uint256}
    (h : Lost (ks ++ [k]) epoch) :
    (∃ sender, k = .settlement sender (.settleDispute epoch false))
      ∨ (Lost ks epoch ∧ ∀ sender value root evidence,
          k ≠ .settlement sender (.proposeBatch value epoch root evidence)) := by
  obtain ⟨before, sender, after, heq, hafter⟩ := h
  rcases List.eq_nil_or_concat after with rfl | ⟨after, k', rfl⟩
  · obtain ⟨-, hk⟩ := List.append_inj' heq rfl
    exact .inl ⟨sender, List.singleton_inj.mp hk⟩
  · rw [List.concat_eq_append, ← List.cons_append, ← List.append_assoc] at heq
    obtain ⟨hks, hk⟩ := List.append_inj' heq rfl
    obtain rfl := List.singleton_inj.mp hk
    rw [List.concat_eq_append] at hafter
    refine .inr ⟨⟨before, sender, after, hks, fun k hk => ?_⟩, ?_⟩
    · exact hafter k (List.mem_append_left _ hk)
    · exact hafter _ (List.mem_append_right _ (List.mem_singleton_self _))

/-! ## Every call keeps the books -/

/-- The books of the bonds, after the calls in effect. -/
structure BondBooks (d : Deployment) (start : Chain) (ks : List ChainCall) (c : Chain) : Prop where
  run_eq : c = d.run start ks
  effective : ∀ before k, before ++ [k] <+: ks → ∃ r, d.step (d.run start before) k = .ok r
  cleared : ∀ epoch, (c.settlement.batches epoch).Cleared
  ether : c.received = c.paid + ∑ epoch, (c.settlement.batches epoch).stake
  ledger : ∀ epoch kind, posted (d.bondLog start ks) epoch kind
    = left (d.bondLog start ks) epoch kind ++ (c.settlement.batches epoch).held kind
  deadline : ∀ epoch, (c.settlement.batches epoch).status = .finalized →
    (c.settlement.batches epoch).challengeDeadline < c.now.val
  lost : ∀ epoch, Lost ks epoch → (c.settlement.batches epoch).status = .challengerWon

section
variable {d : Deployment} {start : Chain}

theorem bondBooks_fresh (h : start.Fresh) : BondBooks d start [] start := by
  obtain ⟨_, _, _, _, _, _, _, hnew⟩ := h.settlement_new
  obtain ⟨-, -, -, -, hnew⟩ := bind_ok₂.mp hnew
  have hbatches : ∀ epoch, start.settlement.batches epoch = .empty := by
    intro epoch
    rw [← Except.ok.inj hnew]
  refine ⟨rfl, ?_, ?_, ?_, ?_, ?_, ?_⟩
  · intro before k hpre
    exact absurd (List.prefix_nil.mp hpre)
      (List.append_ne_nil_of_right_ne_nil _ (List.cons_ne_nil _ _))
  · intro epoch
    rw [hbatches]
    exact cleared_empty
  · rw [h.received_zero, h.paid_zero, Nat.zero_add]
    refine (Finset.sum_eq_zero fun epoch _ => ?_).symm
    rw [hbatches]
    rfl
  · intro epoch kind
    rw [hbatches]
    cases kind with
    | proposer => rfl
    | challenger => rfl
  · intro epoch hfinal
    rw [hbatches] at hfinal
    cases hfinal
  · rintro epoch ⟨before, sender, after, heq, -⟩
    exact absurd heq.symm (List.append_ne_nil_of_right_ne_nil _ (List.cons_ne_nil _ _))

variable {c c' : Chain} {k : ChainCall} {ks : List ChainCall}

theorem effect_turn_cases {h : Handover} (heffect : d.Effect c k c' h) :
    (c'.settlement.batches = c.settlement.batches ∧ c'.received = c.received ∧ c'.paid = c.paid
        ∧ h = .nothing ∧ ∀ sender call, k = .settlement sender call → call.move sender = none)
      ∨ ∃ sender call epoch m b, k = .settlement sender call ∧ call.move sender = some (epoch, m)
        ∧ c.settlement.Turn c.now.val (c.settlement.batches epoch) m b call.value h
        ∧ c'.settlement.batches = Function.update c.settlement.batches epoch b
        ∧ c'.received = c.received + call.value ∧ c'.paid = c.paid + h.amount
        ∧ c.paid + h.amount ≤ c.received + call.value ∧ c'.now = c.now := by
  cases heffect with
  | elsewhere hs hr hp hk _ =>
      exact .inl ⟨by rw [hs], hr, hp, rfl, fun sender call heq => absurd heq (hk sender call)⟩
  | param hs =>
      refine .inl ⟨(Settlement.setParam_ok hs).1, rfl, rfl, rfl, ?_⟩
      intro sender call heq
      cases heq
      rfl
  | claim _ _ _ hout =>
      refine .inl ⟨hout.batches_eq, rfl, rfl, rfl, ?_⟩
      intro sender call heq
      cases heq
      rfl
  | turn hmove hturn hfunds =>
      exact .inr ⟨_, _, _, _, _, rfl, hmove, hturn, rfl, rfl, rfl, hfunds, rfl⟩

theorem bondEvents_of_ok {sender : Address} {call : SettlementCall} {r : Chain × Handover}
    (h : d.step c (.settlement sender call) = .ok r) :
    d.bondEvents c (.settlement sender call)
      = match call.move sender with
        | some (epoch, m) => m.events epoch (c.settlement.batches epoch) call.value
        | none => [] := by
  unfold Deployment.bondEvents
  rw [h]

theorem BondBooks.run_snoc {h : Handover}
    (hb : BondBooks d start ks c) (hok : d.step c k = .ok (c', h)) :
    c' = d.run start (ks ++ [k]) := by
  have hact : d.act c k = .ok c' := bind_ok.mpr ⟨_, hok, rfl⟩
  rw [d.run_append, ← hb.run_eq]
  exact (attempt_of_ok hact).symm

theorem BondBooks.effective_snoc {h : Handover}
    (hb : BondBooks d start ks c) (hok : d.step c k = .ok (c', h)) :
    ∀ before k', before ++ [k'] <+: ks ++ [k] → ∃ r, d.step (d.run start before) k' = .ok r := by
  intro before k' hpre
  rcases List.prefix_concat_iff.mp hpre with heq | hpre
  · obtain ⟨rfl, hk⟩ := List.append_inj' heq rfl
    obtain rfl := List.singleton_inj.mp hk
    exact ⟨_, hb.run_eq ▸ hok⟩
  · exact hb.effective before k' hpre

theorem BondBooks.step_turn {sender : Address}
    {call : SettlementCall} {epoch : Uint256} {m : Settlement.Move} {b : Batch} {h : Handover}
    (hb : BondBooks d start ks c) (hok : d.step c (.settlement sender call) = .ok (c', h))
    (hmove : call.move sender = some (epoch, m))
    (hturn : c.settlement.Turn c.now.val (c.settlement.batches epoch) m b call.value h)
    (hbatches : c'.settlement.batches = Function.update c.settlement.batches epoch b)
    (hreceived : c'.received = c.received + call.value) (hpaid : c'.paid = c.paid + h.amount)
    (hnow : c'.now = c.now) :
    BondBooks d start (ks ++ [.settlement sender call]) c' := by
  have hself : c'.settlement.batches epoch = b := by
    rw [hbatches, Function.update_self]
  have hother : ∀ e, e ≠ epoch → c'.settlement.batches e = c.settlement.batches e := by
    intro e hne
    rw [hbatches, Function.update_of_ne hne]
  refine ⟨hb.run_snoc hok, hb.effective_snoc hok, ?_, ?_, ?_, ?_, ?_⟩
  · intro e
    rcases eq_or_ne e epoch with rfl | hne
    · rw [hself]
      exact Turn.cleared (hb.cleared e) hturn
    · rw [hother e hne]
      exact hb.cleared e
  · have hsum := sum_update Batch.stake c.settlement.batches epoch b
    have hstake := Turn.stake_eq (hb.cleared epoch) hturn
    have hether := hb.ether
    rw [hbatches, hreceived, hpaid]
    omega
  · intro e kind
    rw [d.bondLog_snoc, ← hb.run_eq, bondEvents_of_ok hok, hmove]
    unfold posted left
    rw [List.filterMap_append, List.filterMap_append]
    change posted _ e kind ++ posted _ e kind = (left _ e kind ++ left _ e kind) ++ _
    rcases eq_or_ne e epoch with rfl | hne
    · rw [hself, hb.ledger, List.append_assoc, List.append_assoc, Turn.ledger hturn e kind]
    · obtain ⟨hposted, hleft⟩ := events_other m hne (c.settlement.batches epoch) call.value kind
      rw [hother e hne, hb.ledger, hposted, hleft, List.append_nil, List.append_nil]
  · intro e
    rw [hnow]
    rcases eq_or_ne e epoch with rfl | hne
    · rw [hself]
      exact Turn.deadline hturn
    · rw [hother e hne]
      exact hb.deadline e
  · intro e hlost
    rcases hlost.of_snoc with ⟨sender', heq⟩ | ⟨hlost, hnotpropose⟩
    · cases heq
      obtain ⟨rfl, rfl⟩ := Prod.mk.inj (Option.some.inj hmove)
      rw [hself]
      exact Turn.settle_false hturn
    · rcases eq_or_ne e epoch with rfl | hne
      · obtain ⟨proposer, root, evidence, rfl⟩ := Turn.of_challengerWon hturn (hb.lost e hlost)
        obtain ⟨value, rfl⟩ := call_of_propose hmove
        exact absurd rfl (hnotpropose sender value root evidence)
      · rw [hother e hne]
        exact hb.lost e hlost

theorem BondBooks.step {h : Handover}
    (hb : BondBooks d start ks c) (hok : d.step c k = .ok (c', h)) :
    BondBooks d start (ks ++ [k]) c' := by
  have heffect := Deployment.step_effect hok
  rcases effect_turn_cases heffect with
    ⟨hbatches, hreceived, hpaid, -, hmove⟩
      | ⟨sender, call, epoch, m, b, rfl, hmove, hturn, hbatches, hreceived, hpaid, -, hnow⟩
  · have hnone : d.bondEvents c k = [] := by
      unfold Deployment.bondEvents
      split
      · rw [hmove _ _ rfl]
      · rfl
    refine ⟨hb.run_snoc hok, hb.effective_snoc hok, ?_, ?_, ?_, ?_, ?_⟩
    · rw [hbatches]
      exact hb.cleared
    · rw [hbatches, hreceived, hpaid]
      exact hb.ether
    · rw [d.bondLog_snoc, ← hb.run_eq, hnone, List.append_nil, hbatches]
      exact hb.ledger
    · rw [hbatches]
      intro epoch hfinal
      exact (hb.deadline epoch hfinal).trans_le heffect.now_le
    · rw [hbatches]
      intro epoch hlost
      rcases hlost.of_snoc with ⟨sender, rfl⟩ | ⟨hlost, -⟩
      · cases hmove sender _ rfl
      · exact hb.lost epoch hlost
  · exact hb.step_turn hok hmove hturn hbatches hreceived hpaid hnow

theorem step_payment {h : Handover} (hok : d.step c k = .ok (c', h)) :
    h.amount = ((d.bondEvents c k).map BondEvent.amountLeft).sum
      ∧ ∀ payee amount, h = .pay payee amount → ∃ sender call epoch m, k = .settlement sender call
        ∧ call.move sender = some (epoch, m) ∧ m.Pays (c.settlement.batches epoch) payee
        ∧ ∀ e kind owner p a, .left e kind owner p a ∈ d.bondEvents c k → p = payee := by
  rcases effect_turn_cases (Deployment.step_effect hok) with
    ⟨-, -, -, rfl, hmove⟩ | ⟨sender, call, epoch, m, b, rfl, hmove, hturn, -⟩
  · have hnone : d.bondEvents c k = [] := by
      unfold Deployment.bondEvents
      split
      · rw [hmove _ _ rfl]
      · rfl
    rw [hnone]
    exact ⟨rfl, nofun⟩
  · rw [bondEvents_of_ok hok, hmove]
    obtain ⟨hamount, hpayee⟩ := Turn.payment hturn epoch
    refine ⟨hamount, fun payee amount hpay => ?_⟩
    obtain ⟨hpays, hleft⟩ := hpayee payee amount hpay
    exact ⟨sender, call, epoch, m, rfl, hmove, hpays, hleft⟩

end

/-- The call hands control over. -/
def EpochSettlement.Handover.yields : Handover → Bool
  | .nothing => false
  | _ => true

/-- **The bonds are conserved at every moment of every execution**, with payees and the
resolver calling whatever they like before they return.  The ether received less the ether
paid is what the batches hold; every bond that was posted has left once, with its owner and
amount, or is held; a payment is the bonds that leave with it, to the proposer or the winner
of the dispute; a call whose payment fails changes nothing; and a batch is final only after
its deadline and if its proposal has not lost a dispute. -/
theorem bond_conservation (d : Deployment) {start : Chain} (hstart : start.Fresh)
    (events : List (Reentry.Event ChainCall)) {x : Reentry.Exec Chain ChainCall}
    (hx : Reentry.exec d.step Handover.yields start events = x) :
    x.state = d.run start x.history
      ∧ x.state.received = x.state.paid + ∑ epoch, ((x.state.settlement.batches epoch).proposerBond
          + (x.state.settlement.batches epoch).challengerBond)
      ∧ (∀ epoch kind, posted (d.bondLog start x.history) epoch kind
          = left (d.bondLog start x.history) epoch kind
            ++ (x.state.settlement.batches epoch).held kind)
      ∧ (∀ before k, before ++ [k] <+: x.history →
        ∃ c' h, d.step (d.run start before) k = .ok (c', h)
          ∧ h.amount = ((d.bondEvents (d.run start before) k).map BondEvent.amountLeft).sum
          ∧ ∀ payee amount, h = .pay payee amount → ∃ sender call epoch m,
            k = .settlement sender call ∧ call.move sender = some (epoch, m)
            ∧ m.Pays ((d.run start before).settlement.batches epoch) payee
            ∧ ∀ e kind owner p a,
              .left e kind owner p a ∈ d.bondEvents (d.run start before) k → p = payee)
      ∧ (∀ k s h inner, d.step x.state k = .ok (s, h) → h.yields = true →
          (∀ before, before <+: inner → x.frames.length < (before.foldl
            (Reentry.next d.step Handover.yields)
            (Reentry.next d.step Handover.yields x (.call k))).frames.length) →
          (inner.foldl (Reentry.next d.step Handover.yields)
            (Reentry.next d.step Handover.yields x (.call k))).frames.length = x.frames.length + 1 →
          Reentry.next d.step Handover.yields (inner.foldl (Reentry.next d.step Handover.yields)
            (Reentry.next d.step Handover.yields x (.call k))) (.leave false) = x)
      ∧ ∀ epoch, (x.state.settlement.batches epoch).status = .finalized →
          (x.state.settlement.batches epoch).challengeDeadline < x.state.now.val
            ∧ ¬ Lost x.history epoch := by
  have hbooks : BondBooks d start x.history x.state := by
    rw [← hx]
    exact (Reentry.invariant (bondBooks_fresh hstart)
      (fun ks c k c' h hb hok => BondBooks.step hb hok) events).1
  refine ⟨hbooks.run_eq, hbooks.ether, hbooks.ledger, ?_, ?_, ?_⟩
  · intro before k hpre
    obtain ⟨⟨c', h⟩, hok⟩ := hbooks.effective before k hpre
    exact ⟨c', h, hok, step_payment hok⟩
  · intro k s h inner hok hyields hopen hclosed
    exact Reentry.failed_call hok hyields hopen hclosed
  · intro epoch hfinal
    refine ⟨hbooks.deadline epoch hfinal, fun hlost => ?_⟩
    exact absurd ((hbooks.lost epoch hlost).symm.trans hfinal) nofun

/-! ### The same root again -/

/-- Bonds of five and three. -/
def sampleBonded : Chain :=
  { sampleChain with
    settlement := { sampleSettlement with proposerBond := 5, challengerBond := 3 } }

theorem sampleBonded_fresh : sampleBonded.Fresh :=
  ⟨⟨2, 86400, 0, 5, 3, 6, 7, rfl⟩, rfl, rfl, rfl, rfl, rfl⟩

/-- A root loses its dispute, is proposed again, and nobody challenges it. -/
def sampleReproposal : List (Reentry.Event ChainCall) :=
  [.call (.settlement 8 (.proposeBatch 5 1 1 0)),
   .call (.settlement 9 (.challengeBatch 3 1)),
   .leave true,
   .call (.settlement 6 (.settleDispute 1 false)),
   .leave true,
   .call (.settlement 8 (.proposeBatch 5 1 1 0)),
   .call (.advance 1),
   .call (.settlement 7 (.confirmEpoch 1)),
   .call (.settlement 8 (.finalizeBatch 1)),
   .leave true]

def sampleReproposed : Reentry.Exec Chain ChainCall :=
  Reentry.exec sampleDeployment.step Handover.yields sampleBonded sampleReproposal

theorem bond_conservation_sample :
    sampleReproposed.state.received = sampleReproposed.state.paid
      + ∑ epoch, ((sampleReproposed.state.settlement.batches epoch).proposerBond
        + (sampleReproposed.state.settlement.batches epoch).challengerBond) :=
  have hexec : Reentry.exec sampleDeployment.step Handover.yields sampleBonded sampleReproposal
      = sampleReproposed := by rw [sampleReproposed]
  (bond_conservation sampleDeployment sampleBonded_fresh sampleReproposal hexec).2.1

/-- **A root that lost a dispute can be final, if it is proposed again.** -/
theorem lost_root_final : sampleBonded.Fresh
    ∧ (sampleReproposed.state.settlement.batches 1).status = .finalized
    ∧ ∃ before sender,
      before ++ [.settlement sender (.settleDispute 1 false)] <+: sampleReproposed.history
        ∧ ((sampleDeployment.run sampleBonded before).settlement.batches 1).merkleRoot
          = (sampleReproposed.state.settlement.batches 1).merkleRoot := by
  refine ⟨sampleBonded_fresh, rfl, [.settlement 8 (.proposeBatch 5 1 1 0),
    .settlement 9 (.challengeBatch 3 1)], 6, ?_, rfl⟩
  exact ⟨[.settlement 8 (.proposeBatch 5 1 1 0), .advance 1, .settlement 7 (.confirmEpoch 1),
    .settlement 8 (.finalizeBatch 1)], rfl⟩

end GoatCoin
