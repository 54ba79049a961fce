/-
# `GoatCoin.Contracts.ComputeLane` — the contracts of the compute lane, run together

The coin, the escrow, the settlement and the free-market minter of one deployment,
with the clock and what the two registries say:

    ChainCall    advance        the next block
                 enrol          the registries change their answers
                 goat, escrow, settlement, minter      an account calls a contract

Accounts are all the addresses without code of the deployment: a contract of it acts
only through its own code, which makes the calls between contracts, and those are
inside the functions.  Everyone else may call anything.  The ether of the settlement
is what came in with its calls less what it sent.

`Effect` says what a successful call does as far as the settlement is concerned.  A
run is a list of calls, of which those that revert change nothing (`run`).
-/
import GoatCoin.Contracts.EpochSettlement
import GoatCoin.Contracts.WorkMinter

namespace GoatCoin

open Evm EpochSettlement

/-- The immutables of the four contracts. -/
structure Deployment where
  goatSafe : Address
  escrow : EscrowConfig
  settlement : EpochSettlement.Config
  minter : WorkMinter.Config

structure Chain where
  now : Word 64
  registry : Registry
  bound : Address → Bool
  goat : Goat
  escrow : Escrow
  settlement : Settlement
  minter : WorkMinter
  received : Nat
  paid : Nat

inductive SettlementCall where
  | setParam (p : Settlement.Param)
  | proposeBatch (value : Uint256) (epoch : Uint256) (merkleRoot evidenceRef : Bytes32)
  | challengeBatch (value : Uint256) (epoch : Uint256)
  | settleDispute (epoch : Uint256) (proposerWon : Bool)
  | confirmEpoch (epoch : Uint256)
  | finalizeBatch (epoch : Uint256)
  | claimPayout (epoch : Uint256) (worker : Address) (score : Uint256) (proof : List Bytes32)

/-- What a call does to which batch. -/
def SettlementCall.move (sender : Address) : SettlementCall → Option (Uint256 × Settlement.Move)
  | .proposeBatch _ epoch merkleRoot evidenceRef =>
      some (epoch, .propose sender merkleRoot evidenceRef)
  | .challengeBatch _ epoch => some (epoch, .challenge sender)
  | .settleDispute epoch proposerWon => some (epoch, .settle proposerWon)
  | .confirmEpoch epoch => some (epoch, .confirm)
  | .finalizeBatch epoch => some (epoch, .finalize)
  | .setParam _ => none
  | .claimPayout _ _ _ _ => none

/-- The ether sent with a call. -/
def SettlementCall.value : SettlementCall → Nat
  | .proposeBatch value _ _ _ => value.val
  | .challengeBatch value _ => value.val
  | _ => 0

/-- The calls of the minter. -/
inductive MinterCall where
  | createJob (jobId catalogHash : Bytes32) (unitReward : Uint256) (holdbackBps : Word 16)
      (externalAcceptor : Address) (founderAcceptOnly : Bool)
  | mintBatch (jobId manifestRoot : Bytes32) (workers : List Address) (units : List Uint256)
  | closeJob (jobId : Bytes32)

inductive ChainCall where
  | advance (now : Word 64)
  | enrol (registry : Registry) (bound : Address → Bool)
  | goat (sender : Address) (call : GoatCall)
  | escrow (sender : Address) (call : EscrowCall)
  | settlement (sender : Address) (call : SettlementCall)
  | minter (sender : Address) (call : MinterCall)

namespace Deployment

variable (d : Deployment)

/-- Someone who may send a transaction, or a contract of someone else's. -/
def IsAccount (a : Address) : Prop :=
  a ≠ 0 ∧ a ≠ d.escrow.self ∧ a ≠ d.settlement.self ∧ a ≠ d.minter.self

instance (a : Address) : Decidable (d.IsAccount a) := inferInstanceAs (Decidable (_ ∧ _))

/-- A call of the minter. -/
def minterCall (m : WorkMinter) (e : Escrow) (g : Goat) (now : Nat) (sender : Address) :
    MinterCall → Except Revert (WorkMinter × Escrow × Goat)
  | .createJob jobId catalogHash unitReward holdbackBps externalAcceptor founderAcceptOnly => do
      let m ← m.createJob d.minter sender jobId catalogHash unitReward holdbackBps externalAcceptor
        founderAcceptOnly
      .ok (m, e, g)
  | .mintBatch jobId manifestRoot workers units =>
      m.mintBatch d.minter d.escrow.self e g now sender jobId manifestRoot workers units
  | .closeJob jobId => do
      let m ← m.closeJob d.minter e now sender jobId
      .ok (m, e, g)

/-- A call of the batch state machine, with the ether that comes in and goes out. -/
def turn (c : Chain) (value : Nat) (r : Settlement × Handover) :
    Except Revert (Chain × Handover) := do
  let received := c.received + value
  -- `_send` fails when the contract does not hold the amount
  require (c.paid + r.2.amount ≤ received) .transferFailed
  .ok ({ c with settlement := r.1, received, paid := c.paid + r.2.amount }, r.2)

/-- A call of the settlement. -/
def settlementCall (c : Chain) (sender : Address) : SettlementCall →
    Except Revert (Chain × Handover)
  | .setParam p => do
      let settlement ← c.settlement.setParam d.settlement sender p
      .ok ({ c with settlement }, .nothing)
  | .proposeBatch value epoch merkleRoot evidenceRef => do
      let r ← c.settlement.proposeBatch c.now.val sender value.val epoch merkleRoot evidenceRef
      turn c value.val r
  | .challengeBatch value epoch => do
      let r ← c.settlement.challengeBatch c.now.val sender value.val epoch
      turn c value.val r
  | .settleDispute epoch proposerWon => do
      let r ← c.settlement.settleDispute sender epoch proposerWon
      turn c 0 r
  | .confirmEpoch epoch => do
      let r ← c.settlement.confirmEpoch c.now.val sender epoch
      turn c 0 r
  | .finalizeBatch epoch => do
      let r ← c.settlement.finalizeBatch c.now.val epoch
      turn c 0 r
  | .claimPayout epoch worker score proof => do
      let (settlement, escrow, goat) ← c.settlement.claimPayout d.settlement d.escrow.self c.escrow
        c.goat c.registry c.bound c.now.val sender epoch worker score proof
      .ok ({ c with settlement, escrow, goat }, .nothing)

/-- One call, up to the moment at which it hands control over. -/
def step (c : Chain) : ChainCall → Except Revert (Chain × Handover)
  | .advance now => do
      require (c.now ≤ now) .badArg
      .ok ({ c with now }, .nothing)
  | .enrol registry bound => .ok ({ c with registry, bound }, .nothing)
  | .goat sender call => do
      require (d.IsAccount sender) .notAnAccount
      let goat ← c.goat.call d.goatSafe c.registry sender call
      .ok ({ c with goat }, .nothing)
  | .escrow sender call => do
      require (d.IsAccount sender) .notAnAccount
      let (escrow, goat) ← c.escrow.call d.escrow c.goat c.registry c.now.val sender call
      .ok ({ c with escrow, goat }, .nothing)
  | .settlement sender call => do
      require (d.IsAccount sender) .notAnAccount
      d.settlementCall c sender call
  | .minter sender call => do
      require (d.IsAccount sender) .notAnAccount
      let (minter, escrow, goat) ← d.minterCall c.minter c.escrow c.goat c.now.val sender call
      .ok ({ c with minter, escrow, goat }, .nothing)

/-- A call that nobody interrupts. -/
def act (c : Chain) (k : ChainCall) : Except Revert Chain := do
  let r ← d.step c k
  .ok r.1

/-- The state after a list of calls. -/
def run (c : Chain) (ks : List ChainCall) : Chain := ks.foldl (attempt d.act) c

theorem run_of_ok {c c' : Chain} {k : ChainCall} (h : d.act c k = .ok c') (ks : List ChainCall) :
    d.run c (k :: ks) = d.run c' ks := by
  rw [run, List.foldl_cons, attempt_of_ok h]
  rfl

theorem run_append (c : Chain) (ks more : List ChainCall) :
    d.run c (ks ++ more) = d.run (d.run c ks) more := List.foldl_append

theorem act_advance {c : Chain} {now : Word 64} (h : c.now ≤ now) :
    d.act c (.advance now) = .ok { c with now } := by
  simp only [act, step, require_of h]
  rfl

theorem act_ok {c c' : Chain} {k : ChainCall} (h : d.act c k = .ok c') :
    ∃ handover, d.step c k = .ok (c', handover) := by
  obtain ⟨⟨c₁, handover⟩, hstep, h⟩ := bind_ok.mp h
  cases h
  exact ⟨handover, hstep⟩

end Deployment

/-- The state after the deployment: nothing has happened yet. -/
structure Chain.Fresh (c : Chain) : Prop where
  settlement_new : ∃ rate capPerDay challengeWindow proposerBond challengerBond resolver watcher,
    Settlement.new rate capPerDay challengeWindow proposerBond challengerBond resolver watcher
      = .ok c.settlement
  escrow_new : c.escrow = .new
  goat_new : c.goat = .new
  minter_new : c.minter = .new
  received_zero : c.received = 0
  paid_zero : c.paid = 0

/-! ## What a successful call did to the settlement -/

namespace Deployment

variable {d : Deployment} {c c' : Chain} {handover : Handover}

/-- The effect of a call on the settlement and its ether. -/
inductive Effect (d : Deployment) (c : Chain) : ChainCall → Chain → Handover → Prop
  | elsewhere {k : ChainCall} {c' : Chain} :
      c'.settlement = c.settlement → c'.received = c.received → c'.paid = c.paid →
      (∀ sender call, k ≠ .settlement sender call) → c.now ≤ c'.now →
      Effect d c k c' .nothing
  | param {sender : Address} {p : Settlement.Param} {s : Settlement} :
      c.settlement.setParam d.settlement sender p = .ok s →
      Effect d c (.settlement sender (.setParam p)) { c with settlement := s } .nothing
  | turn {sender : Address} {call : SettlementCall} {epoch : Uint256} {m : Settlement.Move}
      {b : Batch} {handover : Handover} :
      call.move sender = some (epoch, m) →
      c.settlement.Turn c.now.val (c.settlement.batches epoch) m b call.value handover →
      c.paid + handover.amount ≤ c.received + call.value →
      Effect d c (.settlement sender call)
        { c with
          settlement := c.settlement.setBatch epoch b
          received := c.received + call.value
          paid := c.paid + handover.amount } handover
  | claim {sender : Address} {epoch : Uint256} {worker : Address} {score : Uint256}
      {proof : List Bytes32} {s : Settlement} {e : Escrow} {g : Goat} :
      d.IsAccount sender →
      (c.settlement.batches epoch).status = .finalized →
      MerkleProof.verify proof (c.settlement.batches epoch).merkleRoot
        (Settlement.leafOf worker score) = true →
      c.settlement.Outcome d.settlement d.escrow.self c.escrow c.goat c.registry c.now.val sender
        epoch worker score.val s e g →
      Effect d c (.settlement sender (.claimPayout epoch worker score proof))
        { c with settlement := s, escrow := e, goat := g } .nothing

variable {sender : Address} {epoch : Uint256} {k : ChainCall}

theorem turn_effect {call : SettlementCall}
    {m : Settlement.Move} {s : Settlement} {h : Handover}
    (hmove : call.move sender = some (epoch, m))
    (hs : ∃ b, s = c.settlement.setBatch epoch b
      ∧ c.settlement.Turn c.now.val (c.settlement.batches epoch) m b call.value h)
    (hok : turn c call.value (s, h) = .ok (c', handover)) :
    d.Effect c (.settlement sender call) c' handover := by
  obtain ⟨_, hfunds, hok⟩ := bind_ok.mp hok
  obtain ⟨b, rfl, hturn⟩ := hs
  cases hok
  exact .turn hmove hturn (require_ok.mp hfunds)

theorem settlementCall_effect {call : SettlementCall} (hsender : d.IsAccount sender)
    (h : d.settlementCall c sender call = .ok (c', handover)) :
    d.Effect c (.settlement sender call) c' handover := by
  cases call with
  | setParam p =>
      obtain ⟨s, hparam, h⟩ := bind_ok.mp h
      cases h
      exact .param hparam
  | proposeBatch value epoch merkleRoot evidenceRef =>
      obtain ⟨r, hr, h⟩ := bind_ok.mp h
      exact turn_effect rfl (Settlement.proposeBatch_ok hr) h
  | challengeBatch value epoch =>
      obtain ⟨r, hr, h⟩ := bind_ok.mp h
      exact turn_effect rfl (Settlement.challengeBatch_ok hr) h
  | settleDispute epoch proposerWon =>
      obtain ⟨r, hr, h⟩ := bind_ok.mp h
      exact turn_effect rfl (Settlement.settleDispute_ok hr c.now.val) h
  | confirmEpoch epoch =>
      obtain ⟨r, hr, h⟩ := bind_ok.mp h
      exact turn_effect rfl (Settlement.confirmEpoch_ok hr) h
  | finalizeBatch epoch =>
      obtain ⟨r, hr, h⟩ := bind_ok.mp h
      exact turn_effect rfl (Settlement.finalizeBatch_ok hr) h
  | claimPayout epoch worker score proof =>
      obtain ⟨⟨s, e, g⟩, hclaim, h⟩ := bind_ok.mp h
      obtain ⟨hfinal, hproof, hout⟩ := Settlement.claimPayout_ok hclaim
      cases h
      exact .claim hsender hfinal hproof hout

/-- **What a call that succeeds does to the settlement.** -/
theorem step_effect (h : d.step c k = .ok (c', handover)) :
    d.Effect c k c' handover := by
  cases k with
  | advance now =>
      obtain ⟨_, hle, h⟩ := bind_ok.mp h
      cases h
      exact .elsewhere rfl rfl rfl nofun (require_ok.mp hle)
  | enrol registry bound =>
      cases h
      exact .elsewhere rfl rfl rfl nofun le_rfl
  | goat sender call =>
      obtain ⟨-, -, g, -, h⟩ := bind_ok₂.mp h
      cases h
      exact .elsewhere rfl rfl rfl nofun le_rfl
  | escrow sender call =>
      obtain ⟨-, -, h⟩ := bind_ok.mp h
      obtain ⟨⟨e, g⟩, -, h⟩ := bind_ok.mp h
      cases h
      exact .elsewhere rfl rfl rfl nofun le_rfl
  | settlement sender call =>
      obtain ⟨_, hsender, h⟩ := bind_ok.mp h
      exact settlementCall_effect (require_ok.mp hsender) h
  | minter sender call =>
      obtain ⟨-, -, h⟩ := bind_ok.mp h
      obtain ⟨⟨m, e, g⟩, -, h⟩ := bind_ok.mp h
      cases h
      exact .elsewhere rfl rfl rfl nofun le_rfl

theorem Effect.worker_cases (h : d.Effect c k c' handover) (worker : Address) :
    c.settlement.SameWorker worker c'.settlement
      ∨ ∃ sender epoch score proof,
        k = .settlement sender (.claimPayout epoch worker score proof) := by
  cases h with
  | elsewhere hs _ _ _ _ =>
      rw [hs]
      exact .inl (.refl _ worker)
  | param hs => exact .inl ((Settlement.setParam_ok hs).2 worker)
  | turn _ _ _ => exact .inl ⟨rfl, fun _ => rfl, rfl, rfl⟩
  | @claim sender epoch other score proof _ _ _ _ _ _ hout =>
      rcases eq_or_ne worker other with rfl | hne
      · exact .inr ⟨sender, epoch, score, proof, rfl⟩
      · exact .inl (hout.sameWorker hne)

theorem Effect.claim_cases {worker : Address} {score : Uint256}
    {proof : List Bytes32}
    (h : d.Effect c (.settlement sender (.claimPayout epoch worker score proof)) c' handover) :
    d.IsAccount sender ∧ (c.settlement.batches epoch).status = .finalized
      ∧ MerkleProof.verify proof (c.settlement.batches epoch).merkleRoot
          (Settlement.leafOf worker score) = true
      ∧ ∃ s e g, c' = { c with settlement := s, escrow := e, goat := g }
        ∧ c.settlement.Outcome d.settlement d.escrow.self c.escrow c.goat c.registry
          c.now.val sender
            epoch worker score.val s e g := by
  cases h with
  | elsewhere _ _ _ hk _ => exact absurd rfl (hk _ _)
  | turn hmove _ _ => cases hmove
  | claim hsender hfinal hproof hout => exact ⟨hsender, hfinal, hproof, _, _, _, rfl, hout⟩

theorem Effect.finalized_batch (h : d.Effect c k c' handover)
    (hfinal : (c.settlement.batches epoch).status = .finalized) :
    c'.settlement.batches epoch = c.settlement.batches epoch := by
  cases h with
  | elsewhere hs _ _ _ _ => rw [hs]
  | param hs => exact congrFun (Settlement.setParam_ok hs).1 epoch
  | turn _ hturn _ =>
      refine Function.update_of_ne (fun heq => ?_) _ _
      exact hturn.not_finalized (heq ▸ hfinal)
  | claim _ _ _ hout => exact congrFun hout.batches_eq epoch

theorem Effect.now_le (h : d.Effect c k c' handover) : c.now ≤ c'.now := by
  cases h with
  | elsewhere _ _ _ _ hnow => exact hnow
  | param _ => exact le_rfl
  | turn _ _ _ => exact le_rfl
  | claim _ _ _ _ => exact le_rfl

end Deployment

end GoatCoin
