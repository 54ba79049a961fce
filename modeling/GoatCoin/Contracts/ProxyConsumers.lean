/-
# `GoatCoin.Contracts.ProxyConsumers` — the collateral of `ProxyConsumerRegistry.sol`

A consumer that the Safe has enrolled keeps collateral in the registry:

              topUp               requestUnstake                 withdraw
    account ────────▶ stakeOf ──────────────────▶ pendingUnstakeOf ────────▶ account
                         │                              │             (from unstakeReadyAt on)
                         └────────── slash ─────────────┴──▶ reserveSink

A request moves the whole stake, and only if nothing is pending, so all that is pending
of a consumer was moved by one request.  `ConsumerCall` opens the registry to everyone:

    advance     the next block
    allow       the allowlist changes its answers
    token       an account calls the stake token
    registry    an account calls the registry
-/
import GoatCoin.Contracts.Erc20
import GoatCoin.Lib.Runs

namespace GoatCoin

open Function (update update_self update_of_ne update_eq_self)
open Evm

/-- The immutables. -/
structure ProxyConsumerRegistry.Config where
  safe : Address
  stakeToken : Address
  registry : Address
  reserveSink : Address
  minStake : Uint256
  unstakeDelay : Word 64

structure ProxyConsumerRegistry where
  resolver : Address
  consumerOf : Bytes32 → Address
  refOf : Address → Bytes32
  isConsumer : Address → Bool
  stakeOf : Address → Nat
  pendingUnstakeOf : Address → Nat
  unstakeReadyAt : Address → Nat

namespace ProxyConsumerRegistry

/-- The constructor. -/
def new (c : Config) : Except Revert ProxyConsumerRegistry := do
  require (¬ (c.safe = 0 ∨ c.stakeToken = 0 ∨ c.registry = 0 ∨ c.reserveSink = 0)) .zeroAddress
  require (¬ (c.minStake = 0 ∨ c.unstakeDelay = 0)) .zeroAmount
  .ok
    { resolver := c.safe
      consumerOf := fun _ => 0
      refOf := fun _ => 0
      isConsumer := fun _ => false
      stakeOf := fun _ => 0
      pendingUnstakeOf := fun _ => 0
      unstakeReadyAt := fun _ => 0 }

/-- The Safe enrolls a consumer. -/
def enrolConsumer (r : ProxyConsumerRegistry) (cfg : Config) (enrolled : Address → Bool)
    (sender consumer : Address) (consumerRef : Bytes32) : Except Revert ProxyConsumerRegistry := do
  require (sender = cfg.safe) .notSafe
  require (consumer ≠ 0) .zeroAddress
  require (consumerRef ≠ 0) .zeroRef
  require (r.isConsumer consumer = false) .alreadyEnrolled
  require (r.consumerOf consumerRef = 0) .refTaken
  require (enrolled consumer) .notOnAllowlist
  .ok { r with
    isConsumer := update r.isConsumer consumer true
    consumerOf := update r.consumerOf consumerRef consumer
    refOf := update r.refOf consumer consumerRef }

def setResolver (r : ProxyConsumerRegistry) (cfg : Config) (sender newResolver : Address) :
    Except Revert ProxyConsumerRegistry := do
  require (sender = cfg.safe) .notSafe
  require (newResolver ≠ 0) .zeroAddress
  .ok { r with resolver := newResolver }

/-- A consumer adds to its stake. -/
def topUp (r : ProxyConsumerRegistry) (self : Address) (token : Erc20) (sender : Address)
    (amount : Nat) : Except Revert (ProxyConsumerRegistry × Erc20) := do
  require (r.isConsumer sender) .notAConsumer
  require (amount ≠ 0) .zeroAmount
  let newStake ← checked 256 (r.stakeOf sender + amount) .panic
  let token ← token.transferFrom self sender self amount
  .ok ({ r with stakeOf := update r.stakeOf sender newStake }, token)

def requestUnstake (r : ProxyConsumerRegistry) (cfg : Config) (now : Nat) (sender : Address) :
    Except Revert ProxyConsumerRegistry := do
  require (r.isConsumer sender) .notAConsumer
  require (r.pendingUnstakeOf sender = 0) .unstakeAlreadyRequested
  let amount := r.stakeOf sender
  require (amount ≠ 0) .zeroAmount
  -- `uint64(block.timestamp)` cuts the high bits off; the sum is of 64 bits
  let readyAt ← checked 64 (now % 2 ^ 64 + cfg.unstakeDelay.val) .panic
  .ok { r with
    stakeOf := update r.stakeOf sender 0
    pendingUnstakeOf := update r.pendingUnstakeOf sender amount
    unstakeReadyAt := update r.unstakeReadyAt sender readyAt }

def withdraw (r : ProxyConsumerRegistry) (self : Address) (token : Erc20) (now : Nat)
    (sender : Address) : Except Revert (ProxyConsumerRegistry × Erc20) := do
  let amount := r.pendingUnstakeOf sender
  require (amount ≠ 0) .noUnstakeRequested
  require (r.unstakeReadyAt sender ≤ now) .unstakeNotReady
  let token ← token.transfer self sender amount
  .ok ({ r with
    pendingUnstakeOf := update r.pendingUnstakeOf sender 0
    unstakeReadyAt := update r.unstakeReadyAt sender 0 }, token)

/-- The reason goes into the log only. -/
def slash (r : ProxyConsumerRegistry) (self : Address) (cfg : Config) (token : Erc20)
    (sender consumer : Address) (amount : Nat) : Except Revert (ProxyConsumerRegistry × Erc20) := do
  require (sender = r.resolver) .notResolver
  require (r.isConsumer consumer) .notAConsumer
  require (amount ≠ 0) .zeroAmount
  let active := r.stakeOf consumer
  let pending := r.pendingUnstakeOf consumer
  let slashable ← checked 256 (active + pending) .panic
  require (amount ≤ slashable) .amountExceedsStake
  let fromActive := if active < amount then active else amount
  let fromPending := amount - fromActive
  let token ← token.transfer self cfg.reserveSink amount
  .ok ({ r with
    stakeOf := update r.stakeOf consumer (active - fromActive)
    pendingUnstakeOf :=
      if fromPending ≠ 0 then update r.pendingUnstakeOf consumer (pending - fromPending)
      else r.pendingUnstakeOf }, token)

end ProxyConsumerRegistry

/-- The calls of the registry. -/
inductive ConsumerAct where
  | enrolConsumer (consumer : Address) (consumerRef : Bytes32)
  | setResolver (newResolver : Address)
  | topUp (amount : Uint256)
  | requestUnstake
  | withdraw
  | slash (consumer : Address) (amount : Uint256)

inductive ConsumerCall where
  | advance (now : Uint256)
  | allow (enrolled : Address → Bool)
  | token (sender : Address) (call : TokenCall)
  | registry (sender : Address) (call : ConsumerAct)

structure ConsumerSite where
  self : Address
  config : ProxyConsumerRegistry.Config

/-- The registry in its world. -/
structure ConsumerChain where
  now : Uint256
  enrolled : Address → Bool
  token : Erc20
  registry : ProxyConsumerRegistry

namespace ConsumerSite

variable (d : ConsumerSite)

def IsAccount (a : Address) : Prop := a ≠ 0 ∧ a ≠ d.self

instance (a : Address) : Decidable (d.IsAccount a) := inferInstanceAs (Decidable (_ ∧ _))

def registryCall (c : ConsumerChain) (sender : Address) : ConsumerAct → Except Revert ConsumerChain
  | .enrolConsumer consumer consumerRef => do
      let registry ← c.registry.enrolConsumer d.config c.enrolled sender consumer consumerRef
      .ok { c with registry }
  | .setResolver newResolver => do
      let registry ← c.registry.setResolver d.config sender newResolver
      .ok { c with registry }
  | .topUp amount => do
      let (registry, token) ← c.registry.topUp d.self c.token sender amount.val
      .ok { c with registry, token }
  | .requestUnstake => do
      let registry ← c.registry.requestUnstake d.config c.now.val sender
      .ok { c with registry }
  | .withdraw => do
      let (registry, token) ← c.registry.withdraw d.self c.token c.now.val sender
      .ok { c with registry, token }
  | .slash consumer amount => do
      let (registry, token) ← c.registry.slash d.self d.config c.token sender consumer amount.val
      .ok { c with registry, token }

def act (c : ConsumerChain) : ConsumerCall → Except Revert ConsumerChain
  | .advance now => do
      require (c.now ≤ now) .badArg
      .ok { c with now }
  | .allow enrolled => .ok { c with enrolled }
  | .token sender call => do
      require (d.IsAccount sender) .notAnAccount
      let token ← c.token.call sender call
      .ok { c with token }
  | .registry sender call => do
      require (d.IsAccount sender) .notAnAccount
      d.registryCall c sender call

def run (c : ConsumerChain) (ks : List ConsumerCall) : ConsumerChain := ks.foldl (attempt d.act) c

/-- The registry is sent no coins but as collateral. -/
def Quiet : ConsumerCall → Prop
  | .token _ call => call.brings d.self = 0
  | _ => True

end ConsumerSite

/-- The state after the deployment; the registry has approved nobody, and holds no coins. -/
structure ConsumerChain.Fresh (d : ConsumerSite) (c : ConsumerChain) : Prop where
  registry_new : ProxyConsumerRegistry.new d.config = .ok c.registry
  unlent : ∀ spender, c.token.allowances d.self spender = 0
  balance : c.token.balances d.self = 0

/-! ## What a call does to the collateral -/

/-- The collateral of one consumer. -/
structure Collateral where
  active : Nat
  pending : Nat
  readyAt : Nat

def ProxyConsumerRegistry.collateral (r : ProxyConsumerRegistry) (a : Address) : Collateral :=
  ⟨r.stakeOf a, r.pendingUnstakeOf a, r.unstakeReadyAt a⟩

/-- What a call that succeeds does to one collateral and to the token. -/
inductive CollateralStep (d : ConsumerSite) (c : ConsumerChain) (x : Collateral) (t : Erc20) :
    Address → ConsumerAct → Address → Collateral → Erc20 → Prop
  | topUp {sender : Address} {amount : Uint256} {t' : Erc20} :
      amount.val ≠ 0 → t.transferFrom d.self sender d.self amount.val = .ok t' →
      CollateralStep d c x t sender (.topUp amount) sender
        { x with active := x.active + amount.val } t'
  | request {sender : Address} :
      x.pending = 0 → x.active ≠ 0 → c.now.val % 2 ^ 64 + d.config.unstakeDelay.val < 2 ^ 64 →
      CollateralStep d c x t sender .requestUnstake sender
        ⟨0, x.active, c.now.val % 2 ^ 64 + d.config.unstakeDelay.val⟩ t
  | withdraw {sender : Address} {t' : Erc20} :
      x.pending ≠ 0 → x.readyAt ≤ c.now.val → t.transfer d.self sender x.pending = .ok t' →
      CollateralStep d c x t sender .withdraw sender ⟨x.active, 0, 0⟩ t'
  | slash {sender consumer : Address} {amount : Uint256} {t' : Erc20} :
      sender = c.registry.resolver → amount.val ≠ 0 → amount.val ≤ x.active + x.pending →
      t.transfer d.self d.config.reserveSink amount.val = .ok t' →
      CollateralStep d c x t sender (.slash consumer amount) consumer
        ⟨x.active - amount.val, x.pending - (amount.val - x.active), x.readyAt⟩ t'

/-- The other consumers and the references stay. -/
structure ConsumerChain.Apart (c c' : ConsumerChain) (who : Address) : Prop where
  now_eq : c'.now = c.now
  others : ∀ a, a ≠ who → c'.registry.collateral a = c.registry.collateral a
  known : c.registry.isConsumer who = true ∨ c.registry.pendingUnstakeOf who ≠ 0
  isConsumer_eq : c'.registry.isConsumer = c.registry.isConsumer
  consumerOf_eq : c'.registry.consumerOf = c.registry.consumerOf
  refOf_eq : c'.registry.refOf = c.registry.refOf

def Collateral.total (x : Collateral) : Nat := x.active + x.pending

/-- A call that leaves every collateral alone. -/
inductive ConsumerChain.Still (c c' : ConsumerChain) : ConsumerAct → Prop
  | enrol {consumer : Address} {consumerRef : Bytes32} :
      consumer ≠ 0 → consumerRef ≠ 0 → c.registry.isConsumer consumer = false →
      c.registry.consumerOf consumerRef = 0 →
      c' = { c with registry := { c.registry with
        isConsumer := update c.registry.isConsumer consumer true
        consumerOf := update c.registry.consumerOf consumerRef consumer
        refOf := update c.registry.refOf consumer consumerRef } } →
      c.Still c' (.enrolConsumer consumer consumerRef)
  | resolver {newResolver : Address} :
      c' = { c with registry := { c.registry with resolver := newResolver } } →
      c.Still c' (.setResolver newResolver)

section
variable {d : ConsumerSite} {c c' : ConsumerChain} {sender : Address} {call : ConsumerAct}

theorem ProxyConsumerRegistry.collateral_of_ne {r r' : ProxyConsumerRegistry} {who : Address}
    (hactive : ∀ a, a ≠ who → r'.stakeOf a = r.stakeOf a)
    (hpending : ∀ a, a ≠ who → r'.pendingUnstakeOf a = r.pendingUnstakeOf a)
    (hready : ∀ a, a ≠ who → r'.unstakeReadyAt a = r.unstakeReadyAt a) (a : Address)
    (ha : a ≠ who) : r'.collateral a = r.collateral a := by
  rw [ProxyConsumerRegistry.collateral, hactive a ha, hpending a ha, hready a ha]
  rfl

theorem slash_active (active amount : Nat) :
    active - (if active < amount then active else amount) = active - amount := by
  split <;> omega

theorem slash_pending (pendingOf : Address → Nat) (consumer : Address) (active amount : Nat) :
    (if amount - (if active < amount then active else amount) ≠ 0 then
      update pendingOf consumer
        (pendingOf consumer - (amount - (if active < amount then active else amount)))
      else pendingOf)
      = update pendingOf consumer (pendingOf consumer - (amount - active)) := by
  have hrest : amount - (if active < amount then active else amount) = amount - active := by
    split <;> omega
  rw [hrest]
  split
  · rfl
  · rename_i hzero
    have hzero : amount - active = 0 := not_not.mp hzero
    rw [hzero, Nat.sub_zero, update_eq_self]

/-- **What a call to the registry does.** -/
theorem registryCall_ok (h : d.registryCall c sender call = .ok c') :
    c.Still c' call ∨ ∃ who, c.Apart c' who
      ∧ CollateralStep d c (c.registry.collateral who) c.token sender call who
        (c'.registry.collateral who) c'.token := by
  cases call with
  | enrolConsumer consumer consumerRef =>
      obtain ⟨r, hcall, h⟩ := bind_ok.mp h
      cases h
      obtain ⟨_, -, _, hconsumer, _, href, _, hfresh, hcall⟩ := bind_ok₄.mp hcall
      obtain ⟨_, hfree, _, -, hcall⟩ := bind_ok₂.mp hcall
      cases hcall
      exact .inl (.enrol (require_ok.mp hconsumer) (require_ok.mp href) (require_ok.mp hfresh)
        (require_ok.mp hfree) rfl)
  | setResolver newResolver =>
      obtain ⟨r, hcall, h⟩ := bind_ok.mp h
      cases h
      obtain ⟨_, -, _, -, hcall⟩ := bind_ok₂.mp hcall
      cases hcall
      exact .inl (.resolver rfl)
  | topUp amount =>
      obtain ⟨⟨r, t⟩, hcall, h⟩ := bind_ok.mp h
      cases h
      obtain ⟨_, hconsumer, _, hamount, newStake, hsum, hcall⟩ := bind_ok₃.mp hcall
      obtain ⟨-, rfl⟩ := checked_ok.mp hsum
      obtain ⟨t', htoken, hcall⟩ := bind_ok.mp hcall
      cases hcall
      refine .inr ⟨sender, ⟨rfl, ?_, .inl (require_ok.mp hconsumer), rfl, rfl, rfl⟩, ?_⟩
      · exact ProxyConsumerRegistry.collateral_of_ne (fun a ha => update_of_ne ha _ _)
          (fun _ _ => rfl) (fun _ _ => rfl)
      · have hstep : CollateralStep d c (c.registry.collateral sender) c.token sender
            (.topUp amount) sender _ t := .topUp (require_ok.mp hamount) htoken
        simp only [ProxyConsumerRegistry.collateral, update_self]
        exact hstep
  | requestUnstake =>
      obtain ⟨r, hcall, h⟩ := bind_ok.mp h
      cases h
      obtain ⟨_, hconsumer, _, hpending, _, hamount, readyAt, hready, hcall⟩ := bind_ok₄.mp hcall
      obtain ⟨hlt, rfl⟩ := checked_ok.mp hready
      cases hcall
      refine .inr ⟨sender, ⟨rfl, ?_, .inl (require_ok.mp hconsumer), rfl, rfl, rfl⟩, ?_⟩
      · exact ProxyConsumerRegistry.collateral_of_ne (fun a ha => update_of_ne ha _ _)
          (fun a ha => update_of_ne ha _ _) (fun a ha => update_of_ne ha _ _)
      · have hstep : CollateralStep d c (c.registry.collateral sender) c.token sender
            .requestUnstake sender _ c.token :=
          .request (require_ok.mp hpending) (require_ok.mp hamount) hlt
        simp only [ProxyConsumerRegistry.collateral, update_self]
        exact hstep
  | withdraw =>
      obtain ⟨⟨r, t⟩, hcall, h⟩ := bind_ok.mp h
      cases h
      obtain ⟨_, hamount, _, hready, t', htoken, hcall⟩ := bind_ok₃.mp hcall
      cases hcall
      refine .inr ⟨sender, ⟨rfl, ?_, .inr (require_ok.mp hamount), rfl, rfl, rfl⟩, ?_⟩
      · exact ProxyConsumerRegistry.collateral_of_ne (fun _ _ => rfl)
          (fun a ha => update_of_ne ha _ _) (fun a ha => update_of_ne ha _ _)
      · have hstep : CollateralStep d c (c.registry.collateral sender) c.token sender
            .withdraw sender _ t :=
          .withdraw (require_ok.mp hamount) (require_ok.mp hready) htoken
        simp only [ProxyConsumerRegistry.collateral, update_self]
        exact hstep
  | slash consumer amount =>
      obtain ⟨⟨r, t⟩, hcall, h⟩ := bind_ok.mp h
      cases h
      obtain ⟨_, hresolver, _, hconsumer, _, hamount, slashable, hsum, hcall⟩ := bind_ok₄.mp hcall
      obtain ⟨-, rfl⟩ := checked_ok.mp hsum
      obtain ⟨_, hle, t', htoken, hcall⟩ := bind_ok₂.mp hcall
      rw [slash_active, slash_pending] at hcall
      cases hcall
      refine .inr ⟨consumer, ⟨rfl, ?_, .inl (require_ok.mp hconsumer), rfl, rfl, rfl⟩, ?_⟩
      · exact ProxyConsumerRegistry.collateral_of_ne (fun a ha => update_of_ne ha _ _)
          (fun a ha => update_of_ne ha _ _) (fun _ _ => rfl)
      · have hstep : CollateralStep d c (c.registry.collateral consumer) c.token sender
            (.slash consumer amount) consumer _ t :=
          .slash (require_ok.mp hresolver) (require_ok.mp hamount) (require_ok.mp hle) htoken
        simp only [ProxyConsumerRegistry.collateral, update_self]
        exact hstep

theorem CollateralStep.kept {who : Address} {x x' : Collateral} {t t' : Erc20}
    (hlent : ∀ spender, t.allowances d.self spender = 0) (hsender : d.IsAccount sender)
    (hsink : d.config.reserveSink ≠ d.self) (h : CollateralStep d c x t sender call who x' t') :
    t'.balances d.self + x.total = t.balances d.self + x'.total
      ∧ ∀ spender, t'.allowances d.self spender = 0 := by
  cases h with
  | topUp hamount htoken =>
      have hkept := Erc20.transferFrom_kept (hlent d.self) htoken
      have hallow := (Erc20.transferFrom_ok htoken).2.2.2.1
      rw [if_pos rfl] at hkept
      refine ⟨?_, fun spender => Nat.le_zero.mp ((hallow _ _).trans (hlent spender).le)⟩
      rw [hkept]
      simp only [Collateral.total]
      omega
  | request hpending hactive hlt =>
      refine ⟨?_, hlent⟩
      simp only [Collateral.total]
      omega
  | withdraw hpending hready htoken =>
      have hsrc := Erc20.transfer_src htoken
      rw [if_neg hsender.2] at hsrc
      refine ⟨?_, fun spender => ?_⟩
      · simp only [Collateral.total]
        omega
      · rw [(Erc20.transfer_ok htoken).2.2.1]
        exact hlent spender
  | slash hresolver hamount hle htoken =>
      have hsrc := Erc20.transfer_src htoken
      rw [if_neg hsink] at hsrc
      refine ⟨?_, fun spender => ?_⟩
      · simp only [Collateral.total]
        omega
      · rw [(Erc20.transfer_ok htoken).2.2.1]
        exact hlent spender

end

/-! ## The references -/

/-- Each reference names one consumer, and each consumer has one reference. -/
structure ProxyConsumerRegistry.Paired (r : ProxyConsumerRegistry) : Prop where
  inverse : ∀ consumerRef consumer, consumerRef ≠ 0 → consumer ≠ 0 →
    (r.consumerOf consumerRef = consumer ↔ r.refOf consumer = consumerRef)
  enrolled : ∀ consumer, r.isConsumer consumer = true ↔ r.refOf consumer ≠ 0
  zero : r.consumerOf 0 = 0 ∧ r.refOf 0 = 0

namespace ProxyConsumerRegistry.Paired

variable {r : ProxyConsumerRegistry}

theorem enrol (h : r.Paired) {consumer : Address} {consumerRef : Bytes32} (hconsumer : consumer ≠ 0)
    (href : consumerRef ≠ 0) (hfresh : r.isConsumer consumer = false)
    (hfree : r.consumerOf consumerRef = 0) :
    Paired { r with
      isConsumer := update r.isConsumer consumer true
      consumerOf := update r.consumerOf consumerRef consumer
      refOf := update r.refOf consumer consumerRef } := by
  have hnone : r.refOf consumer = 0 := by
    by_contra hne
    rw [(h.enrolled consumer).mpr hne] at hfresh
    cases hfresh
  refine ⟨fun ref a hr ha => ?_, fun a => ?_, ?_, ?_⟩
  · show update r.consumerOf consumerRef consumer ref = a
      ↔ update r.refOf consumer consumerRef a = ref
    rcases eq_or_ne ref consumerRef with rfl | href'
    · rcases eq_or_ne a consumer with rfl | ha'
      · simp only [update_self]
      · rw [update_self, update_of_ne ha']
        refine ⟨fun heq => absurd heq.symm ha', fun heq => ?_⟩
        have hback := (h.inverse ref a hr ha).mpr heq
        rw [hfree] at hback
        exact absurd hback.symm ha
    · rcases eq_or_ne a consumer with rfl | ha'
      · rw [update_of_ne href', update_self]
        refine ⟨fun heq => ?_, fun heq => absurd heq.symm href'⟩
        have hforth := (h.inverse ref a hr ha).mp heq
        rw [hnone] at hforth
        exact absurd hforth.symm hr
      · rw [update_of_ne href', update_of_ne ha']
        exact h.inverse ref a hr ha
  · show update r.isConsumer consumer true a = true
      ↔ update r.refOf consumer consumerRef a ≠ 0
    rcases eq_or_ne a consumer with rfl | ha'
    · simp only [update_self]
      exact ⟨fun _ => href, fun _ => trivial⟩
    · rw [update_of_ne ha', update_of_ne ha']
      exact h.enrolled a
  · rw [← h.zero.1]
    exact update_of_ne href.symm _ _
  · rw [← h.zero.2]
    exact update_of_ne hconsumer.symm _ _

theorem congr {r' : ProxyConsumerRegistry} (h : r.Paired) (hconsumer : r'.consumerOf = r.consumerOf)
    (href : r'.refOf = r.refOf) (his : r'.isConsumer = r.isConsumer) : r'.Paired := by
  refine ⟨fun ref a => ?_, fun a => ?_, ?_⟩
  · rw [hconsumer, href]
    exact h.inverse ref a
  · rw [href, his]
    exact h.enrolled a
  · rw [hconsumer, href]
    exact h.zero

end ProxyConsumerRegistry.Paired

/-! ## The collateral is there -/

/-- The registry holds what it owes, and owes consumers only. -/
structure ConsumerChain.Backed (d : ConsumerSite) (c : ConsumerChain) : Prop where
  unlent : ∀ spender, c.token.allowances d.self spender = 0
  balance : c.token.balances d.self = ∑ a, (c.registry.collateral a).total
  owed : ∀ a, (c.registry.collateral a).total ≠ 0 → c.registry.isConsumer a = true
  paired : c.registry.Paired

namespace ConsumerChain

variable {d : ConsumerSite} {c c' : ConsumerChain}

theorem Fresh.registry_eq (h : c.Fresh d) :
    c.registry = ⟨d.config.safe, fun _ => 0, fun _ => 0, fun _ => false, fun _ => 0, fun _ => 0,
      fun _ => 0⟩ := by
  obtain ⟨_, -, hnew⟩ := bind_ok.mp h.registry_new
  obtain ⟨_, -, hnew⟩ := bind_ok.mp hnew
  exact (Except.ok.inj hnew).symm

theorem Fresh.backed (h : c.Fresh d) : c.Backed d := by
  have hreg := h.registry_eq
  refine ⟨h.unlent, ?_, fun a ha => ?_, ?_⟩
  · rw [h.balance, hreg]
    exact Finset.sum_const_zero.symm
  · rw [hreg] at ha
    exact absurd rfl ha
  · rw [hreg]
    refine ⟨fun ref a hr ha => ⟨fun heq => absurd heq.symm ha, fun heq => absurd heq.symm hr⟩,
      fun a => ⟨nofun, fun hne => absurd rfl hne⟩, rfl, rfl⟩

theorem Still.backed {call : ConsumerAct} (h : c.Backed d)
    (hstill : c.Still c' call) : c'.Backed d := by
  cases hstill with
  | @enrol consumer consumerRef hconsumer href hfresh hfree hc' =>
      subst hc'
      refine ⟨h.unlent, h.balance, fun a ha => ?_, h.paired.enrol hconsumer href hfresh hfree⟩
      rcases eq_or_ne a consumer with rfl | hne
      · exact update_self _ _ _
      · exact (update_of_ne hne _ _).trans (h.owed a ha)
  | resolver hc' =>
      subst hc'
      exact ⟨h.unlent, h.balance, h.owed, h.paired.congr rfl rfl rfl⟩

theorem Apart.backed {sender who : Address} {call : ConsumerAct} (h : c.Backed d)
    (hsender : d.IsAccount sender) (hsink : d.config.reserveSink ≠ d.self) (hapart : c.Apart c' who)
    (hstep : CollateralStep d c (c.registry.collateral who) c.token sender call who
      (c'.registry.collateral who) c'.token) : c'.Backed d := by
  obtain ⟨hbalance, hlent⟩ := hstep.kept h.unlent hsender hsink
  have hsum : ∑ a, (c'.registry.collateral a).total + (c.registry.collateral who).total
      = ∑ a, (c.registry.collateral a).total + (c'.registry.collateral who).total :=
    sum_change fun a ha => congrArg Collateral.total (hapart.others a ha)
  have hwho : c.registry.isConsumer who = true := by
    rcases hapart.known with hknown | hpending
    · exact hknown
    · refine h.owed who fun hzero => hpending ?_
      exact Nat.le_zero.mp ((Nat.le_add_left _ _).trans hzero.le)
  refine ⟨hlent, ?_, fun a ha => ?_, h.paired.congr hapart.consumerOf_eq hapart.refOf_eq
    hapart.isConsumer_eq⟩
  · have hold := h.balance
    omega
  · rw [hapart.isConsumer_eq]
    rcases eq_or_ne a who with rfl | hne
    · exact hwho
    · rw [hapart.others a hne] at ha
      exact h.owed a ha

theorem Backed.act {k : ConsumerCall} (hsink : d.config.reserveSink ≠ d.self) (hquiet : d.Quiet k)
    (h : c.Backed d) (hact : d.act c k = .ok c') : c'.Backed d := by
  cases k with
  | advance now =>
      obtain ⟨_, -, hact⟩ := bind_ok.mp hact
      cases hact
      exact ⟨h.unlent, h.balance, h.owed, h.paired⟩
  | allow enrolled =>
      cases hact
      exact ⟨h.unlent, h.balance, h.owed, h.paired⟩
  | token sender call =>
      obtain ⟨_, hsender, t, hcall, hact⟩ := bind_ok₂.mp hact
      cases hact
      obtain ⟨hkept, hlent⟩ :=
        Erc20.call_kept (require_ok.mp hsender).2.symm (h.unlent sender) hcall
      have hbrings : call.brings d.self = 0 := hquiet
      rw [hbrings] at hkept
      exact ⟨fun spender => Nat.le_zero.mp ((hlent spender).trans (h.unlent spender).le),
        hkept.trans h.balance, h.owed, h.paired⟩
  | registry sender call =>
      obtain ⟨_, hsender, hact⟩ := bind_ok.mp hact
      rcases registryCall_ok hact with hstill | ⟨who, hapart, hstep⟩
      · exact hstill.backed h
      · exact hapart.backed h (require_ok.mp hsender) hsink hstep

end ConsumerChain

/-! ## Where the pending collateral comes from -/

section
variable {d : ConsumerSite} {c c' : ConsumerChain} {k : ConsumerCall}

/-- A call leaves the pending collateral of a consumer or takes of it, or is the request that
moves the whole stake there. -/
theorem act_pending (hact : d.act c k = .ok c') (a : Address) :
    (c'.registry.pendingUnstakeOf a ≤ c.registry.pendingUnstakeOf a
      ∧ (c'.registry.pendingUnstakeOf a ≠ 0 →
          c'.registry.unstakeReadyAt a = c.registry.unstakeReadyAt a))
    ∨ (k = .registry a .requestUnstake ∧ c.registry.pendingUnstakeOf a = 0
      ∧ c'.registry.pendingUnstakeOf a = c.registry.stakeOf a
      ∧ c'.registry.unstakeReadyAt a = c.now.val % 2 ^ 64 + d.config.unstakeDelay.val) := by
  cases k with
  | advance now =>
      obtain ⟨_, -, hact⟩ := bind_ok.mp hact
      cases hact
      exact .inl ⟨le_rfl, fun _ => rfl⟩
  | allow enrolled =>
      cases hact
      exact .inl ⟨le_rfl, fun _ => rfl⟩
  | token sender call =>
      obtain ⟨_, -, t, -, hact⟩ := bind_ok₂.mp hact
      cases hact
      exact .inl ⟨le_rfl, fun _ => rfl⟩
  | registry sender call =>
      obtain ⟨_, -, hact⟩ := bind_ok.mp hact
      rcases registryCall_ok hact with hstill | ⟨who, hapart, hstep⟩
      · cases hstill with
        | enrol _ _ _ _ hc' =>
            subst hc'
            exact .inl ⟨le_rfl, fun _ => rfl⟩
        | resolver hc' =>
            subst hc'
            exact .inl ⟨le_rfl, fun _ => rfl⟩
      · rcases eq_or_ne a who with rfl | hne
        · generalize hx' : c'.registry.collateral a = x' at hstep
          generalize c'.token = t' at hstep
          have hpending : c'.registry.pendingUnstakeOf a = x'.pending :=
            congrArg Collateral.pending hx'
          have hready : c'.registry.unstakeReadyAt a = x'.readyAt := congrArg Collateral.readyAt hx'
          rw [hpending, hready]
          cases hstep with
          | topUp => exact .inl ⟨le_rfl, fun _ => rfl⟩
          | request hzero => exact .inr ⟨rfl, hzero, rfl, rfl⟩
          | withdraw => exact .inl ⟨Nat.zero_le _, fun hne => absurd rfl hne⟩
          | slash => exact .inl ⟨Nat.sub_le _ _, fun _ => rfl⟩
        · have hsame := hapart.others a hne
          have hpending : c'.registry.pendingUnstakeOf a = c.registry.pendingUnstakeOf a :=
            congrArg Collateral.pending hsame
          exact .inl ⟨hpending.le, fun _ => congrArg Collateral.readyAt hsame⟩

theorem consumer_now_le (hact : d.act c k = .ok c') : c.now ≤ c'.now := by
  cases k with
  | advance now =>
      obtain ⟨_, hle, hact⟩ := bind_ok.mp hact
      cases hact
      exact require_ok.mp hle
  | allow enrolled =>
      cases hact
      exact le_rfl
  | token sender call =>
      obtain ⟨_, -, t, -, hact⟩ := bind_ok₂.mp hact
      cases hact
      exact le_rfl
  | registry sender call =>
      obtain ⟨_, -, hact⟩ := bind_ok.mp hact
      rcases registryCall_ok hact with hstill | ⟨who, hapart, -⟩
      · cases hstill with
        | enrol _ _ _ _ hc' =>
            subst hc'
            exact le_rfl
        | resolver hc' =>
            subst hc'
            exact le_rfl
      · exact hapart.now_eq.ge

end

namespace ConsumerSite

variable (d : ConsumerSite)

def pendingShrinks (a : Address) (c : ConsumerChain) (k : ConsumerCall) : Prop :=
  (attempt d.act c k).registry.pendingUnstakeOf a ≤ c.registry.pendingUnstakeOf a

/-- All that is pending of a consumer after a run was moved there by one request: before it
nothing was pending, it moved the whole stake, and no later call added to it. -/
structure MovedBy (start : ConsumerChain) (ks : List ConsumerCall) (a : Address)
    (before after : List ConsumerCall) : Prop where
  split : ks = before ++ .registry a .requestUnstake :: after
  succeeds : d.act (d.run start before) (.registry a .requestUnstake)
    = .ok (d.run start (before ++ [.registry a .requestUnstake]))
  none : (d.run start before).registry.pendingUnstakeOf a = 0
  whole : (d.run start (before ++ [.registry a .requestUnstake])).registry.pendingUnstakeOf a
    = (d.run start before).registry.stakeOf a
  shrinks : Runs.Guarded (attempt d.act) (d.pendingShrinks a)
    (d.run start (before ++ [.registry a .requestUnstake])) after

theorem run_snoc (c : ConsumerChain) (ks : List ConsumerCall) (k : ConsumerCall) :
    d.run c (ks ++ [k]) = attempt d.act (d.run c ks) k := Runs.foldl_snoc ks k c

theorem run_append (c : ConsumerChain) (ks ls : List ConsumerCall) :
    d.run c (ks ++ ls) = d.run (d.run c ks) ls := List.foldl_append

variable {d} {start : ConsumerChain} {a : Address}

theorem MovedBy.extend {ks before after : List ConsumerCall} {k : ConsumerCall}
    (h : d.MovedBy start ks a before after) (hk : d.pendingShrinks a (d.run start ks) k) :
    d.MovedBy start (ks ++ [k]) a before (after ++ [k]) := by
  have hrun : d.run (d.run start (before ++ [.registry a .requestUnstake])) after
      = d.run start ks := by
    rw [← d.run_append, h.split, List.append_assoc]
    rfl
  refine ⟨?_, h.succeeds, h.none, h.whole, Runs.guarded_snoc.mpr ⟨h.shrinks, ?_⟩⟩
  · rw [h.split, List.append_assoc]
    rfl
  · rw [← hrun] at hk
    exact hk

/-- **What is pending has one request behind it**, and becomes ready a delay after it. -/
theorem moved_run (hfresh : start.Fresh d) (ks : List ConsumerCall)
    (hne : (d.run start ks).registry.pendingUnstakeOf a ≠ 0) :
    ∃ before after, d.MovedBy start ks a before after
      ∧ (d.run start ks).registry.unstakeReadyAt a
        = (d.run start before).now.val % 2 ^ 64 + d.config.unstakeDelay.val := by
  induction ks using List.reverseRecOn with
  | nil =>
      refine absurd ?_ hne
      show start.registry.pendingUnstakeOf a = 0
      rw [hfresh.registry_eq]
  | append_singleton ks k ih =>
      rw [d.run_snoc] at hne ⊢
      rcases attempt_cases d.act (d.run start ks) k with ⟨hsame, -⟩ | hact
      · have hshrinks : d.pendingShrinks a (d.run start ks) k := by
          rw [pendingShrinks, hsame]
        rw [hsame] at hne ⊢
        obtain ⟨before, after, hmoved, hready⟩ := ih hne
        exact ⟨before, after ++ [k], hmoved.extend hshrinks, hready⟩
      · rcases act_pending hact a with ⟨hle, hkeep⟩ | ⟨rfl, hzero, hwhole, hready⟩
        · have hold : (d.run start ks).registry.pendingUnstakeOf a ≠ 0 :=
            fun hzero => hne (Nat.le_zero.mp (hle.trans hzero.le))
          obtain ⟨before, after, hmoved, hready⟩ := ih hold
          exact ⟨before, after ++ [k], hmoved.extend hle, (hkeep hne).trans hready⟩
        · refine ⟨ks, [], ⟨rfl, ?_, hzero, ?_, Runs.guarded_nil⟩, hready⟩
          · rw [d.run_snoc]
            exact hact
          · rw [d.run_snoc]
            exact hwhole

theorem now_le_run (c : ConsumerChain) (ks : List ConsumerCall) : c.now ≤ (d.run c ks).now := by
  refine Runs.invariant (I := fun s => c.now ≤ s.now) (fun s k hs => ?_) ks c le_rfl
  refine attempt_preserves (I := fun s => c.now ≤ s.now) (fun s k s' hs hact => ?_) s k hs
  exact hs.trans (consumer_now_le hact)

theorem MovedBy.le {ks before after : List ConsumerCall} (h : d.MovedBy start ks a before after) :
    (d.run start before).now ≤ (d.run start ks).now := by
  rw [h.split, d.run_append]
  exact now_le_run _ _

theorem backed_run (hfresh : start.Fresh d) (hsink : d.config.reserveSink ≠ d.self)
    (ks : List ConsumerCall) (hquiet : ∀ k ∈ ks, d.Quiet k) : (d.run start ks).Backed d := by
  induction ks using List.reverseRecOn with
  | nil => exact hfresh.backed
  | append_singleton ks k ih =>
      have hbefore := ih fun k hk => hquiet k (List.mem_append_left _ hk)
      have hk : d.Quiet k := hquiet k (List.mem_append_right _ (List.mem_singleton_self k))
      rw [d.run_snoc]
      rcases attempt_cases d.act (d.run start ks) k with ⟨hsame, -⟩ | hact
      · rw [hsame]
        exact hbefore
      · exact hbefore.act hsink hk hact

theorem leaves {c c' : ConsumerChain} {k : ConsumerCall}
    (hlent : ∀ p, c.token.allowances d.self p = 0)
    (hact : d.act c k = .ok c') (hlt : c'.token.balances d.self < c.token.balances d.self) :
    (∃ a, k = .registry a .withdraw)
      ∨ ∃ resolver consumer amount, k = .registry resolver (.slash consumer amount) := by
  cases k with
  | advance now =>
      obtain ⟨_, -, hact⟩ := bind_ok.mp hact
      cases hact
      exact absurd hlt (lt_irrefl _)
  | allow enrolled =>
      cases hact
      exact absurd hlt (lt_irrefl _)
  | token sender call =>
      obtain ⟨_, hsender, t, hcall, hact⟩ := bind_ok₂.mp hact
      cases hact
      have hkept := (Erc20.call_kept (require_ok.mp hsender).2.symm (hlent sender) hcall).1
      exact absurd hlt (by rw [hkept]; exact Nat.not_lt.mpr (Nat.le_add_right _ _))
  | registry sender call =>
      obtain ⟨_, -, hact⟩ := bind_ok.mp hact
      rcases registryCall_ok hact with hstill | ⟨who, hapart, hstep⟩
      · cases hstill with
        | enrol _ _ _ _ hc' =>
            subst hc'
            exact absurd hlt (lt_irrefl _)
        | resolver hc' =>
            subst hc'
            exact absurd hlt (lt_irrefl _)
      · generalize c'.registry.collateral who = x' at hstep
        generalize c'.token = t' at hstep hlt
        cases hstep with
        | topUp hamount htoken =>
            have hkept := Erc20.transferFrom_kept (hlent d.self) htoken
            exact absurd hlt (by rw [hkept]; exact Nat.not_lt.mpr (Nat.le_add_right _ _))
        | request => exact absurd hlt (lt_irrefl _)
        | withdraw => exact .inl ⟨_, rfl⟩
        | slash => exact .inr ⟨_, _, _, rfl⟩

theorem withdraw_passed {c c' : ConsumerChain} (hact : d.act c (.registry a .withdraw) = .ok c') :
    c.registry.pendingUnstakeOf a ≠ 0 ∧ c.registry.unstakeReadyAt a ≤ c.now.val
      ∧ c'.token.balances = Erc20.moved c.token.balances d.self a
        (c.registry.pendingUnstakeOf a) := by
  obtain ⟨_, -, hact⟩ := bind_ok.mp hact
  rcases registryCall_ok hact with hstill | ⟨who, hapart, hstep⟩
  · cases hstill
  · generalize c'.registry.collateral who = x' at hstep
    generalize c'.token = t' at hstep
    cases hstep with
    | withdraw hne hready htoken => exact ⟨hne, hready, (Erc20.transfer_ok htoken).2.1⟩

theorem slash_passed {c c' : ConsumerChain} {resolver consumer : Address} {amount : Uint256}
    (hact : d.act c (.registry resolver (.slash consumer amount)) = .ok c') :
    amount.val ≤ c.registry.stakeOf consumer + c.registry.pendingUnstakeOf consumer
      ∧ c'.registry.stakeOf consumer = c.registry.stakeOf consumer - amount.val
      ∧ c'.registry.pendingUnstakeOf consumer
        = c.registry.pendingUnstakeOf consumer - (amount.val - c.registry.stakeOf consumer)
      ∧ (∀ other, other ≠ consumer → c'.registry.collateral other = c.registry.collateral other)
      ∧ c'.token.balances
        = Erc20.moved c.token.balances d.self d.config.reserveSink amount.val := by
  obtain ⟨_, -, hact⟩ := bind_ok.mp hact
  rcases registryCall_ok hact with hstill | ⟨who, hapart, hstep⟩
  · cases hstill
  · generalize hx' : c'.registry.collateral who = x' at hstep
    generalize c'.token = t' at hstep
    cases hstep with
    | slash _ _ hle htoken =>
        exact ⟨hle, congrArg Collateral.active hx', congrArg Collateral.pending hx', hapart.others,
          (Erc20.transfer_ok htoken).2.1⟩

end ConsumerSite

/-- **The collateral is there, and leaves late.**  After every run the registry holds what its
consumers have staked and requested, and references and consumers are paired.  Only a withdrawal or
a slash takes coins out: a withdrawal pays a consumer what one request of theirs moved, a delay or
more after it, and a slash takes from one consumer no more than they have, for the sink. -/
theorem consumer_collateral (d : ConsumerSite) {start : ConsumerChain} (hfresh : start.Fresh d)
    (hsink : d.config.reserveSink ≠ d.self) (ks : List ConsumerCall) (hquiet : ∀ k ∈ ks, d.Quiet k)
    (htime : (d.run start ks).now.val < 2 ^ 64) :
    (d.run start ks).token.balances d.self
        = ∑ a with (d.run start ks).registry.isConsumer a = true,
          ((d.run start ks).registry.stakeOf a + (d.run start ks).registry.pendingUnstakeOf a)
      ∧ (d.run start ks).registry.Paired
      ∧ (∀ k c', d.act (d.run start ks) k = .ok c' →
          c'.token.balances d.self < (d.run start ks).token.balances d.self →
          (∃ a, k = .registry a .withdraw)
            ∨ ∃ resolver consumer amount, k = .registry resolver (.slash consumer amount))
      ∧ (∀ a c', d.act (d.run start ks) (.registry a .withdraw) = .ok c' →
          c'.token.balances = Erc20.moved (d.run start ks).token.balances d.self a
              ((d.run start ks).registry.pendingUnstakeOf a)
            ∧ ∃ before after, d.MovedBy start ks a before after
              ∧ (d.run start before).now.val + d.config.unstakeDelay.val
                ≤ (d.run start ks).now.val)
      ∧ ∀ resolver consumer amount c',
          d.act (d.run start ks) (.registry resolver (.slash consumer amount)) = .ok c' →
          amount.val ≤ (d.run start ks).registry.stakeOf consumer
              + (d.run start ks).registry.pendingUnstakeOf consumer
            ∧ c'.registry.stakeOf consumer + c'.registry.pendingUnstakeOf consumer + amount.val
              = (d.run start ks).registry.stakeOf consumer
                + (d.run start ks).registry.pendingUnstakeOf consumer
            ∧ (∀ other, other ≠ consumer →
                c'.registry.collateral other = (d.run start ks).registry.collateral other)
            ∧ c'.token.balances = Erc20.moved (d.run start ks).token.balances d.self
                d.config.reserveSink amount.val := by
  have hbacked := ConsumerSite.backed_run hfresh hsink ks hquiet
  refine ⟨?_, hbacked.paired, fun k c' => ConsumerSite.leaves hbacked.unlent, fun a c' hact => ?_,
    fun resolver consumer amount c' hact => ?_⟩
  · rw [hbacked.balance]
    exact (Finset.sum_filter_of_ne fun a _ ha => hbacked.owed a ha).symm
  · obtain ⟨hne, hready, hpaid⟩ := ConsumerSite.withdraw_passed hact
    obtain ⟨before, after, hmoved, hat⟩ := ConsumerSite.moved_run hfresh ks hne
    have hnow : (d.run start before).now.val ≤ (d.run start ks).now.val := hmoved.le
    refine ⟨hpaid, before, after, hmoved, ?_⟩
    rw [hat, Nat.mod_eq_of_lt (Nat.lt_of_le_of_lt hnow htime)] at hready
    exact hready
  · obtain ⟨hle, hactive, hpending, hothers, hpaid⟩ := ConsumerSite.slash_passed hact
    refine ⟨hle, ?_, hothers, hpaid⟩
    rw [hactive, hpending]
    omega

def sampleConsumers : ConsumerSite where
  self := 20
  config :=
    { safe := 1, stakeToken := 2, registry := 3, reserveSink := 4, minStake := 1,
      unstakeDelay := 50 }

/-- A consumer has a hundred coins, and lets the registry take them. -/
def sampleCollateral (now : Uint256) : ConsumerChain where
  now := now
  enrolled _ := true
  token := sampleCoins
  registry := ⟨1, fun _ => 0, fun _ => 0, fun _ => false, fun _ => 0, fun _ => 0, fun _ => 0⟩

theorem sampleCollateral_fresh (now : Uint256) : (sampleCollateral now).Fresh sampleConsumers := by
  refine ⟨rfl, fun spender => ?_, rfl⟩
  show update (fun _ _ => 0) 7 (update (fun _ => 0) 20 100) 20 spender = 0
  rw [update_of_ne (by decide)]

/-- The consumer is enrolled, tops up, and asks for the stake in the same block. -/
def sampleRequest : List ConsumerCall :=
  [.registry 1 (.enrolConsumer 7 5), .registry 7 (.topUp 100), .registry 7 .requestUnstake]

/-- Of what was requested at five, thirty are slashed; the rest is paid at fifty-five. -/
theorem consumer_collateral_sample :
    ∃ before after, sampleConsumers.MovedBy (sampleCollateral 5)
        (sampleRequest ++ [.registry 1 (.slash 7 30), .advance 55]) 7 before after
      ∧ (sampleConsumers.run (sampleCollateral 5) before).now.val + 50
        ≤ (sampleConsumers.run (sampleCollateral 5)
          (sampleRequest ++ [.registry 1 (.slash 7 30), .advance 55])).now.val := by
  have hact := ok_of_isOk sampleConsumers.act
    (s := sampleConsumers.run (sampleCollateral 5)
      (sampleRequest ++ [.registry 1 (.slash 7 30), .advance 55]))
    (k := .registry 7 .withdraw) (by decide +kernel)
  have hquiet : ∀ k ∈ sampleRequest ++ [.registry 1 (.slash 7 30), .advance 55],
      sampleConsumers.Quiet k := by
    simp [sampleRequest, ConsumerSite.Quiet]
  exact ((consumer_collateral sampleConsumers (sampleCollateral_fresh 5) (by decide) _ hquiet
    (by decide +kernel)).2.2.2.1 7 _ hact).2

/-- The registry is its own reserve sink. -/
def sampleOwnSink : ConsumerSite :=
  { sampleConsumers with config := { sampleConsumers.config with reserveSink := 20 } }

def sampleSlash : List ConsumerCall :=
  [.registry 1 (.enrolConsumer 7 5), .registry 7 (.topUp 100), .registry 1 (.slash 7 30)]

/-- What is slashed stays with a registry that is its own sink, and belongs to no consumer. -/
theorem slashed_into_itself : (sampleCollateral 5).Fresh sampleOwnSink
    ∧ (∀ k ∈ sampleSlash, sampleOwnSink.Quiet k)
    ∧ (sampleOwnSink.run (sampleCollateral 5) sampleSlash).token.balances sampleOwnSink.self = 100
    ∧ ∑ a with (sampleOwnSink.run (sampleCollateral 5) sampleSlash).registry.isConsumer a = true,
        ((sampleOwnSink.run (sampleCollateral 5) sampleSlash).registry.stakeOf a
          + (sampleOwnSink.run (sampleCollateral 5) sampleSlash).registry.pendingUnstakeOf a)
          = 70 := by
  have hstake : (sampleOwnSink.run (sampleCollateral 5) sampleSlash).registry.stakeOf
      = update (update (fun _ => 0) 7 100) 7 70 := rfl
  have hconsumer : (sampleOwnSink.run (sampleCollateral 5) sampleSlash).registry.isConsumer
      = update (fun _ => false) 7 true := rfl
  have hpending : (sampleOwnSink.run (sampleCollateral 5) sampleSlash).registry.pendingUnstakeOf
      = fun _ => 0 := rfl
  have hfresh := sampleCollateral_fresh 5
  refine ⟨⟨rfl, hfresh.unlent, hfresh.balance⟩, by simp [sampleSlash, ConsumerSite.Quiet],
    by decide +kernel, ?_⟩
  rw [hstake, hconsumer, hpending, Finset.sum_filter]
  refine (Finset.sum_eq_single 7 (fun a _ hne => ?_) fun h =>
    absurd (Finset.mem_univ 7) h).trans rfl
  rw [update_of_ne hne, if_neg Bool.false_ne_true]

end GoatCoin
