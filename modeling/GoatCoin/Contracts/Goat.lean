/-
# `GoatCoin.Contracts.Goat` — the coin of `GoatCoin.sol`

An ERC-20 with a list of minters, a pause, and a restriction under which a
transfer needs the approval of the enrolment registry:

    _update(from, to, v)    restricted and from, to ≠ 0:  registry.isTransferAllowed
                            not paused
                            the ledger

Anyone may change what the registry says of them between two calls, so what it
says is an argument of the calls that ask.
-/
import GoatCoin.Contracts.Erc20

namespace GoatCoin

open Evm

/-- The answers of `EnrollmentRegistry`. -/
structure Registry where
  enrolled : Address → Bool
  systemAddress : Address → Bool

def Registry.isTransferAllowed (r : Registry) (src dst : Address) : Bool :=
  if r.systemAddress src || r.systemAddress dst then true else r.enrolled src && r.enrolled dst

/-- The calls of the token. -/
inductive GoatCall where
  | transfer (dst : Address) (amount : Uint256)
  | transferFrom (src dst : Address) (amount : Uint256)
  | approve (spender : Address) (amount : Uint256)
  | mint (dst : Address) (amount : Uint256)
  | setMinter (who : Address) (status : Bool)
  | liftRestriction
  | pause
  | unpause

/-- The GOAT token. -/
structure Goat where
  token : Erc20
  isMinter : Address → Bool
  restricted : Bool
  paused : Bool

namespace Goat

def new : Goat := ⟨.new, fun _ => false, true, false⟩

def balanceOf (g : Goat) (a : Address) : Nat := g.token.balances a

def totalSupply (g : Goat) : Nat := g.token.totalSupply

/-- Only a minter mints. -/
def mint (g : Goat) (sender dst : Address) (amount : Nat) : Except Revert Goat := do
  require (g.isMinter sender) .notMinter
  -- the zero address is refused before `_update` looks at the pause
  require (dst ≠ 0) .erc20InvalidReceiver
  require (g.paused = false) .enforcedPause
  let token ← g.token.mint dst amount
  .ok { g with token }

/-- `if (amount > 0) goat.mint(dst, amount)`. -/
def mintSome (g : Goat) (sender dst : Address) (amount : Nat) : Except Revert Goat :=
  if 0 < amount then g.mint sender dst amount else .ok g

/-- The checks of `_update` between two accounts. -/
def checkUpdate (g : Goat) (r : Registry) (src dst : Address) : Except Revert Unit := do
  require (src ≠ 0) .erc20InvalidSender
  require (dst ≠ 0) .erc20InvalidReceiver
  require (g.restricted → r.isTransferAllowed src dst) .transferRestricted
  require (g.paused = false) .enforcedPause

def transfer (g : Goat) (r : Registry) (sender dst : Address) (amount : Nat) :
    Except Revert Goat := do
  g.checkUpdate r sender dst
  let token ← g.token.transfer sender dst amount
  .ok { g with token }

def transferFrom (g : Goat) (r : Registry) (sender src dst : Address) (amount : Nat) :
    Except Revert Goat := do
  let token ← g.token.spendAllowance src sender amount
  g.checkUpdate r src dst
  let token ← token.transfer src dst amount
  .ok { g with token }

def approve (g : Goat) (sender spender : Address) (amount : Nat) : Except Revert Goat := do
  let token ← g.token.approve sender spender amount
  .ok { g with token }

def setMinter (g : Goat) (safe sender who : Address) (status : Bool) : Except Revert Goat := do
  require (sender = safe) .notSafe
  .ok { g with isMinter := Function.update g.isMinter who status }

def liftRestriction (g : Goat) (safe sender : Address) : Except Revert Goat := do
  require (sender = safe) .notSafe
  .ok { g with restricted := false }

def pause (g : Goat) (safe sender : Address) : Except Revert Goat := do
  require (sender = safe) .notSafe
  require (g.paused = false) .enforcedPause
  .ok { g with paused := true }

def unpause (g : Goat) (safe sender : Address) : Except Revert Goat := do
  require (sender = safe) .notSafe
  require (g.paused = true) .expectedPause
  .ok { g with paused := false }

def call (g : Goat) (safe : Address) (r : Registry) (sender : Address) : GoatCall →
    Except Revert Goat
  | .transfer dst amount => g.transfer r sender dst amount.val
  | .transferFrom src dst amount => g.transferFrom r sender src dst amount.val
  | .approve spender amount => g.approve sender spender amount.val
  | .mint dst amount => g.mint sender dst amount.val
  | .setMinter who status => g.setMinter safe sender who status
  | .liftRestriction => g.liftRestriction safe sender
  | .pause => g.pause safe sender
  | .unpause => g.unpause safe sender

/-! ## What a successful call did -/

/-- A mint adds to one balance and to the supply. -/
structure Minted (g g' : Goat) (dst : Address) (amount : Nat) : Prop where
  balances_eq : g'.balanceOf = Function.update g.balanceOf dst (g.balanceOf dst + amount)
  supply_eq : g'.totalSupply = g.totalSupply + amount
  allowances_eq : g'.token.allowances = g.token.allowances
  isMinter_eq : g'.isMinter = g.isMinter

theorem mint_ok {g g' : Goat} {sender dst : Address} {amount : Nat}
    (h : g.mint sender dst amount = .ok g') : g.isMinter sender = true
    ∧ g.Minted g' dst amount := by
  obtain ⟨_, hminter, -, -, -, -, token, htoken, h⟩ := bind_ok₄.mp h
  cases h
  obtain ⟨hb, ha, hs⟩ := Erc20.mint_ok htoken
  exact ⟨require_ok.mp hminter, hb, hs, ha, rfl⟩

/-- A transfer moves a balance that was there. -/
structure Moved (g g' : Goat) (src dst : Address) (amount : Nat) : Prop where
  le : amount ≤ g.balanceOf src
  balances_eq : g'.balanceOf = Erc20.moved g.balanceOf src dst amount
  supply_eq : g'.totalSupply = g.totalSupply
  allowances_le : ∀ o p, g'.token.allowances o p ≤ g.token.allowances o p
  isMinter_eq : g'.isMinter = g.isMinter
  paused_eq : g'.paused = g.paused

theorem transfer_ok {g g' : Goat} {r : Registry} {sender dst : Address} {amount : Nat}
    (h : g.transfer r sender dst amount = .ok g') :
    g.Moved g' sender dst amount ∧ g'.token.allowances = g.token.allowances := by
  obtain ⟨-, -, token, htoken, h⟩ := bind_ok₂.mp h
  cases h
  obtain ⟨hle, hb, ha, hs⟩ := Erc20.transfer_ok htoken
  exact ⟨⟨hle, hb, hs, fun o p => (congrFun (congrFun ha o) p).le, rfl, rfl⟩, ha⟩

theorem transferFrom_ok {g g' : Goat} {r : Registry} {sender src dst : Address} {amount : Nat}
    (h : g.transferFrom r sender src dst amount = .ok g') :
    g.Moved g' src dst amount
      ∧ (g.token.allowances src sender = maxUint256 ∨ amount ≤ g.token.allowances src sender) := by
  obtain ⟨t₁, hspend, -, -, token, htoken, h⟩ := bind_ok₃.mp h
  cases h
  have hboth : g.token.transferFrom sender src dst amount = .ok token := by
    rw [Erc20.transferFrom, hspend]
    exact htoken
  obtain ⟨hle, hb, hs, ha, hallow⟩ := Erc20.transferFrom_ok hboth
  exact ⟨⟨hle, hb, hs, ha, rfl, rfl⟩, hallow⟩

theorem approve_ok {g g' : Goat} {sender spender : Address} {amount : Nat}
    (h : g.approve sender spender amount = .ok g') :
    g'.balanceOf = g.balanceOf ∧ g'.totalSupply = g.totalSupply
      ∧ (∀ o, o ≠ sender → g'.token.allowances o = g.token.allowances o)
      ∧ g'.isMinter = g.isMinter := by
  obtain ⟨token, htoken, h⟩ := bind_ok.mp h
  cases h
  obtain ⟨hb, hs, ha⟩ := Erc20.approve_ok htoken
  exact ⟨hb, hs, ha, rfl⟩

/-! ## The coins outside some accounts -/

/-- The coins that none of the accounts `held` hold. -/
def outside (g : Goat) (held : Finset Address) : Nat := ∑ a ∈ heldᶜ, g.balanceOf a

section
variable {g g' : Goat} {held : Finset Address} {src dst : Address} {amount : Nat}

theorem Moved.outside_le (h : g.Moved g' src dst amount) (hsrc : src ∉ held) :
    g'.outside held ≤ g.outside held := by
  have hmem : src ∈ heldᶜ := Finset.mem_compl.mpr hsrc
  have htaken := sum_update_on heldᶜ g.balanceOf src (g.balanceOf src - amount)
  have hgiven :=
    sum_update_on heldᶜ (Function.update g.balanceOf src (g.balanceOf src - amount)) dst
    (Function.update g.balanceOf src (g.balanceOf src - amount) dst + amount)
  have hle := h.le
  rw [if_pos hmem, if_pos hmem] at htaken
  unfold outside
  rw [h.balances_eq, Erc20.moved]
  split at hgiven
  · omega
  · omega

theorem Moved.outside_eq (h : g.Moved g' src dst amount) (hsrc : src ∉ held) (hdst : dst ∈ held) :
    g'.outside held + amount = g.outside held := by
  have hmem : src ∈ heldᶜ := Finset.mem_compl.mpr hsrc
  have hnot : dst ∉ heldᶜ := fun h => Finset.mem_compl.mp h hdst
  have htaken := sum_update_on heldᶜ g.balanceOf src (g.balanceOf src - amount)
  have hgiven :=
    sum_update_on heldᶜ (Function.update g.balanceOf src (g.balanceOf src - amount)) dst
    (Function.update g.balanceOf src (g.balanceOf src - amount) dst + amount)
  have hle := h.le
  rw [if_pos hmem, if_pos hmem] at htaken
  rw [if_neg hnot, if_neg hnot] at hgiven
  unfold outside
  rw [h.balances_eq, Erc20.moved]
  omega

theorem Minted.outside_le (h : g.Minted g' dst amount) :
    g'.outside held ≤ g.outside held + amount := by
  have hsum := sum_update_on heldᶜ g.balanceOf dst (g.balanceOf dst + amount)
  unfold outside
  rw [h.balances_eq]
  split at hsum
  · omega
  · omega

end

end Goat

end GoatCoin
