/-
# `GoatCoin.Contracts.RedemptionDesk` — the trade to USDT of `RedemptionDesk.sol`

    openWindow      the Safe only; the last window opened is the current one
    redeem          GOAT to the beneficiary, its value rounded down in USDT to the sender

The value of what is redeemed is rounded down call by call.
-/
import GoatCoin.Contracts.Goat

namespace GoatCoin

open Evm

namespace RedemptionDesk

/-- USDT units of six decimals for `1e18` of GOAT. -/
def rate : Nat := 10000

/-- A window of redemption. -/
structure Window where
  start : Nat
  finish : Nat
  perAccountCapGoat : Nat

/-- The immutables, and the address of the contract. -/
structure Config where
  self : Address
  safe : Address
  beneficiary : Address

end RedemptionDesk

/-- The storage of the desk. -/
structure RedemptionDesk where
  windowCount : Nat
  windows : Nat → RedemptionDesk.Window
  redeemedInWindow : Nat → Address → Nat

namespace RedemptionDesk

def new : RedemptionDesk := ⟨0, fun _ => ⟨0, 0, 0⟩, fun _ _ => 0⟩

/-- The Safe opens a window. -/
def openWindow (k : RedemptionDesk) (cfg : Config) (sender : Address) (start finish : Word 64)
    (perAccountCapGoat : Uint256) : Except Revert RedemptionDesk := do
  require (sender = cfg.safe) .notSafe
  let windowCount ← checked 256 (k.windowCount + 1) .panic
  .ok { k with
    windowCount
    windows := Function.update k.windows windowCount
      ⟨start.val, finish.val, perAccountCapGoat.val⟩ }

/-- The number of the current window and its cap; the number is 0 when there is none. -/
def currentWindow (k : RedemptionDesk) (now : Nat) : Nat × Nat :=
  let w := k.windows k.windowCount
  if k.windowCount = 0 ∨ now < w.start ∨ w.finish < now then (0, 0)
  else (k.windowCount, w.perAccountCapGoat)

def redeem (k : RedemptionDesk) (cfg : Config) (usdt : Erc20) (g : Goat) (r : Registry) (now : Nat)
    (sender : Address) (goatAmount : Nat) : Except Revert (RedemptionDesk × Erc20 × Goat) := do
  require (sender ≠ cfg.beneficiary) .beneficiaryCannotRedeem
  require (r.enrolled sender) .notEnrolled
  let (id, cap) := k.currentWindow now
  require (id ≠ 0) .noActiveWindow
  let redeemed ← checked 256 (k.redeemedInWindow id sender + goatAmount) .panic
  require (redeemed ≤ cap) .capExceeded
  let product ← checked 256 (goatAmount * rate) .panic
  let usdtOut := product / 10 ^ 18
  require (usdtOut ≠ 0) .zeroPayout
  let g ← g.transferFrom r cfg.self sender cfg.beneficiary goatAmount
  let usdt ← usdt.transfer cfg.self sender usdtOut
  .ok ({ k with
    redeemedInWindow := Function.update k.redeemedInWindow id
      (Function.update (k.redeemedInWindow id) sender redeemed) }, usdt, g)

theorem redeem_ok {k k' : RedemptionDesk} {cfg : Config} {usdt usdt' : Erc20} {g g' : Goat}
    {r : Registry} {now : Nat} {sender : Address} {goatAmount : Nat}
    (h : k.redeem cfg usdt g r now sender goatAmount = .ok (k', usdt', g')) :
    g.Moved g' sender cfg.beneficiary goatAmount
      ∧ usdt.transfer cfg.self sender (goatAmount * rate / 10 ^ 18) = .ok usdt' := by
  obtain ⟨-, -, -, -, h⟩ := bind_ok₂.mp h
  dsimp only at h
  obtain ⟨-, -, redeemed, -, -, -, product, hproduct, h⟩ := bind_ok₄.mp h
  obtain ⟨-, rfl⟩ := checked_ok.mp hproduct
  obtain ⟨-, -, g₁, hgoat, usdt₁, husdt, h⟩ := bind_ok₃.mp h
  cases h
  exact ⟨(Goat.transferFrom_ok hgoat).1, husdt⟩

end RedemptionDesk

end GoatCoin
