/-
# `GoatCoin.Contracts.Relay` — what the gateway calls: tokens, and `SponsoredBuyDesk.sol`

A token is an ERC-20 with the extensions that its code has:

    permit                      an allowance, by a signature over the owner's next nonce
    receiveWithAuthorization    a transfer, by a signature over a nonce of the owner's choice

GOAT is one of them; a token that is neither paused nor restricted is a plain one.  The desk
buys GOAT for its own USDT at its bid, and pays the fee out of the proceeds:

    seller ── goatAmount GOAT ──▶ owner ── gross - fee USDT ──▶ seller
                                        ── fee USDT ──────────▶ feeSafe

The tokens here do what they say and call nobody.
-/
import GoatCoin.Contracts.Wallets

namespace GoatCoin

open Function (update)
open Evm StreamG

/-! ## Tokens -/

structure Token where
  coin : Goat
  nonces : Address → Nat
  authorizationState : Address → Bytes32 → Bool
  domain : Bytes32
  permits : Bool
  authorizes : Bool

namespace Token

variable (t : Token)

def balanceOf (a : Address) : Nat := t.coin.balanceOf a

def allowance (owner spender : Address) : Nat := t.coin.token.allowances owner spender

/-- The digest of a permit with the owner's next nonce. -/
def permitDigest (p : Eip2612Authorization) : Bytes32 :=
  hashTypedData t.domain (structHash eip2612PermitTypehash
    [p.owner.val, p.spender.val, p.value.val, t.nonces p.owner, p.deadline.val])

/-- `ERC20Permit.permit`; the nonce is counted up unchecked. -/
def permit (e : Ecdsa) (now : Nat) (p : Eip2612Authorization) : Except Revert Token := do
  require (t.permits = true) .noSuchFunction
  require (now ≤ p.deadline.val) .erc2612ExpiredSignature
  let signer ← e.recoverVrs (t.permitDigest p) p.v p.r p.s
  require (signer = p.owner) .erc2612InvalidSigner
  let token ← t.coin.token.approve p.owner p.spender p.value.val
  .ok { t with
    coin := { t.coin with token }
    nonces := update t.nonces p.owner ((t.nonces p.owner + 1) % 2 ^ 256) }

def authorizationDigest (a : Eip3009Authorization) : Bytes32 :=
  hashTypedData t.domain (structHash eip3009ReceiveWithAuthorizationTypehash
    [a.src.val, a.dst.val, a.value.val, a.validAfter.val, a.validBefore.val, a.nonce.val])

def transfer (r : Registry) (sender dst : Address) (amount : Nat) : Except Revert Token := do
  let coin ← t.coin.transfer r sender dst amount
  .ok { t with coin }

def transferFrom (r : Registry) (sender src dst : Address) (amount : Nat) :
    Except Revert Token := do
  let coin ← t.coin.transferFrom r sender src dst amount
  .ok { t with coin }

def receiveWithAuthorization (e : Ecdsa) (r : Registry) (now : Nat) (a : Eip3009Authorization) :
    Except Revert Token := do
  require (t.authorizes = true) .noSuchFunction
  require (a.validAfter.val < now) .authorizationNotYetValid
  require (now < a.validBefore.val) .authorizationExpired
  require (t.authorizationState a.src a.nonce = false) .authorizationUsed
  let signer ← e.recoverVrs (t.authorizationDigest a) a.v a.r a.s
  require (signer = a.src) .invalidSigner
  transfer
    { t with
      authorizationState := update t.authorizationState a.src
        (update (t.authorizationState a.src) a.nonce true) }
    r a.src a.dst a.value.val

end Token

/-! ## The desk -/

/-- A session of sales. -/
structure DeskSession where
  start : Word 64
  stop : Word 64
  rootSessionCapGoat : Uint256
  closed : Bool

/-- The immutables stand first; the desk is deployed over the registries of the gateway. -/
structure SponsoredBuyDesk where
  owner : Address
  usdt : Address
  goat : Address
  feeSafe : Address
  dailyRootCapGoat : Uint256
  gateway : Address
  gatewayBound : Bool
  bid : Uint256
  sessionCount : Nat
  sessions : Nat → DeskSession
  soldInSession : Nat → Address → Nat
  soldPerUtcDay : Nat → Address → Nat

/-- Everything that the gateway talks to. -/
structure World where
  site : Site
  v1 : EnrollmentRegistry
  fees : FeeTokenRegistry
  wallets : WalletSponsorshipRegistry
  tokens : Address → Token
  desks : Address → SponsoredBuyDesk

namespace World

variable (w : World)

def now : Nat := w.site.now.val

def balance (token a : Address) : Nat := (w.tokens token).balanceOf a

def setToken (token : Address) (t : Token) : World :=
  { w with tokens := update w.tokens token t }

/-- An allowance by signature. -/
def permit (e : Ecdsa) (token : Address) (p : Eip2612Authorization) : Except Revert World := do
  let t ← (w.tokens token).permit e w.now p
  .ok (w.setToken token t)

def transfer (token sender dst : Address) (amount : Nat) : Except Revert World := do
  let t ← (w.tokens token).transfer w.v1.registry sender dst amount
  .ok (w.setToken token t)

def transferFrom (token sender src dst : Address) (amount : Nat) : Except Revert World := do
  let t ← (w.tokens token).transferFrom w.v1.registry sender src dst amount
  .ok (w.setToken token t)

def receiveWithAuthorization (e : Ecdsa) (token : Address) (a : Eip3009Authorization) :
    Except Revert World := do
  let t ← (w.tokens token).receiveWithAuthorization e w.v1.registry w.now a
  .ok (w.setToken token t)

/-- `if (balanceOf(a) != before + amount) revert …`. -/
def requireGain (token a : Address) (before amount : Nat) (e : Revert) : Except Revert Unit := do
  let after ← checked 256 (before + amount) .panic
  require (w.balance token a = after) e

/-- `if (balanceOf(a) != before - amount) revert …`. -/
def requireLoss (token a : Address) (before amount : Nat) (e : Revert) : Except Revert Unit := do
  let after ← checkedSub before amount .panic
  require (w.balance token a = after) e

end World

namespace SponsoredBuyDesk

variable (k : SponsoredBuyDesk)

def bindGatewayOnce (sender gateway : Address) : Except Revert SponsoredBuyDesk := do
  require (sender = k.owner) .notOwner
  require (k.gatewayBound = false) .gatewayAlreadyBound
  require (gateway ≠ 0) .zeroAddress
  .ok { k with gateway, gatewayBound := true }

def setBid (sender : Address) (bid : Uint256) : Except Revert SponsoredBuyDesk := do
  require (sender = k.owner) .notOwner
  .ok { k with bid }

/-- A session of sales begins. -/
def openSession (now : Nat) (sender : Address) (start stop : Word 64)
    (rootSessionCapGoat : Uint256) :
    Except Revert SponsoredBuyDesk := do
  require (sender = k.owner) .notOwner
  require (start < stop) .invalidSession
  let prev := k.sessions k.sessionCount
  require (¬ (0 < k.sessionCount ∧ prev.closed = false ∧ now ≤ prev.stop.val)) .invalidSession
  let id ← checked 256 (k.sessionCount + 1) .panic
  .ok { k with
    sessionCount := id
    sessions := update k.sessions id ⟨start, stop, rootSessionCapGoat, false⟩ }

/-- The session is over. -/
def closeSession (sender : Address) : Except Revert SponsoredBuyDesk := do
  require (sender = k.owner) .notOwner
  if k.sessionCount = 0 then .ok k
  else .ok { k with
    sessions := update k.sessions k.sessionCount
      { k.sessions k.sessionCount with closed := true } }

/-- The id of the open session and its cap; no session has the id zero. -/
def currentSession (now : Nat) : Nat × Nat :=
  let s := k.sessions k.sessionCount
  if k.sessionCount = 0 ∨ s.closed = true ∨ now < s.start.val ∨ s.stop.val < now then (0, 0)
  else (k.sessionCount, s.rootSessionCapGoat.val)

/-- `goatAmount * bid / 1e18`. -/
def grossUsdtOut (goatAmount : Nat) : Except Revert Nat := do
  let product ← checked 256 (goatAmount * k.bid.val) .panic
  .ok (product / 10 ^ 18)

/-- `if (amount > 0) usdt.safeTransferFrom(owner, dst, amount)`, by the desk. -/
def pay (self : Address) (w : World) (dst : Address) (amount : Nat) : Except Revert World :=
  if 0 < amount then w.transferFrom k.usdt self k.owner dst amount else .ok w

end SponsoredBuyDesk

open SponsoredBuyDesk in
/-- `sellFor` of the desk at an address, with the gross and the net. -/
def World.sellFor (w : World) (e : Ecdsa) (self sender seller expectedRoot : Address)
    (goatAmount minNetUsdtOut feeAmount : Nat) (goatPermit : Eip2612Authorization) :
    Except Revert (World × Address × Nat × Nat) := do
  let k := w.desks self
  require (sender = k.gateway) .notGateway
  require (seller ≠ k.owner) .ownerCannotSell
  require (w.v1.enrolled seller = true) .notEnrolled
  require (w.v1.blacklisted seller = false) .blacklisted
  let root := w.wallets.primaryOf seller
  require (¬ (root = 0 ∨ root ≠ expectedRoot)) .rootMismatch
  require (w.wallets.suspendedClusters root = false) .clusterSuspended
  let (id, sessionCap) := k.currentSession w.now
  require (id ≠ 0) .noActiveSession
  let sessionSold ← checked 256 (k.soldInSession id root + goatAmount) .panic
  require (sessionSold ≤ sessionCap) .sessionCapExceeded
  let dayIndex := w.now / 86400
  let daySold ← checked 256 (k.soldPerUtcDay dayIndex root + goatAmount) .panic
  require (daySold ≤ k.dailyRootCapGoat.val) .dailyCapExceeded
  require (¬ (goatPermit.owner ≠ seller ∨ goatPermit.spender ≠ self
    ∨ goatPermit.value.val ≠ goatAmount)) .invalidGoatPermit
  let w ← w.permit e k.goat goatPermit
  let gross ← k.grossUsdtOut goatAmount
  require (gross ≠ 0) .zeroPayout
  require (feeAmount ≤ gross) .feeExceedsGross
  let net := gross - feeAmount
  require (minNetUsdtOut ≤ net) .minNetNotMet
  let w₀ := { w with
    desks := update w.desks self { k with
      soldInSession := update k.soldInSession id
        (update (k.soldInSession id) root sessionSold)
      soldPerUtcDay := update k.soldPerUtcDay dayIndex
        (update (k.soldPerUtcDay dayIndex) root daySold) } }
  let w ← w₀.transferFrom k.goat self seller k.owner goatAmount
  let w ← k.pay self w seller net
  let w ← k.pay self w k.feeSafe feeAmount
  w.requireGain k.goat k.owner (w₀.balance k.goat k.owner) goatAmount .invalidGoatPermit
  w.requireLoss k.goat seller (w₀.balance k.goat seller) goatAmount .invalidGoatPermit
  w.requireLoss k.usdt k.owner (w₀.balance k.usdt k.owner) gross .zeroPayout
  w.requireGain k.usdt seller (w₀.balance k.usdt seller) net .zeroPayout
  w.requireGain k.usdt k.feeSafe (w₀.balance k.usdt k.feeSafe) feeAmount .zeroPayout
  .ok (w, root, gross, net)

end GoatCoin
