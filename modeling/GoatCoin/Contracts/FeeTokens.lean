/-
# `GoatCoin.Contracts.FeeTokens` — `EnrollmentRegistry.sol` and `FeeTokenRegistry.sol`

The first says who may hold coins, the second which tokens a fee may be paid in:

    enrolled        the wallet itself, by a call or a signature; the Safe either way
    authorized      active, on this chain, the code that was approved, every capability asked for

Both are asked by the wallet registry and by the gateway.
-/
import GoatCoin.Contracts.Goat
import GoatCoin.Contracts.TypedData

namespace GoatCoin

open Function (update update_self)
open Evm StreamG

/-- What a call is made in: the block, the chain, and the code that accounts have. -/
structure Site where
  now : Uint256
  chainId : Uint256
  codehash : Address → Bytes32

/-! ## `EnrollmentRegistry` -/

structure EnrollmentRegistry where
  enrolled : Address → Bool
  systemAddress : Address → Bool
  blacklisted : Address → Bool
  nonces : Address → Nat

namespace EnrollmentRegistry

variable (r : EnrollmentRegistry)

/-- What a coin asks of it. -/
def registry : Registry := ⟨r.enrolled, r.systemAddress⟩

/-- `_enroll`. -/
def enroll (wallet : Address) : Except Revert EnrollmentRegistry := do
  require (r.blacklisted wallet = false) .blacklisted
  require (r.enrolled wallet = false) .alreadyEnrolled
  .ok { r with enrolled := update r.enrolled wallet true }

/-- The caller enrolls itself. -/
def enrollSelf (sender : Address) : Except Revert EnrollmentRegistry := r.enroll sender

def enrollSelfWithSignature (e : Ecdsa) (domain : Bytes32) (now : Nat) (wallet : Address)
    (deadline : Nat) (signature : EthSignature) : Except Revert EnrollmentRegistry := do
  require (now ≤ deadline) .expiredSignature
  require (wallet ≠ 0) .badSignature
  let nonce := r.nonces wallet
  let next ← checked 256 (nonce + 1) .panic
  let signer ← e.recover (hashTypedData domain (enrollStructHash wallet nonce deadline)) signature
  require (signer = wallet) .badSignature
  enroll { r with nonces := update r.nonces wallet next } wallet

def setEnrolled (safe sender who : Address) (status : Bool) : Except Revert EnrollmentRegistry := do
  require (sender = safe) .notSafe
  .ok { r with enrolled := update r.enrolled who status }

def setBlacklisted (safe sender who : Address) (status : Bool) :
    Except Revert EnrollmentRegistry := do
  require (sender = safe) .notSafe
  .ok { r with
    blacklisted := update r.blacklisted who status
    enrolled := if status then update r.enrolled who false else r.enrolled }

def setSystemAddress (safe sender who : Address) (status : Bool) :
    Except Revert EnrollmentRegistry := do
  require (sender = safe) .notSafe
  .ok { r with systemAddress := update r.systemAddress who status }

end EnrollmentRegistry

/-! ## `FeeTokenRegistry` -/

def roleFeeTokenRegistry : Bytes32 := keccakText "FEE_TOKEN_REGISTRY"
def roleWalletSponsorshipRegistry : Bytes32 := keccakText "WALLET_SPONSORSHIP_REGISTRY"
def roleSponsoredBuyDesk : Bytes32 := keccakText "SPONSORED_BUY_DESK"
def roleGateway : Bytes32 := keccakText "GATEWAY"

structure RoleCommitment where
  addr : Address
  runtimeCodeHash : Bytes32

structure FeeTokenRegistry where
  activeManifestHash : Bytes32
  roleCommitments : Bytes32 → RoleCommitment
  tokenConfigs : Address → FeeTokenConfig
  tokenConfigHashes : Address → Bytes32

namespace FeeTokenRegistry

variable (f : FeeTokenRegistry)

/-- The manifest in force. -/
def setActiveManifestHash (policySafe sender : Address) (manifestHash : Bytes32) :
    Except Revert FeeTokenRegistry := do
  require (sender = policySafe) .notPolicySafe
  .ok { f with activeManifestHash := manifestHash }

def IsKnownRole (roleId : Bytes32) : Prop :=
  roleId = roleFeeTokenRegistry ∨ roleId = roleWalletSponsorshipRegistry
    ∨ roleId = roleSponsoredBuyDesk ∨ roleId = roleGateway

instance (roleId : Bytes32) : Decidable (IsKnownRole roleId) :=
  inferInstanceAs (Decidable (_ ∨ _ ∨ _ ∨ _))

def setRoleCommitment (policySafe sender : Address) (roleId : Bytes32) (addr : Address)
    (runtimeCodeHash : Bytes32) : Except Revert FeeTokenRegistry := do
  require (sender = policySafe) .notPolicySafe
  require (IsKnownRole roleId) .unknownRole
  .ok { f with
    roleCommitments := update f.roleCommitments roleId ⟨addr, runtimeCodeHash⟩ }

/-- `_hashConfig`. -/
def hashConfig (cfg : FeeTokenConfig) : Bytes32 :=
  structHash feeTokenConfigTypehash
    [cfg.chainId.val, cfg.token.val, cfg.runtimeCodeHash.val, cfg.proxyIdentityHash.val,
     cfg.capabilityMask.val, cfg.decimals.val, cfg.domainNameHash.val, cfg.domainVersionHash.val,
     cfg.builtInModeId.val, cfg.configVersion.val, if cfg.active then 1 else 0]

def store (cfg : FeeTokenConfig) : FeeTokenRegistry :=
  { f with
    tokenConfigs := update f.tokenConfigs cfg.token cfg
    tokenConfigHashes := update f.tokenConfigHashes cfg.token (hashConfig cfg) }

theorem tokenConfigHashes_store (cfg : FeeTokenConfig) :
    (f.store cfg).tokenConfigHashes cfg.token = hashConfig cfg := update_self ..

/-- Writes the config of a token. -/
def upsertTokenConfig (policySafe sender : Address) (cfg : FeeTokenConfig) :
    Except Revert FeeTokenRegistry := do
  require (sender = policySafe) .notPolicySafe
  require (cfg.token ≠ 0) .zeroToken
  require (cfg.proxyIdentityHash = 0) .proxyIdentityUnsupported
  let next ← checked 64 ((f.tokenConfigs cfg.token).configVersion.val + 1) .panic
  .ok (f.store { cfg with proxyIdentityHash := 0, configVersion := Fin.ofNat _ next })

/-- Takes a token out of use. -/
def deactivateToken (policySafe sender token : Address) : Except Revert FeeTokenRegistry := do
  require (sender = policySafe) .notPolicySafe
  require (token ≠ 0) .zeroToken
  let stored := f.tokenConfigs token
  require (stored.configVersion ≠ 0) .tokenNotConfigured
  let next ← checked 64 (stored.configVersion.val + 1) .panic
  let stored := { stored with active := false, configVersion := Fin.ofNat _ next }
  .ok { f with
    tokenConfigs := update f.tokenConfigs token stored
    tokenConfigHashes := update f.tokenConfigHashes token (hashConfig stored) }

/-- `_isAuthorized`. -/
def IsAuthorized (site : Site) (token : Address) (requiredCapability : Uint256) : Prop :=
  (f.tokenConfigs token).active = true
    ∧ (f.tokenConfigs token).token = token
    ∧ (f.tokenConfigs token).chainId = site.chainId
    ∧ site.codehash token = (f.tokenConfigs token).runtimeCodeHash
    ∧ (f.tokenConfigs token).capabilityMask.val &&& requiredCapability.val = requiredCapability.val

instance (site : Site) (token : Address) (requiredCapability : Uint256) :
    Decidable (f.IsAuthorized site token requiredCapability) :=
  inferInstanceAs (Decidable (_ ∧ _ ∧ _ ∧ _ ∧ _))

def assertTokenAuthorized (site : Site) (token : Address) (requiredCapability : Uint256) :
    Except Revert Unit :=
  require (f.IsAuthorized site token requiredCapability) .tokenNotAuthorized

end FeeTokenRegistry

end GoatCoin
