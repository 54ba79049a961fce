/-
# `GoatCoin.StreamG.Preflight` — `preflight.rs`: would the enrollment go through?

Before a sponsored enrollment is sent it is checked against the chain as it was at one block:

    read_live_preflight_state         the token, the snapshot of the gateway, the clock
    preflight_sponsored_enrollment    what the contract checks, in its order

A check that fails is a `WouldRevert`, and names the revert that the contract would answer with; a
state that is about something else, or a token that is not authorized, are errors of their own.
What cannot be read is not checked, and is listed (`unverifiedChecks`).

The texts that go with an error are left out.
-/
import GoatCoin.Contracts.AuthorizationBinding
import GoatCoin.StreamG.Encoders

namespace GoatCoin

open Evm StreamG

/-! ## The snapshot of the gateway -/

def snapActionNonce : Nat := 1
def snapV1EnrollNonce : Nat := 2
def snapLinkNonce : Nat := 4
def snapRootRegNonce : Nat := 8
def snapRotationNonce : Nat := 16
def snapController : Nat := 32
def snapGoatPermitNonce : Nat := 64
def snapFeeTokenPermitNonce : Nat := 128
def snapConfigHashes : Nat := 256

/-- `StreamGTypes.NonceSnapshot`. -/
structure NonceSnapshot where
  blockNumber : Word 64
  actionNonce : Nat
  v1EnrollNonce : Nat
  linkNonce : Nat
  rootRegistrationNonce : Nat
  rotationNonce : Nat
  controllerEpoch : Nat
  controller : Address
  goatPermitNonce : Nat
  feeTokenPermitNonce : Nat
  presentMask : Nat
  deploymentManifestHash : Bytes32
  feeTokenConfigHash : Bytes32
  feeScheduleHash : Bytes32

namespace GoatRelayGateway

variable (g : GoatRelayGateway) (cfg : Config) (w : World)

/-- `_snapshot`. -/
def snapshot (blockNumber : Word 64) (actionType : Bytes32)
    (signer root secondary feeToken : Address) :
    NonceSnapshot :=
  let controller := w.wallets.controllerOf root
  let goatOwner := if controller ≠ 0 then controller else if root ≠ 0 then root else signer
  let authorized := feeToken ≠ 0 ∧ w.fees.IsAuthorized w.site feeToken capEip2612
  { blockNumber
    actionNonce := g.actionNonces signer actionType
    v1EnrollNonce := w.v1.nonces (if secondary = 0 then signer else secondary)
    linkNonce := if secondary ≠ 0 then w.wallets.linkNonces secondary else 0
    rootRegistrationNonce := if root ≠ 0 then w.wallets.rootRegistrationNonces root else 0
    rotationNonce := if root ≠ 0 then w.wallets.rotationNonces root else 0
    controllerEpoch := if root ≠ 0 then w.wallets.controllerEpoch root else 0
    controller := if root ≠ 0 then controller else 0
    goatPermitNonce := (w.tokens cfg.goat).nonces goatOwner
    feeTokenPermitNonce := if authorized then (w.tokens feeToken).nonces goatOwner else 0
    presentMask :=
    snapActionNonce ||| snapV1EnrollNonce ||| (if secondary ≠ 0 then snapLinkNonce else 0)
      ||| (if root ≠ 0 then snapRootRegNonce ||| snapRotationNonce ||| snapController else 0)
      ||| snapGoatPermitNonce ||| snapConfigHashes
      ||| (if authorized then snapFeeTokenPermitNonce else 0)
    deploymentManifestHash := w.fees.activeManifestHash
    feeTokenConfigHash := if authorized then w.fees.tokenConfigHashes feeToken else 0
    feeScheduleHash := g.feeScheduleHash }

def secondaryEnrollmentNonceSnapshot (blockNumber : Word 64)
    (root secondary feeToken : Address) : NonceSnapshot :=
  g.snapshot cfg w blockNumber actionSponsoredEnrollment
    (if w.wallets.controllerOf root = 0 then root else w.wallets.controllerOf root) root
      secondary feeToken

end GoatRelayGateway

namespace StreamG.Preflight

/-! ## What the relayer reads -/

/-- The nonces at one block. -/
structure NonceSnapshotView where
  blockNumber : Word 64
  actionNonce : Word 128
  v1EnrollNonce : Word 128
  linkNonce : Word 128
  rootRegistrationNonce : Word 128
  rotationNonce : Word 128
  controllerEpoch : Word 128
  controller : Address
  goatPermitNonce : Word 128
  feeTokenPermitNonce : Word 128
  presentMask : Nat
  deploymentManifestHash : Bytes32
  feeTokenConfigHash : Bytes32
  feeScheduleHash : Bytes32

/-- `decode_nonce_snapshot_return`: what does not fit is refused. -/
def decodeNonceSnapshot (s : NonceSnapshot) : Option NonceSnapshotView := do
  let actionNonce ← narrow 128 s.actionNonce
  let v1EnrollNonce ← narrow 128 s.v1EnrollNonce
  let linkNonce ← narrow 128 s.linkNonce
  let rootRegistrationNonce ← narrow 128 s.rootRegistrationNonce
  let rotationNonce ← narrow 128 s.rotationNonce
  let controllerEpoch ← narrow 128 s.controllerEpoch
  let goatPermitNonce ← narrow 128 s.goatPermitNonce
  let feeTokenPermitNonce ← narrow 128 s.feeTokenPermitNonce
  return ⟨s.blockNumber, actionNonce, v1EnrollNonce, linkNonce, rootRegistrationNonce,
    rotationNonce, controllerEpoch,
    s.controller, goatPermitNonce, feeTokenPermitNonce, s.presentMask, s.deploymentManifestHash,
    s.feeTokenConfigHash, s.feeScheduleHash⟩

/-- `FeeTokenConfigView`, and `TokenCapability`. -/
structure TokenCapability where
  chainId : Word 64
  tokenAddress : Address
  runtimeCodeHash : Bytes32
  proxyIdentityHash : Bytes32
  capabilityMask : Word 128
  decimals : Word 8
  domainNameHash : Bytes32
  domainVersionHash : Bytes32
  builtInModeId : Bytes32
  configVersion : Word 64
  active : Bool

/-- `decode_fee_token_config_return`. -/
def decodeFeeTokenConfig (cfg : FeeTokenConfig) : Option TokenCapability := do
  let chainId ← narrow 64 cfg.chainId.val
  let capabilityMask ← narrow 128 cfg.capabilityMask.val
  return ⟨chainId, cfg.token, cfg.runtimeCodeHash, cfg.proxyIdentityHash, capabilityMask,
    cfg.decimals, cfg.domainNameHash,
    cfg.domainVersionHash, cfg.builtInModeId, cfg.configVersion, cfg.active⟩

def feeTokenConfigTypehashStr : String :=
  "FeeTokenConfig(uint256 chainId,address token,bytes32 runtimeCodeHash,bytes32 proxyIdentityHash,uint256 capabilityMask,uint8 decimals,bytes32 domainNameHash,bytes32 domainVersionHash,bytes32 builtInModeId,uint64 configVersion,bool active)"

def feeTokenConfigHash (cfg : TokenCapability) : Bytes32 :=
  keccak256
    (bytes32 (keccakText feeTokenConfigTypehashStr) ++ u256Be (fromU64 cfg.chainId)
    ++ addressWord cfg.tokenAddress
    ++ bytes32 cfg.runtimeCodeHash ++ bytes32 cfg.proxyIdentityHash ++ u256Be cfg.capabilityMask
    ++ u256BeU8 cfg.decimals
    ++ bytes32 cfg.domainNameHash ++ bytes32 cfg.domainVersionHash ++ bytes32 cfg.builtInModeId
    ++ u256Be (fromU64 cfg.configVersion) ++ u256BeU8 (if cfg.active then 1 else 0))

/-- What the relayer asks the chain, and an error text where there is no answer. -/
structure ChainClient where
  pinnedBlockNumber : Except String (Word 64)
  chainId : Except String (Word 64)
  feeTokenCodeHash : (token : Address) → (block : Word 64) → Except String Bytes32
  feeTokenConfig : (registry token : Address) → (block : Word 64) → Except String TokenCapability
  feeTokenConfigHash : (registry token : Address) → (block : Word 64) → Except String Bytes32
  activeManifestHash : (registry : Address) → (block : Word 64) → Except String Bytes32
  secondaryEnrollmentNonceSnapshot : (gateway root secondary feeToken : Address) →
    (block : Word 64) → Except String NonceSnapshotView
  erc2612Nonces : (token owner : Address) → (block : Word 64) → Except String (Word 64)
  blockTimestampAt : (block : Word 64) → Except String (Word 64)

/-- The parts of the manifest that the preflight uses. -/
structure DeploymentManifest where
  chainId : Word 64
  enrollmentRegistry : Address
  feeToken : Address
  feeTokenRegistry : Address
  walletSponsorshipRegistry : Address
  goatRelayGateway : Address
  feeSafe : Address
  quoteSigner : Address

/-! ## Errors -/

inductive Check where
  | expiredDeadline
  | zeroRootOrSecondary
  | linkFieldsMismatch
  | v1WalletMismatch
  | controllerUnset
  | controllerMismatch
  | epochMismatch
  | enrollDigestMismatch
  | badV1Signature
  | linkDigestMismatch
  | badLinkSignature
  | nonZeroRootAuthorizationDigest
  | nonZeroRootAuthorization
  | directEthQuoteSignaturePresent
  | directEthQuoteNotZeroed
  | directEthFeeAuthorizationNotNone
  | zeroQuoteSigner
  | zeroQuoteId
  | quoteActionTypeMismatch
  | quotePayerMismatch
  | quoteFeeRecipientMismatch
  | quoteFeeTokenMismatch
  | zeroQuoteFeeAmount
  | feeExceedsMax
  | quoteWindow
  | manifestHashMismatch
  | feeScheduleHashMismatch
  | feeTokenConfigHashMismatch
  | quoteActionCoreHashMismatch
  | badQuoteSignature
  | feeQuoteHashMismatch
  | unsupportedFeeMode
  | badSponsorSignature
  | zeroIntentId
  | badActionNonce
  | v1EnrollNonceUnusable
  | feeAuthorizationModeNotEip2612
  | eip2612FeeFieldsMismatch
  | linkSecondaryEqualsRoot
  | linkDeadlineExpired
  | linkNonceMismatch
deriving DecidableEq

/-- Why a token is refused. -/
inductive TokenManifestError where
  | tokenNotAuthorized (reason : String)
  | zeroRequiredCapability
  | proxyIdentityUnsupported
  | chainRead (what : String)
  | feeTokenConfigHashMismatch
deriving DecidableEq

inductive LiveNoncesError where
  | fieldNotPresent (field : String)
  | feeTokenUnauthorizedBySnapshot
  | nonceOutOfRange (field : String)
deriving DecidableEq

/-- Why the preflight refuses. -/
inductive PreflightError where
  | chainRead (what : String)
  | tokenState (e : TokenManifestError)
  | nonces (e : LiveNoncesError)
  | endpointChainMismatch (endpointChainId manifestChainId : Word 64)
  | stateMisbound (what : String)
  | snapshotToctouMismatch
  | wouldRevert (check : Check)
  | permitWouldRevert
  | permitNonceMisbound
deriving DecidableEq

/-- The error says that the transaction would revert. -/
def PreflightError.alarm : PreflightError → Bool
  | .wouldRevert _ => true
  | .permitWouldRevert => true
  | _ => false

/-! ## The state -/

/-- What is read of a token. -/
structure LiveTokenReading where
  queriedToken : Address
  liveChainId : Word 64
  observedCodeHash : Bytes32
  capability : TokenCapability
  feeTokenConfigHash : Bytes32
  block : Word 64

structure LiveEnrollmentNonces where
  v1EnrollNonce : Word 64
  linkNonce : Word 64
  blockNumber : Word 64
  feeTokenConfigHash : Bytes32

structure LivePreflightState where
  liveToken : LiveTokenReading
  liveNonces : LiveEnrollmentNonces
  snapshot : NonceSnapshotView
  activeManifestHash : Bytes32
  chainNow : Word 64
  feeTokenPermitNonce : Word 128
  block : Word 64
  gateway : Address
  registry : Address
  queriedRoot : Address
  queriedSecondary : Address
  queriedFeeToken : Address

def ask {α : Type} (what : String) (answer : Except String α) : Except PreflightError α :=
  answer.mapError fun _ => .chainRead what

def askToken {α : Type} (what : String) (answer : Except String α) : Except PreflightError α :=
  answer.mapError fun _ => .tokenState (.chainRead what)

def readLiveTokenState (chain : ChainClient) (registry token : Address) (block : Word 64) :
    Except PreflightError LiveTokenReading := do
  let liveChainId ← askToken "eth_chainId" chain.chainId
  let observedCodeHash ← askToken "eth_getCode/keccak256(feeToken)"
    (chain.feeTokenCodeHash token block)
  let capability ← askToken "FeeTokenRegistry.getTokenConfig"
    (chain.feeTokenConfig registry token block)
  let hash ← askToken "FeeTokenRegistry.getTokenConfigHash"
    (chain.feeTokenConfigHash registry token block)
  require (Preflight.feeTokenConfigHash capability = hash) (.tokenState .feeTokenConfigHashMismatch)
  require (capability.proxyIdentityHash = 0) (.tokenState .proxyIdentityUnsupported)
  require (capability.active = true) (.tokenState (.tokenNotAuthorized "inactive or unknown"))
  return ⟨token, liveChainId, observedCodeHash, capability, hash, block⟩

def assertTokenAuthorized (reading : LiveTokenReading) (requiredCapability : Nat) :
    Except PreflightError Unit := do
  let live := reading.capability
  require (requiredCapability ≠ 0) (.tokenState .zeroRequiredCapability)
  require (live.proxyIdentityHash = 0) (.tokenState (.tokenNotAuthorized
    "proxyIdentityHash non-zero (impossible on-chain state; defense in depth)"))
  require (live.active = true) (.tokenState (.tokenNotAuthorized "inactive or unknown"))
  require (live.tokenAddress = reading.queriedToken)
    (.tokenState (.tokenNotAuthorized "configured token address mismatch"))
  require (live.chainId = reading.liveChainId)
    (.tokenState (.tokenNotAuthorized "configured chainId does not match live chain"))
  require (reading.observedCodeHash = live.runtimeCodeHash)
    (.tokenState
      (.tokenNotAuthorized "observed EXTCODEHASH does not match configured runtimeCodeHash"))
  require (live.capabilityMask.val &&& requiredCapability = requiredCapability)
    (.tokenState (.tokenNotAuthorized "capabilityMask does not grant the required capability"))

def requireBit (mask bit : Nat) (field : String) : Except PreflightError Unit :=
  require (mask &&& bit ≠ 0) (.nonces (.fieldNotPresent field))

def narrowNonce (value : Word 128) (field : String) : Except PreflightError (Word 64) :=
  match narrow 64 value.val with
  | some n => .ok n
  | none => .error (.nonces (.nonceOutOfRange field))

/-- `LiveEnrollmentNonces::from_snapshot`. -/
def fromSnapshot (s : NonceSnapshotView) : Except PreflightError LiveEnrollmentNonces := do
  require (s.presentMask &&& snapFeeTokenPermitNonce ≠ 0) (.nonces .feeTokenUnauthorizedBySnapshot)
  requireBit s.presentMask snapV1EnrollNonce "v1EnrollNonce"
  requireBit s.presentMask snapLinkNonce "linkNonce"
  requireBit s.presentMask snapConfigHashes "feeTokenConfigHash/manifest hashes"
  let v1EnrollNonce ← narrowNonce s.v1EnrollNonce "v1EnrollNonce"
  let linkNonce ← narrowNonce s.linkNonce "linkNonce"
  return ⟨v1EnrollNonce, linkNonce, s.blockNumber, s.feeTokenConfigHash⟩

/-- All readings, at one block. -/
def readLivePreflightState (chain : ChainClient) (manifest : DeploymentManifest)
    (root secondary : Address) :
    Except PreflightError LivePreflightState := do
  let block ← ask "eth_blockNumber" chain.pinnedBlockNumber
  let liveToken ← readLiveTokenState chain manifest.feeTokenRegistry manifest.feeToken block
  require (liveToken.liveChainId = manifest.chainId)
    (.endpointChainMismatch liveToken.liveChainId manifest.chainId)
  let activeManifestHash ← ask "FeeTokenRegistry.activeManifestHash"
    (chain.activeManifestHash manifest.feeTokenRegistry block)
  let snapshot ← ask "GoatRelayGateway.secondaryEnrollmentNonceSnapshot"
    (chain.secondaryEnrollmentNonceSnapshot manifest.goatRelayGateway root secondary
      manifest.feeToken block)
  let liveNonces ← fromSnapshot snapshot
  require (snapshot.presentMask &&& snapController ≠ 0)
    (.chainRead "GoatRelayGateway.secondaryEnrollmentNonceSnapshot")
  require (snapshot.presentMask &&& snapActionNonce ≠ 0)
    (.chainRead "GoatRelayGateway.secondaryEnrollmentNonceSnapshot")
  require (liveToken.feeTokenConfigHash = liveNonces.feeTokenConfigHash) .snapshotToctouMismatch
  let permitOwner := if snapshot.controller = 0 then root else snapshot.controller
  let tokenPermitNonce ← ask "IERC20Permit(feeToken).nonces"
    (chain.erc2612Nonces manifest.feeToken permitOwner block)
  require (fromU64 tokenPermitNonce = snapshot.feeTokenPermitNonce) .permitNonceMisbound
  let chainNow ← ask "block.timestamp @ pinned block" (chain.blockTimestampAt block)
  require (chainNow ≠ 0) (.chainRead "block.timestamp @ pinned block")
  .ok
    { liveToken, liveNonces, snapshot, activeManifestHash, chainNow
      feeTokenPermitNonce := fromU64 tokenPermitNonce
      block
      gateway := manifest.goatRelayGateway
      registry := manifest.feeTokenRegistry
      queriedRoot := root
      queriedSecondary := secondary
      queriedFeeToken := manifest.feeToken }

/-! ## The preflight -/

/-- The arguments of `executeSponsoredEnrollment`, with the signatures as the client writes them. -/
structure SponsoredEnrollmentCall where
  intent : SponsorEnrollment
  quote : FeeQuote
  v1Enrollment : V1Enrollment
  link : LinkSecondary
  rootAuthorization : RootAuthorization
  feeAuthorizationMode : Word 8
  feeEip2612Authorization : Eip2612Authorization
  sponsorSignatureHex : Text
  quoteSignatureHex : Text
  linkSignatureHex : Text
  rootAuthorizationSignatureHex : Text

/-- Who submits the enrollment. -/
inductive Disposition where
  | relaySponsored
  | clientMustSubmitDirectly
deriving DecidableEq

structure UnverifiedCheck where
  revert : String
  site : String

/-- What is left to the contract. -/
def unverifiedChecks : List UnverifiedCheck :=
  [⟨"NotActivated / Paused", "GoatRelayGateway.sol:306-309 (_requireLive)"⟩,
   ⟨"RootNotRegistered", "GoatRelayGateway.sol:348-349"⟩,
   ⟨"ClusterSuspended", "GoatRelayGateway.sol:350"⟩,
   ⟨"IntentAlreadyUsed", "GoatRelayGateway.sol:319"⟩,
   ⟨"QuoteAlreadyUsed", "StreamGCommon.sol:109 (validateAndConsumeQuote)"⟩,
   ⟨"InvalidQuote (zero quoteSigner) / BadQuoteSignature",
     "StreamGCommon.sol:107, :135-137 (validateAndConsumeQuote)"⟩,
   ⟨"InvalidQuote (feeRecipient)", "StreamGCommon.sol:112 (validateAndConsumeQuote)"⟩,
   ⟨"InvalidV1Enrollment (blacklisted / already-enrolled branch)",
    "StreamGEnroll.sol:200-218 (_enrollV1OrAcceptFrontRun)"⟩,
   ⟨"SecondaryAlreadyLinked / SecondaryIsRootController / V1 eligibility",
     "WalletSponsorshipRegistry.sol:193-195"⟩,
   ⟨"ERC-2612 permit() SIGNATURE revert (token-defined, not a GoatRelayGateway error)",
    "StreamGCommon.sol:208 (collectEip2612 → IERC20Permit(feeToken).permit(...))"⟩,
   ⟨"NO REVERT — native-ETH exposure gate (hazard 1) SKIPPED on this chain",
    "stream_g/base_fee.rs (submit_exposure_for_chain / chain_carries_gas_price_oracle)"⟩]

structure PreflightReport where
  disposition : Disposition
  unverified : List UnverifiedCheck
  block : Word 64
  chainNow : Word 64

def ensure (c : Prop) [Decidable c] (check : Check) : Except PreflightError Unit :=
  require c (.wouldRevert check)

/-- `signature_bytes_len(…) == 0`. -/
def signatureEmpty (signatureHex : Text) : Bool := decodeHexBytes signatureHex = some []

def RootAuthorization.IsAllZero (r : RootAuthorization) : Prop :=
  r.root = 0 ∧ r.secondary = 0 ∧ r.enrollDigest = 0 ∧ r.linkDigest = 0 ∧ r.nonce = 0
    ∧ r.deadline = 0

instance (r : RootAuthorization) : Decidable r.IsAllZero :=
  inferInstanceAs (Decidable (_ ∧ _ ∧ _ ∧ _ ∧ _ ∧ _))

/-- `fee_quote_is_all_zero`. -/
def FeeQuote.IsAllZero (q : FeeQuote) : Prop :=
  q.quoteId = 0 ∧ q.actionType = 0 ∧ q.actionCoreHash = 0 ∧ q.deploymentManifestHash = 0
    ∧ q.feeTokenConfigHash = 0
    ∧ q.feeScheduleHash = 0 ∧ q.payer = 0 ∧ q.feeToken = 0 ∧ q.feeAmount = 0 ∧ q.feeRecipient = 0
    ∧ q.validAfter = 0
    ∧ q.validUntil = 0

instance (q : FeeQuote) : Decidable q.IsAllZero :=
  inferInstanceAs (Decidable (_ ∧ _ ∧ _ ∧ _ ∧ _ ∧ _ ∧ _ ∧ _ ∧ _ ∧ _ ∧ _ ∧ _))

/-- `is_direct_eth_enrollment`. -/
def IsDirectEthEnrollment (i : SponsorEnrollment) : Prop :=
  i.feeToken = 0 ∧ i.feeAuthorizationMode = 0 ∧ i.feeAuthorizationDigest = 0
    ∧ i.feeQuoteHash = 0 ∧ i.maxFee = 0
    ∧ i.feeTokenConfigHash = 0

instance (i : SponsorEnrollment) : Decidable (IsDirectEthEnrollment i) :=
  inferInstanceAs (Decidable (_ ∧ _ ∧ _ ∧ _ ∧ _ ∧ _))

section
variable (c : Curve) (call : SponsoredEnrollmentCall) (state : LivePreflightState)
  (manifest : DeploymentManifest)

/-- The checks 2 to 10, and that the state is about this call. -/
def checkSubject : Except PreflightError Unit := do
  require (state.gateway = manifest.goatRelayGateway ∧ state.registry = manifest.feeTokenRegistry)
    (.stateMisbound "gateway/registry")
  ensure (state.chainNow < call.intent.deadline) .expiredDeadline
  ensure (call.intent.secondary ≠ 0 ∧ call.intent.root ≠ 0) .zeroRootOrSecondary
  require (state.queriedRoot = call.intent.root) (.stateMisbound "root")
  require (state.queriedSecondary = call.intent.secondary) (.stateMisbound "secondary")
  ensure (call.intent.secondary = call.link.secondary ∧ call.intent.root = call.link.root)
    .linkFieldsMismatch
  ensure (call.v1Enrollment.wallet = call.intent.secondary) .v1WalletMismatch
  ensure (state.snapshot.controller ≠ 0) .controllerUnset
  ensure (call.intent.controller = state.snapshot.controller) .controllerMismatch
  ensure (fromU64 call.intent.controllerEpoch = state.snapshot.controllerEpoch) .epochMismatch

/-- The checks 11 to 16. -/
def checkBearers : Except PreflightError Unit := do
  let chainId := state.liveToken.liveChainId
  let enroll :=
    enrollDigest call.v1Enrollment.wallet call.v1Enrollment.nonce call.v1Enrollment.deadline chainId
    manifest.enrollmentRegistry
  ensure (enroll = call.intent.enrollDigest) .enrollDigestMismatch
  ensure (recoversTo c enroll call.v1Enrollment.signatureHex call.intent.secondary) .badV1Signature
  let link := linkSecondaryDigest call.link chainId manifest.walletSponsorshipRegistry
  ensure (link = call.intent.linkDigest) .linkDigestMismatch
  ensure (recoversTo c link call.linkSignatureHex call.intent.secondary) .badLinkSignature
  ensure (call.intent.rootAuthorizationDigest = 0) .nonZeroRootAuthorizationDigest
  ensure (call.rootAuthorization.IsAllZero ∧ signatureEmpty call.rootAuthorizationSignatureHex)
    .nonZeroRootAuthorization

/-- `preflight_quote`. -/
def preflightQuote : Except PreflightError Unit := do
  let intent := call.intent
  let quote := call.quote
  ensure (manifest.quoteSigner ≠ 0) .zeroQuoteSigner
  ensure (quote.quoteId ≠ 0) .zeroQuoteId
  ensure (quote.actionType = actionSponsoredEnrollment) .quoteActionTypeMismatch
  ensure (quote.payer = intent.controller) .quotePayerMismatch
  ensure (quote.feeRecipient = manifest.feeSafe) .quoteFeeRecipientMismatch
  ensure (quote.feeToken = intent.feeToken ∧ quote.feeToken ≠ 0) .quoteFeeTokenMismatch
  require (quote.feeToken = state.queriedFeeToken) (.stateMisbound "feeToken")
  ensure (quote.feeAmount ≠ 0) .zeroQuoteFeeAmount
  ensure (quote.feeAmount ≤ intent.maxFee) .feeExceedsMax
  ensure (quote.validAfter ≤ state.chainNow ∧ state.chainNow < quote.validUntil) .quoteWindow
  ensure (state.activeManifestHash = state.snapshot.deploymentManifestHash) .manifestHashMismatch
  ensure (intent.deploymentManifestHash = state.activeManifestHash
    ∧ quote.deploymentManifestHash = state.activeManifestHash) .manifestHashMismatch
  ensure (state.snapshot.feeScheduleHash ≠ 0
    ∧ quote.feeScheduleHash = state.snapshot.feeScheduleHash) .feeScheduleHashMismatch
  assertTokenAuthorized state.liveToken capEip2612.val
  ensure (state.liveToken.feeTokenConfigHash ≠ 0
    ∧ intent.feeTokenConfigHash = state.liveToken.feeTokenConfigHash
    ∧ quote.feeTokenConfigHash = state.liveToken.feeTokenConfigHash) .feeTokenConfigHashMismatch
  ensure (quote.actionCoreHash = sponsorEnrollmentCoreHash intent) .quoteActionCoreHashMismatch
  ensure (recoversTo c (feeQuoteDigest quote state.liveToken.liveChainId manifest.goatRelayGateway)
    call.quoteSignatureHex manifest.quoteSigner) .badQuoteSignature

/-- The two branches. -/
def checkBranch : Except PreflightError Unit :=
  if IsDirectEthEnrollment call.intent then do
    ensure (signatureEmpty call.quoteSignatureHex) .directEthQuoteSignaturePresent
    ensure call.quote.IsAllZero .directEthQuoteNotZeroed
    ensure (call.feeAuthorizationMode = 0) .directEthFeeAuthorizationNotNone
  else do
    preflightQuote c call state manifest
    ensure (call.intent.feeQuoteHash
      = feeQuoteDigest call.quote state.liveToken.liveChainId manifest.goatRelayGateway)
        .feeQuoteHashMismatch
    ensure (call.intent.feeAuthorizationMode = 1) .unsupportedFeeMode

/-- The controller's signature, the marks, the enrollment and the link. -/
def checkEffects : Except PreflightError Unit := do
  ensure (recoversTo c
    (sponsorEnrollmentDigest call.intent state.liveToken.liveChainId manifest.goatRelayGateway)
    call.sponsorSignatureHex call.intent.controller) .badSponsorSignature
  ensure (call.intent.intentId ≠ 0) .zeroIntentId
  ensure (fromU64 call.intent.nonce = state.snapshot.actionNonce) .badActionNonce
  ensure (state.liveNonces.v1EnrollNonce = call.v1Enrollment.nonce
    -- the addition saturates
    ∨ state.liveNonces.v1EnrollNonce.val = min (call.v1Enrollment.nonce.val + 1) (2 ^ 64 - 1))
      .v1EnrollNonceUnusable
  ensure (call.link.secondary ≠ call.link.root) .linkSecondaryEqualsRoot
  ensure (state.chainNow < call.link.deadline) .linkDeadlineExpired
  ensure (call.link.nonce = state.liveNonces.linkNonce) .linkNonceMismatch

/-- The fee, if there is one. -/
def checkFee : Except PreflightError Unit :=
  if IsDirectEthEnrollment call.intent then .ok ()
  else do
    let p := call.feeEip2612Authorization
    ensure (call.feeAuthorizationMode = 1) .feeAuthorizationModeNotEip2612
    ensure (p.owner = call.intent.controller ∧ p.spender = manifest.goatRelayGateway
      ∧ call.quote.feeAmount ≤ p.value) .eip2612FeeFieldsMismatch
    require (¬ p.deadline < state.chainNow) .permitWouldRevert

/-- The preflight of an enrollment. -/
def preflightSponsoredEnrollment : Except PreflightError PreflightReport := do
  checkSubject call state manifest
  checkBearers c call state manifest
  checkBranch c call state manifest
  checkEffects c call state manifest
  checkFee call state manifest
  .ok
    { disposition := if IsDirectEthEnrollment call.intent then .clientMustSubmitDirectly
        else .relaySponsored
      unverified := unverifiedChecks
      block := state.block
      chainNow := state.chainNow }

end

end StreamG.Preflight

end GoatCoin
