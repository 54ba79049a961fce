/-
# `GoatCoin.Contracts.Gateway` — `GoatRelayGateway.sol` and its libraries

Anyone may relay an intent.  An action of the gateway has two halves:

    authorize    every check, the quote and the intent and the nonce are used up
    settle       the calls to the registries, the desk and the tokens

In the source too nothing is called that could call back before the first half is over: what it
asks of other contracts it asks in `view` calls.  The four actions are

    StreamGEnroll    a secondary enrols and is linked; the fee, if there is one, by a permit
    StreamGXfer      GOAT or another token goes from its owner to a recipient, and a fee with it
    StreamGSell      GOAT goes to the desk, which pays the fee out of the proceeds

and a mode says how a token is taken from its owner: by a permit, by a transfer that the owner has
signed, or out of an allowance that is there.
-/
import GoatCoin.Contracts.Relay

namespace GoatCoin

open Function (update)
open Evm StreamG

/-- The immutables, and the address of the gateway. -/
structure GoatRelayGateway.Config where
  self : Address
  enrollmentRegistry : Address
  feeTokenRegistry : Address
  sponsorship : Address
  goat : Address
  policySafe : Address
  feeSafe : Address

/-- The storage of the gateway. -/
structure GoatRelayGateway where
  activated : Bool
  paused : Bool
  feeScheduleHash : Bytes32
  quoteSigner : Address
  sponsoredBuyDesk : Address
  sponsoredBuyDeskCodeHash : Bytes32
  actionNonces : Address → Bytes32 → Nat
  intentUsed : Bytes32 → Bool
  quoteUsed : Bytes32 → Bool
  entered : Bool

/-! ## `StreamGCommon` -/

namespace StreamGCommon

/-- `self` is `address(this)`. -/
structure Ctx where
  self : Address
  enrollmentRegistry : Address
  sponsorship : Address
  goat : Address
  feeSafe : Address
  quoteSigner : Address
  feeScheduleHash : Bytes32
  domainSeparator : Bytes32

def digest (ctx : Ctx) (structHash : Bytes32) : Bytes32 :=
  hashTypedData ctx.domainSeparator structHash

def markIntentAndNonce (g : GoatRelayGateway) (intentId : Bytes32) (signer : Address)
    (actionType : Bytes32) (expectedNonce : Nat) : Except Revert GoatRelayGateway := do
  require (intentId ≠ 0) .zeroIntentId
  require (g.intentUsed intentId = false) .intentAlreadyUsed
  require (g.actionNonces signer actionType = expectedNonce) .badActionNonce
  let next ← checked 256 (expectedNonce + 1) .panic
  .ok { g with
    intentUsed := update g.intentUsed intentId true
    actionNonces := update g.actionNonces signer
      (update (g.actionNonces signer) actionType next) }

/-- What a mode asks of the token. -/
def capabilityForMode (mode : Word 8) : Except Revert Uint256 :=
  if mode = AuthorizationMode.eip2612.ordinal then .ok capEip2612
  else if mode = AuthorizationMode.eip3009.ordinal then .ok capEip3009
  else if mode = AuthorizationMode.priorAllowance.ordinal then .ok capPriorAllowance
  else .error .unsupportedFeeMode

structure QuoteCheck where
  actionType : Bytes32
  payer : Address
  feeToken : Address
  feeTokenConfigHash : Bytes32
  deploymentManifestHash : Bytes32
  maxFee : Uint256
  actionCoreHash : Bytes32
  requiredCapability : Uint256

/-- The fee is the quote's. -/
def validateAndConsumeQuote (e : Ecdsa) (ctx : Ctx) (w : World) (g : GoatRelayGateway)
    (qc : QuoteCheck) (quote : FeeQuote) (quoteSignature : EthSignature) :
    Except Revert GoatRelayGateway := do
  require (ctx.quoteSigner ≠ 0) .invalidQuote
  require (quote.quoteId ≠ 0) .invalidQuote
  require (g.quoteUsed quote.quoteId = false) .quoteAlreadyUsed
  require (quote.actionType = qc.actionType) .invalidQuote
  require (quote.payer = qc.payer) .invalidQuote
  require (quote.feeRecipient = ctx.feeSafe) .invalidQuote
  require (¬ (quote.feeToken ≠ qc.feeToken ∨ quote.feeToken = 0)) .invalidQuote
  require (quote.feeAmount ≠ 0) .invalidQuote
  require (quote.feeAmount ≤ qc.maxFee) .feeExceedsMax
  require (quote.validAfter.val ≤ w.now ∧ w.now < quote.validUntil.val) .invalidQuote
  let liveManifest := w.fees.activeManifestHash
  require (¬ (qc.deploymentManifestHash ≠ liveManifest
    ∨ quote.deploymentManifestHash ≠ liveManifest)) .configHashMismatch
  require (¬ (quote.feeScheduleHash ≠ ctx.feeScheduleHash ∨ ctx.feeScheduleHash = 0))
    .configHashMismatch
  w.fees.assertTokenAuthorized w.site qc.feeToken qc.requiredCapability
  let liveCfg := w.fees.tokenConfigHashes qc.feeToken
  require (¬ (liveCfg = 0 ∨ qc.feeTokenConfigHash ≠ liveCfg ∨ quote.feeTokenConfigHash ≠ liveCfg))
    .configHashMismatch
  require (quote.actionCoreHash = qc.actionCoreHash) .invalidQuote
  let qSigner ← e.recover (digest ctx (feeQuoteStructHash quote)) quoteSignature
  require (qSigner = ctx.quoteSigner) .badQuoteSignature
  .ok { g with quoteUsed := update g.quoteUsed quote.quoteId true }

/-- A digest of zero asks for nothing. -/
def GoatPermitMatches (w : World) (goat : Address) (p : Eip2612Authorization)
    (owner spender : Address) (value : Uint256) (expectedDigest : Bytes32) : Prop :=
  (p.owner = owner ∧ p.spender = spender ∧ p.value = value)
    ∧ ¬ (expectedDigest ≠ 0 ∧ expectedDigest ≠ (w.tokens goat).permitDigest p)

instance (w : World) (goat : Address) (p : Eip2612Authorization) (owner spender : Address)
    (value : Uint256) (expectedDigest : Bytes32) :
    Decidable (GoatPermitMatches w goat p owner spender value expectedDigest) :=
  inferInstanceAs (Decidable (_ ∧ _))

/-- The fee by a permit. -/
def collectEip2612 (e : Ecdsa) (ctx : Ctx) (w : World) (payer feeToken : Address) (feeAmount : Nat)
    (p : Eip2612Authorization) : Except Revert World := do
  require (¬ (p.owner ≠ payer ∨ p.spender ≠ ctx.self ∨ p.value.val < feeAmount)) .invalidFeeFields
  let w ← w.permit e feeToken p
  let beforeBal := w.balance feeToken ctx.feeSafe
  let w ← w.transferFrom feeToken ctx.self payer ctx.feeSafe feeAmount
  w.requireGain feeToken ctx.feeSafe beforeBal feeAmount .unexpectedBalanceDelta
  .ok w

/-- The fee by an authorization. -/
def collectEip3009 (e : Ecdsa) (ctx : Ctx) (w : World) (payer feeToken : Address) (feeAmount : Nat)
    (a : Eip3009Authorization) : Except Revert World := do
  require (¬ (a.src ≠ payer ∨ a.dst ≠ ctx.self ∨ a.value.val ≠ feeAmount)) .invalidFeeFields
  require (a.validAfter.val < w.now ∧ w.now < a.validBefore.val) .invalidFeeFields
  let gatewayBefore := w.balance feeToken ctx.self
  let feeSafeBefore := w.balance feeToken ctx.feeSafe
  let w ← w.receiveWithAuthorization e feeToken a
  w.requireGain feeToken ctx.self gatewayBefore feeAmount .unexpectedBalanceDelta
  let w ← w.transfer feeToken ctx.self ctx.feeSafe feeAmount
  w.requireGain feeToken ctx.feeSafe feeSafeBefore feeAmount .unexpectedBalanceDelta
  require (w.balance feeToken ctx.self = gatewayBefore) .unexpectedBalanceDelta
  .ok w

def collectPriorAllowance (e : Ecdsa) (ctx : Ctx) (w : World) (payer feeToken : Address)
    (feeAmount : Nat) (p : PriorAllowanceAuthorization) (signature : EthSignature)
    (intentId actionType : Bytes32) : Except Revert World := do
  require (¬ (p.intentId ≠ intentId ∨ p.actionType ≠ actionType ∨ p.owner ≠ payer
    ∨ p.token ≠ feeToken ∨ p.spender ≠ ctx.self ∨ p.value.val < feeAmount)) .badPriorAllowance
  require (w.now < p.deadline.val) .expiredDeadline
  let signer ← e.recover (digest ctx (priorAllowanceStructHash p)) signature
  require (signer = payer) .badPriorAllowance
  require (feeAmount ≤ (w.tokens feeToken).allowance payer ctx.self) .badPriorAllowance
  let beforeBal := w.balance feeToken ctx.feeSafe
  let w ← w.transferFrom feeToken ctx.self payer ctx.feeSafe feeAmount
  w.requireGain feeToken ctx.feeSafe beforeBal feeAmount .unexpectedBalanceDelta
  .ok w

def collectFee (e : Ecdsa) (ctx : Ctx) (w : World) (payer feeToken : Address) (feeAmount : Nat)
    (auth : TokenAuthorization) (intentId actionType : Bytes32) : Except Revert World := do
  require (feeAmount ≠ 0) .invalidFeeFields
  if auth.mode = AuthorizationMode.eip2612.ordinal then
    collectEip2612 e ctx w payer feeToken feeAmount auth.eip2612
  else if auth.mode = AuthorizationMode.eip3009.ordinal then
    collectEip3009 e ctx w payer feeToken feeAmount auth.eip3009
  else if auth.mode = AuthorizationMode.priorAllowance.ordinal then
    collectPriorAllowance e ctx w payer feeToken feeAmount auth.priorAllowance
      auth.priorAllowanceSignature intentId actionType
  else .error .unsupportedFeeMode

/-- The root of a wallet is the one that the intent expects, and is not suspended. -/
def requireRoot (w : World) (wallet expectedRoot : Address) : Except Revert Unit := do
  let liveRoot := w.wallets.primaryOf wallet
  require (¬ (liveRoot = 0 ∨ liveRoot ≠ expectedRoot)) .rootNotRegistered
  require (w.wallets.primaryOf expectedRoot = expectedRoot) .rootNotRegistered
  require (w.wallets.suspendedClusters expectedRoot = false) .clusterSuspended

end StreamGCommon

open StreamGCommon

/-! ## `StreamGEnroll` -/

/-- The arguments of `executeSponsoredEnrollment`. -/
structure EnrollmentCall where
  intent : SponsorEnrollment
  quote : FeeQuote
  v1Enrollment : V1Enrollment
  link : LinkSecondary
  rootAuthorization : RootAuthorization
  feeAuthorization : TokenAuthorization
  sponsorSignature : EthSignature
  quoteSignature : EthSignature
  linkSignature : EthSignature
  rootAuthorizationSignature : EthSignature

namespace StreamGEnroll

/-- `_isDirectEthEnrollment`. -/
def IsDirectEth (intent : SponsorEnrollment) : Prop :=
  intent.feeToken = 0 ∧ intent.feeAuthorizationMode = AuthorizationMode.none.ordinal
    ∧ intent.feeAuthorizationDigest = 0 ∧ intent.feeQuoteHash = 0 ∧ intent.maxFee = 0
    ∧ intent.feeTokenConfigHash = 0

instance (intent : SponsorEnrollment) : Decidable (IsDirectEth intent) :=
  inferInstanceAs (Decidable (_ ∧ _ ∧ _ ∧ _ ∧ _ ∧ _))

def v1Domain (ctx : Ctx) (w : World) : Bytes32 :=
  domainSeparator "GoatEnrollmentRegistry" "1" w.site.chainId ctx.enrollmentRegistry

/-- `_v1EnrollDigest`. -/
def v1EnrollDigest (ctx : Ctx) (w : World) (v : V1Enrollment) : Bytes32 :=
  hashTypedData (v1Domain ctx w) (enrollStructHash v.wallet v.nonce.val v.deadline.val)

def walletsDomain (ctx : Ctx) (w : World) : Bytes32 :=
  WalletSponsorshipRegistry.domain w.site.chainId ctx.sponsorship

/-- `_linkDigest`. -/
def linkDigest (ctx : Ctx) (w : World) (link : LinkSecondary) : Bytes32 :=
  hashTypedData (walletsDomain ctx w) (linkSecondaryStructHash link)

def zeroQuote : FeeQuote := ⟨0, 0, 0, 0, 0, 0, 0, 0, 0, 0, 0, 0⟩

def quoteCheck (intent : SponsorEnrollment) : QuoteCheck where
  actionType := actionSponsoredEnrollment
  payer := intent.controller
  feeToken := intent.feeToken
  feeTokenConfigHash := intent.feeTokenConfigHash
  deploymentManifestHash := intent.deploymentManifestHash
  maxFee := intent.maxFee
  actionCoreHash := sponsorEnrollmentCoreHash intent
  requiredCapability := capEip2612

/-- The quote, or that there is none. -/
def checkQuote (e : Ecdsa) (ctx : Ctx) (w : World) (g : GoatRelayGateway) (sender : Address)
    (x : EnrollmentCall) : Except Revert GoatRelayGateway :=
  if IsDirectEth x.intent then do
    require (sender = x.intent.controller) .notController
    require (x.quoteSignature.length = 0) .invalidQuote
    require (x.quote = zeroQuote) .invalidQuote
    require (x.feeAuthorization.mode = AuthorizationMode.none.ordinal) .invalidFeeFields
    .ok g
  else do
    let g ← validateAndConsumeQuote e ctx w g (quoteCheck x.intent) x.quote x.quoteSignature
    require (x.intent.feeQuoteHash = digest ctx (feeQuoteStructHash x.quote)) .invalidQuote
    require (x.intent.feeAuthorizationMode = AuthorizationMode.eip2612.ordinal) .unsupportedFeeMode
    .ok g

def authorize (e : Ecdsa) (ctx : Ctx) (w : World) (g : GoatRelayGateway) (sender : Address)
    (x : EnrollmentCall) : Except Revert GoatRelayGateway := do
  require (w.now < x.intent.deadline.val) .expiredDeadline
  require (¬ (x.intent.secondary = 0 ∨ x.intent.root = 0)) .zeroAddress
  require (¬ (x.intent.secondary ≠ x.link.secondary ∨ x.intent.root ≠ x.link.root))
    .invalidFeeFields
  require (x.v1Enrollment.wallet = x.intent.secondary) .invalidV1Enrollment
  let liveController := w.wallets.controllerOf x.intent.root
  require (w.wallets.primaryOf x.intent.root = x.intent.root) .rootNotRegistered
  require (w.wallets.suspendedClusters x.intent.root = false) .clusterSuspended
  require (liveController ≠ 0) .controllerMismatch
  require (x.intent.controller = liveController) .controllerMismatch
  require (x.intent.controllerEpoch.val = w.wallets.controllerEpoch x.intent.root) .epochMismatch
  require (v1EnrollDigest ctx w x.v1Enrollment = x.intent.enrollDigest) .invalidV1Enrollment
  let enrollSigner ← e.recover (v1EnrollDigest ctx w x.v1Enrollment) x.v1Enrollment.signature
  require (enrollSigner = x.intent.secondary) .badV1Signature
  require (linkDigest ctx w x.link = x.intent.linkDigest) .badLinkSignature
  let linkSigner ← e.recover (linkDigest ctx w x.link) x.linkSignature
  require (linkSigner = x.intent.secondary) .badLinkSignature
  require (x.intent.rootAuthorizationDigest = 0) .invalidFeeFields
  require (x.rootAuthorization = .zero ∧ x.rootAuthorizationSignature.length = 0) .invalidFeeFields
  let g ← checkQuote e ctx w g sender x
  let sponsor ← e.recover (digest ctx (sponsorEnrollmentStructHash x.intent)) x.sponsorSignature
  require (sponsor = x.intent.controller) .badSponsorSignature
  markIntentAndNonce g x.intent.intentId x.intent.controller actionSponsoredEnrollment
    x.intent.nonce.val

/-- `_enrollV1OrAcceptFrontRun`. -/
def enrollV1OrAcceptFrontRun (e : Ecdsa) (ctx : Ctx) (w : World) (v : V1Enrollment) :
    Except Revert EnrollmentRegistry := do
  require (w.v1.blacklisted v.wallet = false) .invalidV1Enrollment
  if w.v1.enrolled v.wallet = false ∧ w.v1.nonces v.wallet = v.nonce.val then
    w.v1.enrollSelfWithSignature e (v1Domain ctx w) w.now v.wallet v.deadline.val v.signature
  else if w.v1.enrolled v.wallet = true then do
    let next ← checked 256 (v.nonce.val + 1) .panic
    require (w.v1.nonces v.wallet = next) .invalidV1Enrollment
    let signer ← e.recover (v1EnrollDigest ctx w v) v.signature
    require (signer = v.wallet) .badV1Signature
    .ok w.v1
  else .error .invalidV1Enrollment

def settle (e : Ecdsa) (ctx : Ctx) (w : World) (x : EnrollmentCall) : Except Revert World := do
  let v1 ← enrollV1OrAcceptFrontRun e ctx w x.v1Enrollment
  let wallets ← w.wallets.linkSecondary e (walletsDomain ctx w) v1 w.now ctx.self x.link
    x.linkSignature .zero []
  let w := { w with v1, wallets }
  if IsDirectEth x.intent then .ok w
  else do
    require (x.feeAuthorization.mode = AuthorizationMode.eip2612.ordinal) .unsupportedFeeMode
    collectEip2612 e ctx w x.intent.controller x.intent.feeToken x.quote.feeAmount.val
      x.feeAuthorization.eip2612

end StreamGEnroll

/-! ## `StreamGXfer` and `StreamGTransfers` -/

/-- The arguments of `executeGoatTransfer`. -/
structure GoatTransferCall where
  intent : GoatTransferIntent
  quote : FeeQuote
  goatPermit : Eip2612Authorization
  feeAuthorization : TokenAuthorization
  intentSignature : EthSignature
  quoteSignature : EthSignature

/-- The arguments of `executeUsdtTransfer`. -/
structure UsdtTransferCall where
  intent : UsdtTransferIntent
  quote : FeeQuote
  transferAuthorization : TokenAuthorization
  intentSignature : EthSignature
  quoteSignature : EthSignature

namespace StreamGXfer

def goatQuoteCheck (intent : GoatTransferIntent) (requiredCapability : Uint256) : QuoteCheck where
  actionType := actionGoatTransfer
  payer := intent.owner
  feeToken := intent.feeToken
  feeTokenConfigHash := intent.feeTokenConfigHash
  deploymentManifestHash := intent.deploymentManifestHash
  maxFee := intent.maxFee
  actionCoreHash := goatTransferCoreHash intent
  requiredCapability := requiredCapability

def authorizeGoat (e : Ecdsa) (ctx : Ctx) (w : World) (g : GoatRelayGateway)
    (x : GoatTransferCall) :
    Except Revert GoatRelayGateway := do
  require (w.now < x.intent.deadline.val) .expiredDeadline
  require (¬ (x.intent.owner = 0 ∨ x.intent.expectedRoot = 0 ∨ x.intent.recipient = 0)) .zeroAddress
  requireRoot w x.intent.owner x.intent.expectedRoot
  require (x.intent.feeAuthorizationMode = x.feeAuthorization.mode) .invalidFeeFields
  let requiredCap ← capabilityForMode x.feeAuthorization.mode
  let g ← validateAndConsumeQuote e ctx w g (goatQuoteCheck x.intent requiredCap) x.quote
    x.quoteSignature
  require (x.intent.feeQuoteHash = digest ctx (feeQuoteStructHash x.quote)) .invalidQuote
  require (x.quote.feeToken = x.intent.feeToken) .invalidQuote
  require (GoatPermitMatches w ctx.goat x.goatPermit x.intent.owner ctx.self x.intent.amount
    x.intent.goatPermitDigest) .badGoatPermit
  let signer ← e.recover (digest ctx (goatTransferIntentStructHash x.intent)) x.intentSignature
  require (signer = x.intent.owner) .badIntentSignature
  markIntentAndNonce g x.intent.intentId x.intent.owner actionGoatTransfer x.intent.nonce.val

/-- The fee and the transfer. -/
def settleGoat (e : Ecdsa) (ctx : Ctx) (w : World) (x : GoatTransferCall) :
    Except Revert World := do
  let w ← w.permit e ctx.goat x.goatPermit
  let ownerBefore := w.balance ctx.goat x.intent.owner
  let recipientBefore := w.balance ctx.goat x.intent.recipient
  let w ← w.transferFrom ctx.goat ctx.self x.intent.owner x.intent.recipient x.intent.amount.val
  w.requireLoss ctx.goat x.intent.owner ownerBefore x.intent.amount.val .unexpectedBalanceDelta
  w.requireGain ctx.goat x.intent.recipient recipientBefore x.intent.amount.val
    .unexpectedBalanceDelta
  collectFee e ctx w x.intent.owner x.intent.feeToken x.quote.feeAmount.val x.feeAuthorization
    x.intent.intentId actionGoatTransfer

def usdtQuoteCheck (intent : UsdtTransferIntent) (requiredCapability : Uint256) : QuoteCheck where
  actionType := actionUsdtTransfer
  payer := intent.owner
  feeToken := intent.token
  feeTokenConfigHash := intent.feeTokenConfigHash
  deploymentManifestHash := intent.deploymentManifestHash
  maxFee := intent.maxFee
  actionCoreHash := usdtTransferCoreHash intent
  requiredCapability := requiredCapability

def authorizeUsdt (e : Ecdsa) (ctx : Ctx) (w : World) (g : GoatRelayGateway)
    (x : UsdtTransferCall) :
    Except Revert GoatRelayGateway := do
  require (w.now < x.intent.deadline.val) .expiredDeadline
  require (¬ (x.intent.owner = 0 ∨ x.intent.expectedRoot = 0 ∨ x.intent.recipient = 0
    ∨ x.intent.token = 0)) .zeroAddress
  requireRoot w x.intent.owner x.intent.expectedRoot
  require (x.intent.authorizationMode = x.transferAuthorization.mode) .invalidTransferAuth
  let requiredCap ← capabilityForMode x.transferAuthorization.mode
  let g ← validateAndConsumeQuote e ctx w g (usdtQuoteCheck x.intent requiredCap) x.quote
    x.quoteSignature
  require (x.intent.feeQuoteHash = digest ctx (feeQuoteStructHash x.quote)) .invalidQuote
  require (x.quote.feeToken = x.intent.token) .invalidQuote
  let signer ← e.recover (digest ctx (usdtTransferIntentStructHash x.intent)) x.intentSignature
  require (signer = x.intent.owner) .badIntentSignature
  markIntentAndNonce g x.intent.intentId x.intent.owner actionUsdtTransfer x.intent.nonce.val

end StreamGXfer

namespace StreamGTransfers

/-- `_splitFromOwner`. -/
def splitFromOwner (ctx : Ctx) (w : World) (owner token recipient : Address)
    (amount feeAmount : Nat) :
    Except Revert World := do
  let ownerBefore := w.balance token owner
  let recipientBefore := w.balance token recipient
  let feeSafeBefore := w.balance token ctx.feeSafe
  let w ← w.transferFrom token ctx.self owner recipient amount
  let w ← w.transferFrom token ctx.self owner ctx.feeSafe feeAmount
  let left ← checkedSub ownerBefore amount .panic
  w.requireLoss token owner left feeAmount .unexpectedBalanceDelta
  w.requireGain token recipient recipientBefore amount .unexpectedBalanceDelta
  w.requireGain token ctx.feeSafe feeSafeBefore feeAmount .unexpectedBalanceDelta
  .ok w

/-- The mode `EIP2612` of `executeUsdtTransferWithAuth`. -/
def byPermit (e : Ecdsa) (ctx : Ctx) (w : World) (intent : UsdtTransferIntent)
    (p : Eip2612Authorization) (feeAmount total : Nat) : Except Revert World := do
  require (¬ (p.owner ≠ intent.owner ∨ p.spender ≠ ctx.self ∨ p.value.val ≠ total))
    .invalidTransferAuth
  let w ← w.permit e intent.token p
  splitFromOwner ctx w intent.owner intent.token intent.recipient intent.amount.val feeAmount

/-- The mode `EIP3009`: through the gateway. -/
def byAuthorization (e : Ecdsa) (ctx : Ctx) (w : World) (intent : UsdtTransferIntent)
    (a : Eip3009Authorization) (feeAmount total : Nat) : Except Revert World := do
  require (¬ (a.src ≠ intent.owner ∨ a.dst ≠ ctx.self ∨ a.value.val ≠ total)) .invalidTransferAuth
  require (a.validAfter.val < w.now ∧ w.now < a.validBefore.val) .invalidTransferAuth
  let gatewayBefore := w.balance intent.token ctx.self
  let w ← w.receiveWithAuthorization e intent.token a
  w.requireGain intent.token ctx.self gatewayBefore total .unexpectedBalanceDelta
  let recipientBefore := w.balance intent.token intent.recipient
  let feeSafeBefore := w.balance intent.token ctx.feeSafe
  let w ← w.transfer intent.token ctx.self intent.recipient intent.amount.val
  let w ← w.transfer intent.token ctx.self ctx.feeSafe feeAmount
  w.requireGain intent.token intent.recipient recipientBefore intent.amount.val
    .unexpectedBalanceDelta
  w.requireGain intent.token ctx.feeSafe feeSafeBefore feeAmount .unexpectedBalanceDelta
  require (w.balance intent.token ctx.self = gatewayBefore) .unexpectedBalanceDelta
  .ok w

/-- The mode `PRIOR_ALLOWANCE`. -/
def byPriorAllowance (e : Ecdsa) (ctx : Ctx) (w : World) (intent : UsdtTransferIntent)
    (p : PriorAllowanceAuthorization) (signature : EthSignature) (feeAmount total : Nat) :
    Except Revert World := do
  require (¬ (p.intentId ≠ intent.intentId ∨ p.actionType ≠ actionUsdtTransfer
    ∨ p.owner ≠ intent.owner ∨ p.token ≠ intent.token ∨ p.spender ≠ ctx.self
    ∨ p.value.val ≠ total)) .badPriorAllowance
  require (w.now < p.deadline.val) .expiredDeadline
  let signer ← e.recover (digest ctx (priorAllowanceStructHash p)) signature
  require (signer = intent.owner) .badPriorAllowance
  require (total ≤ (w.tokens intent.token).allowance intent.owner ctx.self) .badPriorAllowance
  splitFromOwner ctx w intent.owner intent.token intent.recipient intent.amount.val feeAmount

def executeUsdtTransferWithAuth (e : Ecdsa) (ctx : Ctx) (w : World) (intent : UsdtTransferIntent)
    (auth : TokenAuthorization) (feeAmount : Nat) : Except Revert World := do
  let total ← checked 256 (intent.amount.val + feeAmount) .panic
  if auth.mode = AuthorizationMode.eip2612.ordinal then
    byPermit e ctx w intent auth.eip2612 feeAmount total
  else if auth.mode = AuthorizationMode.eip3009.ordinal then
    byAuthorization e ctx w intent auth.eip3009 feeAmount total
  else if auth.mode = AuthorizationMode.priorAllowance.ordinal then
    byPriorAllowance e ctx w intent auth.priorAllowance auth.priorAllowanceSignature feeAmount total
  else .error .unsupportedFeeMode

end StreamGTransfers

/-! ## `StreamGSell` -/

/-- The arguments of `executeSponsoredSell`. -/
structure SellCall where
  intent : SellIntent
  quote : FeeQuote
  goatPermit : Eip2612Authorization
  intentSignature : EthSignature
  quoteSignature : EthSignature

namespace StreamGSell

/-- The intent names no fee token: the quote's is checked against itself. -/
def quoteCheck (intent : SellIntent) (quote : FeeQuote) : QuoteCheck where
  actionType := actionSponsoredSell
  payer := intent.seller
  feeToken := quote.feeToken
  feeTokenConfigHash := intent.feeTokenConfigHash
  deploymentManifestHash := intent.deploymentManifestHash
  maxFee := intent.maxFee
  actionCoreHash := sellCoreHash intent
  requiredCapability := capSellSplit

def authorize (e : Ecdsa) (ctx : Ctx) (w : World) (g : GoatRelayGateway) (x : SellCall) :
    Except Revert GoatRelayGateway := do
  require (w.now < x.intent.deadline.val) .expiredDeadline
  require (¬ (x.intent.seller = 0 ∨ x.intent.expectedRoot = 0 ∨ x.intent.desk = 0)) .zeroAddress
  require (g.sponsoredBuyDesk ≠ 0) .deskNotConfigured
  require (x.intent.desk = g.sponsoredBuyDesk) .deskMismatch
  require (w.site.codehash x.intent.desk = g.sponsoredBuyDeskCodeHash) .deskCodeHashMismatch
  requireRoot w x.intent.seller x.intent.expectedRoot
  let g ← validateAndConsumeQuote e ctx w g (quoteCheck x.intent x.quote) x.quote x.quoteSignature
  require (x.intent.feeQuoteHash = digest ctx (feeQuoteStructHash x.quote)) .invalidQuote
  require (GoatPermitMatches w ctx.goat x.goatPermit x.intent.seller x.intent.desk
    x.intent.goatAmount x.intent.goatPermitDigest) .badGoatPermit
  let signer ← e.recover (digest ctx (sellIntentStructHash x.intent)) x.intentSignature
  require (signer = x.intent.seller) .badIntentSignature
  markIntentAndNonce g x.intent.intentId x.intent.seller actionSponsoredSell x.intent.nonce.val

def settle (e : Ecdsa) (ctx : Ctx) (w : World) (x : SellCall) : Except Revert World := do
  let (w, root, _, _) ← w.sellFor e x.intent.desk ctx.self x.intent.seller x.intent.expectedRoot
    x.intent.goatAmount.val x.intent.minNetUsdtOut.val x.quote.feeAmount.val x.goatPermit
  require (root = x.intent.expectedRoot) .rootNotRegistered
  .ok w

end StreamGSell

/-! ## `GoatRelayGateway` -/

/-- What the policy Safe does. -/
inductive GatewayAdmin where
  | setFeeScheduleHash (feeScheduleHash : Bytes32)
  | setPaused (paused : Bool)
  | setQuoteSigner (quoteSigner : Address)
  | setSponsoredBuyDesk (desk : Address)
  | activate

/-- What anyone relays. -/
inductive GatewayAction where
  | enrollment (x : EnrollmentCall)
  | sell (x : SellCall)
  | goatTransfer (x : GoatTransferCall)
  | usdtTransfer (x : UsdtTransferCall)

structure RelaySite where
  config : GoatRelayGateway.Config
  ecdsa : Ecdsa

namespace GoatRelayGateway

/-- The constructor. -/
def new (c : Config) : Except Revert GoatRelayGateway := do
  require (¬ (c.enrollmentRegistry = 0 ∨ c.feeTokenRegistry = 0 ∨ c.sponsorship = 0 ∨ c.goat = 0
    ∨ c.policySafe = 0 ∨ c.feeSafe = 0)) .zeroAddress
  .ok
    { activated := false
      paused := true
      feeScheduleHash := 0
      quoteSigner := 0
      sponsoredBuyDesk := 0
      sponsoredBuyDeskCodeHash := 0
      actionNonces := fun _ _ => 0
      intentUsed := fun _ => false
      quoteUsed := fun _ => false
      entered := false }

variable (g : GoatRelayGateway)

def admin (cfg : Config) (w : World) (sender : Address) : GatewayAdmin →
    Except Revert GoatRelayGateway
  | .setFeeScheduleHash feeScheduleHash => do
      require (sender = cfg.policySafe) .notPolicySafe
      .ok { g with feeScheduleHash }
  | .setPaused paused => do
      require (sender = cfg.policySafe) .notPolicySafe
      .ok { g with paused }
  | .setQuoteSigner quoteSigner => do
      require (sender = cfg.policySafe) .notPolicySafe
      require (quoteSigner ≠ 0) .zeroAddress
      .ok { g with quoteSigner }
  | .setSponsoredBuyDesk desk => do
      require (sender = cfg.policySafe) .notPolicySafe
      require (desk ≠ 0) .zeroAddress
      require (g.sponsoredBuyDesk = 0) .deskAlreadySet
      require (w.site.codehash desk ≠ 0) .deskMismatch
      .ok { g with sponsoredBuyDesk := desk, sponsoredBuyDeskCodeHash := w.site.codehash desk }
  | .activate => do
      require (sender = cfg.policySafe) .notPolicySafe
      require (g.activated = false) .alreadyActivated
      require (g.feeScheduleHash ≠ 0) .configHashMismatch
      require (w.fees.activeManifestHash ≠ 0) .configHashMismatch
      require (w.wallets.gateway = cfg.self) .configHashMismatch
      .ok { g with activated := true }

def domain (cfg : Config) (w : World) : Bytes32 :=
  domainSeparator "GoatRelayGateway" "1" w.site.chainId cfg.self

/-- `_ctx`. -/
def ctx (cfg : Config) (w : World) : Ctx where
  self := cfg.self
  enrollmentRegistry := cfg.enrollmentRegistry
  sponsorship := cfg.sponsorship
  goat := cfg.goat
  feeSafe := cfg.feeSafe
  quoteSigner := g.quoteSigner
  feeScheduleHash := g.feeScheduleHash
  domainSeparator := domain cfg w

/-- `nonReentrant` and `_requireLive`, on the way in. -/
def enter : Except Revert GoatRelayGateway := do
  require (g.entered = false) .reentrantCall
  require (g.activated = true) .notActivated
  require (g.paused = false) .paused
  .ok { g with entered := true }

end GoatRelayGateway

namespace RelaySite

variable (d : RelaySite)

/-- The first half of an action. -/
def authorize (g : GoatRelayGateway) (w : World) (sender : Address) :
    GatewayAction → Except Revert GoatRelayGateway
  | .enrollment x => StreamGEnroll.authorize d.ecdsa (g.ctx d.config w) w g sender x
  | .sell x => StreamGSell.authorize d.ecdsa (g.ctx d.config w) w g x
  | .goatTransfer x => StreamGXfer.authorizeGoat d.ecdsa (g.ctx d.config w) w g x
  | .usdtTransfer x => StreamGXfer.authorizeUsdt d.ecdsa (g.ctx d.config w) w g x

/-- The second half of it. -/
def settle (g : GoatRelayGateway) (w : World) : GatewayAction → Except Revert World
  | .enrollment x => StreamGEnroll.settle d.ecdsa (g.ctx d.config w) w x
  | .sell x => StreamGSell.settle d.ecdsa (g.ctx d.config w) w x
  | .goatTransfer x => StreamGXfer.settleGoat d.ecdsa (g.ctx d.config w) w x
  | .usdtTransfer x =>
      StreamGTransfers.executeUsdtTransferWithAuth d.ecdsa (g.ctx d.config w) w x.intent
        x.transferAuthorization x.quote.feeAmount.val

/-- Everything up to the first call that could call back. -/
def opening (g : GoatRelayGateway) (w : World) (sender : Address) (a : GatewayAction) :
    Except Revert GoatRelayGateway := do
  let g ← g.enter
  d.authorize g w sender a

/-- A whole action, with tokens that do not call back. -/
def execute (g : GoatRelayGateway) (w : World) (sender : Address) (a : GatewayAction) :
    Except Revert (GoatRelayGateway × World) := do
  let g' ← d.opening g w sender a
  let w' ← d.settle g w a
  .ok ({ g' with entered := false }, w')

end RelaySite

/-! ## What the checks say -/

namespace StreamGCommon

theorem markIntentAndNonce_ok {g g' : GoatRelayGateway} {intentId actionType : Bytes32}
    {signer : Address} {nonce : Nat} :
    markIntentAndNonce g intentId signer actionType nonce = .ok g'
      ↔ (intentId ≠ 0 ∧ g.intentUsed intentId = false ∧ g.actionNonces signer actionType = nonce
          ∧ nonce + 1 < 2 ^ 256)
        ∧ g' = { g with
          intentUsed := update g.intentUsed intentId true
          actionNonces := update g.actionNonces signer
            (update (g.actionNonces signer) actionType (nonce + 1)) } := by
  constructor
  · intro h
    obtain ⟨_, hid, _, hunused, _, hnonce, _, hnext, h⟩ := bind_ok₄.mp h
    obtain ⟨hlt, rfl⟩ := checked_ok.mp hnext
    exact ⟨⟨require_ok.mp hid, require_ok.mp hunused, require_ok.mp hnonce, hlt⟩,
      (Except.ok.inj h).symm⟩
  · rintro ⟨⟨hid, hunused, hnonce, hlt⟩, rfl⟩
    exact bind_ok₄.mpr ⟨_, require_of hid, _, require_of hunused, _, require_of hnonce, _,
      checked_ok.mpr ⟨hlt, rfl⟩, rfl⟩

/-- What a quote that is used up was checked for. -/
structure Consumed (e : Ecdsa) (ctx : Ctx) (w : World) (g : GoatRelayGateway) (qc : QuoteCheck)
    (quote : FeeQuote) (signature : EthSignature) : Prop where
  signer : ctx.quoteSigner ≠ 0
  id : quote.quoteId ≠ 0
  fresh : g.quoteUsed quote.quoteId = false
  action : quote.actionType = qc.actionType
  payer : quote.payer = qc.payer
  recipient : quote.feeRecipient = ctx.feeSafe
  token : quote.feeToken = qc.feeToken ∧ quote.feeToken ≠ 0
  amount : quote.feeAmount ≠ 0 ∧ quote.feeAmount ≤ qc.maxFee
  valid : quote.validAfter.val ≤ w.now ∧ w.now < quote.validUntil.val
  manifest : qc.deploymentManifestHash = w.fees.activeManifestHash
    ∧ quote.deploymentManifestHash = w.fees.activeManifestHash
  schedule : quote.feeScheduleHash = ctx.feeScheduleHash ∧ ctx.feeScheduleHash ≠ 0
  authorized : w.fees.IsAuthorized w.site qc.feeToken qc.requiredCapability
  config : w.fees.tokenConfigHashes qc.feeToken ≠ 0
    ∧ qc.feeTokenConfigHash = w.fees.tokenConfigHashes qc.feeToken
    ∧ quote.feeTokenConfigHash = w.fees.tokenConfigHashes qc.feeToken
  core : quote.actionCoreHash = qc.actionCoreHash
  signature : e.recover (digest ctx (feeQuoteStructHash quote)) signature = .ok ctx.quoteSigner

theorem validateAndConsumeQuote_ok {e : Ecdsa} {ctx : Ctx} {w : World} {g g' : GoatRelayGateway}
    {qc : QuoteCheck} {quote : FeeQuote} {signature : EthSignature} :
    validateAndConsumeQuote e ctx w g qc quote signature = .ok g'
      ↔ Consumed e ctx w g qc quote signature
        ∧ g' = { g with quoteUsed := update g.quoteUsed quote.quoteId true } := by
  constructor
  · intro h
    obtain ⟨_, hquoteSigner, _, hid, _, hfresh, _, haction, h⟩ := bind_ok₄.mp h
    obtain ⟨_, hpayer, _, hrecipient, _, htoken, _, hamount, h⟩ := bind_ok₄.mp h
    obtain ⟨_, hmax, _, hvalid, _, hmanifest, _, hschedule, h⟩ := bind_ok₄.mp h
    obtain ⟨_, hauthorized, _, hconfig, _, hcore, h⟩ := bind_ok₃.mp h
    obtain ⟨qSigner, hsigner, _, hsame, h⟩ := bind_ok₂.mp h
    have htoken := not_or.mp (require_ok.mp htoken)
    have hmanifest := not_or.mp (require_ok.mp hmanifest)
    have hschedule := not_or.mp (require_ok.mp hschedule)
    have hconfig := not_or.mp (require_ok.mp hconfig)
    have hhashes := not_or.mp hconfig.2
    rw [require_ok.mp hsame] at hsigner
    refine ⟨⟨require_ok.mp hquoteSigner, require_ok.mp hid, require_ok.mp hfresh,
      require_ok.mp haction, require_ok.mp hpayer, require_ok.mp hrecipient,
      ⟨not_not.mp htoken.1, htoken.2⟩, ⟨require_ok.mp hamount, require_ok.mp hmax⟩,
      require_ok.mp hvalid, ⟨not_not.mp hmanifest.1, not_not.mp hmanifest.2⟩,
      ⟨not_not.mp hschedule.1, hschedule.2⟩, require_ok.mp hauthorized,
      ⟨hconfig.1, not_not.mp hhashes.1, not_not.mp hhashes.2⟩, require_ok.mp hcore, hsigner⟩,
      (Except.ok.inj h).symm⟩
  · rintro ⟨h, rfl⟩
    have htoken := not_or.mpr ⟨not_not.mpr h.token.1, h.token.2⟩
    have hmanifest := not_or.mpr ⟨not_not.mpr h.manifest.1, not_not.mpr h.manifest.2⟩
    have hschedule := not_or.mpr ⟨not_not.mpr h.schedule.1, h.schedule.2⟩
    have hconfig := not_or.mpr ⟨h.config.1,
      not_or.mpr ⟨not_not.mpr h.config.2.1, not_not.mpr h.config.2.2⟩⟩
    exact bind_ok₄.mpr ⟨_, require_of h.signer, _, require_of h.id, _, require_of h.fresh, _,
      require_of h.action,
      bind_ok₄.mpr ⟨_, require_of h.payer, _, require_of h.recipient, _, require_of htoken,
      _, require_of h.amount.1, bind_ok₄.mpr ⟨_, require_of h.amount.2, _, require_of h.valid, _,
      require_of hmanifest, _, require_of hschedule, bind_ok₃.mpr ⟨_, require_of h.authorized, _,
      require_of hconfig, _, require_of h.core,
      bind_ok₂.mpr ⟨_, h.signature, _, require_of rfl, rfl⟩⟩⟩⟩⟩

end StreamGCommon

end GoatCoin
