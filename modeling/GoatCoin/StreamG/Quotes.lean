/-
# `GoatCoin.StreamG.Quotes` — `quotes.rs`: a quote is cut, signed and stored

A request runs in two parts:

    prepare     the gates, the fee, the clock of the chain, the signature       nothing is written
    quoteTx     one transaction: a replay, a refusal, or the rows of a new quote

The clock is read in the first part and decides in the second:

    the key has a quote         the same body, before its end      the stored quote
                                the same body, after its end       marked expired, and refused
                                another body                       refused
    the intent has a quote      before its end                     refused
                                after its end                      the row of the intent is written over

The SHA-256 of a text is the text, as in the other tables: an id of `quotes` and of
`authorizations`, and the hash of a body.  What a column seals stands for the column.  The columns
of `intents` that the outbox does not know are a table of their own, `columns`.
-/
import GoatCoin.StreamG.Outbox
import GoatCoin.StreamG.Preflight

namespace GoatCoin.StreamG.Quotes

open Evm Rows Preflight
open Attestor (hex20)

/-! ## The request -/

/-- What a client asks for. -/
structure QuoteRequest where
  idempotencyKey : String
  intentIdHex : String
  rootAddress : String
  controllerAddress : String
  controllerEpoch : Word 64
  secondaryAddress : String
  rootAuthorizationDigestHex : String
  feeAuthorizationMode : Word 8
  maxFee : String
  nonce : Word 64
  deadline : Word 64
  validForSeconds : Word 64
  v1Nonce : Word 64
  v1Deadline : Word 64
  v1SignatureHex : String
  linkNonce : Word 64
  linkDeadline : Word 64
  linkSignatureHex : String
  gasUnitCeiling : Word 64
  maxFeePerGasWei : String
  unsignedSizeCeiling : Word 64

/-- Why no quote is given. -/
inductive QuoteError where
  | tokenUnauthorized (e : PreflightError)
  | feeScheduleDecimalsMismatch (payloadDecimals : Word 128) (liveDecimals : Word 8)
  | feeTokenConfigHashToctouMismatch (liveToken liveNonces : String)
  | badDigest (field : String) (len : Nat)
  | badAddress (field : String) (len : Nat)
  | badAmount (field : String) (len : Nat)
  | nonZeroRootAuthorizationDigest
  | unsupportedFeeMode (mode : Word 8)
  | deadlineExceedsUint48 (field : String) (value : Word 64)
  | staleOrMixedNonce
  | badV1Signature
  | badLinkSignature
  | zeroGasUnits
  | zeroTxSizeCeiling
  | exposureOverflow
  | exposureExceedsSchedule (reserveWei ceilingWei : Nat)
  | chain (detail : String)
  | missingTariff (action : ActionType)
  | zeroFeeAmount (action : ActionType)
  | feeExceedsMax (feeAmount maxFee : Word 128)
  | validityExceedsPolicy
  | chainTimeUnavailable (detail : String)
  | validityExceedsUint48
  | invalidQuoteSignerKey (detail : String)
  | signingFailed (detail : String)
  | idempotencyKeyConflict
  | storedQuoteExpired
deriving DecidableEq

def asked {α : Type} (e : QuoteError) : Option α → Except QuoteError α
  | some a => .ok a
  | none => .error e

theorem asked_ok {α : Type} {e : QuoteError} {x : Option α} {a : α}
    (h : asked e x = .ok a) : x = some a := by
  cases x with
  | none => cases h
  | some b =>
      cases h
      rfl

/-- The address with the given big-endian bytes. -/
def addressOfBytes (bytes : List UInt8) : Address := Fin.ofNat (2 ^ 160) (Wire.ofLE bytes.reverse)

def parseAddress20 (text : String) : Option Address :=
  if (bareHex text).length = 40 then (Hex.decode (bareHex text)).map addressOfBytes else none

def parseU128Decimal (text : String) : Option (Word 128) :=
  (Text.parseDecimal 128 (Text.trim text.toList)).bind (narrow 128)

/-! ### What is written is read back -/

theorem plain_digit : ∀ n, n < 16 → isSpace (Hex.digit n) = false := by decide

theorem plain_encode (bytes : List UInt8) : ∀ c ∈ Hex.encode bytes, isSpace c = false := by
  intro c hc
  obtain ⟨b, -, hb⟩ := List.mem_flatMap.mp hc
  have hlt := b.toNat_lt
  rcases List.mem_cons.mp hb with rfl | hb
  · exact plain_digit _ (by omega)
  · rw [List.mem_singleton.mp hb]
    exact plain_digit _ (Nat.mod_lt _ (by decide))

theorem dropWhile_plain {cs : List Char} (h : ∀ c ∈ cs, isSpace c = false) :
    cs.dropWhile isSpace = cs := by
  cases cs with
  | nil => rfl
  | cons c rest => rw [List.dropWhile_cons_of_neg (by simp [h c List.mem_cons_self])]

theorem bareHex_hex {text : String} {bytes : List UInt8}
    (h : text.toList = '0' :: 'x' :: Hex.encode bytes) : bareHex text = Hex.encode bytes := by
  have hplain : ∀ c ∈ '0' :: 'x' :: Hex.encode bytes, isSpace c = false := by
    intro c hc
    rcases List.mem_cons.mp hc with rfl | hc
    · decide
    · rcases List.mem_cons.mp hc with rfl | hc
      · decide
      · exact plain_encode bytes c hc
  unfold bareHex
  dsimp only
  rw [h, dropWhile_plain hplain, dropWhile_plain fun c hc => hplain c (List.mem_reverse.mp hc),
    List.reverse_reverse]
  rfl

theorem bytes32Hex_toList (x : Bytes32) :
    (bytes32Hex x).toList = '0' :: 'x' :: Hex.encode (Wire.toBE 32 x.val) := by
  unfold bytes32Hex Attestor.hex32 Attestor.hexOf
  simp only [String.toList_append, String.toList_ofList]
  rfl

theorem hex20_toList (x : Address) :
    (hex20 x).toList = '0' :: 'x' :: Hex.encode (Wire.toBE 20 x.val) := by
  unfold hex20 Attestor.hexOf
  simp only [String.toList_append, String.toList_ofList]
  rfl

theorem length_encode (bytes : List UInt8) : (Hex.encode bytes).length = 2 * bytes.length := by
  induction bytes with
  | nil => rfl
  | cons b rest ih =>
      show (_ :: _ :: Hex.encode rest).length = _
      rw [List.length_cons, List.length_cons, List.length_cons, ih]
      omega

theorem parseBytes32_bytes32Hex (x : Bytes32) : parseBytes32 (bytes32Hex x) = some x := by
  have hfits : x.val < 256 ^ 32 := x.isLt.trans_le (by decide)
  unfold parseBytes32
  rw [bareHex_hex (bytes32Hex_toList x), length_encode, Wire.length_toBE, if_pos rfl,
    Hex.decode_encode, Option.map_some]
  unfold wordOfBytes Wire.toBE
  rw [List.reverse_reverse, Wire.ofLE_toLE 32 x.val hfits]
  exact congrArg some (Fin.ext (Nat.mod_eq_of_lt x.isLt))

theorem parseAddress20_hex20 (x : Address) : parseAddress20 (hex20 x) = some x := by
  have hfits : x.val < 256 ^ 20 := x.isLt.trans_le (by decide)
  unfold parseAddress20
  rw [bareHex_hex (hex20_toList x), length_encode, Wire.length_toBE, if_pos rfl, Hex.decode_encode,
    Option.map_some]
  unfold addressOfBytes Wire.toBE
  rw [List.reverse_reverse, Wire.ofLE_toLE 20 x.val hfits]
  exact congrArg some (Fin.ext (Nat.mod_eq_of_lt x.isLt))

/-! ### The parts of a request -/

structure ParsedEnrollmentFields where
  intentId : Bytes32
  root : Address
  controller : Address
  secondary : Address
  rootAuthorizationDigest : Bytes32

/-- A field is refused by its name and its length, never by what it says. -/
def digestField (field text : String) : Except QuoteError Bytes32 :=
  asked (.badDigest field text.utf8ByteSize) (parseBytes32 text)

def addressField (field text : String) : Except QuoteError Address :=
  asked (.badAddress field text.utf8ByteSize) (parseAddress20 text)

def amountField (field text : String) : Except QuoteError (Word 128) :=
  asked (.badAmount field text.utf8ByteSize) (parseU128Decimal text)

def parseEnrollmentFields (req : QuoteRequest) : Except QuoteError ParsedEnrollmentFields := do
  let intentId ← digestField "intent_id_hex" req.intentIdHex
  let root ← addressField "root_address" req.rootAddress
  let controller ← addressField "controller_address" req.controllerAddress
  let secondary ← addressField "secondary_address" req.secondaryAddress
  let rootAuthorizationDigest ← digestField "root_authorization_digest_hex"
    req.rootAuthorizationDigestHex
  return ⟨intentId, root, controller, secondary, rootAuthorizationDigest⟩

/-! ## What the server knows -/

/-- The tariffs. -/
structure FeeSchedule where
  payloadDecimals : Word 128
  tariffs : ActionType → Option (Word 128)

/-- The manifest with the two hashes that a quote carries, what was read from the chain for the
request, and the key that signs; a text is the reason why there is none, or why it cannot. -/
structure EnrollmentQuoteContext where
  manifest : DeploymentManifest
  deploymentManifestHash : Bytes32
  feeScheduleHash : Bytes32
  liveToken : LiveTokenReading
  liveNonces : LiveEnrollmentNonces
  maxNativeExposureWei : Word 128
  quoteSigner : Except String (Bytes32 → Except String EthSignature)
  curve : Curve
  sha256 : Text → Bytes32

/-- What the chain answers while a request is prepared. -/
structure QuoteChain where
  gasOracleL1FeeUpperBound : Word 64 → Except String (Word 128)
  gasOracleOperatorFee : Word 64 → Except String (Word 128)
  blockTimestamp : Except String (Word 64)

def asChain {α : Type} (answer : Except String α) : Except QuoteError α := answer.mapError .chain

/-- `quote_exposure`: a gate, whose figure goes nowhere. -/
def quoteExposure (chain : QuoteChain) (gasUnitCeiling : Word 64) (maxFeePerGas : Word 128)
    (unsignedSizeCeiling : Word 64) (ceiling : Word 128) : Except QuoteError Unit := do
  require (gasUnitCeiling.val ≠ 0) .zeroGasUnits
  require (unsignedSizeCeiling.val ≠ 0) .zeroTxSizeCeiling
  let l2Wei ← checked 128 (gasUnitCeiling.val * maxFeePerGas.val) .exposureOverflow
  let l1UpperWei ← asChain (chain.gasOracleL1FeeUpperBound unsignedSizeCeiling)
  let operatorWei ← asChain (chain.gasOracleOperatorFee gasUnitCeiling)
  let l2PlusL1 ← checked 128 (l2Wei + max 0 l1UpperWei.val) .exposureOverflow
  let reserve ← checked 128 (l2PlusL1 + operatorWei.val) .exposureOverflow
  require (reserve ≤ ceiling.val) (.exposureExceedsSchedule reserve ceiling.val)

structure DerivedNestedDigests where
  enrollDigest : Bytes32
  linkDigest : Bytes32

def verifyNestedEnrollmentBearers (ctx : EnrollmentQuoteContext) (fields : ParsedEnrollmentFields)
    (req : QuoteRequest) : Except QuoteError DerivedNestedDigests := do
  require (req.v1Nonce = ctx.liveNonces.v1EnrollNonce ∧ req.linkNonce = ctx.liveNonces.linkNonce)
    .staleOrMixedNonce
  let enroll :=
    Preflight.enrollDigest fields.secondary req.v1Nonce req.v1Deadline ctx.manifest.chainId
    ctx.manifest.enrollmentRegistry
  require (recoversTo ctx.curve enroll req.v1SignatureHex.toList fields.secondary = true)
    .badV1Signature
  let link :=
    Preflight.linkSecondaryDigest ⟨fields.root, fields.secondary, req.linkNonce, req.linkDeadline⟩
    ctx.manifest.chainId ctx.manifest.walletSponsorshipRegistry
  require (recoversTo ctx.curve link req.linkSignatureHex.toList fields.secondary = true)
    .badLinkSignature
  return ⟨enroll, link⟩

/-! ## Names and windows -/

/-- `quote_id_bytes`, before it is hashed. -/
def quoteIdText (profileId idempotencyKey : String) : Text :=
  "stream_g_quote|v1|".toList ++ profileId.toList ++ '|' :: idempotencyKey.toList

/-- `deterministic_id` of the bearers of a quote. -/
def authorizationIdText (profileId idempotencyKey : String) : Text :=
  "stream_g_enrollment_bearers|".toList ++ profileId.toList ++ '|' :: idempotencyKey.toList

def quoteTtlSecondsMax : Nat := 15 * 60

def uint48Max : Nat := 2 ^ 48 - 1

/-- Step 4: the window begins at the time of the chain. -/
def cutWindow (validForSeconds : Word 64) (blockTimestamp : Except String (Word 64)) :
    Except QuoteError (Word 64 × Word 64) := do
  require (validForSeconds.val ≠ 0 ∧ validForSeconds.val ≤ quoteTtlSecondsMax)
    .validityExceedsPolicy
  let chainNow ← blockTimestamp.mapError .chainTimeUnavailable
  require (chainNow.val ≠ 0)
    (.chainTimeUnavailable
      "block_timestamp() returned 0, which this ChainClient documents as \"unknown\"")
  let validUntil := min (chainNow.val + validForSeconds.val) (2 ^ 64 - 1)
  require (validUntil ≤ uint48Max) .validityExceedsUint48
  return (chainNow, Fin.ofNat (2 ^ 64) validUntil)

/-- **A window is open for a moment at least**, and both of its ends are a `uint48`. -/
theorem cutWindow_ok {validForSeconds : Word 64} {blockTimestamp : Except String (Word 64)}
    {window : Word 64 × Word 64} (h : cutWindow validForSeconds blockTimestamp = .ok window) :
    window.1.val < window.2.val ∧ window.2.val < 2 ^ 48 := by
  obtain ⟨_, hpolicy, chainNow, -, _, -, _, hfits, h⟩ := bind_ok₄.mp h
  cases h
  have hpolicy := require_ok.mp hpolicy
  have hfits := require_ok.mp hfits
  unfold uint48Max at hfits
  have hval : (Fin.ofNat (2 ^ 64) (min (chainNow.val + validForSeconds.val) (2 ^ 64 - 1))).val
      = min (chainNow.val + validForSeconds.val) (2 ^ 64 - 1) := Nat.mod_eq_of_lt (by omega)
  dsimp only
  rw [hval]
  omega

/-- `canonical_body_string`: what a replay has to repeat. -/
def canonicalBodyString (core : Preflight.SponsorEnrollment) (feeAmount : Word 128)
    (req : QuoteRequest) : Text :=
  List.intercalate ['|']
    [(bytes32Hex core.intentId).toList, (hex20 core.root).toList, (hex20 core.controller).toList,
      (toString core.controllerEpoch.val).toList, (hex20 core.secondary).toList,
      (bytes32Hex core.enrollDigest).toList,
      (bytes32Hex core.linkDigest).toList, (bytes32Hex core.rootAuthorizationDigest).toList,
      (toString core.feeAuthorizationMode.val).toList, (toString core.maxFee.val).toList,
      (toString core.nonce.val).toList, (toString core.deadline.val).toList,
      (toString feeAmount.val).toList,
      (toString req.v1Nonce.val).toList, (toString req.v1Deadline.val).toList,
      req.v1SignatureHex.toList, (toString req.linkNonce.val).toList, req.linkSignatureHex.toList]

/-! ## The rows -/

/-- `QuotePayload`: the quote, whose it is, its signature, and the hash of the body it was asked
with. -/
structure QuotePayload where
  profileId : String
  quote : Preflight.FeeQuote
  quoteSignature : EthSignature
  bodyHash : Text

structure EnrollmentIntentPayload where
  intentId : Bytes32
  profileId : String
  quoteId : Bytes32
  actionCoreHash : Bytes32

structure NestedBearerPayload where
  v1Wallet : Address
  v1Nonce : Word 64
  v1Deadline : Word 64
  v1SignatureHex : String
  linkRoot : Address
  linkSecondary : Address
  linkNonce : Word 64
  linkDeadline : Word 64
  linkSignatureHex : String

/-- Whether a quote is live. -/
inductive QuoteStatus where
  | active
  | expired
deriving DecidableEq

/-- A row of the quotes. -/
structure QuoteRow where
  id : Text
  profileId : Option String
  quoteAmount : Word 128
  status : QuoteStatus
  payload : QuotePayload
  createdAt : Int
  expiresAt : Int

/-- The columns of `intents` that only this module reads and writes. -/
structure IntentColumns where
  id : IntentRowId
  quoteId : Option Text
  amount : Word 128
  intent : EnrollmentIntentPayload
  createdAt : Int

structure AuthorizationRow where
  id : Text
  intentId : IntentRowId
  profileId : String
  bearers : NestedBearerPayload
  createdAt : Int
  authorizedAt : Int

/-- `reserved`, and filled by nobody yet. -/
structure SlotRow where
  id : Text
  authorizationId : Text
  slotIndex : Nat
  createdAt : Int

/-- The store, as far as a quote goes. -/
structure QuoteStore where
  db : Db
  columns : List IntentColumns
  quotes : List QuoteRow
  authorizations : List AuthorizationRow
  slots : List SlotRow

/-! ## Before the transaction -/

/-- What the transaction is given. -/
structure PreparedQuote where
  profileId : String
  idempotencyKey : String
  intentId : Bytes32
  chainNow : Word 64
  feeAmount : Word 128
  payload : QuotePayload
  bearers : NestedBearerPayload
  now : Int

def PreparedQuote.quoteRowId (p : PreparedQuote) : Text := quoteIdText p.profileId p.idempotencyKey

def PreparedQuote.intentRow (p : PreparedQuote) : IntentRowId := ⟨p.profileId, p.intentId⟩

def PreparedQuote.authorizationRowId (p : PreparedQuote) : Text :=
  authorizationIdText p.profileId p.idempotencyKey

/-- Step 1a: what the gateway would revert on, whatever the chain says. -/
def checkFields (fields : ParsedEnrollmentFields) (req : QuoteRequest) :
    Except QuoteError Unit := do
  require (fields.rootAuthorizationDigest = 0) .nonZeroRootAuthorizationDigest
  require (req.feeAuthorizationMode = 1) (.unsupportedFeeMode req.feeAuthorizationMode)
  require (req.deadline.val ≤ uint48Max) (.deadlineExceedsUint48 "deadline" req.deadline)
  require (req.linkDeadline.val ≤ uint48Max)
    (.deadlineExceedsUint48 "link_deadline" req.linkDeadline)

/-- Step 3: the tariff, against what the caller is ready to pay. -/
def tariff (schedule : FeeSchedule) (req : QuoteRequest) :
    Except QuoteError (Word 128 × Word 128) := do
  let feeAmount ← asked (.missingTariff .sponsoredEnrollment)
    (schedule.tariffs .sponsoredEnrollment)
  require (feeAmount.val ≠ 0) (.zeroFeeAmount .sponsoredEnrollment)
  let maxFee ← amountField "max_fee" req.maxFee
  require (feeAmount.val ≤ maxFee.val) (.feeExceedsMax feeAmount maxFee)
  return (feeAmount, maxFee)

/-- Step 5: the core of the intent; what is bound later is zero. -/
def EnrollmentQuoteContext.core (ctx : EnrollmentQuoteContext) (fields : ParsedEnrollmentFields)
    (digests : DerivedNestedDigests) (maxFee : Word 128) (req : QuoteRequest) :
    Preflight.SponsorEnrollment :=
  { intentId := fields.intentId, deploymentManifestHash := ctx.deploymentManifestHash,
    feeTokenConfigHash := ctx.liveToken.feeTokenConfigHash, root := fields.root, controller :=
    fields.controller,
    controllerEpoch := req.controllerEpoch, secondary := fields.secondary, enrollDigest :=
    digests.enrollDigest,
    linkDigest := digests.linkDigest, rootAuthorizationDigest := fields.rootAuthorizationDigest,
    feeToken := ctx.manifest.feeToken, feeAuthorizationMode :=
    req.feeAuthorizationMode, feeAuthorizationDigest := 0,
    maxFee := maxFee, feeQuoteHash := 0, nonce := req.nonce, deadline := req.deadline }

/-- Step 6: the quote that is signed. -/
def EnrollmentQuoteContext.feeQuote (ctx : EnrollmentQuoteContext) (profileId : String)
    (req : QuoteRequest)
    (core : Preflight.SponsorEnrollment) (feeAmount : Word 128)
    (window : Word 64 × Word 64) : Preflight.FeeQuote :=
  { quoteId := ctx.sha256 (quoteIdText profileId req.idempotencyKey),
    actionType := actionSponsoredEnrollment,
    actionCoreHash := Preflight.sponsorEnrollmentCoreHash core, deploymentManifestHash :=
    ctx.deploymentManifestHash,
    feeTokenConfigHash := ctx.liveToken.feeTokenConfigHash, feeScheduleHash := ctx.feeScheduleHash,
    payer := core.controller, feeToken := ctx.manifest.feeToken, feeAmount := feeAmount,
    feeRecipient := ctx.manifest.feeSafe, validAfter := window.1, validUntil := window.2 }

def QuoteRequest.bearers (req : QuoteRequest)
    (fields : ParsedEnrollmentFields) : NestedBearerPayload :=
  ⟨fields.secondary, req.v1Nonce, req.v1Deadline, req.v1SignatureHex, fields.root,
    fields.secondary, req.linkNonce, req.linkDeadline, req.linkSignatureHex⟩

/-- Everything before the transaction, in the order of the source. -/
def prepare (ctx : EnrollmentQuoteContext) (schedule : FeeSchedule) (chain : QuoteChain)
    (profileId : String) (req : QuoteRequest) (now : Int) : Except QuoteError PreparedQuote := do
  (assertTokenAuthorized ctx.liveToken capEip2612.val).mapError .tokenUnauthorized
  require (schedule.payloadDecimals.val = ctx.liveToken.capability.decimals.val)
    (.feeScheduleDecimalsMismatch schedule.payloadDecimals ctx.liveToken.capability.decimals)
  require (ctx.liveToken.feeTokenConfigHash = ctx.liveNonces.feeTokenConfigHash)
    (.feeTokenConfigHashToctouMismatch (bytes32Hex ctx.liveToken.feeTokenConfigHash)
      (bytes32Hex ctx.liveNonces.feeTokenConfigHash))
  let fields ← parseEnrollmentFields req
  checkFields fields req
  let digests ← verifyNestedEnrollmentBearers ctx fields req
  let maxFeePerGas ← amountField "max_fee_per_gas_wei" req.maxFeePerGasWei
  quoteExposure chain req.gasUnitCeiling maxFeePerGas req.unsignedSizeCeiling
    ctx.maxNativeExposureWei
  let fees ← tariff schedule req
  let window ← cutWindow req.validForSeconds chain.blockTimestamp
  let core := ctx.core fields digests fees.2 req
  let quote := ctx.feeQuote profileId req core fees.1 window
  let sign ← ctx.quoteSigner.mapError .invalidQuoteSignerKey
  let digest := Preflight.feeQuoteDigest quote ctx.manifest.chainId ctx.manifest.goatRelayGateway
  let signature ← (sign digest).mapError .signingFailed
  return ⟨profileId, req.idempotencyKey, fields.intentId, window.1, fees.1,
    ⟨profileId, quote, signature, canonicalBodyString core fees.1 req⟩, req.bearers fields, now⟩

/-! ## The transaction -/

inductive QuoteTxOutcome where
  | fresh
  | replay (stored : QuotePayload)
  | replayOfExpiredQuote

/-- The key has a quote. -/
def replayQuote (s : QuoteStore) (p : PreparedQuote) (row : QuoteRow) :
    Except QuoteError (QuoteStore × QuoteTxOutcome) := do
  require (row.payload.bodyHash = p.payload.bodyHash ∧ row.payload.profileId = p.profileId
    ∧ row.profileId = some p.profileId) .idempotencyKeyConflict
  if row.payload.quote.validUntil.val ≤ p.chainNow.val then
    let quotes :=
      setWhere (fun q : QuoteRow => q.id = p.quoteRowId)
        (fun q => { q with status := .expired }) s.quotes
    return ({ s with quotes := quotes }, .replayOfExpiredQuote)
  else return (s, .replay row.payload)

def PreparedQuote.row (p : PreparedQuote) : QuoteRow :=
  ⟨p.quoteRowId, some p.profileId, p.feeAmount, .active, p.payload, p.now,
    p.payload.quote.validUntil.val⟩

def PreparedQuote.columns (p : PreparedQuote) : IntentColumns :=
  ⟨p.intentRow, some p.quoteRowId, p.feeAmount,
    ⟨p.intentId, p.profileId, p.payload.quote.quoteId, p.payload.quote.actionCoreHash⟩, p.now⟩

/-- A quote whose id is new. -/
def insertQuote (s : QuoteStore) (p : PreparedQuote) : Except QuoteError QuoteStore := do
  let quotes ← asked .idempotencyKeyConflict
    (insertOrIgnore (fun a b : QuoteRow => a.id = b.id) p.row s.quotes)
  return { s with quotes := quotes }

/-- `SELECT quote_id FROM intents WHERE id = ?`. -/
def QuoteStore.priorQuoteId (s : QuoteStore) (id : IntentRowId) : Option Text :=
  (s.columns.find? fun c => c.id = id).bind (·.quoteId)

/-- `SELECT expires_at FROM quotes WHERE id = ?`, for the quote that the intent names. -/
def QuoteStore.priorExpiresAt (s : QuoteStore) (id : IntentRowId) : Option Int :=
  (s.priorQuoteId id).bind fun quoteId => (s.quotes.find? fun q => q.id = quoteId).map (·.expiresAt)

/-- The quote of the intent is not the live one any more. -/
def expirePrior (s : QuoteStore) (id : IntentRowId) : QuoteStore :=
  let quotes := setWhere (fun q : QuoteRow => s.priorQuoteId id = some q.id ∧ q.status ≠ .expired)
    (fun q => { q with status := .expired }) s.quotes
  { s with quotes := quotes }

/-- The row of the intent is written over. -/
def supersedeIntent (s : QuoteStore) (p : PreparedQuote) : Except QuoteError QuoteStore := do
  let touched := fun i : IntentRow => i.id = p.intentRow ∧ i.profileId = p.profileId
  require (affected touched s.db.intents = 1) .idempotencyKeyConflict
  let intents := setWhere touched
    (fun i => { i with status := .pending, expiresAt := some p.payload.quote.validUntil.val })
      s.db.intents
  let columns :=
    setWhere (fun c : IntentColumns => c.id = p.intentRow) (fun _ => p.columns) s.columns
  return { s with db := { s.db with intents := intents }, columns := columns }

/-- The row of an intent that is new. -/
def insertIntent (s : QuoteStore) (p : PreparedQuote) : Except QuoteError QuoteStore := do
  let intents ← asked .idempotencyKeyConflict (insertOrIgnore (fun a b : IntentRow => a.id = b.id)
    ⟨p.intentRow, p.profileId, .pending, some p.payload.quote.validUntil.val⟩ s.db.intents)
  return { s with db := { s.db with intents := intents }, columns := s.columns ++ [p.columns] }

/-- The intent is new, or its quote has ended. -/
def claimIntent (s : QuoteStore) (p : PreparedQuote) : Except QuoteError QuoteStore :=
  match s.db.intents.find? fun i => i.id = p.intentRow with
  | none => insertIntent s p
  | some intent => do
      require (intent.profileId = p.profileId) .idempotencyKeyConflict
      require (∃ exp ∈ s.priorExpiresAt p.intentRow, exp ≤ p.chainNow.val) .idempotencyKeyConflict
      supersedeIntent (expirePrior s p.intentRow) p

/-- The signatures of a quote. -/
def insertAuthorization (s : QuoteStore) (p : PreparedQuote) : Except QuoteError QuoteStore := do
  let authorizations ← asked .idempotencyKeyConflict
    (insertOrIgnore (fun a b : AuthorizationRow => a.id = b.id)
    ⟨p.authorizationRowId, p.intentRow, p.profileId, p.bearers, p.now, p.now⟩ s.authorizations)
  return { s with authorizations := authorizations }

/-- The primary key, and `UNIQUE (authorization_id, slot_index)`. -/
def SlotRow.Clashes (a b : SlotRow) : Prop :=
  a.id = b.id ∨ a.authorizationId = b.authorizationId ∧ a.slotIndex = b.slotIndex

instance : DecidableRel SlotRow.Clashes := fun _ _ => inferInstanceAs (Decidable (_ ∨ _ ∧ _))

/-- A slot of an authorization. -/
def insertSlot (p : PreparedQuote) (slotIndex : Nat) (s : QuoteStore) :
    Except QuoteError QuoteStore := do
  let slots ← asked .idempotencyKeyConflict (insertOrIgnore SlotRow.Clashes
    ⟨p.authorizationRowId ++ "-slot-".toList ++ (toString slotIndex).toList, p.authorizationRowId,
      slotIndex, p.now⟩
    s.slots)
  return { s with slots := slots }

/-- The `write_tx` of a request: with an error, nothing of it is kept. -/
def quoteTx (s : QuoteStore) (p : PreparedQuote) :
    Except QuoteError (QuoteStore × QuoteTxOutcome) :=
  match s.quotes.find? fun q => q.id = p.quoteRowId with
  | some row => replayQuote s p row
  | none => do
      let s ← insertQuote s p
      let s ← claimIntent s p
      let s ← insertAuthorization s p
      let s ← insertSlot p 0 s
      let s ← insertSlot p 1 s
      return (s, .fresh)

/-- What the caller is told: a quote, new or stored, or why there is none. -/
def commitQuote (s : QuoteStore) (p : PreparedQuote) :
    QuoteStore × Except QuoteError QuotePayload :=
  match quoteTx s p with
  | .ok (s, .fresh) => (s, .ok p.payload)
  | .ok (s, .replay stored) => (s, .ok stored)
  | .ok (s, .replayOfExpiredQuote) => (s, .error .storedQuoteExpired)
  | .error e => (s, .error e)

end GoatCoin.StreamG.Quotes
