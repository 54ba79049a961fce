/-
# `GoatCoin.Attestor.Verify` — the ten stages of `verify.rs`

A bundle holds the receipt, its intent, the witness and a signature over each.  It is checked by
stages, the structural ones first, and what passes all ten is a `VerifiedReceipt`: the only thing
the store takes.

    1  Structural            chain, lengths of signatures, zero fields, price band, window
    2  EpochSpace            the epoch being settled, and the intent's
    3  ChunkSizeRule         10 MiB for an interim chunk, 1 to 10 MiB for a final one
    4  ValidityWindow        at most a day, and now is in it
    5  IntentBinding         the receipt names the hash of this intent, of a live entry
    6  CrossFieldAgreement   what both structs hold is equal, and the chunk is under the ceiling
    7  SelfDealing           operator and consumer have different cluster roots
    8  OperatorSignature
    9  ConsumerSignature
    10 GatewayWitness        the gateway saw this receipt's bytes, all of them and no more

`Verified` is what the rest of the lane uses of it.
-/
import GoatCoin.Attestor.Receipt

namespace GoatCoin.Attestor

open Evm

/-! ## The lane's constants -/

def minPriceGoatWeiPerMebibyte : Nat := 1
def maxPriceGoatWeiPerMebibyte : Nat := 1000000000000000000
def maxValidityWindowSecs : Nat := 86400
def proxyEpochBase : Nat := 8000000000000
def enrollmentEpochBase : Nat := 9000000000000

/-- The epochs of the proxy lane. -/
def isProxyEpoch (epochId : Word 64) : Bool :=
  decide (proxyEpochBase ≤ epochId.val ∧ epochId.val < enrollmentEpochBase)

/-! ## The fraud lane's refusals -/

inductive FraudError where
  | selfDealing (consumer operator root : String)
  | clusterOverByteCeiling (root : String) (claimed members ceiling : Nat)
  | pairConcentrationExceeded (operator consumer : String) (shareBps capBps : Nat)
  | chunkSequenceGap (sessionIdHex : String) (expected found : Nat)
  | malformedSessionTail (sessionIdHex reason : String)
deriving DecidableEq

/-- `shared_cluster_root`: both roots resolve, and to the same value. -/
def sharedClusterRoot (consumerRoot operatorRoot : Option Bytes32) : Option String :=
  match consumerRoot, operatorRoot with
  | some c, some o => if c = o then some (hexOf 32 c.val) else none
  | _, _ => none

def checkNotSelfDealingByClusterRoot (consumerId : Bytes32) (operatorWallet : Address)
    (consumerRoot operatorRoot : Option Bytes32) : Except FraudError Unit :=
  match sharedClusterRoot consumerRoot operatorRoot with
  | some root =>
      .error (.selfDealing (hexOf 32 consumerId.val) (hexOf 20 operatorWallet.val) root)
  | none => .ok ()

/-! ## Bundles -/

inductive VerifyStage where
  | structural | epochSpace | chunkSizeRule | validityWindow | intentBinding | crossFieldAgreement
  | selfDealing | operatorSignature | consumerSignature | gatewayWitness
deriving DecidableEq

inductive SigningParty where
  | operator | consumer | gateway
deriving DecidableEq

structure ProxyReceiptBundle where
  receipt : BytesTransferredReceipt
  intent : ProxySessionIntent
  witness : GatewayWitness
  operatorSig : List UInt8
  consumerSig : List UInt8
  gatewaySig : List UInt8

structure ProxyPartyDirectory where
  consumerSigner : Bytes32 → Option Address
  gatewaySigner : Bytes32 → Option Address
  operatorClusterRoot : Address → Option Bytes32
  consumerClusterRoot : Bytes32 → Option Bytes32

structure VerifyContext where
  chainId : Word 64
  verifyingContract : Address
  epochId : Word 64
  nowUnix : Word 64
  allowlistManifestDigest : Bytes32
  allowlistEntryCount : Word 64
  directory : ProxyPartyDirectory

structure VerifiedReceipt where
  receipt : BytesTransferredReceipt
  intent : ProxySessionIntent
  witness : GatewayWitness
  receiptHash : Bytes32
  receiptStructHash : Bytes32
  intentStructHash : Bytes32
  operatorSigner : Address
  consumerSigner : Address
  gatewaySigner : Address
  operatorSig : List UInt8
  consumerSig : List UInt8
  gatewaySig : List UInt8
  chainId : Word 64
  verifyingContract : Address

/-- Why a receipt is refused. -/
inductive ProxyVerifyError where
  | chainNotAllowed (chainId : Word 64)
  | signatureAbsent (party : SigningParty)
  | signatureMalformed (party : SigningParty) (len : Nat)
  | zeroField (field : String)
  | priceOutOfBand (price : Word 128)
  | invertedValidityWindow (validFromUnix validToUnix : Word 64)
  | notCanonical (e : ReceiptError)
  | epochOutsideProxySpace (epochId : Word 64)
  | epochMismatch (expected found : Word 64)
  | intentEpochMismatch (receipt intent : Word 64)
  | chunkSize (e : ReceiptError)
  | outsideValidityWindow (nowUnix validFromUnix validToUnix : Word 64)
  | unboundedValidityWindow (seconds : Nat)
  | intentHashMismatch (claimed bundled : String)
  | staleAllowlistManifest (named inForce : String)
  | allowlistEntryPastEndOfManifest (entryId entryCount : Word 64)
  | fieldDisagreesWithIntent (field : String)
  | bytesExceedIntentCeiling (bytes maxBytes : Word 64)
  | fraud (e : FraudError)
  | unknownParty (party : SigningParty)
  | unrecoverable (stage : VerifyStage) (party : SigningParty) (source : SigError)
  | signerMismatch (stage : VerifyStage) (recovered expected : String)
  | witnessBoundToAnotherReceipt (bound actual : String)
  | witnessGatewayMismatch (witness receipt : String)
  | witnessDisagreesWithClaim (witnessed claimed : Word 64)
  | witnessedOutsideValidityWindow (witnessedAtUnix validFromUnix validToUnix : Word 64)
deriving DecidableEq

/-! ## The stages -/

section
variable (e : Secp256k1) (bundle : ProxyReceiptBundle) (ctx : VerifyContext)

/-- A signature is of 65 bytes. -/
def checkSignatureShape (party : SigningParty) (sig : List UInt8) :
    Except ProxyVerifyError Unit := do
  require (sig ≠ []) (.signatureAbsent party)
  require (sig.length = 65) (.signatureMalformed party sig.length)

/-- A list of fields, each with what is demanded of it. -/
def checkFields (refusal : String → ProxyVerifyError) : List (String × Bool) →
    Except ProxyVerifyError Unit
  | [] => .ok ()
  | (field, good) :: rest => do
      require good (refusal field)
      checkFields refusal rest

def nonzeroFields (r : BytesTransferredReceipt) : List (String × Bool) :=
  [ ("session_id", r.sessionId ≠ 0), ("consumer_id", r.consumerId ≠ 0),
    ("gateway_id", r.gatewayId ≠ 0), ("intent_hash", r.intentHash ≠ 0),
    ("consent_record_hash", r.consentRecordHash ≠ 0),
    ("allowlist_manifest_digest", r.allowlistManifestDigest ≠ 0),
    ("operator_wallet", r.operatorWallet ≠ 0) ]

def stageStructural : Except ProxyVerifyError Bytes32 := do
  let r := bundle.receipt
  require (ctx.chainId ∈ proxyChainAllowlist) (.chainNotAllowed ctx.chainId)
  checkSignatureShape .operator bundle.operatorSig
  checkSignatureShape .consumer bundle.consumerSig
  checkSignatureShape .gateway bundle.gatewaySig
  checkFields .zeroField (nonzeroFields r)
  require (minPriceGoatWeiPerMebibyte ≤ r.priceGoatWeiPerMebibyte.val
    ∧ r.priceGoatWeiPerMebibyte.val ≤ maxPriceGoatWeiPerMebibyte)
    (.priceOutOfBand r.priceGoatWeiPerMebibyte)
  require (r.validFromUnix < r.validToUnix) (.invertedValidityWindow r.validFromUnix r.validToUnix)
  r.canonicalHash.mapError .notCanonical

def stageEpochSpace : Except ProxyVerifyError Unit := do
  let epochId := bundle.receipt.epochId
  require (isProxyEpoch epochId) (.epochOutsideProxySpace epochId)
  require (epochId = ctx.epochId) (.epochMismatch ctx.epochId epochId)
  require (bundle.intent.epochId = epochId) (.intentEpochMismatch epochId bundle.intent.epochId)

def stageChunkSizeRule : Except ProxyVerifyError Unit :=
  (checkChunkSize bundle.receipt.chunkKind bundle.receipt.bytesTransferred).mapError .chunkSize

def stageValidityWindow : Except ProxyVerifyError Unit := do
  let r := bundle.receipt
  let seconds := r.validToUnix.val - r.validFromUnix.val
  require (seconds ≤ maxValidityWindowSecs) (.unboundedValidityWindow seconds)
  require (r.validFromUnix ≤ ctx.nowUnix ∧ ctx.nowUnix ≤ r.validToUnix)
    (.outsideValidityWindow ctx.nowUnix r.validFromUnix r.validToUnix)

def stageIntentBinding : Except ProxyVerifyError Bytes32 := do
  let bundled := bundle.intent.intentStructHash
  require (bundle.receipt.intentHash = bundled)
    (.intentHashMismatch (hexOf 32 bundle.receipt.intentHash.val) (hexOf 32 bundled.val))
  require (bundle.intent.allowlistManifestDigest = ctx.allowlistManifestDigest)
    (.staleAllowlistManifest (hexOf 32 bundle.intent.allowlistManifestDigest.val)
      (hexOf 32 ctx.allowlistManifestDigest.val))
  require (bundle.intent.allowlistEntryId < ctx.allowlistEntryCount)
    (.allowlistEntryPastEndOfManifest bundle.intent.allowlistEntryId ctx.allowlistEntryCount)
  pure bundled

def sharedFields (r : BytesTransferredReceipt) (i : ProxySessionIntent) : List (String × Bool) :=
  [ ("session_id", r.sessionId = i.sessionId),
    ("operator_wallet", r.operatorWallet = i.operatorWallet),
    ("consumer_id", r.consumerId = i.consumerId), ("gateway_id", r.gatewayId = i.gatewayId),
    ("allowlist_entry_id", r.allowlistEntryId = i.allowlistEntryId),
    ("allowlist_manifest_digest", r.allowlistManifestDigest = i.allowlistManifestDigest),
    ("valid_from_unix", r.validFromUnix = i.validFromUnix),
    ("valid_to_unix", r.validToUnix = i.validToUnix),
    ("price_goat_wei_per_mebibyte", r.priceGoatWeiPerMebibyte = i.priceGoatWeiPerMebibyte) ]

/-- The ceiling is held against the one chunk. -/
def stageCrossFieldAgreement : Except ProxyVerifyError Unit := do
  let r := bundle.receipt
  let i := bundle.intent
  checkFields .fieldDisagreesWithIntent (sharedFields r i)
  require (r.bytesTransferred ≤ i.maxBytes)
    (.bytesExceedIntentCeiling r.bytesTransferred i.maxBytes)

def stageSelfDealing : Except ProxyVerifyError Unit :=
  let operatorRoot := ctx.directory.operatorClusterRoot bundle.receipt.operatorWallet
  let consumerRoot := ctx.directory.consumerClusterRoot bundle.receipt.consumerId
  (checkNotSelfDealingByClusterRoot bundle.receipt.consumerId bundle.receipt.operatorWallet
    consumerRoot operatorRoot).mapError .fraud

def recoverExpecting (stage : VerifyStage) (party : SigningParty) (digest : Bytes32)
    (signature : List UInt8) (expected : Address) : Except ProxyVerifyError Address := do
  let recovered ← (e.recoverSigner digest signature).mapError (.unrecoverable stage party)
  require (recovered = expected)
    (.signerMismatch stage (hexOf 20 recovered.val) (hexOf 20 expected.val))
  pure recovered

def stageOperatorSignature : Except ProxyVerifyError Address :=
  recoverExpecting e .operatorSignature .operator
    (bundle.receipt.receiptDigest ctx.chainId ctx.verifyingContract) bundle.operatorSig
    bundle.receipt.operatorWallet

def stageConsumerSignature : Except ProxyVerifyError Address :=
  match ctx.directory.consumerSigner bundle.receipt.consumerId with
  | none => .error (.unknownParty .consumer)
  | some expected =>
      recoverExpecting e .consumerSignature .consumer
        (bundle.intent.intentDigest ctx.chainId ctx.verifyingContract) bundle.consumerSig expected

def stageGatewayWitness (receiptStructHash : Bytes32) : Except ProxyVerifyError Address := do
  let w := bundle.witness
  let r := bundle.receipt
  require (w.receiptStructHash = receiptStructHash)
    (.witnessBoundToAnotherReceipt (hexOf 32 w.receiptStructHash.val)
      (hexOf 32 receiptStructHash.val))
  require (w.gatewayId = r.gatewayId)
    (.witnessGatewayMismatch (hexOf 32 w.gatewayId.val) (hexOf 32 r.gatewayId.val))
  require (w.bodyBytesToConsumer = r.bytesTransferred)
    (.witnessDisagreesWithClaim w.bodyBytesToConsumer r.bytesTransferred)
  require (r.validFromUnix ≤ w.witnessedAtUnix ∧ w.witnessedAtUnix ≤ r.validToUnix)
    (.witnessedOutsideValidityWindow w.witnessedAtUnix r.validFromUnix r.validToUnix)
  match ctx.directory.gatewaySigner w.gatewayId with
  | none => throw (.unknownParty .gateway)
  | some expected =>
      recoverExpecting e .gatewayWitness .gateway
        (w.witnessDigest ctx.chainId ctx.verifyingContract) bundle.gatewaySig expected

/-- All stages, in their order. -/
def verifyReceiptBundle : Except ProxyVerifyError VerifiedReceipt := do
  let receiptHash ← stageStructural bundle ctx
  stageEpochSpace bundle ctx
  stageChunkSizeRule bundle
  stageValidityWindow bundle ctx
  let intentStructHash ← stageIntentBinding bundle ctx
  stageCrossFieldAgreement bundle
  stageSelfDealing bundle ctx
  let receiptStructHash := bundle.receipt.receiptStructHash
  let operatorSigner ← stageOperatorSignature e bundle ctx
  let consumerSigner ← stageConsumerSignature e bundle ctx
  let gatewaySigner ← stageGatewayWitness e bundle ctx receiptStructHash
  pure
    { receipt := bundle.receipt
      intent := bundle.intent
      witness := bundle.witness
      receiptHash := receiptHash
      receiptStructHash := receiptStructHash
      intentStructHash := intentStructHash
      operatorSigner := operatorSigner
      consumerSigner := consumerSigner
      gatewaySigner := gatewaySigner
      operatorSig := bundle.operatorSig
      consumerSig := bundle.consumerSig
      gatewaySig := bundle.gatewaySig
      chainId := ctx.chainId
      verifyingContract := ctx.verifyingContract }

end

/-! ## What a verified receipt is -/

theorem BytesTransferredReceipt.canonicalHash_eq (r : BytesTransferredReceipt) :
    r.canonicalHash = .ok (keccak256 (utf8 (write r.canonicalValue.val))) := by
  have hvalid : validate r.canonicalValue.val "$" = .ok () := by
    refine validate_ofMembers (fun e he => ?_) "$"
    simp only [List.mem_cons, List.not_mem_nil, or_false] at he
    rcases he with rfl | rfl | rfl | rfl | rfl | rfl | rfl | rfl | rfl | rfl | rfl | rfl | rfl | rfl
      | rfl | rfl
    all_goals exact ⟨by dsimp only; decide, fun q => rfl⟩
  rw [canonicalHash, canonicalHash_ok hvalid]
  rfl

/-- What the stages leave behind, for those that take no part in them. -/
structure Verified (v : VerifiedReceipt) : Prop where
  receiptHash : v.receipt.canonicalHash = .ok v.receiptHash
  intentHash : v.receipt.intentHash = v.intentStructHash
  intentStructHash : v.intentStructHash = v.intent.intentStructHash
  epoch : isProxyEpoch v.receipt.epochId = true
  intentEpoch : v.intent.epochId = v.receipt.epochId
  session : v.receipt.sessionId = v.intent.sessionId
  operator : v.receipt.operatorWallet = v.intent.operatorWallet
  window : v.receipt.validFromUnix < v.receipt.validToUnix
  validFrom : v.receipt.validFromUnix = v.intent.validFromUnix
  validTo : v.receipt.validToUnix = v.intent.validToUnix
  price : v.receipt.priceGoatWeiPerMebibyte = v.intent.priceGoatWeiPerMebibyte
  band : v.receipt.priceGoatWeiPerMebibyte.val ≤ maxPriceGoatWeiPerMebibyte
  positive : 0 < v.receipt.bytesTransferred.val
  chunk : v.receipt.bytesTransferred.val ≤ receiptChunkBytes
  ceiling : v.receipt.bytesTransferred ≤ v.intent.maxBytes
  witnessed : v.witness.bodyBytesToConsumer = v.receipt.bytesTransferred

theorem mapError_ok {ε ε' α : Type} {f : ε → ε'} {x : Except ε α} {a : α}
    (h : x.mapError f = .ok a) : x = .ok a := by
  cases x with
  | error e => cases h
  | ok b =>
      cases h
      rfl

theorem checkFields_ok {refusal : String → ProxyVerifyError} {fields : List (String × Bool)}
    (h : checkFields refusal fields = .ok ()) : ∀ f ∈ fields, f.2 = true := by
  induction fields with
  | nil => exact fun f hf => absurd hf List.not_mem_nil
  | cons f fields ih =>
      obtain ⟨_, hgood, hrest⟩ := bind_ok.mp h
      intro g hg
      rcases List.mem_cons.mp hg with rfl | hg
      · exact require_ok.mp hgood
      · exact ih hrest g hg

theorem checkChunkSize_ok {kind : ChunkKind} {bytes : Word 64}
    (h : checkChunkSize kind bytes = .ok ()) : 0 < bytes.val ∧ bytes.val ≤ receiptChunkBytes := by
  cases kind with
  | interim =>
      rw [checkChunkSize] at h
      split at h
      · rename_i hexact
        rw [hexact]
        exact ⟨by decide, le_refl _⟩
      · cases h
  | final =>
      rw [checkChunkSize] at h
      split at h
      · rename_i hrange
        exact hrange
      · cases h

section
variable {e : Secp256k1} {bundle : ProxyReceiptBundle} {ctx : VerifyContext}

theorem stageStructural_ok {receiptHash : Bytes32}
    (h : stageStructural bundle ctx = .ok receiptHash) :
    bundle.receipt.priceGoatWeiPerMebibyte.val ≤ maxPriceGoatWeiPerMebibyte
      ∧ bundle.receipt.validFromUnix < bundle.receipt.validToUnix
      ∧ bundle.receipt.canonicalHash = .ok receiptHash := by
  obtain ⟨_, -, _, -, _, -, _, -, h⟩ := bind_ok₄.mp h
  obtain ⟨_, -, _, hband, _, hwindow, h⟩ := bind_ok₃.mp h
  exact ⟨(require_ok.mp hband).2, require_ok.mp hwindow, mapError_ok h⟩

theorem stageEpochSpace_ok (h : stageEpochSpace bundle ctx = .ok ()) :
    isProxyEpoch bundle.receipt.epochId = true
    ∧ bundle.intent.epochId = bundle.receipt.epochId := by
  obtain ⟨_, hspace, _, -, h⟩ := bind_ok₂.mp h
  exact ⟨require_ok.mp hspace, require_ok.mp h⟩

theorem stageIntentBinding_ok {hash : Bytes32} (h : stageIntentBinding bundle ctx = .ok hash) :
    bundle.receipt.intentHash = hash ∧ hash = bundle.intent.intentStructHash := by
  obtain ⟨_, hbound, _, -, _, -, h⟩ := bind_ok₃.mp h
  cases h
  exact ⟨require_ok.mp hbound, rfl⟩

theorem stageCrossFieldAgreement_ok (h : stageCrossFieldAgreement bundle = .ok ()) :
    (∀ f ∈ sharedFields bundle.receipt bundle.intent, f.2 = true)
      ∧ bundle.receipt.bytesTransferred ≤ bundle.intent.maxBytes := by
  obtain ⟨_, hfields, h⟩ := bind_ok.mp h
  exact ⟨checkFields_ok hfields, require_ok.mp h⟩

theorem stageGatewayWitness_ok {hash : Bytes32} {signer : Address}
    (h : stageGatewayWitness e bundle ctx hash = .ok signer) :
    bundle.witness.bodyBytesToConsumer = bundle.receipt.bytesTransferred := by
  obtain ⟨_, -, _, -, _, hbytes, h⟩ := bind_ok₃.mp h
  exact require_ok.mp hbytes

/-- **A bundle that passes the ten stages is a verified receipt.** -/
theorem verified_of_verify {v : VerifiedReceipt} (h : verifyReceiptBundle e bundle ctx = .ok v) :
    Verified v := by
  obtain ⟨receiptHash, hstructural, _, hepoch, _, hchunk, _, -, h⟩ := bind_ok₄.mp h
  obtain ⟨intentStructHash, hintent, _, hcross, _, -, operatorSigner, -, h⟩ := bind_ok₄.mp h
  obtain ⟨consumerSigner, -, gatewaySigner, hwitness, h⟩ := bind_ok₂.mp h
  cases h
  obtain ⟨hband, hwindow, hhash⟩ := stageStructural_ok hstructural
  obtain ⟨hspace, hintentEpoch⟩ := stageEpochSpace_ok hepoch
  obtain ⟨hpositive, hbound⟩ := checkChunkSize_ok (mapError_ok hchunk)
  obtain ⟨hintentHash, hintentStructHash⟩ := stageIntentBinding_ok hintent
  obtain ⟨hfields, hceiling⟩ := stageCrossFieldAgreement_ok hcross
  simp only [sharedFields, List.forall_mem_cons, decide_eq_true_eq] at hfields
  obtain ⟨hsession, hoperator, -, -, -, -, hfrom, hto, hprice, -⟩ := hfields
  exact
    { receiptHash := hhash
      intentHash := hintentHash
      intentStructHash := hintentStructHash
      epoch := hspace
      intentEpoch := hintentEpoch
      session := hsession
      operator := hoperator
      window := hwindow
      validFrom := hfrom
      validTo := hto
      price := hprice
      band := hband
      positive := hpositive
      chunk := hbound
      ceiling := hceiling
      witnessed := stageGatewayWitness_ok hwitness }

end

end GoatCoin.Attestor
