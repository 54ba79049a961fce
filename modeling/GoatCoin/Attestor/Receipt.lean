/-
# `GoatCoin.Attestor.Receipt` — the signed objects of the proxy lane

Three parties sign three structs, and the gateway signs its totals for an epoch:

    intent    ProxySessionIntent          what was asked for, before a byte moved
    receipt   BytesTransferredReceipt     what the operator says it delivered
    witness   GatewayWitness              what the gateway saw
    meter     GatewayMeterCommitment      the gateway's totals, one entry for each session

A struct hash is over one word for each field, behind the hash of its type.  A text is hashed into
its word, and so are the sessions of a meter record: by their canonical bytes, sorted by session.
-/
import GoatCoin.Attestor.CanonicalJson
import GoatCoin.Attestor.Merkle

namespace GoatCoin.Attestor

open Evm Wire

/-! ## `receipt.rs` -/

def proxyDomainName : String := "GoatProxyRevenue"
def proxyDomainVersion : String := "1"
def receiptChunkBytes : Nat := 10485760

def receiptTypehashStr : String :=
  "BytesTransferredReceipt(uint256 epochId,bytes32 sessionId,uint256 chunkSeq,string chunkKind,address operatorWallet,bytes32 consumerId,bytes32 gatewayId,uint256 allowlistEntryId,bytes32 allowlistManifestDigest,uint256 bytesTransferred,uint256 counter,bytes32 intentHash,bytes32 consentRecordHash,uint256 validFromUnix,uint256 validToUnix,uint256 priceGoatWeiPerMebibyte)"

def intentTypehashStr : String :=
  "ProxySessionIntent(uint256 epochId,bytes32 sessionId,address operatorWallet,bytes32 consumerId,bytes32 gatewayId,uint256 allowlistEntryId,bytes32 allowlistManifestDigest,uint256 maxBytes,uint256 validFromUnix,uint256 validToUnix,uint256 priceGoatWeiPerMebibyte)"

def witnessTypehashStr : String :=
  "GatewayWitness(bytes32 receiptStructHash,bytes32 gatewayId,uint256 bodyBytesToConsumer,uint256 nodeReportedFromOrigin,uint256 witnessedAtUnix)"

inductive ChunkKind where
  | interim
  | final
deriving DecidableEq

def ChunkKind.asToken : ChunkKind → String
  | .interim => "INTERIM"
  | .final => "FINAL"

structure BytesTransferredReceipt where
  epochId : Word 64
  sessionId : Bytes32
  chunkSeq : Word 64
  chunkKind : ChunkKind
  operatorWallet : Address
  consumerId : Bytes32
  gatewayId : Bytes32
  allowlistEntryId : Word 64
  allowlistManifestDigest : Bytes32
  bytesTransferred : Word 64
  counter : Word 64
  intentHash : Bytes32
  consentRecordHash : Bytes32
  validFromUnix : Word 64
  validToUnix : Word 64
  priceGoatWeiPerMebibyte : Word 128
deriving DecidableEq

structure ProxySessionIntent where
  epochId : Word 64
  sessionId : Bytes32
  operatorWallet : Address
  consumerId : Bytes32
  gatewayId : Bytes32
  allowlistEntryId : Word 64
  allowlistManifestDigest : Bytes32
  maxBytes : Word 64
  validFromUnix : Word 64
  validToUnix : Word 64
  priceGoatWeiPerMebibyte : Word 128
deriving DecidableEq

/-- Why a receipt is malformed. -/
inductive ReceiptError where
  | interimChunkNotExact (bytes : Word 64)
  | finalChunkOutOfRange (bytes : Word 64)
  | canonical (e : CanonicalJsonError)
deriving DecidableEq

/-- `hex::encode` of the `k` bytes of an identifier. -/
def hexOf (k n : Nat) : String := String.ofList (Hex.encode (toBE k n))

def hex32 (x : Bytes32) : String := "0x" ++ hexOf 32 x.val
def hex20 (x : Address) : String := "0x" ++ hexOf 20 x.val

/-- `to_string` of an integer. -/
def decimal (n : Nat) : Json := .string (toString n)

/-- What a struct hash is the hash of. -/
def structBytes (typehashStr : String) (fields : List Nat) : List UInt8 :=
  abiEncode ((keccakText typehashStr).val :: fields)

/-- `domain_separator` and `eip712_digest`, in the domain of the lane. -/
def proxyDigest (structHash : Bytes32) (chainId : Word 64)
    (verifyingContract : Address) : Bytes32 :=
  hashTypedData (domainSeparator proxyDomainName proxyDomainVersion (widen word64_le chainId)
    verifyingContract) structHash

namespace ProxySessionIntent

def fields (i : ProxySessionIntent) : List Nat :=
  [ i.epochId.val, i.sessionId.val, i.operatorWallet.val, i.consumerId.val, i.gatewayId.val,
    i.allowlistEntryId.val, i.allowlistManifestDigest.val, i.maxBytes.val, i.validFromUnix.val,
    i.validToUnix.val, i.priceGoatWeiPerMebibyte.val ]

def intentStructHash (i : ProxySessionIntent) : Bytes32 :=
  keccak256 (structBytes intentTypehashStr i.fields)

/-- What the consumer signs. -/
def intentDigest (i : ProxySessionIntent) (chainId : Word 64) (verifyingContract : Address) :
    Bytes32 :=
  proxyDigest i.intentStructHash chainId verifyingContract

end ProxySessionIntent

def checkChunkSize (kind : ChunkKind) (bytesTransferred : Word 64) : Except ReceiptError Unit :=
  match kind with
  | .interim =>
      if bytesTransferred.val = receiptChunkBytes then .ok ()
      else .error (.interimChunkNotExact bytesTransferred)
  | .final =>
      if 1 ≤ bytesTransferred.val ∧ bytesTransferred.val ≤ receiptChunkBytes then .ok ()
      else .error (.finalChunkOutOfRange bytesTransferred)

namespace BytesTransferredReceipt

def canonicalValue (r : BytesTransferredReceipt) : Json := .ofMembers
  [ ("epoch_id", decimal r.epochId),
    ("session_id", .string (hex32 r.sessionId)),
    ("chunk_seq", decimal r.chunkSeq),
    ("chunk_kind", .string r.chunkKind.asToken),
    ("operator_wallet", .string (hex20 r.operatorWallet)),
    ("consumer_id", .string (hex32 r.consumerId)),
    ("gateway_id", .string (hex32 r.gatewayId)),
    ("allowlist_entry_id", decimal r.allowlistEntryId),
    ("allowlist_manifest_digest", .string (hex32 r.allowlistManifestDigest)),
    ("bytes_transferred", decimal r.bytesTransferred),
    ("counter", decimal r.counter),
    ("intent_hash", .string (hex32 r.intentHash)),
    ("consent_record_hash", .string (hex32 r.consentRecordHash)),
    ("valid_from_unix", decimal r.validFromUnix),
    ("valid_to_unix", decimal r.validToUnix),
    ("price_goat_wei_per_mebibyte", decimal r.priceGoatWeiPerMebibyte) ]

/-- `canonical_hash`: the content hash the store keys on. -/
def canonicalHash (r : BytesTransferredReceipt) : Except ReceiptError Bytes32 :=
  (Attestor.canonicalHash r.canonicalValue).mapError .canonical

def fields (r : BytesTransferredReceipt) : List Nat :=
  [ r.epochId.val, r.sessionId.val, r.chunkSeq.val, (keccakText r.chunkKind.asToken).val,
    r.operatorWallet.val, r.consumerId.val, r.gatewayId.val, r.allowlistEntryId.val,
    r.allowlistManifestDigest.val, r.bytesTransferred.val, r.counter.val, r.intentHash.val,
    r.consentRecordHash.val, r.validFromUnix.val, r.validToUnix.val,
    r.priceGoatWeiPerMebibyte.val ]

def receiptStructHash (r : BytesTransferredReceipt) : Bytes32 :=
  keccak256 (structBytes receiptTypehashStr r.fields)

/-- What the operator signs. -/
def receiptDigest (r : BytesTransferredReceipt) (chainId : Word 64) (verifyingContract : Address) :
    Bytes32 :=
  proxyDigest r.receiptStructHash chainId verifyingContract

end BytesTransferredReceipt

/-! ## The witness, from `verify.rs` -/

structure GatewayWitness where
  receiptStructHash : Bytes32
  gatewayId : Bytes32
  bodyBytesToConsumer : Word 64
  nodeReportedFromOrigin : Word 64
  witnessedAtUnix : Word 64
deriving DecidableEq

namespace GatewayWitness

def fields (w : GatewayWitness) : List Nat :=
  [ w.receiptStructHash.val, w.gatewayId.val, w.bodyBytesToConsumer.val,
    w.nodeReportedFromOrigin.val, w.witnessedAtUnix.val ]

def witnessStructHash (w : GatewayWitness) : Bytes32 :=
  keccak256 (structBytes witnessTypehashStr w.fields)

def witnessDigest (w : GatewayWitness) (chainId : Word 64)
    (verifyingContract : Address) : Bytes32 :=
  proxyDigest w.witnessStructHash chainId verifyingContract

end GatewayWitness

/-! ## `sig_verify.rs` -/

/-- Why no signer is recovered. -/
inductive SigError where
  | malformed
  | recoverFailed
deriving DecidableEq

/-- The recovery of the signer of a prehash, from `r ‖ s ‖ v`. -/
structure Secp256k1 where
  recover : Bytes32 → List UInt8 → Except SigError Address

/-- `recover_signer`. -/
def Secp256k1.recoverSigner (e : Secp256k1) (digest : Bytes32) (signature : List UInt8) :
    Except SigError Address := do
  require (signature.length = 65) .malformed
  e.recover digest signature

/-! ## `meter.rs` -/

def meterSchemaV1 : String := "GOAT_PROXY_GATEWAY_METER_COMMITMENT_V1"

def meterTypehashStr : String :=
  "GatewayMeterCommitment(bytes32 schemaId,uint256 epochId,bytes32 gatewayId,bytes32 sessionsHash,uint256 totalBytes)"

structure GatewayMeterSession where
  sessionId : Bytes32
  operator : Address
  totalBytes : Word 128
  chunkCount : Word 64
deriving DecidableEq

structure GatewayMeterCommitment where
  epochId : Word 64
  gatewayId : Bytes32
  sessions : List GatewayMeterSession
  totalBytes : Word 128
deriving DecidableEq

/-- The chains of `PROXY_CHAIN_ALLOWLIST`. -/
def proxyChainAllowlist : List (Word 64) := [31337, 84532]

inductive MeterError where
  | canonical (e : CanonicalJsonError)
  | chainNotAllowed (chainId : Word 64)
  | epochMismatch (expected found : Word 64)
  | duplicateSession (sessionIdHex : String)
  | sessionTotalsOverflow
  | malformedSignature (e : SigError)
  | signerMismatch (expected got : String)
  | internallyInconsistent (header summed : Nat)
deriving DecidableEq

namespace GatewayMeterCommitment

/-- `sort_by_key` is stable. -/
def sortedSessions (c : GatewayMeterCommitment) : List GatewayMeterSession :=
  c.sessions.mergeSort fun a b => decide (a.sessionId ≤ b.sessionId)

def summedBytes (c : GatewayMeterCommitment) : Option Nat :=
  c.sessions.foldlM
    (fun acc s => if acc + s.totalBytes.val < 2 ^ 128 then some (acc + s.totalBytes.val)
    else none) 0

/-- The first session id that has been seen before. -/
def duplicateSession (c : GatewayMeterCommitment) : Option Bytes32 :=
  go [] c.sessions
where
  go (seen : List Bytes32) : List GatewayMeterSession → Option Bytes32
    | [] => none
    | s :: sessions =>
        if s.sessionId ∈ seen then some s.sessionId else go (s.sessionId :: seen) sessions

def sessionValue (s : GatewayMeterSession) : Json := .ofMembers
  [ ("sessionId", .string ("0x" ++ hexOf 32 s.sessionId.val)),
    ("operator", .string ("0x" ++ hexOf 20 s.operator.val)),
    ("totalBytes", decimal s.totalBytes),
    ("chunkCount", decimal s.chunkCount) ]

/-- The members of `meter_canonical_value`. -/
def members (c : GatewayMeterCommitment) : SortedMap String Json := .ofList
  [ ("schemaId", .string meterSchemaV1),
    ("epochId", decimal c.epochId),
    ("gatewayId", .string ("0x" ++ hexOf 32 c.gatewayId.val)),
    ("sessions", .array (c.sortedSessions.map sessionValue)),
    ("totalBytes", decimal c.totalBytes) ]

/-- `v["sessions"]` is `null` where there is no such member. -/
def sessionsHash (c : GatewayMeterCommitment) : Except MeterError Bytes32 :=
  (canonicalHash ((c.members.get? "sessions").getD .null)).mapError .canonical

def structBytes (c : GatewayMeterCommitment) : Except MeterError (List UInt8) := do
  let sessionsHash ← c.sessionsHash
  pure (Attestor.structBytes meterTypehashStr
    [ (keccakText meterSchemaV1).val, c.epochId.val, c.gatewayId.val, sessionsHash.val,
      c.totalBytes.val ])

def meterStructHash (c : GatewayMeterCommitment) : Except MeterError Bytes32 := do
  let buf ← c.structBytes
  pure (keccak256 buf)

def meterDigest (c : GatewayMeterCommitment) (chainId : Word 64) (verifying : Address) :
    Except MeterError Bytes32 := do
  let structHash ← c.meterStructHash
  pure (proxyDigest structHash chainId verifying)

/-- The text behind `0x` or `0X`, if it begins so. -/
def stripHexMark (text : String) : List Char :=
  match text.toList with
  | '0' :: 'x' :: rest => rest
  | '0' :: 'X' :: rest => rest
  | all => all

/-- `verify_meter_commitment`. -/
def verify (e : Secp256k1) (c : GatewayMeterCommitment) (signatureHex : String)
    (expectedGateway : Address) (expectedEpoch chainId : Word 64) (verifying : Address) :
    Except MeterError GatewayMeterCommitment := do
  require (chainId ∈ proxyChainAllowlist) (.chainNotAllowed chainId)
  require (c.epochId = expectedEpoch) (.epochMismatch expectedEpoch c.epochId)
  match c.duplicateSession with
  | some id => throw (.duplicateSession (hexOf 32 id.val))
  | none => pure ()
  match c.summedBytes with
  | none => throw .sessionTotalsOverflow
  | some summed =>
      require (summed = c.totalBytes.val) (.internallyInconsistent c.totalBytes.val summed)
  let digest ← c.meterDigest chainId verifying
  match Hex.decode (stripHexMark signatureHex) with
  | none => throw (.malformedSignature .malformed)
  | some bytes =>
      let recovered ← (e.recoverSigner digest bytes).mapError .malformedSignature
      require (recovered = expectedGateway)
        (.signerMismatch (hexOf 20 expectedGateway.val) (hexOf 20 recovered.val))
      pure c

end GatewayMeterCommitment

end GoatCoin.Attestor
