/-
# `GoatCoin.Core.Crypto` — contexts, byte sinks and the canonical encoder of `crypto.rs`

The encoder is written once against a sink and run on two: the heap `Vec<u8>`,
which takes every write, and the stack `SliceSink`, which refuses a write that
does not fit its buffer.  A write that fails leaves the sink as it is at the
point of failure, so the encoder lives in `EStateM`: an error keeps the state.

    write_preimage v ctx  =  len_u8 ‖ ctx ‖ chain_id_le ‖ body v

`Vec::put` is total; `SliceSink::put` fails exactly when `pos + len > buf.len()`
(the `saturating_add` of the source cannot saturate below a buffer length).
-/
import GoatCoin.Lib.Wire
import GoatCoin.Core.Types

namespace GoatCoin

open Wire

inductive SerializationError where
  | bufferOverflow
  | capacityExceeded
deriving DecidableEq

/-! ## The domain-context registry -/

/-- A context string `b"…\x01"`. -/
def contextBytes (s : String) : List UInt8 :=
  s.toList.map (fun c => UInt8.ofNat c.toNat) ++ [0x01]

def ctxGoatCapabilityRecord : List UInt8 := contextBytes "GOAT/v1/cap"
def ctxGoatAttestationChain : List UInt8 := contextBytes "GOAT/v1/attchain"
def ctxGoatExecAttestation : List UInt8 := contextBytes "GOAT/v1/exec"
def ctxGoatAssignmentLog : List UInt8 := contextBytes "GOAT/v1/assign"
def ctxGoatEscalationRecord : List UInt8 := contextBytes "GOAT/v1/escal"
def ctxGoatBeaconCommit : List UInt8 := contextBytes "GOAT/v1/beacon"
def ctxGoatTransportHs : List UInt8 := contextBytes "GOAT/v1/tls-hs"
def ctxGoatHwExceptionLog : List UInt8 := contextBytes "GOAT/v1/hwexc"
def ctxGoatDaAttestation : List UInt8 := contextBytes "GOAT/v1/gda"
def ctxGoatOraclePosting : List UInt8 := contextBytes "GOAT/v1/oracle"
def ctxGoatEntropyProbe : List UInt8 := contextBytes "GOAT/v1/probe"
def ctxGoatWatchdogTombstone : List UInt8 := contextBytes "GOAT/v1/wdog"
def ctxGoatF5Telemetry : List UInt8 := contextBytes "GOAT/v1/f5tel"
def ctxGoatSignedRecordWrapper : List UInt8 := contextBytes "GOAT/v1/recwrap"
def ctxGoatSignedReceiptWrapper : List UInt8 := contextBytes "GOAT/v1/rcptwrap"

def allContexts : List (List UInt8) :=
  [ctxGoatCapabilityRecord, ctxGoatAttestationChain, ctxGoatExecAttestation,
   ctxGoatAssignmentLog, ctxGoatEscalationRecord, ctxGoatBeaconCommit,
   ctxGoatTransportHs, ctxGoatHwExceptionLog, ctxGoatDaAttestation,
   ctxGoatOraclePosting, ctxGoatEntropyProbe, ctxGoatWatchdogTombstone,
   ctxGoatF5Telemetry, ctxGoatSignedRecordWrapper, ctxGoatSignedReceiptWrapper]

/-! ## Byte sinks -/

/-- A computation that appends to a sink `σ`, or fails and keeps the sink. -/
abbrev Write (σ : Type) := EStateM SerializationError σ

/-- What bytes are written to. -/
class ByteSink (σ : Type) where
  put : List UInt8 → Write σ Unit

export ByteSink (put)

/-- `impl ByteSink for Vec<u8>`. -/
instance : ByteSink (List UInt8) where
  put bytes := fun out => .ok () (out ++ bytes)

/-- A caller-provided buffer, the number of bytes written to it, and whether a
write was ever refused. -/
structure SliceSink where
  buf : List UInt8
  pos : Nat
  overflow : Bool
  pos_le : pos ≤ buf.length

namespace SliceSink

def new (buf : List UInt8) : SliceSink := ⟨buf, 0, false, Nat.zero_le _⟩

/-- A sink over the stack buffer `[0u8; n]`. -/
def stack (n : Nat) : SliceSink := new (List.replicate n 0)

def written (s : SliceSink) : List UInt8 := s.buf.take s.pos

def len (s : SliceSink) : Nat := s.pos

def overflowed (s : SliceSink) : Bool := s.overflow

/-- `self.buf[pos..pos+len].copy_from_slice(bytes); self.pos = pos + len`. -/
def advance (s : SliceSink) (bytes : List UInt8)
    (h : s.pos + bytes.length ≤ s.buf.length) : SliceSink where
  buf := s.buf.take s.pos ++ bytes ++ s.buf.drop (s.pos + bytes.length)
  pos := s.pos + bytes.length
  overflow := s.overflow
  pos_le := by simp only [List.length_append, List.length_take, List.length_drop]; omega

end SliceSink

instance : ByteSink SliceSink where
  put bytes := fun s =>
    if h : s.pos + bytes.length ≤ s.buf.length then .ok () (s.advance bytes h)
    else .error .bufferOverflow { s with overflow := true }

/-! ## Primitives and the serialization contract -/

section
variable {σ : Type} [ByteSink σ]

def putU8 (v : UInt8) : Write σ Unit := put [v]
def putU16 (v : UInt16) : Write σ Unit := put (toLE 2 v.toNat)
def putU32 (v : UInt32) : Write σ Unit := put (toLE 4 v.toNat)
def putU64 (v : UInt64) : Write σ Unit := put (toLE 8 v.toNat)
def putFixed (bytes : List UInt8) : Write σ Unit := put bytes

/-- `len_u8 ‖ ctx`. -/
def writeContextPrefixed (ctx : List UInt8) : Write σ Unit := do
  putU8 (UInt8.ofNat ctx.length)
  putFixed ctx

end

class CanonicalSerialize (α : Type) where
  serializeInto : {σ : Type} → [ByteSink σ] → α → Write σ Unit

export CanonicalSerialize (serializeInto)

/-- The network the default build signs for. -/
def activeChainId : ChainId := chainIdGoatTestnet

abbrev chainIdLen : Nat := 4

section
variable {α : Type} [CanonicalSerialize α]

/-- The bytes that are signed. -/
def writePreimage {σ : Type} [ByteSink σ] (value : α) (ctx : List UInt8) : Write σ Unit := do
  writeContextPrefixed ctx
  putU32 activeChainId
  serializeInto value

/-- The bytes a computation leaves in an empty `Vec`, or its error. -/
def runVec (w : Write (List UInt8) Unit) : Except SerializationError (List UInt8) :=
  match w [] with
  | .ok _ out => .ok out
  | .error e _ => .error e

def toCanonicalVec (value : α) : Except SerializationError (List UInt8) :=
  runVec (serializeInto value)

/-- The heap signing preimage. -/
def preimage (value : α) (ctx : List UInt8) : Except SerializationError (List UInt8) :=
  runVec do
    writeContextPrefixed ctx
    putU32 activeChainId
    serializeInto value

end

/-! ## The encoders -/

instance : CanonicalSerialize UInt16 where
  serializeInto v := putU16 v

instance : CanonicalSerialize (Bytes 32) where
  serializeInto v := putFixed v.toList

instance {α : Type} [CanonicalSerialize α] {N : Nat} : CanonicalSerialize (BoundedVec α N) where
  serializeInto v := do
    putU32 (UInt32.ofNat v.len)
    v.asSlice.forM serializeInto

instance : CanonicalSerialize OpaqueTag where
  serializeInto t := do
    putU32 (UInt32.ofNat t.asBytes.length)
    putFixed t.asBytes

instance : CanonicalSerialize DeviceCapability where
  serializeInto d := do
    serializeInto d.taskClassId
    putU64 d.measuredGcuPerHour
    putFixed d.determinismProfileRef.toList

instance : CanonicalSerialize FrameHeader where
  serializeInto h := do
    putU16 h.schemaVersion
    putU8 h.frameType
    putFixed h.endpointPseudonym.toList
    putU16 h.identityIndex
    putU64 h.epoch
    putFixed h.runNonce.toList
    putU32 h.chainId

instance : CanonicalSerialize EndpointDensity where
  serializeInto d := do
    putFixed d.endpointPseudonym.toList
    putU8 d.ceilSustBin
    putU8 d.ceilPeakBin
    putU8 d.ceilOperBin
    putU8 d.ceilPhysBin
    putU64 d.shapeDeltaPpm
    putU64 d.dPpm

instance : CanonicalSerialize NetworkDensityFrame where
  serializeInto f := do
    serializeInto f.header
    putU16 f.tickIndex
    putU8 f.dlBin
    putU8 f.ulBin
    putU8 f.concurrentFlag
    putU8 f.aggDlBin
    putU8 f.aggUlBin
    f.rttQ.toList.forM putU16
    putU8 f.originChangeCount
    putU8 f.sharedOriginDegreeBin
    putU8 f.xferBytesBin
    putU8 f.morphologyId
    putU8 f.peakMicroBin
    putU8 f.crestEighthOct
    putU32 f.dutyPpm
    putU8 f.throttleOnsetS
    putU8 f.preBin
    putU8 f.postBin

instance : CanonicalSerialize PresenceAvailabilityFrame where
  serializeInto f := do
    serializeInto f.header
    putU64 f.presenceBitmap
    putU8 f.riseEdges
    putU8 f.fallEdges
    serializeInto f.edgeTicks
    putU8 f.localHour

instance : CanonicalSerialize CapabilityRecord where
  serializeInto r := do
    putFixed r.nodeId.toList
    putU64 r.epoch
    putFixed r.beaconNonce.toList
    putFixed r.prevRecord.toList
    serializeInto r.capabilities
    putU64 r.availabilityPpm
    putU32 r.powerThermalEnvelope.powerMw
    putU32 r.powerThermalEnvelope.thermalDk
    putU64 r.densityWitnessPpm

instance : CanonicalSerialize ExecutionAttestation where
  serializeInto a := do
    putFixed a.nodeId.toList
    serializeInto a.classId
    serializeInto a.taskClassId
    putU64 a.window
    putU32 a.subWindow
    putFixed a.clusterId.toList
    putU32 a.asn
    putFixed a.resultCommit.toList

instance {α : Type} [CanonicalSerialize α] : CanonicalSerialize (SignedRecord α) where
  serializeInto r := do
    writeContextPrefixed ctxGoatSignedRecordWrapper
    serializeInto r.payload
    putFixed r.publicKey.toList
    putFixed r.signature.toList

instance : CanonicalSerialize SignedReceipt where
  serializeInto r := do
    writeContextPrefixed ctxGoatSignedReceiptWrapper
    serializeInto r.attestation
    putFixed r.publicKey.toList
    putFixed r.signature.toList

instance : CanonicalSerialize AuthorizationSet where
  serializeInto s := do
    putU64 s.window
    serializeInto s.taskClassId
    serializeInto s.executors

instance : CanonicalSerialize EscalatedResult where
  serializeInto r := do
    serializeInto r.receipt
    putFixed r.rawTraceCommit.toList

instance : CanonicalSerialize EscalationRecord where
  serializeInto r := do
    serializeInto r.classId
    r.results.toList.forM serializeInto

/-! ## Declared size bounds -/

def execAttestationMaxBodyLen : Nat := 184
def execAttestationMaxPreimageLen : Nat :=
  execAttestationMaxBodyLen + 1 + ctxGoatExecAttestation.length + chainIdLen

def capabilityRecordMaxBodyLen : Nat := 740
def capabilityRecordMaxPreimageLen : Nat :=
  capabilityRecordMaxBodyLen + 1 + ctxGoatCapabilityRecord.length + chainIdLen

def signedReceiptMaxLen : Nat :=
  1 + ctxGoatSignedReceiptWrapper.length + execAttestationMaxBodyLen
    + mlDsa65PublicKeyLen + mlDsa65SignatureLen

def authorizationSetMaxBodyLen : Nat :=
  8 + (4 + opaqueTagCap) + (4 + maxAuthorizedExecutors * 32)
def authorizationSetMaxPreimageLen : Nat :=
  authorizationSetMaxBodyLen + 1 + ctxGoatAssignmentLog.length + chainIdLen

def escalatedResultMaxLen : Nat := signedReceiptMaxLen + 32
def escalationRecordMaxBodyLen : Nat := (4 + opaqueTagCap) + 3 * escalatedResultMaxLen
def escalationRecordMaxPreimageLen : Nat :=
  escalationRecordMaxBodyLen + 1 + ctxGoatEscalationRecord.length + chainIdLen

/-! ## Per-struct signing preimages -/

section
variable {σ : Type} [ByteSink σ]

def ExecutionAttestation.writeSigningPreimage (a : ExecutionAttestation) : Write σ Unit :=
  writePreimage a ctxGoatExecAttestation

def CapabilityRecord.writeSigningPreimage (r : CapabilityRecord) : Write σ Unit :=
  writePreimage r ctxGoatCapabilityRecord

def AuthorizationSet.writeSigningPreimage (s : AuthorizationSet) : Write σ Unit :=
  writePreimage s ctxGoatAssignmentLog

def EscalationRecord.writeSigningPreimage (r : EscalationRecord) : Write σ Unit :=
  writePreimage r ctxGoatEscalationRecord

end

/-! ## The injected verifier and registry -/

/-- `SignatureVerifier::verify_ml_dsa_65`: key, message, signature. -/
abbrev SignatureVerifier := PublicKey → List UInt8 → Signature → Bool

/-- `KeyRegistry::is_authorized`: key, node id. -/
abbrev KeyRegistry := PublicKey → Bytes 32 → Bool

end GoatCoin
