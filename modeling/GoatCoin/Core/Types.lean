/-
# `GoatCoin.Core.Types` — the wire and state records of `types.rs`

Fixed arrays `[u8; N]` are length-indexed vectors, machine words keep their
width (`UInt8` … `UInt64`), and the two heap-free containers carry their bound
as a field:

    BoundedVec<T, N>   the active prefix of the buffer, of length at most N
    OpaqueTag          the active bytes, at most OPAQUE_TAG_CAP of them

In the source the slots past `len` are always `Default` and no operation,
equality included, reads them, so the active prefix is the whole value.

Field order is the declared order of the source, which is also the order in
which the canonical encoder walks the fields.
-/
import Mathlib.Data.Vector.Basic
import Mathlib.Data.List.Nodup

namespace GoatCoin

/-- `[u8; n]`. -/
abbrev Bytes (n : Nat) := List.Vector UInt8 n

/-! ## Aliases, scales and capacity bounds -/

abbrev Ppm := UInt64
abbrev Epoch := UInt64
abbrev ChainId := UInt32

def chainIdGoatMainnet : ChainId := 0x60A70001
def chainIdGoatTestnet : ChainId := 0x60A77E57

/-- `BP_FULL`: 100% in basis points. -/
abbrev bpFull : Nat := 10000

abbrev opaqueTagCap : Nat := 32
abbrev maxEdgeTicks : Nat := 64
abbrev maxCapabilities : Nat := 8
abbrev maxAttributionsPerFold : Nat := 32
abbrev maxAuthorizedExecutors : Nat := 16
abbrev maxFaultsPerEpoch : Nat := 1024
abbrev mlDsa65PublicKeyLen : Nat := 1952
abbrev mlDsa65SignatureLen : Nat := 3309

/-- An ML-DSA-65 public key. -/
abbrev PublicKey := Bytes mlDsa65PublicKeyLen
/-- An ML-DSA-65 signature. -/
abbrev Signature := Bytes mlDsa65SignatureLen

/-! ## Bounded containers -/

/-- A heap-free vector of at most `N` active elements. -/
structure BoundedVec (α : Type) (N : Nat) where
  asSlice : List α
  len_le : asSlice.length ≤ N
deriving DecidableEq

namespace BoundedVec
variable {α : Type} {N : Nat}

def new : BoundedVec α N := ⟨[], Nat.zero_le N⟩

/-- `None` if the slice exceeds the capacity. -/
def fromSlice (items : List α) : Option (BoundedVec α N) :=
  if h : items.length ≤ N then some ⟨items, h⟩ else none

/-- Append one item; `none` is the source's `Err(CapacityError)`. -/
def tryPush (v : BoundedVec α N) (item : α) : Option (BoundedVec α N) :=
  if h : v.asSlice.length < N then
    some ⟨v.asSlice ++ [item], by rw [List.length_append]; exact h⟩
  else none

def len (v : BoundedVec α N) : Nat := v.asSlice.length

/-- `as_mut_slice()[j] = item`. -/
def set (v : BoundedVec α N) (j : Nat) (item : α) : BoundedVec α N :=
  ⟨v.asSlice.set j item, by rw [List.length_set]; exact v.len_le⟩

theorem ext_slice {v w : BoundedVec α N} (h : v.asSlice = w.asSlice) : v = w := by
  cases v; cases w; cases h; rfl

@[simp] theorem asSlice_new : (new : BoundedVec α N).asSlice = [] := rfl

theorem tryPush_eq_some {v w : BoundedVec α N} {x : α} :
    v.tryPush x = some w ↔ v.asSlice.length < N ∧ w.asSlice = v.asSlice ++ [x] := by
  unfold tryPush
  split
  · rename_i h
    simp only [Option.some.injEq, h, true_and]
    exact ⟨fun hw => by rw [← hw], fun hw => ext_slice hw.symm⟩
  · rename_i h
    simp [h]

theorem tryPush_eq_none {v : BoundedVec α N} {x : α} :
    v.tryPush x = none ↔ v.asSlice.length = N := by
  have hle := v.len_le
  unfold tryPush
  split
  · rename_i h
    simp only [reduceCtorEq, false_iff]
    omega
  · rename_i h
    simp only [true_iff]
    omega

end BoundedVec

/-- An opaque class identifier: carried, hashed and compared as bytes only. -/
structure OpaqueTag where
  asBytes : List UInt8
  len_le : asBytes.length ≤ opaqueTagCap
deriving DecidableEq

namespace OpaqueTag

/-- `None` if longer than the capacity. -/
def fromBytes (src : List UInt8) : Option OpaqueTag :=
  if h : src.length ≤ opaqueTagCap then some ⟨src, h⟩ else none

theorem asBytes_injective : Function.Injective OpaqueTag.asBytes := by
  rintro ⟨a, ha⟩ ⟨b, hb⟩ h
  cases h; rfl

end OpaqueTag

/-! ## Telemetry frames -/

structure FrameHeader where
  schemaVersion : UInt16
  frameType : UInt8
  endpointPseudonym : Bytes 32
  identityIndex : UInt16
  epoch : Epoch
  runNonce : Bytes 32
  chainId : ChainId
deriving DecidableEq

/-- How dense one endpoint is. -/
structure EndpointDensity where
  endpointPseudonym : Bytes 32
  ceilSustBin : UInt8
  ceilPeakBin : UInt8
  ceilOperBin : UInt8
  ceilPhysBin : UInt8
  shapeDeltaPpm : Ppm
  dPpm : Ppm
deriving DecidableEq

structure NetworkDensityFrame where
  header : FrameHeader
  tickIndex : UInt16
  dlBin : UInt8
  ulBin : UInt8
  concurrentFlag : UInt8
  aggDlBin : UInt8
  aggUlBin : UInt8
  rttQ : List.Vector UInt16 8
  originChangeCount : UInt8
  sharedOriginDegreeBin : UInt8
  xferBytesBin : UInt8
  morphologyId : UInt8
  peakMicroBin : UInt8
  crestEighthOct : UInt8
  dutyPpm : UInt32
  throttleOnsetS : UInt8
  preBin : UInt8
  postBin : UInt8
deriving DecidableEq

structure PresenceAvailabilityFrame where
  header : FrameHeader
  presenceBitmap : UInt64
  riseEdges : UInt8
  fallEdges : UInt8
  edgeTicks : BoundedVec UInt16 maxEdgeTicks
  localHour : UInt8
deriving DecidableEq

/-! ## Signed wire structures -/

/-- What a device can compute. -/
structure DeviceCapability where
  taskClassId : OpaqueTag
  measuredGcuPerHour : UInt64
  determinismProfileRef : Bytes 32
deriving DecidableEq

structure PowerThermalEnvelope where
  powerMw : UInt32
  thermalDk : UInt32
deriving DecidableEq

/-- What a node says it can do. -/
structure CapabilityRecord where
  nodeId : Bytes 32
  epoch : Epoch
  beaconNonce : Bytes 32
  prevRecord : Bytes 32
  capabilities : BoundedVec DeviceCapability maxCapabilities
  availabilityPpm : Ppm
  powerThermalEnvelope : PowerThermalEnvelope
  densityWitnessPpm : Ppm
deriving DecidableEq

/-- The signed attributable core of a receipt. -/
structure ExecutionAttestation where
  nodeId : Bytes 32
  classId : OpaqueTag
  taskClassId : OpaqueTag
  window : Epoch
  subWindow : UInt32
  clusterId : Bytes 32
  asn : UInt32
  resultCommit : Bytes 32
deriving DecidableEq

/-- A value with its signature. -/
structure SignedRecord (α : Type) where
  payload : α
  publicKey : PublicKey
  signature : Signature
deriving DecidableEq

structure SignedReceipt where
  attestation : ExecutionAttestation
  publicKey : PublicKey
  signature : Signature
deriving DecidableEq

/-! ## Verification-plane structures -/

structure AuthorizationSet where
  window : Epoch
  taskClassId : OpaqueTag
  executors : BoundedVec (Bytes 32) maxAuthorizedExecutors
deriving DecidableEq

/-- A receipt with the trace commitment filed beside it.  The commitment is
not part of the attestation, so no executor signature covers it. -/
structure EscalatedResult where
  receipt : SignedReceipt
  rawTraceCommit : Bytes 32
deriving DecidableEq

structure EscalationRecord where
  classId : OpaqueTag
  results : List.Vector EscalatedResult 3
deriving DecidableEq

end GoatCoin
