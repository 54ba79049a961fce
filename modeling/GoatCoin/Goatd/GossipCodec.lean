/-
# `GoatCoin.Goatd.GossipCodec` — the gossip wire codec of `goatd.rs`

    frame  =  variant(1) ‖ payload ‖ public_key(1952) ‖ signature(3309)

The encoder walks the record with the canonical encoder of `crypto.rs`; the
decoder is written by hand, field by field, against a cursor.  Each reading
function is given the bytes of the canonical encoder as its meaning (`Reads`), so
the decoder accepts a buffer exactly when it is the frame of the message it
returns: field order, widths, the bounds on counts and lengths and the refusal of
trailing bytes are all in that one equivalence (`decode_eq_some`).
-/
import GoatCoin.Lib.Reader
import GoatCoin.Core.Gossip

namespace GoatCoin

open Wire Wire.Reader

def gossipVariantNodeCapability : UInt8 := 0x01
def gossipVariantTelemetry : UInt8 := 0x02

abbrev gossipFrameMaxLen : Nat :=
  1 + capabilityRecordMaxBodyLen + mlDsa65PublicKeyLen + mlDsa65SignatureLen

/-! ## The decoder -/

def readOpaqueTag : Read OpaqueTag := do
  let len ← u32
  if opaqueTagCap < len.toNat then fun _ => none
  else do
    let bytes ← take len.toNat
    match OpaqueTag.fromBytes bytes with
    | some tag => pure tag
    | none => fun _ => none

def readDeviceCapability : Read DeviceCapability := do
  let taskClassId ← readOpaqueTag
  let measuredGcuPerHour ← u64
  let determinismProfileRef ← array 32
  pure { taskClassId, measuredGcuPerHour, determinismProfileRef }

/-- `for _ in 0..count { caps.try_push(..).ok()? }`. -/
def pushCapabilities : Nat → BoundedVec DeviceCapability maxCapabilities →
    Read (BoundedVec DeviceCapability maxCapabilities)
  | 0, caps => pure caps
  | count + 1, caps => do
      let cap ← readDeviceCapability
      match caps.tryPush cap with
      | some caps => pushCapabilities count caps
      | none => fun _ => none

def readCapabilities : Read (BoundedVec DeviceCapability maxCapabilities) := do
  let count ← u32
  if maxCapabilities < count.toNat then fun _ => none
  else pushCapabilities count.toNat .new

def readCapabilityRecord : Read CapabilityRecord := do
  let nodeId ← array 32
  let epoch ← u64
  let beaconNonce ← array 32
  let prevRecord ← array 32
  let capabilities ← readCapabilities
  let availabilityPpm ← u64
  let powerMw ← u32
  let thermalDk ← u32
  let densityWitnessPpm ← u64
  pure { nodeId, epoch, beaconNonce, prevRecord, capabilities, availabilityPpm
         powerThermalEnvelope := { powerMw, thermalDk }, densityWitnessPpm }

def readFrameHeader : Read FrameHeader := do
  let schemaVersion ← u16
  let frameType ← u8
  let endpointPseudonym ← array 32
  let identityIndex ← u16
  let epoch ← u64
  let runNonce ← array 32
  let chainId ← u32
  pure { schemaVersion, frameType, endpointPseudonym, identityIndex, epoch, runNonce, chainId }

def readNetworkDensityFrame : Read NetworkDensityFrame := do
  let header ← readFrameHeader
  let tickIndex ← u16
  let dlBin ← u8
  let ulBin ← u8
  let concurrentFlag ← u8
  let aggDlBin ← u8
  let aggUlBin ← u8
  let rttQ ← times u16 8
  let originChangeCount ← u8
  let sharedOriginDegreeBin ← u8
  let xferBytesBin ← u8
  let morphologyId ← u8
  let peakMicroBin ← u8
  let crestEighthOct ← u8
  let dutyPpm ← u32
  let throttleOnsetS ← u8
  let preBin ← u8
  let postBin ← u8
  pure { header, tickIndex, dlBin, ulBin, concurrentFlag, aggDlBin, aggUlBin, rttQ
         originChangeCount, sharedOriginDegreeBin, xferBytesBin, morphologyId, peakMicroBin
         crestEighthOct, dutyPpm, throttleOnsetS, preBin, postBin }

def readSigned {α : Type} (parse : Read α) : Read (SignedRecord α) := do
  let payload ← parse
  let publicKey ← array mlDsa65PublicKeyLen
  let signature ← array mlDsa65SignatureLen
  pure { payload, publicKey, signature }

/-- A message, by its variant. -/
def readGossipMessage : Read GossipMessage := do
  let variant ← u8
  if variant = gossipVariantNodeCapability then do
    let rec ← readSigned readCapabilityRecord
    pure (.nodeCapability rec)
  else if variant = gossipVariantTelemetry then do
    let rec ← readSigned readNetworkDensityFrame
    pure (.telemetryFrame rec)
  else fun _ => none

/-- `CanonicalGossipCodec::decode`: the whole buffer must be consumed. -/
def decodeGossip (plaintext : List UInt8) : Option GossipMessage :=
  readAll readGossipMessage plaintext

/-! ## The encoder -/

section
variable {σ : Type} [ByteSink σ]

/-- `variant(1) ‖ payload ‖ public_key ‖ signature`. -/
def writeFrame {α : Type} [CanonicalSerialize α] (variant : UInt8) (rec : SignedRecord α) :
    Write σ Unit := do
  put [variant]
  serializeInto rec.payload
  put rec.publicKey.toList
  put rec.signature.toList

/-- The bytes of a message. -/
def writeGossipFrame : GossipMessage → Write σ Unit
  | .nodeCapability rec => writeFrame gossipVariantNodeCapability rec
  | .telemetryFrame rec => writeFrame gossipVariantTelemetry rec

end

/-- `None` if the frame does not fit the stack buffer. -/
def encodeGossipFrame (msg : GossipMessage) : Option (List UInt8) :=
  match writeGossipFrame msg (SliceSink.stack gossipFrameMaxLen) with
  | .ok _ sink => some (sink.buf.take sink.len)
  | .error _ _ => none

/-! ## What the decoder reads -/

theorem reads_tag : Reads (fun _ => True) readOpaqueTag bytes := by
  refine Reads.bind (fun t : OpaqueTag => UInt32.ofNat t.asBytes.length) reads_u32 fun len => ?_
  have hlen : ∀ t : OpaqueTag, (UInt32.ofNat t.asBytes.length).toNat = t.asBytes.length := fun t =>
    UInt32.toNat_ofNat_of_lt' (Nat.lt_of_le_of_lt t.len_le (by decide))
  split
  · rename_i hcap
    refine Reads.fail fun t ht => ?_
    rw [← ht.2, hlen] at hcap
    exact Nat.not_lt.mpr t.len_le hcap
  · rename_i hcap
    intro r t r'
    rw [bind_eq_some]
    constructor
    · rintro ⟨bs, r₁, htake, hmatch⟩
      obtain ⟨hbs, hc⟩ := take_eq_some.mp htake
      have hle : bs.length ≤ opaqueTagCap := by rw [hbs]; exact Nat.not_lt.mp hcap
      rw [OpaqueTag.fromBytes, dif_pos hle] at hmatch
      cases hmatch
      exact ⟨⟨trivial, UInt32.toNat_inj.mp ((hlen ⟨bs, hle⟩).trans hbs)⟩, hc⟩
    · rintro ⟨⟨-, rfl⟩, hc⟩
      refine ⟨t.asBytes, r', take_eq_some.mpr ⟨(hlen t).symm, hc⟩, ?_⟩
      rw [OpaqueTag.fromBytes, dif_pos t.len_le]
      rfl

theorem reads_deviceCapability : Reads (fun _ => True) readDeviceCapability bytes := by
  refine Reads.congr (.bind DeviceCapability.taskClassId reads_tag fun _ =>
    .bind DeviceCapability.measuredGcuPerHour reads_u64 fun _ =>
    .bind DeviceCapability.determinismProfileRef (reads_array 32) fun _ => .pure ?_) ?_
  · rintro ⟨⟩
    simp [and_assoc]
  · intro d
    rw [List.append_nil]
    rfl

theorem pushCapabilities_eq_some {count : Nat} :
    ∀ {caps v : BoundedVec DeviceCapability maxCapabilities}
    {r r' : Reader}, pushCapabilities count caps r = some (v, r') ↔
      ∃ l, l.length = count ∧ v.asSlice = caps.asSlice ++ l ∧ Consumed r r' (concat bytes l) := by
  induction count with
  | zero =>
      intro caps v r r'
      show some (caps, r) = some (v, r') ↔ _
      constructor
      · rintro h
        cases h
        exact ⟨[], rfl, (List.append_nil _).symm, .refl r⟩
      · rintro ⟨l, hl, hv, hc⟩
        rw [List.length_eq_zero_iff] at hl
        subst hl
        rw [List.append_nil] at hv
        rw [BoundedVec.ext_slice hv, consumed_nil.mp hc]
  | succ count ih =>
      intro caps v r r'
      rw [pushCapabilities, bind_eq_some]
      constructor
      · rintro ⟨cap, r₁, hcap, hrest⟩
        have hc₁ := ((reads_deviceCapability _ _ _).mp hcap).2
        cases hpush : caps.tryPush cap with
        | none =>
            rw [hpush] at hrest
            cases hrest
        | some caps' =>
            rw [hpush] at hrest
            obtain ⟨l, hl, hv, hc₂⟩ := ih.mp hrest
            obtain ⟨-, hcaps'⟩ := BoundedVec.tryPush_eq_some.mp hpush
            refine ⟨cap :: l, by rw [List.length_cons, hl], ?_, ?_⟩
            · rw [hv, hcaps', List.append_assoc, List.singleton_append]
            · rw [concat_cons, consumed_append]
              exact ⟨r₁, hc₁, hc₂⟩
      · rintro ⟨l, hl, hv, hc⟩
        obtain ⟨cap, l, rfl⟩ := List.exists_cons_of_length_eq_add_one hl
        rw [concat_cons, consumed_append] at hc
        obtain ⟨r₁, hc₁, hc₂⟩ := hc
        have hroom : caps.asSlice.length < maxCapabilities := by
          have hle := v.len_le
          rw [hv, List.length_append, List.length_cons] at hle
          exact Nat.lt_of_lt_of_le (Nat.lt_add_of_pos_right (Nat.succ_pos _)) hle
        refine ⟨cap, r₁, (reads_deviceCapability _ _ _).mpr ⟨trivial, hc₁⟩, ?_⟩
        rw [BoundedVec.tryPush, dif_pos hroom]
        refine ih.mpr ⟨l, Nat.succ.inj hl, ?_, hc₂⟩
        rw [hv, List.append_assoc, List.singleton_append]

theorem reads_capabilities : Reads (fun _ => True) readCapabilities bytes := by
  refine Reads.bind (fun v : BoundedVec DeviceCapability maxCapabilities => UInt32.ofNat v.len)
    reads_u32 fun count => ?_
  have hlen : ∀ v : BoundedVec DeviceCapability maxCapabilities,
      (UInt32.ofNat v.len).toNat = v.len := fun v =>
    UInt32.toNat_ofNat_of_lt' (Nat.lt_of_le_of_lt v.len_le (by decide))
  split
  · rename_i hcap
    refine Reads.fail fun v hv => ?_
    rw [← hv.2, hlen] at hcap
    exact Nat.not_lt.mpr v.len_le hcap
  · intro r v r'
    rw [pushCapabilities_eq_some]
    constructor
    · rintro ⟨l, hl, hv, hc⟩
      cases hv
      exact ⟨⟨trivial, UInt32.toNat_inj.mp ((hlen v).trans hl)⟩, hc⟩
    · rintro ⟨⟨-, rfl⟩, hc⟩
      exact ⟨v.asSlice, (hlen v).symm, rfl, hc⟩

theorem reads_capabilityRecord : Reads (fun _ => True) readCapabilityRecord bytes := by
  refine Reads.congr (.bind CapabilityRecord.nodeId (reads_array 32) fun _ =>
    .bind CapabilityRecord.epoch reads_u64 fun _ =>
    .bind CapabilityRecord.beaconNonce (reads_array 32) fun _ =>
    .bind CapabilityRecord.prevRecord (reads_array 32) fun _ =>
    .bind CapabilityRecord.capabilities reads_capabilities fun _ =>
    .bind CapabilityRecord.availabilityPpm reads_u64 fun _ =>
    .bind (fun r => r.powerThermalEnvelope.powerMw) reads_u32 fun _ =>
    .bind (fun r => r.powerThermalEnvelope.thermalDk) reads_u32 fun _ =>
    .bind CapabilityRecord.densityWitnessPpm reads_u64 fun _ => .pure ?_) ?_
  · rintro ⟨_, _, _, _, _, _, ⟨_, _⟩, _⟩
    simp [and_assoc]
  · intro r
    rw [List.append_nil]
    rfl

theorem reads_frameHeader : Reads (fun _ => True) readFrameHeader bytes := by
  refine Reads.congr (.bind FrameHeader.schemaVersion reads_u16 fun _ =>
    .bind FrameHeader.frameType reads_u8 fun _ =>
    .bind FrameHeader.endpointPseudonym (reads_array 32) fun _ =>
    .bind FrameHeader.identityIndex reads_u16 fun _ =>
    .bind FrameHeader.epoch reads_u64 fun _ =>
    .bind FrameHeader.runNonce (reads_array 32) fun _ =>
    .bind FrameHeader.chainId reads_u32 fun _ => .pure ?_) ?_
  · rintro ⟨⟩
    simp [and_assoc]
  · intro h
    rw [List.append_nil]
    rfl

theorem reads_networkDensityFrame : Reads (fun _ => True) readNetworkDensityFrame bytes := by
  refine Reads.congr (.bind NetworkDensityFrame.header reads_frameHeader fun _ =>
    .bind NetworkDensityFrame.tickIndex reads_u16 fun _ =>
    .bind NetworkDensityFrame.dlBin reads_u8 fun _ =>
    .bind NetworkDensityFrame.ulBin reads_u8 fun _ =>
    .bind NetworkDensityFrame.concurrentFlag reads_u8 fun _ =>
    .bind NetworkDensityFrame.aggDlBin reads_u8 fun _ =>
    .bind NetworkDensityFrame.aggUlBin reads_u8 fun _ =>
    .bind NetworkDensityFrame.rttQ (reads_times reads_u16 8) fun _ =>
    .bind NetworkDensityFrame.originChangeCount reads_u8 fun _ =>
    .bind NetworkDensityFrame.sharedOriginDegreeBin reads_u8 fun _ =>
    .bind NetworkDensityFrame.xferBytesBin reads_u8 fun _ =>
    .bind NetworkDensityFrame.morphologyId reads_u8 fun _ =>
    .bind NetworkDensityFrame.peakMicroBin reads_u8 fun _ =>
    .bind NetworkDensityFrame.crestEighthOct reads_u8 fun _ =>
    .bind NetworkDensityFrame.dutyPpm reads_u32 fun _ =>
    .bind NetworkDensityFrame.throttleOnsetS reads_u8 fun _ =>
    .bind NetworkDensityFrame.preBin reads_u8 fun _ =>
    .bind NetworkDensityFrame.postBin reads_u8 fun _ => .pure ?_) ?_
  · rintro ⟨⟩
    simp [and_assoc]
  · intro f
    rw [List.append_nil]
    rfl

theorem reads_signed {α : Type} {parse : Read α} {enc : α → List UInt8}
    (h : Reads (fun _ => True) parse enc) :
    Reads (fun _ => True) (readSigned parse)
      (fun rec => enc rec.payload ++ (bytesFixed rec.publicKey ++ bytesFixed rec.signature)) := by
  refine Reads.congr (.bind SignedRecord.payload h fun _ =>
    .bind SignedRecord.publicKey (reads_array mlDsa65PublicKeyLen) fun _ =>
    .bind SignedRecord.signature (reads_array mlDsa65SignatureLen) fun _ => .pure ?_) ?_
  · rintro ⟨⟩
    simp [and_assoc]
  · intro rec
    rw [List.append_nil]
    rfl

/-! ## The frame -/

def variantOf : GossipMessage → UInt8
  | .nodeCapability _ => gossipVariantNodeCapability
  | .telemetryFrame _ => gossipVariantTelemetry

def bodyBytes : GossipMessage → List UInt8
  | .nodeCapability rec =>
      bytes rec.payload ++ (bytesFixed rec.publicKey ++ bytesFixed rec.signature)
  | .telemetryFrame rec =>
      bytes rec.payload ++ (bytesFixed rec.publicKey ++ bytesFixed rec.signature)

theorem variants_ne : gossipVariantTelemetry ≠ gossipVariantNodeCapability := by decide

/-- The bytes of a message's frame. -/
def frameBytes (m : GossipMessage) : List UInt8 := bytesU8 (variantOf m) ++ bodyBytes m

theorem reads_gossipMessage : Reads (fun _ => True) readGossipMessage frameBytes := by
  refine Reads.bind variantOf reads_u8 fun variant => ?_
  split
  · rename_i hvariant
    subst hvariant
    intro r m r'
    rw [bind_eq_some]
    constructor
    · rintro ⟨rec, r₁, hrec, hpure⟩
      cases hpure
      exact ⟨⟨trivial, rfl⟩, ((reads_signed reads_capabilityRecord _ _ _).mp hrec).2⟩
    · rintro ⟨⟨-, hvariant⟩, hc⟩
      cases m with
      | nodeCapability rec =>
          exact ⟨rec, r', (reads_signed reads_capabilityRecord _ _ _).mpr ⟨trivial, hc⟩, rfl⟩
      | telemetryFrame rec => exact absurd hvariant variants_ne
  · rename_i hcap
    split
    · rename_i hvariant
      subst hvariant
      intro r m r'
      rw [bind_eq_some]
      constructor
      · rintro ⟨rec, r₁, hrec, hpure⟩
        cases hpure
        exact ⟨⟨trivial, rfl⟩, ((reads_signed reads_networkDensityFrame _ _ _).mp hrec).2⟩
      · rintro ⟨⟨-, hvariant⟩, hc⟩
        cases m with
        | nodeCapability rec => exact absurd hvariant variants_ne.symm
        | telemetryFrame rec =>
            exact ⟨rec, r', (reads_signed reads_networkDensityFrame _ _ _).mpr ⟨trivial, hc⟩, rfl⟩
    · rename_i htel
      refine Reads.fail fun m hm => ?_
      cases m with
      | nodeCapability rec => exact hcap hm.2.symm
      | telemetryFrame rec => exact htel hm.2.symm

theorem decode_eq_some {b : List UInt8} {m : GossipMessage} :
    decodeGossip b = some m ↔ b = frameBytes m := by
  rw [decodeGossip, readAll_eq_some reads_gossipMessage]
  exact ⟨fun h => h.2, fun h => ⟨trivial, h⟩⟩

theorem length_frameBytes_le (m : GossipMessage) : (frameBytes m).length ≤ gossipFrameMaxLen := by
  have hbody : (bodyBytes m).length
      ≤ capabilityRecordMaxBodyLen + (mlDsa65PublicKeyLen + mlDsa65SignatureLen) := by
    cases m with
    | nodeCapability rec =>
        rw [bodyBytes, List.length_append, List.length_append, length_bytesFixed, length_bytesFixed]
        exact Nat.add_le_add_right (length_bytes_capabilityRecord rec.payload) _
    | telemetryFrame rec =>
        rw [bodyBytes, List.length_append, List.length_append, length_bytesFixed, length_bytesFixed,
          length_bytes_networkDensityFrame]
        decide
  rw [frameBytes, List.length_append, length_bytesU8]
  show 1 + _ ≤ 1 + 740 + 1952 + 3309
  have h : (bodyBytes m).length ≤ 740 + (1952 + 3309) := hbody
  omega

theorem writes_gossipFrame {σ : Type} [ByteSink σ] [LawfulSink σ] (m : GossipMessage) :
    Writes (writeGossipFrame m : Write σ Unit) (frameBytes m) := by
  cases m with
  | nodeCapability rec =>
      exact (writes_put _).bind ((canonicalWrites _).bind ((writes_put _).bind (writes_put _)))
  | telemetryFrame rec =>
      exact (writes_put _).bind ((canonicalWrites _).bind ((writes_put _).bind (writes_put _)))

theorem encode_eq (m : GossipMessage) : encodeGossipFrame m = some (frameBytes m) := by
  obtain ⟨sink, hrun, -, hwritten⟩ :=
    stack_of_writes (writes_gossipFrame m) (length_frameBytes_le m)
  rw [encodeGossipFrame, hrun]
  exact congrArg some hwritten

/-- **The codec is exact.**  Every message has a frame that decodes to it, a buffer
decodes to a message exactly when it is the message's frame, and so what is accepted
is the image of the encoder. -/
theorem gossipCodec_exact :
    (∀ m : GossipMessage, ∃ b, encodeGossipFrame m = some b ∧ decodeGossip b = some m) ∧
    (∀ (b : List UInt8) (m : GossipMessage),
      decodeGossip b = some m ↔ encodeGossipFrame m = some b) ∧
    (∀ b : List UInt8, (∃ m, decodeGossip b = some m) ↔ ∃ m, encodeGossipFrame m = some b) := by
  have hiff : ∀ (b : List UInt8) (m : GossipMessage),
      decodeGossip b = some m ↔ encodeGossipFrame m = some b := by
    intro b m
    rw [decode_eq_some, encode_eq, Option.some.injEq]
    exact eq_comm
  refine ⟨?_, hiff, ?_⟩
  · intro m
    exact ⟨frameBytes m, encode_eq m, decode_eq_some.mpr rfl⟩
  · intro b
    exact exists_congr (hiff b)

end GoatCoin
