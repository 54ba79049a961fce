/-
# `GoatCoin.Core.Preimage` — signing preimages bind context and value

Everything a node signs goes through `write_preimage`:

    len_u8 ‖ ctx ‖ chain_id_le ‖ body

The context is length-prefixed, the chain id is fixed and the body is
self-delimiting, so the bytes determine the context, and among values of one
type the value.  They do *not* determine the type: a type is bound only through
its context, and nothing stops two types from being signed under one context.

The stack path uses a buffer of a declared size.  `Signable.declared` lists the
types the source gives such a size, with the context they are signed under;
`NetworkDensityFrame` has none of its own and is built in the buffer gossip
sizes for a capability record.
-/
import GoatCoin.Core.Canonical

namespace GoatCoin

open Wire

/-! ## Running a writing program on the two sinks -/

theorem runVec_of_writes {w : Write (List UInt8) Unit} {bs : List UInt8} (h : Writes w bs) :
    runVec w = .ok bs := by
  have hw : w [] = .ok () ([] ++ bs) := h [] trivial
  rw [runVec, hw, List.nil_append]

theorem new_of_writes {w : Write SliceSink Unit} {bs : List UInt8} (buf : List UInt8)
    (h : Writes w bs) (hlen : bs.length ≤ buf.length) :
    ∃ sink, w (SliceSink.new buf) = .ok () sink ∧ sink.overflowed = false
      ∧ sink.written = bs ∧ sink.buf.length = buf.length := by
  have hfits : (SliceSink.new buf).pos + bs.length ≤ (SliceSink.new buf).buf.length := by
    simpa [SliceSink.new] using hlen
  have happ := SliceSink.append_eq _ _ hfits
  refine ⟨_, h _ hfits, ?_, ?_, ?_⟩
  · show ((SliceSink.new buf).append bs).overflow = false
    rw [happ]
    rfl
  · show ((SliceSink.new buf).append bs).written = bs
    rw [happ, SliceSink.written_advance]
    rfl
  · show ((SliceSink.new buf).append bs).buf.length = buf.length
    rw [happ, SliceSink.length_buf_advance]
    rfl

theorem stack_of_writes {w : Write SliceSink Unit} {bs : List UInt8} {n : Nat}
    (h : Writes w bs) (hn : bs.length ≤ n) :
    ∃ sink, w (SliceSink.stack n) = .ok () sink ∧ sink.overflowed = false
      ∧ sink.written = bs := by
  obtain ⟨sink, hrun, hoverflow, hwritten, -⟩ :=
    new_of_writes (List.replicate n 0) h (by rw [List.length_replicate]; exact hn)
  exact ⟨sink, hrun, hoverflow, hwritten⟩

section
variable {α : Type} [CanonicalSerialize α] [Canonical α]

/-- The bytes of `write_preimage`. -/
def preimageBytes (v : α) (ctx : List UInt8) : List UInt8 :=
  bytesContext ctx ++ (bytesU32 activeChainId ++ bytes v)

theorem writesPreimage {σ : Type} [ByteSink σ] [LawfulSink σ] (v : α) (ctx : List UInt8) :
    Writes (writePreimage v ctx : Write σ Unit) (preimageBytes v ctx) :=
  (writesContext _).bind <| (writesU32 _).bind (canonicalWrites _)

theorem runVec_writePreimage (v : α) (ctx : List UInt8) :
    runVec (writePreimage v ctx) = .ok (preimageBytes v ctx) :=
  runVec_of_writes (writesPreimage v ctx)

theorem preimage_eq (v : α) (ctx : List UInt8) : preimage v ctx = .ok (preimageBytes v ctx) :=
  runVec_of_writes (writesPreimage v ctx)

theorem length_preimageBytes (v : α) (ctx : List UInt8) :
    (preimageBytes v ctx).length = (bytes v).length + 1 + ctx.length + chainIdLen := by
  simp only [preimageBytes, bytesContext, List.length_append, length_bytesU8, length_bytesU32,
    chainIdLen]
  omega

end

/-! ## Contexts -/

theorem length_context_lt : ∀ c ∈ allContexts, c.length < 256 := by decide

theorem bytesContext_inj {c d s t : List UInt8} (hc : c ∈ allContexts) (hd : d ∈ allContexts)
    (h : bytesContext c ++ s = bytesContext d ++ t) : c = d ∧ s = t := by
  simp only [bytesContext, List.append_assoc] at h
  obtain ⟨hlen, h⟩ := sdU8 h
  have hlen' := congrArg UInt8.toNat hlen
  rw [UInt8.toNat_ofNat_of_lt' (length_context_lt c hc),
    UInt8.toNat_ofNat_of_lt' (length_context_lt d hd)] at hlen'
  exact List.append_inj h hlen'

/-! ## The signable types -/

inductive Signable where
  | capabilityRecord
  | executionAttestation
  | authorizationSet
  | escalationRecord
  | networkDensityFrame
  | presenceAvailabilityFrame
  | endpointDensity
  | signedRecord (payload : Signable)
  | signedReceipt
  | handshakeInitiation
  | handshakeResponse

namespace Signable

/-- The values of a signable type. -/
def Val : Signable → Type
  | capabilityRecord => CapabilityRecord
  | executionAttestation => ExecutionAttestation
  | authorizationSet => AuthorizationSet
  | escalationRecord => EscalationRecord
  | networkDensityFrame => NetworkDensityFrame
  | presenceAvailabilityFrame => PresenceAvailabilityFrame
  | endpointDensity => EndpointDensity
  | signedRecord payload => SignedRecord payload.Val
  | signedReceipt => SignedReceipt
  | handshakeInitiation => HandshakeInitiation
  | handshakeResponse => HandshakeResponse

instance canonicalSerializeVal : (t : Signable) → CanonicalSerialize t.Val
  | capabilityRecord => inferInstanceAs (CanonicalSerialize CapabilityRecord)
  | executionAttestation => inferInstanceAs (CanonicalSerialize ExecutionAttestation)
  | authorizationSet => inferInstanceAs (CanonicalSerialize AuthorizationSet)
  | escalationRecord => inferInstanceAs (CanonicalSerialize EscalationRecord)
  | networkDensityFrame => inferInstanceAs (CanonicalSerialize NetworkDensityFrame)
  | presenceAvailabilityFrame => inferInstanceAs (CanonicalSerialize PresenceAvailabilityFrame)
  | endpointDensity => inferInstanceAs (CanonicalSerialize EndpointDensity)
  | signedRecord payload =>
      have := canonicalSerializeVal payload
      inferInstanceAs (CanonicalSerialize (SignedRecord payload.Val))
  | signedReceipt => inferInstanceAs (CanonicalSerialize SignedReceipt)
  | handshakeInitiation => inferInstanceAs (CanonicalSerialize HandshakeInitiation)
  | handshakeResponse => inferInstanceAs (CanonicalSerialize HandshakeResponse)

instance canonicalVal : (t : Signable) → Canonical t.Val
  | capabilityRecord => inferInstanceAs (Canonical CapabilityRecord)
  | executionAttestation => inferInstanceAs (Canonical ExecutionAttestation)
  | authorizationSet => inferInstanceAs (Canonical AuthorizationSet)
  | escalationRecord => inferInstanceAs (Canonical EscalationRecord)
  | networkDensityFrame => inferInstanceAs (Canonical NetworkDensityFrame)
  | presenceAvailabilityFrame => inferInstanceAs (Canonical PresenceAvailabilityFrame)
  | endpointDensity => inferInstanceAs (Canonical EndpointDensity)
  | signedRecord payload =>
      have := canonicalVal payload
      inferInstanceAs (Canonical (SignedRecord payload.Val))
  | signedReceipt => inferInstanceAs (Canonical SignedReceipt)
  | handshakeInitiation => inferInstanceAs (Canonical HandshakeInitiation)
  | handshakeResponse => inferInstanceAs (Canonical HandshakeResponse)

/-- The context a type is signed under and the stack buffer its preimage is built in. -/
def declared : Signable → Option (List UInt8 × Nat)
  | capabilityRecord => some (ctxGoatCapabilityRecord, capabilityRecordMaxPreimageLen)
  | executionAttestation => some (ctxGoatExecAttestation, execAttestationMaxPreimageLen)
  | authorizationSet => some (ctxGoatAssignmentLog, authorizationSetMaxPreimageLen)
  | escalationRecord => some (ctxGoatEscalationRecord, escalationRecordMaxPreimageLen)
  | networkDensityFrame => some (ctxGoatF5Telemetry, capabilityRecordMaxPreimageLen)
  | handshakeInitiation => some (ctxGoatTransportHs, handshakeInitiationMaxPreimageLen)
  | handshakeResponse => some (ctxGoatTransportHs, handshakeResponseMaxPreimageLen)
  | presenceAvailabilityFrame | endpointDensity | signedRecord _ | signedReceipt => none

end Signable

/-! ## Body lengths -/

theorem length_bytes_tag (t : OpaqueTag) : (bytes t).length ≤ 36 := by
  have h : t.asBytes.length ≤ 32 := t.len_le
  show (bytesU32 (UInt32.ofNat t.asBytes.length) ++ t.asBytes).length ≤ 36
  rw [List.length_append, length_bytesU32]
  omega

theorem length_bytes_capability (d : DeviceCapability) : (bytes d).length ≤ 76 := by
  have h := length_bytes_tag d.taskClassId
  show (bytes d.taskClassId ++ (bytesU64 d.measuredGcuPerHour
    ++ bytesFixed d.determinismProfileRef)).length ≤ 76
  simp only [List.length_append, length_bytesU64, length_bytesFixed]
  omega

theorem length_bytes_boundedVec {α : Type} [CanonicalSerialize α] [Canonical α] {N w : Nat}
    (hN : N < 2 ^ 32) (hw : ∀ a : α, (bytes a).length ≤ w) (v : BoundedVec α N) :
    ((canonicalBoundedVec hN).bytes v).length ≤ 4 + N * w := by
  have h := length_concat_le hw v.asSlice
  have hmul : v.asSlice.length * w ≤ N * w := Nat.mul_le_mul_right w v.len_le
  show (bytesU32 (UInt32.ofNat v.len) ++ concat bytes v.asSlice).length ≤ 4 + N * w
  rw [List.length_append, length_bytesU32]
  omega

theorem length_bytes_capabilityRecord (r : CapabilityRecord) :
    (bytes r).length ≤ capabilityRecordMaxBodyLen := by
  have h : (bytes r.capabilities).length ≤ 4 + 8 * 76 :=
    length_bytes_boundedVec (by decide) length_bytes_capability r.capabilities
  show (bytesFixed r.nodeId ++ (bytesU64 r.epoch ++ (bytesFixed r.beaconNonce
    ++ (bytesFixed r.prevRecord ++ (bytes r.capabilities ++ (bytesU64 r.availabilityPpm
    ++ (bytesU32 r.powerThermalEnvelope.powerMw ++ (bytesU32 r.powerThermalEnvelope.thermalDk
    ++ bytesU64 r.densityWitnessPpm)))))))).length ≤ 740
  simp only [List.length_append, length_bytesFixed, length_bytesU64, length_bytesU32]
  omega

theorem length_bytes_attestation (a : ExecutionAttestation) :
    (bytes a).length ≤ execAttestationMaxBodyLen := by
  have h1 := length_bytes_tag a.classId
  have h2 := length_bytes_tag a.taskClassId
  show (bytesFixed a.nodeId ++ (bytes a.classId ++ (bytes a.taskClassId
    ++ (bytesU64 a.window ++ (bytesU32 a.subWindow ++ (bytesFixed a.clusterId
    ++ (bytesU32 a.asn ++ bytesFixed a.resultCommit))))))).length ≤ 184
  simp only [List.length_append, length_bytesFixed, length_bytesU64, length_bytesU32]
  omega

theorem length_bytes_authorizationSet (s : AuthorizationSet) :
    (bytes s).length ≤ authorizationSetMaxBodyLen := by
  have h1 := length_bytes_tag s.taskClassId
  have h2 : (bytes s.executors).length ≤ 4 + 16 * 32 :=
    length_bytes_boundedVec (by decide) (fun a => (length_bytesFixed a).le) s.executors
  show (bytesU64 s.window ++ (bytes s.taskClassId ++ bytes s.executors)).length
    ≤ 8 + (4 + 32) + (4 + 16 * 32)
  simp only [List.length_append, length_bytesU64]
  omega

theorem length_bytes_escalatedResult (r : EscalatedResult) :
    (bytes r).length ≤ escalatedResultMaxLen := by
  have h := length_bytes_attestation r.receipt.attestation
  show ((bytesContext ctxGoatSignedReceiptWrapper ++ (bytes r.receipt.attestation
    ++ (bytesFixed r.receipt.publicKey ++ bytesFixed r.receipt.signature)))
    ++ bytesFixed r.rawTraceCommit).length
    ≤ 1 + ctxGoatSignedReceiptWrapper.length + execAttestationMaxBodyLen
      + mlDsa65PublicKeyLen + mlDsa65SignatureLen + 32
  simp only [bytesContext, List.length_append, length_bytesU8, length_bytesFixed]
  omega

theorem length_bytes_escalationRecord (r : EscalationRecord) :
    (bytes r).length ≤ escalationRecordMaxBodyLen := by
  have h1 := length_bytes_tag r.classId
  have h2 := length_concat_le length_bytes_escalatedResult r.results.toList
  rw [r.results.toList_length] at h2
  show (bytes r.classId ++ concat bytes r.results.toList).length
    ≤ (4 + 32) + 3 * escalatedResultMaxLen
  rw [List.length_append]
  omega

theorem length_bytes_networkDensityFrame (f : NetworkDensityFrame) : (bytes f).length = 117 := by
  have hh : (bytes f.header).length = 81 := by
    show (bytesU16 f.header.schemaVersion ++ (bytesU8 f.header.frameType
      ++ (bytesFixed f.header.endpointPseudonym ++ (bytesU16 f.header.identityIndex
      ++ (bytesU64 f.header.epoch ++ (bytesFixed f.header.runNonce
      ++ bytesU32 f.header.chainId)))))).length = 81
    simp
  have hr : (bytesRtt f.rttQ).length = 16 := by
    obtain ⟨l, hl⟩ := f.rttQ
    show (l.flatMap bytesU16).length = 16
    simp [List.length_flatMap, hl]
  show (bytes f.header ++ (bytesU16 f.tickIndex ++ (bytesU8 f.dlBin ++ (bytesU8 f.ulBin
    ++ (bytesU8 f.concurrentFlag ++ (bytesU8 f.aggDlBin ++ (bytesU8 f.aggUlBin
    ++ (bytesRtt f.rttQ ++ (bytesU8 f.originChangeCount ++ (bytesU8 f.sharedOriginDegreeBin
    ++ (bytesU8 f.xferBytesBin ++ (bytesU8 f.morphologyId ++ (bytesU8 f.peakMicroBin
    ++ (bytesU8 f.crestEighthOct ++ (bytesU32 f.dutyPpm ++ (bytesU8 f.throttleOnsetS
    ++ (bytesU8 f.preBin ++ bytesU8 f.postBin))))))))))))))))).length = 117
  simp [hh, hr]

theorem length_bytes_initiation (i : HandshakeInitiation) :
    (bytes i).length = handshakeInitiationBodyLen := by
  show (bytesFixed i.initiatorIdentity ++ (bytesFixed i.ephemeralKemPk
    ++ (bytesU64 i.epoch ++ (bytesU64 i.localTime ++ bytesFixed i.nonce)))).length = _
  simp only [List.length_append, length_bytesFixed, length_bytesU64]
  rfl

theorem length_bytes_response (r : HandshakeResponse) :
    (bytes r).length = handshakeResponseBodyLen := by
  show (bytesFixed r.responderIdentity ++ (bytesFixed r.kemCiphertext
    ++ (bytesU64 r.epoch ++ (bytesU64 r.localTime ++ bytesFixed r.nonce)))).length = _
  simp only [List.length_append, length_bytesFixed, length_bytesU64]
  rfl

theorem Signable.length_preimage_le {t : Signable} {ctx : List UInt8} {n : Nat}
    (h : t.declared = some (ctx, n)) (v : t.Val) : (preimageBytes v ctx).length ≤ n := by
  rw [length_preimageBytes]
  cases t with
  | capabilityRecord =>
      cases h
      have := length_bytes_capabilityRecord v
      exact Nat.add_le_add_right (Nat.add_le_add_right (Nat.add_le_add_right this _) _) _
  | executionAttestation =>
      cases h
      have := length_bytes_attestation v
      exact Nat.add_le_add_right (Nat.add_le_add_right (Nat.add_le_add_right this _) _) _
  | authorizationSet =>
      cases h
      have := length_bytes_authorizationSet v
      exact Nat.add_le_add_right (Nat.add_le_add_right (Nat.add_le_add_right this _) _) _
  | escalationRecord =>
      cases h
      have := length_bytes_escalationRecord v
      exact Nat.add_le_add_right (Nat.add_le_add_right (Nat.add_le_add_right this _) _) _
  | networkDensityFrame =>
      cases h
      have hv : (bytes (α := NetworkDensityFrame) v).length = 117 :=
        length_bytes_networkDensityFrame v
      show (bytes (α := NetworkDensityFrame) v).length + 1 + ctxGoatF5Telemetry.length + chainIdLen
        ≤ capabilityRecordMaxPreimageLen
      rw [hv]
      decide
  | handshakeInitiation =>
      cases h
      have := (length_bytes_initiation v).le
      exact Nat.add_le_add_right (Nat.add_le_add_right (Nat.add_le_add_right this _) _) _
  | handshakeResponse =>
      cases h
      have := (length_bytes_response v).le
      exact Nat.add_le_add_right (Nat.add_le_add_right (Nat.add_le_add_right this _) _) _
  | presenceAvailabilityFrame => cases h
  | endpointDensity => cases h
  | signedRecord p => cases h
  | signedReceipt => cases h

/-! ## Injectivity -/

theorem preimageBytes_inj {α β : Type} [CanonicalSerialize α] [Canonical α]
    [CanonicalSerialize β] [Canonical β] {v : α} {w : β} {c d : List UInt8}
    (hc : c ∈ allContexts) (hd : d ∈ allContexts)
    (h : preimageBytes v c = preimageBytes w d) : c = d ∧ bytes v = bytes w := by
  obtain ⟨hcd, hrest⟩ := bytesContext_inj hc hd h
  exact ⟨hcd, List.append_cancel_left hrest⟩

/-- **Signing preimages are injective and fit their buffers.**  Two runs of
`write_preimage` that leave the same bytes used the same context and, within one
type, the same value; and the stack path of every type with a declared buffer
writes, without overflow, the bytes of the heap path. -/
theorem signingPreimage_injective_and_bounded :
    (∀ (t₁ t₂ : Signable) (v₁ : t₁.Val) (v₂ : t₂.Val) (c₁ c₂ out : List UInt8),
      c₁ ∈ allContexts → c₂ ∈ allContexts →
      runVec (writePreimage v₁ c₁) = .ok out → runVec (writePreimage v₂ c₂) = .ok out →
      c₁ = c₂ ∧ (t₁ = t₂ → HEq v₁ v₂)) ∧
    (∀ (t : Signable) (v : t.Val) (ctx : List UInt8) (n : Nat), t.declared = some (ctx, n) →
      ∃ sink, writePreimage v ctx (SliceSink.stack n) = .ok () sink ∧ sink.overflowed = false
        ∧ preimage v ctx = .ok sink.written) := by
  constructor
  · intro t₁ t₂ v₁ v₂ c₁ c₂ out hc₁ hc₂ h₁ h₂
    rw [runVec_writePreimage] at h₁ h₂
    have h : preimageBytes v₁ c₁ = preimageBytes v₂ c₂ := Except.ok.inj (h₁.trans h₂.symm)
    obtain ⟨hc, hbody⟩ := preimageBytes_inj hc₁ hc₂ h
    refine ⟨hc, ?_⟩
    intro ht
    subst ht
    exact heq_of_eq (sd.injective hbody)
  · intro t v ctx n hdecl
    obtain ⟨sink, hrun, hover, hwritten⟩ :=
      stack_of_writes (writesPreimage v ctx) (t.length_preimage_le hdecl v)
    exact ⟨sink, hrun, hover, by rw [preimage_eq, hwritten]⟩

/-- Two executors authorized for a class of tasks. -/
def sampleSet (window : Epoch) : AuthorizationSet :=
  ⟨window, ⟨[115, 101, 116], by decide⟩, ⟨[.replicate 32 6, .replicate 32 4], by decide⟩⟩

/-- Two windows are signed as different bytes, and the stack path writes them. -/
theorem sampleSet_preimage :
    runVec (writePreimage (sampleSet 0) ctxGoatAssignmentLog)
      ≠ runVec (writePreimage (sampleSet 1) ctxGoatAssignmentLog) ∧
    ∃ sink, writePreimage (sampleSet 0) ctxGoatAssignmentLog
        (SliceSink.stack authorizationSetMaxPreimageLen) = .ok () sink ∧ sink.overflowed = false
      ∧ preimage (sampleSet 0) ctxGoatAssignmentLog = .ok sink.written := by
  constructor
  · intro h
    have h₀ := runVec_writePreimage (sampleSet 0) ctxGoatAssignmentLog
    have hval := (signingPreimage_injective_and_bounded.1 .authorizationSet .authorizationSet
      (sampleSet 0) (sampleSet 1) _ _ _ (by decide) (by decide) h₀ (h.symm.trans h₀)).2 rfl
    exact absurd (congrArg AuthorizationSet.window (eq_of_heq hval)) (by decide)
  · exact signingPreimage_injective_and_bounded.2 .authorizationSet (sampleSet 0) _ _ rfl

end GoatCoin
