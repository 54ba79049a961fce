/-
# `GoatCoin.Core.Canonical` — what the canonical encoder writes

The encoder of `crypto.rs` is a program that pushes bytes into a sink.  Here each
such program is given its meaning: the byte string `bytes v`, with

    writes          on every lawful sink with room for it, `serialize_into v`
                    succeeds and appends exactly `bytes v`
    selfDelimiting  `bytes v ++ s` determines both `v` and `s`

A sink is lawful when its accepted writes append; the heap `Vec` accepts all,
the stack `SliceSink` accepts what fits.  So "the stack path writes the bytes of
the heap path" is one statement about both sinks, not a comparison of two runs.

Each record is the concatenation of its fields, so both facts are assembled
field by field from `Writes.bind` and from `SelfDelimiting` of the field.
-/
import GoatCoin.Core.Transport

namespace GoatCoin

open Wire

/-! ## Lawful sinks -/

/-- A sink that, as long as there is room, appends what it is given. -/
class LawfulSink (σ : Type) [ByteSink σ] where
  fits : σ → Nat → Prop
  append : σ → List UInt8 → σ
  fits_of_add : ∀ {s : σ} {m n : Nat}, fits s (m + n) → fits s m
  fits_append : ∀ {s : σ} {bs : List UInt8} {n : Nat},
    fits s (bs.length + n) → fits (append s bs) n
  append_nil : ∀ s : σ, append s [] = s
  append_append : ∀ {s : σ} {a b : List UInt8}, fits s (a.length + b.length) →
    append (append s a) b = append s (a ++ b)
  put_fits : ∀ {s : σ} {bs : List UInt8}, fits s bs.length → put bs s = .ok () (append s bs)

instance : LawfulSink (List UInt8) where
  fits _ _ := True
  append s bs := s ++ bs
  fits_of_add _ := trivial
  fits_append _ := trivial
  append_nil := List.append_nil
  append_append _ := List.append_assoc _ _ _
  put_fits _ := rfl

namespace SliceSink

/-- `advance`, made total: a write that does not fit changes nothing. -/
def append (s : SliceSink) (bs : List UInt8) : SliceSink :=
  if h : s.pos + bs.length ≤ s.buf.length then s.advance bs h else s

theorem ext_fields {s t : SliceSink} (hb : s.buf = t.buf) (hp : s.pos = t.pos)
    (ho : s.overflow = t.overflow) : s = t := by
  cases s; cases t; cases hb; cases hp; cases ho; rfl

theorem append_eq (s : SliceSink) (bs : List UInt8) (h : s.pos + bs.length ≤ s.buf.length) :
    s.append bs = s.advance bs h := dif_pos h

theorem length_buf_advance (s : SliceSink) (bs : List UInt8)
    (h : s.pos + bs.length ≤ s.buf.length) : (s.advance bs h).buf.length = s.buf.length := by
  have hp := s.pos_le
  simp only [advance, List.length_append, List.length_take, List.length_drop]
  omega

theorem written_advance (s : SliceSink) (bs : List UInt8)
    (h : s.pos + bs.length ≤ s.buf.length) : (s.advance bs h).written = s.written ++ bs := by
  have hp := s.pos_le
  have hlen : (s.buf.take s.pos ++ bs).length = s.pos + bs.length := by
    simp only [List.length_append, List.length_take]
    omega
  simp only [written, advance]
  rw [← hlen, List.take_left']
  rfl

theorem append_append (s : SliceSink) (a b : List UInt8)
    (h : s.pos + (a.length + b.length) ≤ s.buf.length) :
    (s.append a).append b = s.append (a ++ b) := by
  have hp := s.pos_le
  have ha : s.pos + a.length ≤ s.buf.length := by omega
  have hab : s.pos + (a ++ b).length ≤ s.buf.length := by rwa [List.length_append]
  have hb : (s.advance a ha).pos + b.length ≤ (s.advance a ha).buf.length := by
    rw [length_buf_advance]
    show s.pos + a.length + b.length ≤ s.buf.length
    omega
  rw [append_eq s a ha, append_eq _ b hb, append_eq s (a ++ b) hab]
  have hlen : (s.buf.take s.pos ++ a).length = s.pos + a.length := by
    simp only [List.length_append, List.length_take]
    omega
  refine ext_fields ?_ ?_ rfl
  · show ((s.buf.take s.pos ++ a ++ s.buf.drop (s.pos + a.length)).take (s.pos + a.length)) ++ b
        ++ (s.buf.take s.pos ++ a ++ s.buf.drop (s.pos + a.length)).drop
            (s.pos + a.length + b.length)
      = s.buf.take s.pos ++ (a ++ b) ++ s.buf.drop (s.pos + (a ++ b).length)
    have hdrop : s.pos + a.length + (s.pos + a.length + b.length - (s.pos + a.length))
        = s.pos + (a.length + b.length) := by omega
    rw [List.take_left' hlen, List.drop_append, hlen,
      List.drop_eq_nil_of_le (by rw [hlen]; omega), List.drop_drop, hdrop]
    simp only [List.append_assoc, List.length_append, List.nil_append]
  · show s.pos + a.length + b.length = s.pos + (a ++ b).length
    rw [List.length_append, Nat.add_assoc]

end SliceSink

instance : LawfulSink SliceSink where
  fits s n := s.pos + n ≤ s.buf.length
  append := SliceSink.append
  fits_of_add h := by omega
  fits_append {s bs n} h := by
    have hbs : s.pos + bs.length ≤ s.buf.length := by omega
    rw [SliceSink.append_eq s bs hbs, SliceSink.length_buf_advance]
    show s.pos + bs.length + n ≤ s.buf.length
    omega
  append_nil s := by
    rw [SliceSink.append_eq s [] (by simpa using s.pos_le)]
    exact SliceSink.ext_fields (by simp [SliceSink.advance]) rfl rfl
  append_append h := SliceSink.append_append _ _ _ h
  put_fits {s bs} h := by
    rw [SliceSink.append_eq s bs h]
    exact dif_pos h

/-! ## The meaning of a writing program -/

section
variable {σ : Type} [ByteSink σ] [LawfulSink σ]

/-- With room for `bs`, the program succeeds and appends exactly `bs`. -/
def Writes (w : Write σ Unit) (bs : List UInt8) : Prop :=
  ∀ s : σ, LawfulSink.fits s bs.length → w s = .ok () (LawfulSink.append s bs)

theorem writes_put (bs : List UInt8) : Writes (put bs : Write σ Unit) bs :=
  fun _ h => LawfulSink.put_fits h

theorem writes_nothing : Writes (pure () : Write σ Unit) [] := by
  intro s _
  rw [LawfulSink.append_nil]
  rfl

theorem Writes.bind {w w' : Write σ Unit} {a b : List UInt8} (hw : Writes w a)
    (hw' : Writes w' b) : Writes (do w; w') (a ++ b) := by
  intro s h
  rw [List.length_append] at h
  show (EStateM.bind w fun _ => w') s = _
  rw [EStateM.bind, hw s (LawfulSink.fits_of_add h)]
  show w' (LawfulSink.append s a) = _
  rw [hw' _ (LawfulSink.fits_append h), LawfulSink.append_append h]

theorem writes_forM {α : Type} {f : α → Write σ Unit} {enc : α → List UInt8}
    (h : ∀ a, Writes (f a) (enc a)) (l : List α) : Writes (l.forM f) (concat enc l) := by
  induction l with
  | nil => exact writes_nothing
  | cons a l ih =>
      show Writes (do f a; l.forM f) _
      exact (h a).bind ih

end

/-! ## Words -/

def bytesU8 (v : UInt8) : List UInt8 := [v]
def bytesU16 (v : UInt16) : List UInt8 := toLE 2 v.toNat
def bytesU32 (v : UInt32) : List UInt8 := toLE 4 v.toNat
def bytesU64 (v : UInt64) : List UInt8 := toLE 8 v.toNat
def bytesFixed {n : Nat} (v : Bytes n) : List UInt8 := v.toList

@[simp] theorem length_bytesU8 (v : UInt8) : (bytesU8 v).length = 1 := rfl
@[simp] theorem length_bytesU16 (v : UInt16) : (bytesU16 v).length = 2 := length_toLE _ _
@[simp] theorem length_bytesU32 (v : UInt32) : (bytesU32 v).length = 4 := length_toLE _ _
@[simp] theorem length_bytesU64 (v : UInt64) : (bytesU64 v).length = 8 := length_toLE _ _
@[simp] theorem length_bytesFixed {n : Nat} (v : Bytes n) : (bytesFixed v).length = n :=
  v.toList_length

theorem sdU8 : SelfDelimiting bytesU8 :=
  .of_length length_bytesU8 (fun _ _ h => List.singleton_inj.mp h)

theorem sdU16 : SelfDelimiting bytesU16 :=
  selfDelimiting_le (fun _ _ => UInt16.toNat_inj.mp) (fun v => v.toNat_lt)

theorem sdU32 : SelfDelimiting bytesU32 :=
  selfDelimiting_le (fun _ _ => UInt32.toNat_inj.mp) (fun v => v.toNat_lt)

theorem sdU64 : SelfDelimiting bytesU64 :=
  selfDelimiting_le (fun _ _ => UInt64.toNat_inj.mp) (fun v => v.toNat_lt)

theorem sdFixed {n : Nat} : SelfDelimiting (bytesFixed (n := n)) := selfDelimiting_vector n

section
variable {σ : Type} [ByteSink σ] [LawfulSink σ]

theorem writesU8 (v : UInt8) : Writes (putU8 v : Write σ Unit) (bytesU8 v) := writes_put _
theorem writesU16 (v : UInt16) : Writes (putU16 v : Write σ Unit) (bytesU16 v) := writes_put _
theorem writesU32 (v : UInt32) : Writes (putU32 v : Write σ Unit) (bytesU32 v) := writes_put _
theorem writesU64 (v : UInt64) : Writes (putU64 v : Write σ Unit) (bytesU64 v) := writes_put _
theorem writesFixed {n : Nat} (v : Bytes n) :
    Writes (putFixed v.toList : Write σ Unit) (bytesFixed v) := writes_put _

end

/-! ## Canonical types -/

/-- The encoder of `α` writes `bytes`, and `bytes` can be read back. -/
class Canonical (α : Type) [CanonicalSerialize α] where
  bytes : α → List UInt8
  writes : ∀ {σ : Type} [ByteSink σ] [LawfulSink σ] (a : α),
    Writes (serializeInto a : Write σ Unit) (bytes a)
  selfDelimiting : SelfDelimiting bytes

export Canonical (bytes)

theorem canonicalWrites {α σ : Type} [CanonicalSerialize α] [Canonical α] [ByteSink σ]
    [LawfulSink σ] (a : α) : Writes (serializeInto a : Write σ Unit) (bytes a) :=
  Canonical.writes a

theorem sd {α : Type} [CanonicalSerialize α] [Canonical α] :
    SelfDelimiting (bytes : α → List UInt8) :=
  Canonical.selfDelimiting

instance : Canonical UInt16 where
  bytes := bytesU16
  writes := writesU16
  selfDelimiting := sdU16

instance : Canonical (Bytes 32) where
  bytes := bytesFixed
  writes := writesFixed
  selfDelimiting := sdFixed

theorem bytesU32_ofNat_inj {m n : Nat} (hm : m < 2 ^ 32) (hn : n < 2 ^ 32) {s t : List UInt8}
    (h : bytesU32 (UInt32.ofNat m) ++ s = bytesU32 (UInt32.ofNat n) ++ t) : m = n ∧ s = t := by
  obtain ⟨hc, hst⟩ := sdU32 h
  have hmn := congrArg UInt32.toNat hc
  rw [UInt32.toNat_ofNat_of_lt' hm, UInt32.toNat_ofNat_of_lt' hn] at hmn
  exact ⟨hmn, hst⟩

/-- A bounded vector whose capacity fits the `u32` count. -/
@[reducible] def canonicalBoundedVec {α : Type} [CanonicalSerialize α] [Canonical α] {N : Nat}
    (hN : N < 2 ^ 32) : Canonical (BoundedVec α N) where
  bytes v := bytesU32 (UInt32.ofNat v.len) ++ concat bytes v.asSlice
  writes v := (writesU32 _).bind (writes_forM canonicalWrites v.asSlice)
  selfDelimiting := by
    intro v w s t h
    simp only [List.append_assoc] at h
    have hv : v.len < 2 ^ 32 := Nat.lt_of_le_of_lt v.len_le hN
    have hw : w.len < 2 ^ 32 := Nat.lt_of_le_of_lt w.len_le hN
    obtain ⟨hlen, h⟩ := bytesU32_ofNat_inj hv hw h
    obtain ⟨hslice, hst⟩ := concat_inj sd hlen h
    exact ⟨BoundedVec.ext_slice hslice, hst⟩

instance : Canonical OpaqueTag where
  bytes t := bytesU32 (UInt32.ofNat t.asBytes.length) ++ t.asBytes
  writes t := (writesU32 _).bind (writes_put _)
  selfDelimiting := by
    intro a b s t h
    simp only [List.append_assoc] at h
    have ha : a.asBytes.length < 2 ^ 32 := Nat.lt_of_le_of_lt a.len_le (by decide)
    have hb : b.asBytes.length < 2 ^ 32 := Nat.lt_of_le_of_lt b.len_le (by decide)
    obtain ⟨hlen, h⟩ := bytesU32_ofNat_inj ha hb h
    obtain ⟨hab, hst⟩ := List.append_inj h hlen
    exact ⟨OpaqueTag.asBytes_injective hab, hst⟩

instance : Canonical DeviceCapability where
  bytes d := bytes d.taskClassId ++ (bytesU64 d.measuredGcuPerHour
    ++ bytesFixed d.determinismProfileRef)
  writes d := (canonicalWrites _).bind ((writesU64 _).bind (writesFixed _))
  selfDelimiting := by
    intro a b s t h
    simp only [List.append_assoc] at h
    obtain ⟨h1, h⟩ := sd h
    obtain ⟨h2, h⟩ := sdU64 h
    obtain ⟨h3, hst⟩ := sdFixed h
    cases a; cases b; cases h1; cases h2; cases h3
    exact ⟨rfl, hst⟩

instance : Canonical (BoundedVec UInt16 maxEdgeTicks) := canonicalBoundedVec (by decide)
instance : Canonical (BoundedVec DeviceCapability maxCapabilities) :=
  canonicalBoundedVec (by decide)
instance : Canonical (BoundedVec (Bytes 32) maxAuthorizedExecutors) :=
  canonicalBoundedVec (by decide)

/-! ## Telemetry frames -/

instance : Canonical FrameHeader where
  bytes f := bytesU16 f.schemaVersion ++ (bytesU8 f.frameType
    ++ (bytesFixed f.endpointPseudonym ++ (bytesU16 f.identityIndex ++ (bytesU64 f.epoch
    ++ (bytesFixed f.runNonce ++ bytesU32 f.chainId)))))
  writes f := (writesU16 _).bind <| (writesU8 _).bind <| (writesFixed _).bind <|
    (writesU16 _).bind <| (writesU64 _).bind <| (writesFixed _).bind (writesU32 _)
  selfDelimiting := by
    intro a b s t h
    simp only [List.append_assoc] at h
    obtain ⟨h1, h⟩ := sdU16 h
    obtain ⟨h2, h⟩ := sdU8 h
    obtain ⟨h3, h⟩ := sdFixed h
    obtain ⟨h4, h⟩ := sdU16 h
    obtain ⟨h5, h⟩ := sdU64 h
    obtain ⟨h6, h⟩ := sdFixed h
    obtain ⟨h7, hst⟩ := sdU32 h
    cases a; cases b; cases h1; cases h2; cases h3; cases h4; cases h5; cases h6; cases h7
    exact ⟨rfl, hst⟩

instance : Canonical EndpointDensity where
  bytes d := bytesFixed d.endpointPseudonym ++ (bytesU8 d.ceilSustBin ++ (bytesU8 d.ceilPeakBin
    ++ (bytesU8 d.ceilOperBin ++ (bytesU8 d.ceilPhysBin ++ (bytesU64 d.shapeDeltaPpm
    ++ bytesU64 d.dPpm)))))
  writes d := (writesFixed _).bind <| (writesU8 _).bind <| (writesU8 _).bind <|
    (writesU8 _).bind <| (writesU8 _).bind <| (writesU64 _).bind (writesU64 _)
  selfDelimiting := by
    intro a b s t h
    simp only [List.append_assoc] at h
    obtain ⟨h1, h⟩ := sdFixed h
    obtain ⟨h2, h⟩ := sdU8 h
    obtain ⟨h3, h⟩ := sdU8 h
    obtain ⟨h4, h⟩ := sdU8 h
    obtain ⟨h5, h⟩ := sdU8 h
    obtain ⟨h6, h⟩ := sdU64 h
    obtain ⟨h7, hst⟩ := sdU64 h
    cases a; cases b; cases h1; cases h2; cases h3; cases h4; cases h5; cases h6; cases h7
    exact ⟨rfl, hst⟩

/-- Eight `u16` readings, no count. -/
def bytesRtt (v : List.Vector UInt16 8) : List UInt8 := concat bytesU16 v.toList

theorem sdRtt : SelfDelimiting bytesRtt := by
  intro a b s t h
  obtain ⟨hab, hst⟩ := concat_inj sdU16 (by rw [a.toList_length, b.toList_length]) h
  exact ⟨List.Vector.eq _ _ hab, hst⟩

instance : Canonical NetworkDensityFrame where
  bytes f := bytes f.header ++ (bytesU16 f.tickIndex ++ (bytesU8 f.dlBin ++ (bytesU8 f.ulBin
    ++ (bytesU8 f.concurrentFlag ++ (bytesU8 f.aggDlBin ++ (bytesU8 f.aggUlBin
    ++ (bytesRtt f.rttQ ++ (bytesU8 f.originChangeCount ++ (bytesU8 f.sharedOriginDegreeBin
    ++ (bytesU8 f.xferBytesBin ++ (bytesU8 f.morphologyId ++ (bytesU8 f.peakMicroBin
    ++ (bytesU8 f.crestEighthOct ++ (bytesU32 f.dutyPpm ++ (bytesU8 f.throttleOnsetS
    ++ (bytesU8 f.preBin ++ bytesU8 f.postBin))))))))))))))))
  writes f := (canonicalWrites _).bind <| (writesU16 _).bind <| (writesU8 _).bind <|
    (writesU8 _).bind <| (writesU8 _).bind <| (writesU8 _).bind <| (writesU8 _).bind <|
    (writes_forM writesU16 f.rttQ.toList).bind <| (writesU8 _).bind <| (writesU8 _).bind <|
    (writesU8 _).bind <| (writesU8 _).bind <| (writesU8 _).bind <| (writesU8 _).bind <|
    (writesU32 _).bind <| (writesU8 _).bind <| (writesU8 _).bind (writesU8 _)
  selfDelimiting := by
    intro a b s t h
    simp only [List.append_assoc] at h
    obtain ⟨h1, h⟩ := sd h
    obtain ⟨h2, h⟩ := sdU16 h
    obtain ⟨h3, h⟩ := sdU8 h
    obtain ⟨h4, h⟩ := sdU8 h
    obtain ⟨h5, h⟩ := sdU8 h
    obtain ⟨h6, h⟩ := sdU8 h
    obtain ⟨h7, h⟩ := sdU8 h
    obtain ⟨h8, h⟩ := sdRtt h
    obtain ⟨h9, h⟩ := sdU8 h
    obtain ⟨h10, h⟩ := sdU8 h
    obtain ⟨h11, h⟩ := sdU8 h
    obtain ⟨h12, h⟩ := sdU8 h
    obtain ⟨h13, h⟩ := sdU8 h
    obtain ⟨h14, h⟩ := sdU8 h
    obtain ⟨h15, h⟩ := sdU32 h
    obtain ⟨h16, h⟩ := sdU8 h
    obtain ⟨h17, h⟩ := sdU8 h
    obtain ⟨h18, hst⟩ := sdU8 h
    cases a; cases b
    cases h1; cases h2; cases h3; cases h4; cases h5; cases h6; cases h7; cases h8; cases h9
    cases h10; cases h11; cases h12; cases h13; cases h14; cases h15; cases h16; cases h17
    cases h18
    exact ⟨rfl, hst⟩

instance : Canonical PresenceAvailabilityFrame where
  bytes f := bytes f.header ++ (bytesU64 f.presenceBitmap ++ (bytesU8 f.riseEdges
    ++ (bytesU8 f.fallEdges ++ (bytes f.edgeTicks ++ bytesU8 f.localHour))))
  writes f := (canonicalWrites _).bind <| (writesU64 _).bind <| (writesU8 _).bind <|
    (writesU8 _).bind <| (canonicalWrites _).bind (writesU8 _)
  selfDelimiting := by
    intro a b s t h
    simp only [List.append_assoc] at h
    obtain ⟨h1, h⟩ := sd h
    obtain ⟨h2, h⟩ := sdU64 h
    obtain ⟨h3, h⟩ := sdU8 h
    obtain ⟨h4, h⟩ := sdU8 h
    obtain ⟨h5, h⟩ := sd h
    obtain ⟨h6, hst⟩ := sdU8 h
    cases a; cases b; cases h1; cases h2; cases h3; cases h4; cases h5; cases h6
    exact ⟨rfl, hst⟩

/-! ## Signable bodies and their wrappers -/

instance : Canonical CapabilityRecord where
  bytes r := bytesFixed r.nodeId ++ (bytesU64 r.epoch ++ (bytesFixed r.beaconNonce
    ++ (bytesFixed r.prevRecord ++ (bytes r.capabilities ++ (bytesU64 r.availabilityPpm
    ++ (bytesU32 r.powerThermalEnvelope.powerMw ++ (bytesU32 r.powerThermalEnvelope.thermalDk
    ++ bytesU64 r.densityWitnessPpm)))))))
  writes r := (writesFixed _).bind <| (writesU64 _).bind <| (writesFixed _).bind <|
    (writesFixed _).bind <| (canonicalWrites _).bind <| (writesU64 _).bind <|
    (writesU32 _).bind <| (writesU32 _).bind (writesU64 _)
  selfDelimiting := by
    intro a b s t h
    simp only [List.append_assoc] at h
    obtain ⟨h1, h⟩ := sdFixed h
    obtain ⟨h2, h⟩ := sdU64 h
    obtain ⟨h3, h⟩ := sdFixed h
    obtain ⟨h4, h⟩ := sdFixed h
    obtain ⟨h5, h⟩ := sd h
    obtain ⟨h6, h⟩ := sdU64 h
    obtain ⟨h7, h⟩ := sdU32 h
    obtain ⟨h8, h⟩ := sdU32 h
    obtain ⟨h9, hst⟩ := sdU64 h
    obtain ⟨_, _, _, _, _, _, ⟨_, _⟩, _⟩ := a
    obtain ⟨_, _, _, _, _, _, ⟨_, _⟩, _⟩ := b
    cases h1; cases h2; cases h3; cases h4; cases h5; cases h6; cases h7; cases h8; cases h9
    exact ⟨rfl, hst⟩

instance : Canonical ExecutionAttestation where
  bytes a := bytesFixed a.nodeId ++ (bytes a.classId ++ (bytes a.taskClassId
    ++ (bytesU64 a.window ++ (bytesU32 a.subWindow ++ (bytesFixed a.clusterId
    ++ (bytesU32 a.asn ++ bytesFixed a.resultCommit))))))
  writes a := (writesFixed _).bind <| (canonicalWrites _).bind <| (canonicalWrites _).bind <|
    (writesU64 _).bind <| (writesU32 _).bind <| (writesFixed _).bind <|
    (writesU32 _).bind (writesFixed _)
  selfDelimiting := by
    intro a b s t h
    simp only [List.append_assoc] at h
    obtain ⟨h1, h⟩ := sdFixed h
    obtain ⟨h2, h⟩ := sd h
    obtain ⟨h3, h⟩ := sd h
    obtain ⟨h4, h⟩ := sdU64 h
    obtain ⟨h5, h⟩ := sdU32 h
    obtain ⟨h6, h⟩ := sdFixed h
    obtain ⟨h7, h⟩ := sdU32 h
    obtain ⟨h8, hst⟩ := sdFixed h
    cases a; cases b
    cases h1; cases h2; cases h3; cases h4; cases h5; cases h6; cases h7; cases h8
    exact ⟨rfl, hst⟩

/-- `len_u8 ‖ ctx`. -/
def bytesContext (ctx : List UInt8) : List UInt8 := bytesU8 (UInt8.ofNat ctx.length) ++ ctx

theorem writesContext {σ : Type} [ByteSink σ] [LawfulSink σ] (ctx : List UInt8) :
    Writes (writeContextPrefixed ctx : Write σ Unit) (bytesContext ctx) :=
  (writesU8 _).bind (writes_put _)

instance {α : Type} [CanonicalSerialize α] [Canonical α] : Canonical (SignedRecord α) where
  bytes r := bytesContext ctxGoatSignedRecordWrapper ++ (bytes r.payload
    ++ (bytesFixed r.publicKey ++ bytesFixed r.signature))
  writes r := (writesContext _).bind <| (canonicalWrites _).bind <|
    (writesFixed _).bind (writesFixed _)
  selfDelimiting := by
    intro a b s t h
    simp only [List.append_assoc, List.append_cancel_left_eq] at h
    obtain ⟨h1, h⟩ := sd h
    obtain ⟨h2, h⟩ := sdFixed h
    obtain ⟨h3, hst⟩ := sdFixed h
    cases a; cases b; cases h1; cases h2; cases h3
    exact ⟨rfl, hst⟩

instance : Canonical SignedReceipt where
  bytes r := bytesContext ctxGoatSignedReceiptWrapper ++ (bytes r.attestation
    ++ (bytesFixed r.publicKey ++ bytesFixed r.signature))
  writes r := (writesContext _).bind <| (canonicalWrites _).bind <|
    (writesFixed _).bind (writesFixed _)
  selfDelimiting := by
    intro a b s t h
    simp only [List.append_assoc, List.append_cancel_left_eq] at h
    obtain ⟨h1, h⟩ := sd h
    obtain ⟨h2, h⟩ := sdFixed h
    obtain ⟨h3, hst⟩ := sdFixed h
    cases a; cases b; cases h1; cases h2; cases h3
    exact ⟨rfl, hst⟩

instance : Canonical AuthorizationSet where
  bytes a := bytesU64 a.window ++ (bytes a.taskClassId ++ bytes a.executors)
  writes a := (writesU64 _).bind <| (canonicalWrites _).bind (canonicalWrites _)
  selfDelimiting := by
    intro a b s t h
    simp only [List.append_assoc] at h
    obtain ⟨h1, h⟩ := sdU64 h
    obtain ⟨h2, h⟩ := sd h
    obtain ⟨h3, hst⟩ := sd h
    cases a; cases b; cases h1; cases h2; cases h3
    exact ⟨rfl, hst⟩

instance : Canonical EscalatedResult where
  bytes r := bytes r.receipt ++ bytesFixed r.rawTraceCommit
  writes r := (canonicalWrites _).bind (writesFixed _)
  selfDelimiting := by
    intro a b s t h
    simp only [List.append_assoc] at h
    obtain ⟨h1, h⟩ := sd h
    obtain ⟨h2, hst⟩ := sdFixed h
    cases a; cases b; cases h1; cases h2
    exact ⟨rfl, hst⟩

instance : Canonical EscalationRecord where
  bytes r := bytes r.classId ++ concat bytes r.results.toList
  writes r := (canonicalWrites _).bind (writes_forM canonicalWrites r.results.toList)
  selfDelimiting := by
    intro a b s t h
    simp only [List.append_assoc] at h
    obtain ⟨h1, h⟩ := sd h
    obtain ⟨h2, hst⟩ := concat_inj sd (by rw [a.results.toList_length, b.results.toList_length]) h
    have h3 : a.results = b.results := List.Vector.eq _ _ h2
    cases a; cases b; cases h1; cases h3
    exact ⟨rfl, hst⟩

/-! ## Handshake messages -/

instance : Canonical HandshakeInitiation where
  bytes i := bytesFixed i.initiatorIdentity ++ (bytesFixed i.ephemeralKemPk
    ++ (bytesU64 i.epoch ++ (bytesU64 i.localTime ++ bytesFixed i.nonce)))
  writes i := (writes_put _).bind <| (writes_put _).bind <| (writes_put _).bind <|
    (writes_put _).bind (writes_put _)
  selfDelimiting := by
    intro a b s t h
    simp only [List.append_assoc] at h
    obtain ⟨h1, h⟩ := sdFixed h
    obtain ⟨h2, h⟩ := sdFixed h
    obtain ⟨h3, h⟩ := sdU64 h
    obtain ⟨h4, h⟩ := sdU64 h
    obtain ⟨h5, hst⟩ := sdFixed h
    cases a; cases b; cases h1; cases h2; cases h3; cases h4; cases h5
    exact ⟨rfl, hst⟩

instance : Canonical HandshakeResponse where
  bytes r := bytesFixed r.responderIdentity ++ (bytesFixed r.kemCiphertext
    ++ (bytesU64 r.epoch ++ (bytesU64 r.localTime ++ bytesFixed r.nonce)))
  writes r := (writes_put _).bind <| (writes_put _).bind <| (writes_put _).bind <|
    (writes_put _).bind (writes_put _)
  selfDelimiting := by
    intro a b s t h
    simp only [List.append_assoc] at h
    obtain ⟨h1, h⟩ := sdFixed h
    obtain ⟨h2, h⟩ := sdFixed h
    obtain ⟨h3, h⟩ := sdU64 h
    obtain ⟨h4, h⟩ := sdU64 h
    obtain ⟨h5, hst⟩ := sdFixed h
    cases a; cases b; cases h1; cases h2; cases h3; cases h4; cases h5
    exact ⟨rfl, hst⟩

end GoatCoin
