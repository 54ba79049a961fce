/-
# `GoatCoin.Tunnel.Frame` — the ten bytes before a payload

`frame.rs`.  A header is validated on its way out and on its way in:

    version     1
    kind        1 … 5
    stream id   not 0 for the three stream kinds, 0 for the two session kinds
    length      of the payload, at most 64 KiB

The header stands inside the sealed plaintext.  What `encode` writes `decode` reads
(`decode_encode`), so a sealed frame that is opened is read as it was (`readFrame_append`).
-/
import GoatCoin.Tunnel.State

namespace GoatCoin.Tunnel

open Wire

def tunnelFrameVersion : UInt8 := 1
def tunnelFrameHeaderLen : Nat := 10
def maxFramePayload : Nat := 65536
def maxFramePlaintext : Nat := tunnelFrameHeaderLen + maxFramePayload
def maxFrameWire : Nat := maxFramePlaintext + 16

namespace FrameKind

def byte : FrameKind → UInt8
  | streamOpen => 1
  | streamData => 2
  | streamEnd => 3
  | control => 4
  | meterTick => 5

def fromByte (b : UInt8) : Except TunnelError FrameKind :=
  if b = 1 then .ok streamOpen
  else if b = 2 then .ok streamData
  else if b = 3 then .ok streamEnd
  else if b = 4 then .ok control
  else if b = 5 then .ok meterTick
  else .error (.unknownFrameKind b)

def isPerStream : FrameKind → Bool
  | streamOpen => true
  | streamData => true
  | streamEnd => true
  | _ => false

theorem fromByte_byte (kind : FrameKind) : fromByte kind.byte = .ok kind := by
  cases kind <;> rfl

end FrameKind

/-- What a frame begins with. -/
structure FrameHeader where
  version : UInt8
  kind : FrameKind
  streamId : UInt32
  length : UInt32
deriving DecidableEq

/-- `u32::from_be_bytes`. -/
def u32FromBeBytes (bytes : List UInt8) : UInt32 := UInt32.ofNat (ofLE bytes.reverse)

theorem u32FromBeBytes_toBE (n : UInt32) : u32FromBeBytes (toBE 4 n.toNat) = n := by
  rw [u32FromBeBytes, toBE, List.reverse_reverse, ofLE_toLE 4 n.toNat n.toNat_lt,
    UInt32.ofNat_toNat]

namespace FrameHeader

/-- A `StreamData` header. -/
def data (streamId length : UInt32) : FrameHeader :=
  ⟨tunnelFrameVersion, .streamData, streamId, length⟩

def validate (header : FrameHeader) : Except TunnelError Unit :=
  if header.version ≠ tunnelFrameVersion then
    .error (.unsupportedFrameVersion tunnelFrameVersion header.version)
  else if header.kind.isPerStream ∧ header.streamId = 0 then .error (.zeroStreamId header.kind)
  else if ¬ header.kind.isPerStream ∧ header.streamId ≠ 0 then
    .error (.streamIdOnSessionFrame header.kind)
  else if maxFramePayload < header.length.toNat then
    .error (.frameTooLarge header.length.toNat maxFramePayload)
  else .ok ()

def bytes (header : FrameHeader) : List UInt8 :=
  [header.version, header.kind.byte] ++ toBE 4 header.streamId.toNat ++ toBE 4 header.length.toNat

/-- The bytes of a valid header. -/
def encode (header : FrameHeader) : Except TunnelError (List UInt8) := do
  header.validate
  pure header.bytes

/-- The fields at their offsets. -/
def decode : List UInt8 → Except TunnelError FrameHeader
  | v :: k :: s₀ :: s₁ :: s₂ :: s₃ :: l₀ :: l₁ :: l₂ :: l₃ :: _ => do
      let kind ← FrameKind.fromByte k
      let header := ⟨v, kind, u32FromBeBytes [s₀, s₁, s₂, s₃], u32FromBeBytes [l₀, l₁, l₂, l₃]⟩
      validate header
      pure header
  | _ => .error .malformedHeader

theorem encode_ok {header : FrameHeader} {encoded : List UInt8} :
    header.encode = .ok encoded ↔ header.validate = .ok () ∧ encoded = header.bytes := by
  unfold encode
  cases hvalid : header.validate with
  | error e => exact ⟨fun h => (by cases h), fun h => (by cases h.1)⟩
  | ok _ => exact ⟨fun h => ⟨rfl, (Except.ok.inj h).symm⟩, fun h => congrArg Except.ok h.2.symm⟩

theorem length_bytes (header : FrameHeader) : header.bytes.length = tunnelFrameHeaderLen := by
  rw [bytes, List.length_append, List.length_append, length_toBE, length_toBE]
  rfl

/-- **What is written is read**, whatever follows it. -/
theorem decode_encode {header : FrameHeader} (hvalid : header.validate = .ok ())
    (rest : List UInt8) : decode (header.bytes ++ rest) = .ok header := by
  have hid := u32FromBeBytes_toBE header.streamId
  have hlength := u32FromBeBytes_toBE header.length
  obtain ⟨s₀, s₁, s₂, s₃, hs⟩ := List.length_eq_four.mp (length_toBE 4 header.streamId.toNat)
  obtain ⟨l₀, l₁, l₂, l₃, hl⟩ := List.length_eq_four.mp (length_toBE 4 header.length.toNat)
  rw [hs] at hid
  rw [hl] at hlength
  rw [bytes, hs, hl]
  simp only [List.cons_append, List.nil_append, decode, FrameKind.fromByte_byte, hid, hlength]
  change (validate header >>= fun _ => pure header) = .ok header
  rw [hvalid]
  rfl

end FrameHeader

/-- The header and the payload of a plaintext. -/
def readFrame (plain : List UInt8) : Except TunnelError (FrameHeader × List UInt8) :=
  if plain.length < tunnelFrameHeaderLen then .error .malformedHeader
  else
    match FrameHeader.decode (plain.take tunnelFrameHeaderLen) with
    | .error e => .error e
    | .ok header =>
        let payload := plain.drop tunnelFrameHeaderLen
        if header.length.toNat ≠ payload.length then .error
          (.lengthMismatch header.length payload.length)
        else .ok (header, payload)

theorem readFrame_append {header : FrameHeader} {payload : List UInt8}
    (hvalid : header.validate = .ok ()) (hlength : header.length.toNat = payload.length) :
    readFrame (header.bytes ++ payload) = .ok (header, payload) := by
  have hbytes := header.length_bytes
  have htake : (header.bytes ++ payload).take tunnelFrameHeaderLen = header.bytes ++ [] := by
    rw [List.append_nil, ← hbytes, List.take_left]
  have hdrop : (header.bytes ++ payload).drop tunnelFrameHeaderLen = payload := by
    rw [← hbytes, List.drop_left]
  have hlong : ¬ (header.bytes ++ payload).length < tunnelFrameHeaderLen := by
    rw [List.length_append, hbytes]
    omega
  rw [readFrame, if_neg hlong, htake, FrameHeader.decode_encode hvalid, hdrop]
  dsimp only
  rw [if_neg (not_not.mpr hlength)]

end GoatCoin.Tunnel
