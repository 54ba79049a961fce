/-
# `GoatCoin.Goatd.PacketAgreement` — three readings of the handshake packets

The packets of a handshake are written once and read twice:

    goatd.rs     encode_*_packet                          a stack buffer, tag first
    daemon.rs    demux                                    a cursor that must reach the end
    goatd.rs     initiation_from_cookie_echo,             fixed offsets, then a slice that
                 response_from_raw                        is split from the front

The pipeline verifies the signature over what the second reads, the actor encapsulates
to the key that the third reads.  All three meet in `NetworkPacket.wire`.
-/
import GoatCoin.Goatd.InitiatorBinding

namespace GoatCoin

open Wire

/-! ## The encoders -/

theorem sized_eq {n : Nat} {w : Write SliceSink Unit} {bs : List UInt8} (hw : Writes w bs)
    (hlen : bs.length ≤ n) : sized n w = some bs := by
  obtain ⟨sink, hrun, -, hwritten⟩ := stack_of_writes hw hlen
  rw [sized, hrun, ← hwritten]

theorem encodeInitiationPacket_eq (init : HandshakeInitiation) :
    encodeInitiationPacket init = some (NetworkPacket.wire (.initiation init)) := by
  refine sized_eq ((writes_put [PacketTag.initiation]).bind (canonicalWrites init)) ?_
  rw [NetworkPacket.wire, List.length_cons, length_bytes_initiation, Nat.add_comm]

theorem length_cookieEchoBytes (echo : HandshakeCookieEcho) (signature : Signature) :
    (cookieEchoBytes echo signature).length
      = 32 + (8 + (handshakeInitiationBodyLen + mlDsa65SignatureLen)) := by
  rw [cookieEchoBytes, List.length_append, List.length_append, List.length_append,
    length_bytesFixed, length_bytesU64, length_bytes_initiation, length_bytesFixed]

theorem encodeCookieEchoPacket_eq (echo : HandshakeCookieEcho) (signature : Signature) :
    encodeCookieEchoPacket echo.cookie echo.timestamp echo.initiation signature
      = some (NetworkPacket.wire (.cookieEcho echo signature)) := by
  refine sized_eq ((writes_put [PacketTag.cookieEcho]).bind <| (writes_put _).bind <|
    (writes_put _).bind <| (canonicalWrites echo.initiation).bind (writes_put _)) ?_
  rw [NetworkPacket.wire, List.length_cons, length_cookieEchoBytes]
  omega

theorem encodeResponsePacket_eq (resp : HandshakeResponse) (signature : Signature) :
    encodeResponsePacket resp signature = some (NetworkPacket.wire (.response resp signature)) := by
  refine sized_eq ((writes_put [PacketTag.response]).bind <|
    (canonicalWrites resp).bind (writes_put _)) ?_
  rw [NetworkPacket.wire, List.length_cons, length_signedResponseBytes]
  omega

/-! ## The readers by offsets -/

theorem splitInitiation_bytes (init : HandshakeInitiation) :
    splitInitiation (bytes init) = some (init, []) := by
  have hbytes : bytes init = init.initiatorIdentity.toList ++ (init.ephemeralKemPk.toList
      ++ (toLE 8 init.epoch.toNat
        ++ (toLE 8 init.localTime.toNat ++ (init.nonce.toList ++ [])))) := by
    rw [List.append_nil]
    rfl
  rw [hbytes, splitInitiation, Split.bind_of (Split.array_append _ _),
    Split.bind_of (Split.array_append _ _), Split.bind_of (Split.u64_append _ _),
    Split.bind_of (Split.u64_append _ _), Split.bind_of (Split.array_append _ _)]
  rfl

theorem initiation_at_offset (echo : HandshakeCookieEcho) (signature : Signature) :
    ((NetworkPacket.wire (.cookieEcho echo signature)).drop (1 + 32 + 8)).take
      handshakeInitiationBodyLen = bytes echo.initiation := by
  have hsplit : NetworkPacket.wire (.cookieEcho echo signature)
      = (PacketTag.cookieEcho :: (bytesFixed echo.cookie ++ bytesU64 echo.timestamp))
        ++ (bytes echo.initiation ++ bytesFixed signature) := by
    rw [NetworkPacket.wire, cookieEchoBytes, List.cons_append, List.append_assoc]
  have hlen : (PacketTag.cookieEcho :: (bytesFixed echo.cookie ++ bytesU64 echo.timestamp)).length
      = 1 + 32 + 8 := by
    rw [List.length_cons, List.length_append, length_bytesFixed, length_bytesU64]
  rw [hsplit, List.drop_left' hlen, List.take_left' (length_bytes_initiation echo.initiation)]

theorem initiationFromCookieEcho_of_demux {raw : List UInt8} {echo : HandshakeCookieEcho}
    {signature : Signature} (h : demux raw = .ok (.cookieEcho echo signature)) :
    initiationFromCookieEcho raw = some echo.initiation := by
  have hraw : raw = NetworkPacket.wire (.cookieEcho echo signature) := demux_ok_iff.mp h
  subst hraw
  have hneed : ¬ ((NetworkPacket.wire (.cookieEcho echo signature)).length
      ≠ 1 + 32 + 8 + handshakeInitiationBodyLen + mlDsa65SignatureLen
      ∨ (NetworkPacket.wire (.cookieEcho echo signature)).head? ≠ some PacketTag.cookieEcho) := by
    rw [NetworkPacket.wire, List.length_cons, length_cookieEchoBytes, List.head?_cons]
    refine not_or.mpr ⟨not_not.mpr ?_, not_not.mpr rfl⟩
    omega
  unfold initiationFromCookieEcho
  dsimp only
  rw [if_neg hneed, initiation_at_offset, splitInitiation_bytes]
  rfl

/-! ## Agreement -/

/-- The byte strings of a packet, as the encoders write them; a frame is whatever
follows its tag. -/
inductive Encodes : NetworkPacket → List UInt8 → Prop
  | initiation {init : HandshakeInitiation} {raw : List UInt8} :
      encodeInitiationPacket init = some raw → Encodes (.initiation init) raw
  | cookieEcho {echo : HandshakeCookieEcho} {signature : Signature} {raw : List UInt8} :
      encodeCookieEchoPacket echo.cookie echo.timestamp echo.initiation signature = some raw →
      Encodes (.cookieEcho echo signature) raw
  | response {resp : HandshakeResponse} {signature : Signature} {raw : List UInt8} :
      encodeResponsePacket resp signature = some raw → Encodes (.response resp signature) raw
  | secureFrame (frame : List UInt8) : Encodes (.secureFrame frame) (PacketTag.secureFrame :: frame)

theorem encodes_iff {packet : NetworkPacket} {raw : List UInt8} :
    Encodes packet raw ↔ raw = packet.wire := by
  constructor
  · intro h
    cases h with
    | initiation h => exact (Option.some.inj ((encodeInitiationPacket_eq _).symm.trans h)).symm
    | cookieEcho h => exact (Option.some.inj ((encodeCookieEchoPacket_eq _ _).symm.trans h)).symm
    | response h => exact (Option.some.inj ((encodeResponsePacket_eq _ _).symm.trans h)).symm
    | secureFrame frame => rfl
  · rintro rfl
    cases packet with
    | initiation init => exact .initiation (encodeInitiationPacket_eq init)
    | cookieEcho echo signature => exact .cookieEcho (encodeCookieEchoPacket_eq echo signature)
    | response resp signature => exact .response (encodeResponsePacket_eq resp signature)
    | secureFrame frame => exact .secureFrame frame

/-- **The packet formats agree.**  The multiplexer accepts exactly the images of the
encoders and the frames, and returns what was encoded; every packet has one encoding;
and the readers by offsets find in what it accepts the initiation and the response that
it returned. -/
theorem packet_formats_agree :
    (∀ raw packet, demux raw = .ok packet ↔ Encodes packet raw) ∧
    (∀ packet, ∃ raw, Encodes packet raw ∧ ∀ raw', Encodes packet raw' → raw' = raw) ∧
    (∀ raw echo signature, demux raw = .ok (.cookieEcho echo signature) →
      initiationFromCookieEcho raw = some echo.initiation) ∧
    (∀ raw resp signature, demux raw = .ok (.response resp signature) →
      responseFromRaw raw = some resp) := by
  refine ⟨fun raw packet => ?_, fun packet => ?_, fun _ _ _ => initiationFromCookieEcho_of_demux,
    fun _ _ _ => responseFromRaw_of_demux⟩
  · rw [encodes_iff]
    exact demux_ok_iff
  · exact ⟨packet.wire, encodes_iff.mpr rfl, fun _ h => encodes_iff.mp h⟩

end GoatCoin
