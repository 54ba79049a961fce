/-
# `GoatCoin.Core.Daemon` — the ingress pipeline of `daemon.rs`

Raw bytes are demultiplexed by a one-byte tag and routed to the plane that owns
them.  What a packet can change in the node depends on its route alone:

    0x01  Initiation    —                                       a stateless cookie goes back
    0x02  CookieEcho    cookie_cache, then network_clock        the second only if the signature verifies
    0x03  Response      network_clock                           only if the signature verifies
    0x04  SecureFrame   message_cache                           only if the message is accepted

The cipher of a session and the decoder of its plaintexts are injected, as in the
source: `SecureChannel` and `GossipCodec` are classes.  The pipeline runs in
`EStateM` over everything it holds a `&mut` to (the node, the channel, the
plaintext buffer), so that a refusal carries what it leaves behind.

`GoatNode.Step` lists the outcomes of a call with the guards of each, and
`GoatNode.step_result` says that there are no others; what holds of the node in
every run is read off that list.
-/
import GoatCoin.Lib.Reader
import GoatCoin.Core.Gossip

namespace GoatCoin

open Wire Wire.Reader

namespace PacketTag

def initiation : UInt8 := 0x01
def cookieEcho : UInt8 := 0x02
def response : UInt8 := 0x03
def secureFrame : UInt8 := 0x04

end PacketTag

/-- The inbound half of `trait SecureChannel`.  The plaintext is written to the
buffer and its length, which the buffer bounds, is returned. -/
class SecureChannel (σ : Type) where
  decryptFrame {n : Nat} (frame : List UInt8) : EStateM TransportError (σ × Bytes n) (Fin (n + 1))

class GossipCodec (γ : Type) where
  decode : γ → List UInt8 → Option GossipMessage

/-- Why a packet is dropped. -/
inductive DaemonError where
  | empty
  | unknownPacketType
  | malformed
  | transport (e : TransportError)
  | gossip (e : GossipError)
  | decode
deriving DecidableEq

/-- What a packet led to. -/
inductive IngressOutcome where
  | challengeIssued (challenge : CookieChallenge)
  | handshakeEstablished
  | responseVerified
  | gossipAccepted
deriving DecidableEq

/-! ## The ingress multiplexer -/

inductive NetworkPacket where
  | initiation (init : HandshakeInitiation)
  | cookieEcho (echo : HandshakeCookieEcho) (signature : Signature)
  | response (resp : HandshakeResponse) (signature : Signature)
  | secureFrame (frame : List UInt8)
deriving DecidableEq

def parseInitiation : Read HandshakeInitiation := do
  let initiatorIdentity ← array mlDsa65PublicKeyLen
  let ephemeralKemPk ← array mlKem768EncapsKeyLen
  let epoch ← u64
  let localTime ← u64
  let nonce ← array 32
  pure { initiatorIdentity, ephemeralKemPk, epoch, localTime, nonce }

def parseResponse : Read HandshakeResponse := do
  let responderIdentity ← array mlDsa65PublicKeyLen
  let kemCiphertext ← array mlKem768CiphertextLen
  let epoch ← u64
  let localTime ← u64
  let nonce ← array 32
  pure { responderIdentity, kemCiphertext, epoch, localTime, nonce }

/-- `cookie ‖ timestamp ‖ initiation ‖ signature`. -/
def parseCookieEcho : Read (HandshakeCookieEcho × Signature) := do
  let cookie ← array 32
  let timestamp ← u64
  let initiation ← parseInitiation
  let signature ← array mlDsa65SignatureLen
  pure ({ cookie, timestamp, initiation }, signature)

/-- `response ‖ signature`. -/
def parseSignedResponse : Read (HandshakeResponse × Signature) := do
  let resp ← parseResponse
  let signature ← array mlDsa65SignatureLen
  pure (resp, signature)

/-- A body that does not parse, or has trailing bytes, is malformed. -/
def parseBody {α : Type} (p : Read α) (packet : α → NetworkPacket) (body : List UInt8) :
    Except DaemonError NetworkPacket :=
  match readAll p body with
  | some a => .ok (packet a)
  | none => .error .malformed

/-- A packet, by its first byte. -/
def demux (raw : List UInt8) : Except DaemonError NetworkPacket :=
  match raw with
  | [] => .error .empty
  | tag :: body =>
      if tag = PacketTag.initiation then parseBody parseInitiation .initiation body
      else if tag = PacketTag.cookieEcho then
        parseBody parseCookieEcho (fun p => .cookieEcho p.1 p.2) body
      else if tag = PacketTag.response then
        parseBody parseSignedResponse (fun p => .response p.1 p.2) body
      else if tag = PacketTag.secureFrame then .ok (.secureFrame body)
      else .error .unknownPacketType

theorem reads_initiation : Reads (fun _ => True) parseInitiation bytes := by
  refine Reads.congr (.bind HandshakeInitiation.initiatorIdentity (reads_array _) fun _ =>
    .bind HandshakeInitiation.ephemeralKemPk (reads_array _) fun _ =>
    .bind HandshakeInitiation.epoch reads_u64 fun _ =>
    .bind HandshakeInitiation.localTime reads_u64 fun _ =>
    .bind HandshakeInitiation.nonce (reads_array 32) fun _ => .pure ?_) ?_
  · rintro ⟨⟩
    simp [and_assoc]
  · intro i
    rw [List.append_nil]
    rfl

/-- The bytes of a cookie echo and of the signature over its initiation. -/
def cookieEchoBytes (echo : HandshakeCookieEcho) (signature : Signature) : List UInt8 :=
  bytesFixed echo.cookie
    ++ (bytesU64 echo.timestamp ++ (bytes echo.initiation ++ bytesFixed signature))

theorem reads_cookieEcho :
    Reads (fun _ => True) parseCookieEcho (fun p => cookieEchoBytes p.1 p.2) := by
  refine Reads.congr (.bind (fun p : HandshakeCookieEcho × Signature => p.1.cookie)
      (reads_array 32) fun _ =>
    .bind (fun p : HandshakeCookieEcho × Signature => p.1.timestamp) reads_u64 fun _ =>
    .bind (fun p : HandshakeCookieEcho × Signature => p.1.initiation) reads_initiation fun _ =>
    .bind (Prod.snd : HandshakeCookieEcho × Signature → Signature) (reads_array _) fun _ =>
    .pure ?_) ?_
  · rintro ⟨⟨⟩, _⟩
    simp [and_assoc]
  · intro p
    rw [List.append_nil]
    rfl

theorem reads_response : Reads (fun _ => True) parseResponse bytes := by
  refine Reads.congr (.bind HandshakeResponse.responderIdentity (reads_array _) fun _ =>
    .bind HandshakeResponse.kemCiphertext (reads_array _) fun _ =>
    .bind HandshakeResponse.epoch reads_u64 fun _ =>
    .bind HandshakeResponse.localTime reads_u64 fun _ =>
    .bind HandshakeResponse.nonce (reads_array 32) fun _ => .pure ?_) ?_
  · rintro ⟨⟩
    simp [and_assoc]
  · intro r
    rw [List.append_nil]
    rfl

/-- The bytes of a response and of the signature over it. -/
def signedResponseBytes (resp : HandshakeResponse) (signature : Signature) : List UInt8 :=
  bytes resp ++ bytesFixed signature

theorem reads_signedResponse :
    Reads (fun _ => True) parseSignedResponse (fun p => signedResponseBytes p.1 p.2) := by
  refine Reads.congr (.bind (Prod.fst : HandshakeResponse × Signature → HandshakeResponse)
      reads_response fun _ =>
    .bind (Prod.snd : HandshakeResponse × Signature → Signature) (reads_array _) fun _ =>
    .pure ?_) ?_
  · rintro ⟨_, _⟩
    simp
  · intro p
    rw [List.append_nil]
    rfl

/-- The bytes of a packet. -/
def NetworkPacket.wire : NetworkPacket → List UInt8
  | .initiation init => PacketTag.initiation :: bytes init
  | .cookieEcho echo signature => PacketTag.cookieEcho :: cookieEchoBytes echo signature
  | .response resp signature => PacketTag.response :: signedResponseBytes resp signature
  | .secureFrame frame => PacketTag.secureFrame :: frame

theorem parseBody_ok {α : Type} {p : Read α} {enc : α → List UInt8}
    (hp : Reads (fun _ => True) p enc)
    {packet : α → NetworkPacket} {body : List UInt8} {out : NetworkPacket} :
    parseBody p packet body = .ok out ↔ ∃ a, body = enc a ∧ packet a = out := by
  unfold parseBody
  constructor
  · intro h
    split at h
    · rename_i a ha
      exact ⟨a, ((readAll_eq_some hp).mp ha).2, Except.ok.inj h⟩
    · cases h
  · rintro ⟨a, rfl, rfl⟩
    rw [(readAll_eq_some hp).mpr ⟨trivial, rfl⟩]

/-- **What the multiplexer accepts** is the bytes of a packet, and the packet is what it
returns. -/
theorem demux_ok_iff {raw : List UInt8} {packet : NetworkPacket} :
    demux raw = .ok packet ↔ raw = packet.wire := by
  have hci : PacketTag.cookieEcho ≠ PacketTag.initiation := by decide
  have hri : PacketTag.response ≠ PacketTag.initiation := by decide
  have hrc : PacketTag.response ≠ PacketTag.cookieEcho := by decide
  have hsi : PacketTag.secureFrame ≠ PacketTag.initiation := by decide
  have hsc : PacketTag.secureFrame ≠ PacketTag.cookieEcho := by decide
  have hsr : PacketTag.secureFrame ≠ PacketTag.response := by decide
  constructor
  · intro h
    unfold demux at h
    split at h
    · cases h
    · rename_i tag body
      split_ifs at h with hinit hecho hresp hframe
      · obtain ⟨init, rfl, rfl⟩ := (parseBody_ok reads_initiation).mp h
        rw [hinit]
        rfl
      · obtain ⟨⟨echo, signature⟩, rfl, rfl⟩ := (parseBody_ok reads_cookieEcho).mp h
        rw [hecho]
        rfl
      · obtain ⟨⟨resp, signature⟩, rfl, rfl⟩ := (parseBody_ok reads_signedResponse).mp h
        rw [hresp]
        rfl
      · cases h
        rw [hframe]
        rfl
  · rintro rfl
    cases packet with
    | initiation init =>
        rw [NetworkPacket.wire, demux, if_pos rfl]
        exact (parseBody_ok reads_initiation).mpr ⟨init, rfl, rfl⟩
    | cookieEcho echo signature =>
        rw [NetworkPacket.wire, demux, if_neg hci, if_pos rfl]
        exact (parseBody_ok reads_cookieEcho).mpr ⟨(echo, signature), rfl, rfl⟩
    | response resp signature =>
        rw [NetworkPacket.wire, demux, if_neg hri, if_neg hrc, if_pos rfl]
        exact (parseBody_ok reads_signedResponse).mpr ⟨(resp, signature), rfl, rfl⟩
    | secureFrame frame =>
        rw [NetworkPacket.wire, demux, if_neg hsi, if_neg hsc, if_neg hsr, if_pos rfl]

theorem demux_response (resp : HandshakeResponse) (signature : Signature) :
    demux (PacketTag.response :: signedResponseBytes resp signature)
      = .ok (.response resp signature) :=
  demux_ok_iff.mpr rfl

theorem demux_cookieEcho (echo : HandshakeCookieEcho) (signature : Signature) :
    demux (PacketTag.cookieEcho :: cookieEchoBytes echo signature)
      = .ok (.cookieEcho echo signature) :=
  demux_ok_iff.mpr rfl

theorem no_cookie {raw : List UInt8} {packet : Except DaemonError NetworkPacket}
    {P : HandshakeCookieEcho → Prop} (h : demux raw = packet)
    (hne : ∀ echo signature, packet ≠ .ok (.cookieEcho echo signature)) :
    ∀ echo signature, demux raw = .ok (.cookieEcho echo signature) → P echo := by
  intro echo signature hecho
  exact absurd (h.symm.trans hecho) (hne echo signature)

/-! ## Handshake signatures -/

theorem verifyInitiation_eq (init : HandshakeInitiation) (signature : Signature)
    (verifier : SignatureVerifier) :
    verifyInitiation init signature verifier
      = if verifier init.initiatorIdentity (preimageBytes init ctxGoatTransportHs) signature then
          .ok ()
        else .error .badHandshakeSignature := by
  have hlen : (preimageBytes init ctxGoatTransportHs).length ≤ handshakeInitiationMaxPreimageLen :=
    Signable.length_preimage_le (t := .handshakeInitiation) rfl init
  obtain ⟨sink, hwrite, -, hwritten⟩ :=
    stack_of_writes (writesPreimage init ctxGoatTransportHs) hlen
  have hrun : init.writeSigningPreimage (SliceSink.stack handshakeInitiationMaxPreimageLen)
      = .ok () sink := hwrite
  unfold verifyInitiation
  rw [hrun, ← hwritten]

theorem verifyResponse_eq (resp : HandshakeResponse) (signature : Signature)
    (verifier : SignatureVerifier) :
    verifyResponse resp signature verifier
      = if verifier resp.responderIdentity (preimageBytes resp ctxGoatTransportHs) signature then
          .ok ()
        else .error .badHandshakeSignature := by
  have hlen : (preimageBytes resp ctxGoatTransportHs).length ≤ handshakeResponseMaxPreimageLen :=
    Signable.length_preimage_le (t := .handshakeResponse) rfl resp
  obtain ⟨sink, hwrite, -, hwritten⟩ :=
    stack_of_writes (writesPreimage resp ctxGoatTransportHs) hlen
  have hrun : resp.writeSigningPreimage (SliceSink.stack handshakeResponseMaxPreimageLen)
      = .ok () sink := hwrite
  unfold verifyResponse
  rw [hrun, ← hwritten]

/-! ## The node -/

/-- A participant with `M` gossip digests and `C` single-use cookies. -/
structure GoatNode (M C : Nat) where
  nodeSecret : Bytes 32
  identityPublicKey : PublicKey
  verifier : SignatureVerifier
  registry : KeyRegistry
  messageCache : MessageCache M
  cookieCache : CookieCache C
  networkClock : NetworkClock

/-- What a call holds a `&mut` to. -/
structure Ingress (M C : Nat) (σ : Type) (n : Nat) where
  node : GoatNode M C
  channel : σ
  plaintextBuf : Bytes n

namespace GoatNode
variable {M C : Nat}

def new (nodeSecret : Bytes 32) (identityPublicKey : PublicKey) (verifier : SignatureVerifier)
    (registry : KeyRegistry) (genesisTime : UInt64) : GoatNode M C where
  nodeSecret
  identityPublicKey
  verifier
  registry
  messageCache := .new
  cookieCache := .new
  networkClock := .withGenesisAnchor genesisTime

/-- The cookie check as the pipeline runs it. -/
def checkCookie (node : GoatNode M C) (echo : HandshakeCookieEcho) (peerAddr : PeerAddr)
    (now : UInt64) : EStateM.Result TransportError (CookieCache C) Unit :=
  verifyCookieEcho echo node.nodeSecret peerAddr node.networkClock now maxCookieAgeSecs
    node.cookieCache

theorem checkCookie_error {node : GoatNode M C} {echo : HandshakeCookieEcho} {peerAddr : PeerAddr}
    {now : UInt64} {e : TransportError} {cache : CookieCache C}
    (h : node.checkCookie echo peerAddr now = .error e cache) : cache = node.cookieCache := by
  rcases verifyCookieEcho_cases echo node.nodeSecret peerAddr node.networkClock now
    maxCookieAgeSecs node.cookieCache with ⟨t, ht⟩ | ⟨hok, -⟩
  · have heq := h.symm.trans ht
    cases heq
    rfl
  · have heq := h.symm.trans hok
    cases heq

theorem checkCookie_ok {node : GoatNode M C} {echo : HandshakeCookieEcho} {peerAddr : PeerAddr}
    {now : UInt64} {cache : CookieCache C} (h : node.checkCookie echo peerAddr now = .ok () cache) :
    cache = node.cookieCache.insert echo.cookie ∧ echo.cookie ∉ node.cookieCache.queue := by
  rcases verifyCookieEcho_cases echo node.nodeSecret peerAddr node.networkClock now
    maxCookieAgeSecs node.cookieCache with ⟨t, ht⟩ | ⟨hok, hnew⟩
  · have heq := h.symm.trans ht
    cases heq
  · have heq := h.symm.trans hok
    cases heq
    exact ⟨rfl, hnew⟩

/-- Notes the time of a peer. -/
def recordPeerTime (node : GoatNode M C) (peerAddr : PeerAddr) (peerTime now : UInt64) :
    GoatNode M C :=
  { node with networkClock := node.networkClock.recordPeerTime peerAddr peerTime now }

end GoatNode

section
variable {M C n : Nat} {σ γ : Type} [SecureChannel σ] [GossipCodec γ]

def processIngressPacket (raw : List UInt8) (peerAddr : PeerAddr) (now : UInt64) (codec : γ) :
    EStateM DaemonError (Ingress M C σ n) IngressOutcome := fun s =>
  match demux raw with
  | .error e => .error e s
  | .ok (.initiation _) =>
      .ok (.challengeIssued
        (issueCookie s.node.nodeSecret peerAddr s.node.networkClock now)) s
  | .ok (.cookieEcho echo signature) =>
      match s.node.checkCookie echo peerAddr now with
      | .error e cache => .error (.transport e) { s with node.cookieCache := cache }
      | .ok _ cache =>
          let node := { s.node with cookieCache := cache }
          match verifyInitiation echo.initiation signature node.verifier with
          | .error e => .error (.transport e) { s with node := node }
          | .ok _ =>
              .ok .handshakeEstablished
                { s with node := node.recordPeerTime peerAddr echo.initiation.localTime now }
  | .ok (.response resp signature) =>
      match verifyResponse resp signature s.node.verifier with
      | .error e => .error (.transport e) s
      | .ok _ =>
          .ok .responseVerified { s with node := s.node.recordPeerTime peerAddr resp.localTime now }
  | .ok (.secureFrame frame) =>
      match SecureChannel.decryptFrame frame (s.channel, s.plaintextBuf) with
      | .error e (channel, plaintextBuf) => .error (.transport e) { s with channel, plaintextBuf }
      | .ok len (channel, plaintextBuf) =>
          let s := { s with channel, plaintextBuf }
          match GossipCodec.decode codec (plaintextBuf.toList.take len) with
          | none => .error .decode s
          | some message =>
              match validateGossipMessage message s.node.verifier s.node.registry
                  s.node.messageCache with
              | .error e cache => .error (.gossip e) { s with node.messageCache := cache }
              | .ok _ cache => .ok .gossipAccepted { s with node.messageCache := cache }

end

/-! ## What a call can do -/

/-- One call of `process_ingress_packet`. -/
structure IngressCall (σ γ : Type) where
  raw : List UInt8
  peerAddr : PeerAddr
  now : UInt64
  channel : σ
  codec : γ
  bufLen : Nat
  plaintextBuf : Bytes bufLen

namespace GoatNode
variable {M C : Nat} {σ γ : Type} [SecureChannel σ] [GossipCodec γ]

def call (node : GoatNode M C) (k : IngressCall σ γ) :
    EStateM.Result DaemonError (Ingress M C σ k.bufLen) IngressOutcome :=
  processIngressPacket k.raw k.peerAddr k.now k.codec ⟨node, k.channel, k.plaintextBuf⟩

/-- The node a call leaves. -/
def afterCall (node : GoatNode M C) (k : IngressCall σ γ) : GoatNode M C :=
  match node.call k with
  | .ok _ s => s.node
  | .error _ s => s.node

/-- What a call returns. -/
def outcome (node : GoatNode M C) (k : IngressCall σ γ) : Except DaemonError IngressOutcome :=
  match node.call k with
  | .ok r _ => .ok r
  | .error e _ => .error e

/-- The outcomes of a call, each with the guards it has passed and the node it leaves. -/
inductive Step (node : GoatNode M C) (k : IngressCall σ γ) :
    Except DaemonError IngressOutcome → GoatNode M C → Prop where
  | refused (e : DaemonError)
    (h : ∀ echo signature, demux k.raw = .ok (.cookieEcho echo signature) →
      ∃ t cache, node.checkCookie echo k.peerAddr k.now = .error t cache ∧ e = .transport t) :
      Step node k (.error e) node
  | challenged {init : HandshakeInitiation} (h : demux k.raw = .ok (.initiation init)) :
      Step node k
        (.ok (.challengeIssued (issueCookie node.nodeSecret k.peerAddr node.networkClock k.now)))
          node
  | spent {echo : HandshakeCookieEcho} {signature : Signature} {cache : CookieCache C}
      {e : TransportError} (h : demux k.raw = .ok (.cookieEcho echo signature))
      (hcookie : node.checkCookie echo k.peerAddr k.now = .ok () cache)
      (hinit : verifyInitiation echo.initiation signature node.verifier = .error e) :
      Step node k (.error (.transport e)) { node with cookieCache := cache }
  | established {echo : HandshakeCookieEcho} {signature : Signature} {cache : CookieCache C}
      (h : demux k.raw = .ok (.cookieEcho echo signature))
      (hcookie : node.checkCookie echo k.peerAddr k.now = .ok () cache)
      (hinit : verifyInitiation echo.initiation signature node.verifier = .ok ()) :
      Step node k (.ok .handshakeEstablished)
        ({ node with cookieCache := cache }.recordPeerTime k.peerAddr
          echo.initiation.localTime k.now)
  | responded {resp : HandshakeResponse} {signature : Signature}
      (h : demux k.raw = .ok (.response resp signature))
      (hresp : verifyResponse resp signature node.verifier = .ok ()) :
      Step node k (.ok .responseVerified) (node.recordPeerTime k.peerAddr resp.localTime k.now)
  | gossiped {frame : List UInt8} {len : Fin (k.bufLen + 1)} {channel : σ}
      {plaintextBuf : Bytes k.bufLen} {message : GossipMessage} {cache : MessageCache M}
      (h : demux k.raw = .ok (.secureFrame frame))
      (hframe : SecureChannel.decryptFrame frame (k.channel, k.plaintextBuf)
        = .ok len (channel, plaintextBuf))
      (hmessage : GossipCodec.decode k.codec (plaintextBuf.toList.take len) = some message)
      (hvalid : validateGossipMessage message node.verifier node.registry node.messageCache
        = .ok () cache) :
      Step node k (.ok .gossipAccepted) { node with messageCache := cache }

theorem step_of_error {node : GoatNode M C} {k : IngressCall σ γ} {e : DaemonError}
    {s : Ingress M C σ k.bufLen} (hcall : node.call k = .error e s) (hnode : s.node = node)
    (h : ∀ echo signature, demux k.raw = .ok (.cookieEcho echo signature) →
      ∃ t cache, node.checkCookie echo k.peerAddr k.now = .error t cache ∧ e = .transport t) :
    Step node k (node.outcome k) (node.afterCall k) := by
  rw [outcome, afterCall, hcall]
  dsimp only
  rw [hnode]
  exact .refused e h

variable {echo : HandshakeCookieEcho} {signature : Signature} {e : TransportError}
  {resp : HandshakeResponse}

theorem call_cookieEcho_error {node : GoatNode M C} {k : IngressCall σ γ}
    {cache : CookieCache C} (h : demux k.raw = .ok (.cookieEcho echo signature))
    (hcookie : node.checkCookie echo k.peerAddr k.now = .error e cache) :
    node.call k = .error (.transport e) ⟨node, k.channel, k.plaintextBuf⟩ := by
  have hcache := checkCookie_error hcookie
  subst hcache
  rw [call, processIngressPacket, h]
  dsimp only
  rw [hcookie]

/-- The cookie is consumed even when the signature does not verify. -/
theorem call_spent {node : GoatNode M C} {k : IngressCall σ γ}
    {cache : CookieCache C}
    (h : demux k.raw = .ok (.cookieEcho echo signature))
    (hcookie : node.checkCookie echo k.peerAddr k.now = .ok () cache)
    (hinit : verifyInitiation echo.initiation signature node.verifier = .error e) :
    node.call k = .error (.transport e)
      ⟨{ node with cookieCache := cache }, k.channel, k.plaintextBuf⟩ := by
  rw [call, processIngressPacket, h]
  dsimp only
  rw [hcookie]
  dsimp only
  rw [hinit]

theorem call_established {node : GoatNode M C} {k : IngressCall σ γ}
    {cache : CookieCache C}
    (h : demux k.raw = .ok (.cookieEcho echo signature))
    (hcookie : node.checkCookie echo k.peerAddr k.now = .ok () cache)
    (hinit : verifyInitiation echo.initiation signature node.verifier = .ok ()) :
    node.call k = .ok .handshakeEstablished
      ⟨{ node with cookieCache := cache }.recordPeerTime k.peerAddr echo.initiation.localTime k.now,
        k.channel, k.plaintextBuf⟩ := by
  rw [call, processIngressPacket, h]
  dsimp only
  rw [hcookie]
  dsimp only
  rw [hinit]

theorem call_responded {node : GoatNode M C} {k : IngressCall σ γ}
    (h : demux k.raw = .ok (.response resp signature))
    (hresp : verifyResponse resp signature node.verifier = .ok ()) :
    node.call k = .ok .responseVerified
      ⟨node.recordPeerTime k.peerAddr resp.localTime k.now, k.channel, k.plaintextBuf⟩ := by
  rw [call, processIngressPacket, h]
  dsimp only
  rw [hresp]

theorem call_response_error {node : GoatNode M C} {k : IngressCall σ γ}
    (h : demux k.raw = .ok (.response resp signature))
    (hresp : verifyResponse resp signature node.verifier = .error e) :
    node.call k = .error (.transport e) ⟨node, k.channel, k.plaintextBuf⟩ := by
  rw [call, processIngressPacket, h]
  dsimp only
  rw [hresp]

theorem step_cookieEcho (node : GoatNode M C) {k : IngressCall σ γ}
    (h : demux k.raw = .ok (.cookieEcho echo signature)) :
    Step node k (node.outcome k) (node.afterCall k) := by
  cases hcookie : node.checkCookie echo k.peerAddr k.now with
  | error e cache =>
      refine step_of_error (call_cookieEcho_error h hcookie) rfl ?_
      intro echo' signature' h'
      have heq := h.symm.trans h'
      cases heq
      exact ⟨e, cache, hcookie, rfl⟩
  | ok _ cache =>
      cases hinit : verifyInitiation echo.initiation signature node.verifier with
      | error e =>
          rw [outcome, afterCall, call_spent h hcookie hinit]
          exact .spent h hcookie hinit
      | ok _ =>
          rw [outcome, afterCall, call_established h hcookie hinit]
          exact .established h hcookie hinit

theorem step_response (node : GoatNode M C) {k : IngressCall σ γ}
    (h : demux k.raw = .ok (.response resp signature)) :
    Step node k (node.outcome k) (node.afterCall k) := by
  cases hresp : verifyResponse resp signature node.verifier with
  | error e => exact step_of_error (call_response_error h hresp) rfl (no_cookie h nofun)
  | ok _ =>
      rw [outcome, afterCall, call_responded h hresp]
      exact .responded h hresp

theorem step_secureFrame (node : GoatNode M C) {k : IngressCall σ γ} {frame : List UInt8}
    (h : demux k.raw = .ok (.secureFrame frame)) :
    Step node k (node.outcome k) (node.afterCall k) := by
  cases hframe : SecureChannel.decryptFrame frame (k.channel, k.plaintextBuf) with
  | error e s =>
      refine step_of_error (e := .transport e) (s := ⟨node, s.1, s.2⟩) ?_ rfl (no_cookie h nofun)
      rw [call, processIngressPacket, h]
      dsimp only
      rw [hframe]
  | ok len s =>
      cases hmessage : GossipCodec.decode k.codec (s.2.toList.take len) with
      | none =>
          refine step_of_error (e := .decode) (s := ⟨node, s.1, s.2⟩) ?_ rfl (no_cookie h nofun)
          rw [call, processIngressPacket, h]
          dsimp only
          rw [hframe]
          dsimp only
          rw [hmessage]
      | some message =>
          rcases GossipMessage.validateGossipMessage_cases message node.verifier node.registry
            node.messageCache with ⟨e, hvalid⟩ | ⟨hvalid, -⟩
          · refine step_of_error (e := .gossip e) (s := ⟨node, s.1, s.2⟩) ?_ rfl
              (no_cookie h nofun)
            rw [call, processIngressPacket, h]
            dsimp only
            rw [hframe]
            dsimp only
            rw [hmessage]
            dsimp only
            rw [hvalid]
          · have hcall : node.call k = .ok .gossipAccepted
                ⟨{ node with
                   messageCache := node.messageCache.insert message.digest message.origin },
                  s.1, s.2⟩ := by
              rw [call, processIngressPacket, h]
              dsimp only
              rw [hframe]
              dsimp only
              rw [hmessage]
              dsimp only
              rw [hvalid]
            rw [outcome, afterCall, hcall]
            exact .gossiped h hframe hmessage hvalid

/-- **A call does nothing else.** -/
theorem step_result (node : GoatNode M C) (k : IngressCall σ γ) :
    Step node k (node.outcome k) (node.afterCall k) := by
  cases hdemux : demux k.raw with
  | error e =>
      refine step_of_error (e := e) (s := ⟨node, k.channel, k.plaintextBuf⟩) ?_ rfl
        (no_cookie hdemux nofun)
      rw [call, processIngressPacket, hdemux]
  | ok packet =>
      cases packet with
      | initiation init =>
          have hcall : node.call k = .ok (.challengeIssued
              (issueCookie node.nodeSecret k.peerAddr node.networkClock k.now))
              ⟨node, k.channel, k.plaintextBuf⟩ := by
            rw [call, processIngressPacket, hdemux]
          rw [outcome, afterCall, hcall]
          exact .challenged hdemux
      | cookieEcho echo signature => exact step_cookieEcho node hdemux
      | response resp signature => exact step_response node hdemux
      | secureFrame frame => exact step_secureFrame node hdemux

end GoatNode

end GoatCoin
