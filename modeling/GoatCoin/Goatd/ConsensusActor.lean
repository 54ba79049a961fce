/-
# `GoatCoin.Goatd.ConsensusActor` — the synchronous consensus step of `goatd.rs`

The actor owns all mutable state of the daemon.  A datagram is reassembled, and
then a cookie challenge is answered or the pipeline of `daemon.rs` runs; what the
actor does next depends on the outcome:

    ChallengeIssued         the challenge goes back
    HandshakeEstablished    encapsulate, signed RESPONSE, session (responder), capability
    ResponseVerified        pending_kem is taken, session (initiator)
    GossipAccepted          capability to the sender once, frame to every other session
    Err                     counted

What the environment supplies to a call (clock readings, the randomness of the key
exchange) is the argument `Readings`.  A `HashMap` is an association list, whose
order stands for the unspecified order of iteration.  What can panic in the source
(`expect`, slicing) returns `none`.
-/
import GoatCoin.Goatd.DatagramFraming
import GoatCoin.Goatd.GossipCodec
import GoatCoin.Goatd.HostCrypto

namespace GoatCoin

open Wire

def maxDatagram : Nat := 65535
def messageCacheLen : Nat := 4096
def cookieCacheLen : Nat := 4096
def maxSessions : Nat := 8192
def sessionIdleTimeout : Nat := 300 * 10 ^ 9
def replyTagCookieChallenge : UInt8 := 0x81
def ppm : Ppm := 1000000

/-! ## Helpers -/

/-- `ip ‖ port_le`, zero padded, or the sixteen octets of an IPv6 address. -/
def peerAddrBytes : SocketAddr → PeerAddr
  | .v4 ip port =>
      ⟨ip.toList ++ toLE 2 port.toNat ++ List.replicate 10 0, by
        rw [List.length_append, List.length_append, List.Vector.toList_length, length_toLE,
          List.length_replicate]⟩
  | .v6 ip _ _ _ => ip

/-- The fields of an initiation, split off one by one. -/
def splitInitiation : Split HandshakeInitiation := do
  let initiatorIdentity ← Split.array mlDsa65PublicKeyLen
  let ephemeralKemPk ← Split.array mlKem768EncapsKeyLen
  let epoch ← Split.u64
  let localTime ← Split.u64
  let nonce ← Split.array 32
  pure { initiatorIdentity, ephemeralKemPk, epoch, localTime, nonce }

/-- The initiation inside a `COOKIE_ECHO` packet, by its offsets. -/
def initiationFromCookieEcho (raw : List UInt8) : Option HandshakeInitiation :=
  let need := 1 + 32 + 8 + handshakeInitiationBodyLen + mlDsa65SignatureLen
  if raw.length ≠ need ∨ raw.head? ≠ some PacketTag.cookieEcho then none
  else
    let body := (raw.drop (1 + 32 + 8)).take handshakeInitiationBodyLen
    (splitInitiation body).map Prod.fst

/-- The fields of a response, split off one by one. -/
def splitResponse : Split HandshakeResponse := do
  let responderIdentity ← Split.array mlDsa65PublicKeyLen
  let kemCiphertext ← Split.array mlKem768CiphertextLen
  let epoch ← Split.u64
  let localTime ← Split.u64
  let nonce ← Split.array 32
  pure { responderIdentity, kemCiphertext, epoch, localTime, nonce }

/-- The response inside a signed `RESPONSE` packet, by its offsets. -/
def responseFromRaw (raw : List UInt8) : Option HandshakeResponse :=
  let need := 1 + handshakeResponseBodyLen + mlDsa65SignatureLen
  if raw.length ≠ need ∨ raw.head? ≠ some PacketTag.response then none
  else
    let body := (raw.drop 1).take handshakeResponseBodyLen
    (splitResponse body).map Prod.fst

def encodeCookieReply (challenge : CookieChallenge) : List UInt8 :=
  replyTagCookieChallenge :: challenge.cookie.toList ++ toLE 8 challenge.timestamp.toNat

/-- What a writer leaves in a stack buffer that `expect` says is large enough. -/
def sized (n : Nat) (w : Write SliceSink Unit) : Checked (List UInt8) :=
  match w (SliceSink.stack n) with
  | .ok _ sink => some sink.written
  | .error _ _ => none

def encodeResponsePacket (resp : HandshakeResponse) (signature : Signature) :
    Checked (List UInt8) :=
  sized (1 + handshakeResponseBodyLen + mlDsa65SignatureLen) do
    put [PacketTag.response]
    serializeInto resp
    put signature.toList

def encodeInitiationPacket (init : HandshakeInitiation) : Checked (List UInt8) :=
  sized (1 + handshakeInitiationBodyLen) do
    put [PacketTag.initiation]
    serializeInto init

def encodeCookieEchoPacket (cookie : Bytes 32) (timestamp : UInt64) (init : HandshakeInitiation)
    (signature : Signature) : Checked (List UInt8) :=
  sized (1 + 32 + 8 + handshakeInitiationBodyLen + mlDsa65SignatureLen) do
    put [PacketTag.cookieEcho]
    put cookie.toList
    put (toLE 8 timestamp.toNat)
    serializeInto init
    put signature.toList

section
variable {α : Type} [AesGcm α]

def encodeSecureFrame (channel : Aes256GcmChannel α) (plaintext : List UInt8) :
    Option (List UInt8) × Aes256GcmChannel α :=
  match channel.encryptFrame plaintext (plaintext.length + aes256GcmTagLen) with
  | .ok ct channel => (some (PacketTag.secureFrame :: ct), channel)
  | .error _ channel => (none, channel)

end

/-! ## The actor -/

/-- A session with a peer. -/
structure Session (α : Type) where
  channel : Aes256GcmChannel α
  lastSeen : Instant
  sentCapability : Bool

def Session.new {α : Type} (channel : Aes256GcmChannel α) (now : Instant) : Session α :=
  ⟨channel, now, false⟩

abbrev Sessions (α : Type) := Assoc.Map SocketAddr (Session α)

abbrev Egress := List (SocketAddr × List UInt8)

/-- What a call reads from its environment. -/
structure Readings where
  /-- `Instant::now()`, at reassembly and at the sessions -/
  ingested : Instant
  seen : Instant
  /-- `unix_now()`, before the pipeline and in a response -/
  unixNow : UInt64
  unixNowResp : UInt64
  /-- the randomness of `kem_encapsulate` -/
  kemCoins : Bytes 32

/-- The state of the actor. -/
structure ConsensusActor (γ α δ : Type) where
  node : GoatNode messageCacheLen cookieCacheLen
  sessions : Sessions α
  codec : γ
  signer : List UInt8 → Signature
  nodeId : Bytes 32
  identity : PublicKey
  plaintext : Bytes maxDatagram
  pendingInitiation : Option HandshakeInitiation
  pendingKem : Option (EphemeralKem δ)
  reassembly : ReassemblyTable
  accepted : UInt64
  rejected : UInt64
  evicted : UInt64

namespace ConsensusActor
variable {γ α δ : Type}

/-- A new actor, and what the consensus loop sets before its first packet. -/
def new (nodeSecret : Bytes 32) (identity : PublicKey) (nodeId : Bytes 32)
    (verifier : SignatureVerifier) (registry : KeyRegistry) (genesisTime : UInt64) (codec : γ)
    (signer : List UInt8 → Signature) (pendingInitiation : Option HandshakeInitiation)
    (pendingKem : Option (EphemeralKem δ)) : ConsensusActor γ α δ where
  node := .new nodeSecret identity verifier registry genesisTime
  sessions := ∅
  codec
  signer
  nodeId
  identity
  plaintext := .replicate maxDatagram 0
  pendingInitiation
  pendingKem
  reassembly := .new
  accepted := 0
  rejected := 0
  evicted := 0

def accept (actor : ConsensusActor γ α δ) : ConsensusActor γ α δ :=
  { actor with accepted := actor.accepted + 1 }

def reject (actor : ConsensusActor γ α δ) : ConsensusActor γ α δ :=
  { actor with rejected := actor.rejected + 1 }

/-- The least recently seen session: the first of the least `last_seen`. -/
def lru (sessions : Sessions α) : Option SocketAddr :=
  (sessions.entries.foldl (fun best e =>
    match best with
    | none => some e
    | some b => if e.2.lastSeen < b.2.lastSeen then some e else some b) none).map Sigma.fst

/-- A new address evicts when the table is full. -/
def insertSessionBounded (actor : ConsensusActor γ α δ) (addr : SocketAddr) (session : Session α) :
    ConsensusActor γ α δ :=
  let actor :=
    if addr ∉ actor.sessions ∧ maxSessions ≤ Assoc.size actor.sessions then
      match lru actor.sessions with
      | some oldest =>
          { actor with sessions := actor.sessions.erase oldest, evicted := actor.evicted + 1 }
      | none => actor
    else actor
  { actor with sessions := actor.sessions.insert addr session }

def signInitiation (actor : ConsensusActor γ α δ) (init : HandshakeInitiation) :
    Checked Signature := do
  let preimage ← sized handshakeInitiationMaxPreimageLen init.writeSigningPreimage
  some (actor.signer preimage)

/-- This node's capability record, signed and framed. -/
def buildSignedCapability (actor : ConsensusActor γ α δ) : Checked (List UInt8) := do
  let cap : CapabilityRecord :=
    { nodeId := actor.nodeId
      epoch := 0
      beaconNonce := .replicate 32 0
      prevRecord := .replicate 32 0
      capabilities := .new
      availabilityPpm := ppm
      powerThermalEnvelope := ⟨0, 0⟩
      densityWitnessPpm := ppm }
  let preimage ← sized capabilityRecordMaxPreimageLen (writePreimage cap ctxGoatCapabilityRecord)
  encodeGossipFrame (.nodeCapability
    { payload := cap, publicKey := actor.identity, signature := actor.signer preimage })

/-- Only a bootstrapping node answers a cookie challenge. -/
def handleCookieChallengeReply (actor : ConsensusActor γ α δ) (raw : List UInt8)
    (addr : SocketAddr) : Checked (Egress × ConsensusActor γ α δ) :=
  match actor.pendingInitiation with
  | none => some ([], actor)
  | some init =>
      if hlen : raw.length ≠ 1 + 32 + 8 then some ([], actor.reject)
      else do
        let cookie : Bytes 32 := ⟨(raw.drop 1).take 32, by
          rw [List.length_take, List.length_drop, not_not.mp hlen]
          rfl⟩
        let timestamp := UInt64.ofNat (ofLE ((raw.drop 33).take 8))
        let signature ← actor.signInitiation init
        let packet ← encodeCookieEchoPacket cookie timestamp init signature
        some ([(addr, packet)], actor.accept)

section
variable [AesGcm α] [MlKem δ]

/-- Responder: `HandshakeEstablished`. -/
def establish (actor : ConsensusActor γ α δ) (logical : List UInt8) (addr : SocketAddr)
    (r : Readings) : Checked (Egress × ConsensusActor γ α δ) :=
  match initiationFromCookieEcho logical with
  | none => some ([], actor.reject)
  | some init =>
      match MlKem.encapsulate δ init.ephemeralKemPk r.kemCoins with
      | none => some ([], actor.reject)
      | some (ct, shared) => do
          let key := deriveSessionKey shared
          let resp : HandshakeResponse :=
            { responderIdentity := actor.identity
              kemCiphertext := ct
              epoch := init.epoch
              localTime := max r.unixNowResp init.localTime
              nonce := init.nonce }
          let preimage ← sized handshakeResponseMaxPreimageLen resp.writeSigningPreimage
          let respPkt ← encodeResponsePacket resp (actor.signer preimage)
          let gossip ← actor.buildSignedCapability
          let (secure, channel) := encodeSecureFrame (.new key .responder) gossip
          let session : Session α := { Session.new channel r.seen with sentCapability := true }
          let actor := (actor.insertSessionBounded addr session).accept
          some ((addr, respPkt) :: (secure.map fun packet => (addr, packet)).toList, actor)

/-- Initiator: `ResponseVerified`. -/
def answer (actor : ConsensusActor γ α δ) (logical : List UInt8) (addr : SocketAddr)
    (r : Readings) : Egress × ConsensusActor γ α δ :=
  match responseFromRaw logical with
  | none => ([], actor.reject)
  | some resp =>
      match actor.pendingKem with
      | none => ([], actor.reject)
      | some eph =>
          let actor := { actor with pendingKem := none }
          let key := deriveSessionKey (MlKem.decapsulate eph.dk resp.kemCiphertext)
          ([], (actor.insertSessionBounded addr (.new (.new key .initiator) r.seen)).accept)

/-- The reply to the sender of a gossip frame: this node's capability, once. -/
def directReply (actor : ConsensusActor γ α δ) (addr : SocketAddr) (r : Readings) :
    Checked (Egress × ConsensusActor γ α δ) :=
  match actor.sessions.lookup addr with
  | none => some ([], actor)
  | some s =>
      if s.sentCapability then
        some ([], { actor with
          sessions := Assoc.overwrite actor.sessions addr { s with lastSeen := r.seen } })
      else do
        let gossip ← actor.buildSignedCapability
        let (packet, channel) := encodeSecureFrame s.channel gossip
        some ((packet.map fun p => (addr, p)).toList, { actor with
          sessions := Assoc.overwrite actor.sessions addr ⟨channel, r.seen, true⟩ })

/-- The frame, re-encrypted for every other session. -/
def fanOut (actor : ConsensusActor γ α δ) (addr : SocketAddr) (plaintext : List UInt8) :
    Egress × ConsensusActor γ α δ :=
  let egress := actor.sessions.entries.filterMap fun e =>
    if e.1 = addr then none
    else (encodeSecureFrame e.2.channel plaintext).1.map fun packet => (e.1, packet)
  let sessions := Assoc.adjust (fun peer s =>
    if peer = addr then s else { s with channel := (encodeSecureFrame s.channel plaintext).2 })
    actor.sessions
  (egress, { actor with sessions })

/-- `GossipAccepted`. -/
def relay (actor : ConsensusActor γ α δ) (logical : List UInt8) (addr : SocketAddr)
    (r : Readings) : Checked (Egress × ConsensusActor γ α δ) := do
  let n := logical.length - (1 + aes256GcmTagLen)
  let plaintext ← index actor.plaintext.toList 0 n
  let (reply, actor) ← actor.accept.directReply addr r
  let (fanned, actor) := actor.fanOut addr plaintext
  some (reply ++ fanned, actor)

variable [GossipCodec γ]

/-- The pipeline call of a datagram, over the channel of its session or a scratch one. -/
def ingressCall (actor : ConsensusActor γ α δ) (logical : List UInt8) (addr : SocketAddr)
    (r : Readings) : IngressCall (Aes256GcmChannel α) γ where
  raw := logical
  peerAddr := peerAddrBytes addr
  now := r.unixNow
  channel :=
    match actor.sessions.lookup addr with
    | some s => s.channel
    | none => .scratch
  codec := actor.codec
  bufLen := maxDatagram
  plaintextBuf := actor.plaintext

omit [AesGcm α] [MlKem δ] [GossipCodec γ] in
/-- What the pipeline held a `&mut` to is put back. -/
def resume (actor : ConsensusActor γ α δ) (addr : SocketAddr)
    (s : Ingress messageCacheLen cookieCacheLen (Aes256GcmChannel α) maxDatagram) :
    ConsensusActor γ α δ :=
  { actor with
    node := s.node
    plaintext := s.plaintextBuf
    sessions :=
      match actor.sessions.lookup addr with
      | some session => Assoc.overwrite actor.sessions addr { session with channel := s.channel }
      | none => actor.sessions }

def dispatch (actor : ConsensusActor γ α δ) (logical : List UInt8) (addr : SocketAddr)
    (r : Readings) : Checked (Egress × ConsensusActor γ α δ) :=
  match actor.node.call (actor.ingressCall logical addr r) with
  | .error _ s => some ([], (actor.resume addr s).reject)
  | .ok (.challengeIssued challenge) s =>
      some ([(addr, encodeCookieReply challenge)], (actor.resume addr s).accept)
  | .ok .handshakeEstablished s => (actor.resume addr s).establish logical addr r
  | .ok .responseVerified s => some ((actor.resume addr s).answer logical addr r)
  | .ok .gossipAccepted s => (actor.resume addr s).relay logical addr r

omit [AesGcm α] [MlKem δ] [GossipCodec γ] in
/-- The logical datagram of a raw one, if it is complete. -/
def reassemble (actor : ConsensusActor γ α δ) (raw : List UInt8) (addr : SocketAddr)
    (r : Readings) : Checked (Option (List UInt8) × ConsensusActor γ α δ) :=
  if raw.head? = some chunkTag then do
    let (ingested, reassembly) ← actor.reassembly.ingestChunk addr raw r.ingested
    let actor := { actor with reassembly }
    match ingested with
    | .ok full => some (full, actor)
    | .error _ => some (none, actor.reject)
  else some (some raw, actor)

def process (actor : ConsensusActor γ α δ) (raw : List UInt8) (addr : SocketAddr) (r : Readings) :
    Checked (Egress × ConsensusActor γ α δ) := do
  let (logical, actor) ← actor.reassemble raw addr r
  match logical with
  | none => some ([], actor)
  | some logical =>
      if logical.head? = some replyTagCookieChallenge then
        actor.handleCookieChallengeReply logical addr
      else actor.dispatch logical addr r

omit [AesGcm α] [MlKem δ] [GossipCodec γ] in
def sweepDeadSessions (actor : ConsensusActor γ α δ) (now : Instant) : ConsensusActor γ α δ :=
  { actor with
    sessions := Assoc.sweep
      (fun s => if now - s.lastSeen < sessionIdleTimeout then some s else none) actor.sessions }

omit [AesGcm α] [MlKem δ] [GossipCodec γ] in
/-- A tick of the collector. -/
def tick (actor : ConsensusActor γ α δ) (now : Instant) : ConsensusActor γ α δ :=
  { actor with reassembly := actor.reassembly.gc now }.sweepDeadSessions now

end

end ConsensusActor

end GoatCoin
