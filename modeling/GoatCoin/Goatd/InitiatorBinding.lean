/-
# `GoatCoin.Goatd.InitiatorBinding` — which responses open a session

An initiator waits for one response, with the ephemeral key it generated.  The
pipeline checks the signature of a response under the key that the response itself
carries, and the actor then spends the ephemeral key on it:

    RESPONSE                          sessions      pending_kem      network_clock
    malformed, or does not verify     —             —                —
    verifies, no key pending          —             —                a sample
    verifies, a key is pending        initiator     taken            a sample

Nothing else touches `pending_kem`, and no other packet opens an initiator session
(`Effect`).  Neither the registry nor the initiation that the response should
answer is consulted: `unregistered_response` is a response under a key that no
registry entry authorises, with another nonce and epoch, that opens the session.
-/
import GoatCoin.Core.ClockSources
import GoatCoin.Goatd.ConsensusActor

namespace GoatCoin

open Wire Wire.Reader

/-! ## The response of a packet -/

theorem length_signedResponseBytes (resp : HandshakeResponse) (signature : Signature) :
    (signedResponseBytes resp signature).length = handshakeResponseBodyLen
    + mlDsa65SignatureLen := by
  rw [signedResponseBytes, List.length_append, length_bytes_response, length_bytesFixed]

theorem demux_response_tag {raw : List UInt8} (h : raw.head? = some PacketTag.response) :
    (∃ resp signature, demux raw = .ok (.response resp signature))
    ∨ demux raw = .error .malformed := by
  cases raw with
  | nil => cases h
  | cons tag body =>
      have htag : tag = PacketTag.response := Option.some.inj h
      have hne₁ : PacketTag.response ≠ PacketTag.initiation := by decide
      have hne₂ : PacketTag.response ≠ PacketTag.cookieEcho := by decide
      rw [htag, demux, if_neg hne₁, if_neg hne₂, if_pos rfl, parseBody]
      split
      · exact .inl ⟨_, _, rfl⟩
      · exact .inr rfl

theorem splitResponse_bytes (resp : HandshakeResponse) :
    splitResponse (bytes resp) = some (resp, []) := by
  have hbytes : bytes resp = resp.responderIdentity.toList ++ (resp.kemCiphertext.toList
      ++ (toLE 8 resp.epoch.toNat
        ++ (toLE 8 resp.localTime.toNat ++ (resp.nonce.toList ++ [])))) := by
    rw [List.append_nil]
    rfl
  rw [hbytes, splitResponse, Split.bind_of (Split.array_append _ _),
    Split.bind_of (Split.array_append _ _),
    Split.bind_of (Split.u64_append _ _), Split.bind_of (Split.u64_append _ _),
    Split.bind_of (Split.array_append _ _)]
  rfl

/-- The pipeline and the actor read the same response out of a packet. -/
theorem responseFromRaw_of_demux {raw : List UInt8} {resp : HandshakeResponse}
    {signature : Signature} (h : demux raw = .ok (.response resp signature)) :
    responseFromRaw raw = some resp := by
  have hraw : raw = PacketTag.response :: signedResponseBytes resp signature := demux_ok_iff.mp h
  subst hraw
  have hneed : ¬ ((PacketTag.response :: signedResponseBytes resp signature).length
      ≠ 1 + handshakeResponseBodyLen + mlDsa65SignatureLen
      ∨ (PacketTag.response :: signedResponseBytes resp signature).head?
        ≠ some PacketTag.response) := by
    rw [List.length_cons, length_signedResponseBytes, List.head?_cons]
    refine not_or.mpr ⟨not_not.mpr ?_, not_not.mpr rfl⟩
    rw [Nat.add_comm, Nat.add_assoc]
  have hbody : ((PacketTag.response :: signedResponseBytes resp signature).drop 1).take
      handshakeResponseBodyLen = bytes resp := by
    show (bytes resp ++ bytesFixed signature).take handshakeResponseBodyLen = _
    rw [← length_bytes_response resp, List.take_left]
  unfold responseFromRaw
  dsimp only
  rw [if_neg hneed, hbody, splitResponse_bytes]
  rfl

/-! ## What happens to the sessions -/

section
variable {α : Type}

/-- Every session of the second table is one of the first, in a later state. -/
def Inherits (old new : Sessions α) : Prop :=
  ∀ a s', new.lookup a = some s' → ∃ s, old.lookup a = some s ∧ s.channel.SameKey s'.channel

theorem Inherits.refl (t : Sessions α) : Inherits t t := fun _ s h => ⟨s, h, .refl s.channel⟩

theorem Inherits.trans {t t' t'' : Sessions α} (h : Inherits t t') (h' : Inherits t' t'') :
    Inherits t t'' := by
  intro a s'' hs''
  obtain ⟨s', hs', hkey'⟩ := h' a s'' hs''
  obtain ⟨s, hs, hkey⟩ := h a s' hs'
  exact ⟨s, hs, hkey.trans hkey'⟩

theorem inherits_adjust {t : Sessions α} {f : SocketAddr → Session α → Session α}
    (hf : ∀ a s, t.lookup a = some s → s.channel.SameKey (f a s).channel) :
    Inherits t (Assoc.adjust f t) := by
  intro a s' h
  rw [Assoc.lookup_adjust, Option.map_eq_some_iff] at h
  obtain ⟨s, hs, rfl⟩ := h
  exact ⟨s, hs, hf a s hs⟩

theorem inherits_overwrite {t : Sessions α} {a : SocketAddr} {s s' : Session α}
    (hs : t.lookup a = some s) (hkey : s.channel.SameKey s'.channel) :
    Inherits t (Assoc.overwrite t a s') := by
  refine inherits_adjust fun b w hw => ?_
  split
  · rename_i hb
    rw [hb, hs] at hw
    cases hw
    exact hkey
  · exact .refl w.channel

theorem inherits_sweep (t : Sessions α) (p : Session α → Prop) [DecidablePred p] :
    Inherits t (Assoc.sweep (fun s => if p s then some s else none) t) := by
  intro a s' h
  rw [Assoc.lookup_sweep, Option.bind_eq_some_iff] at h
  obtain ⟨s, hs, hp⟩ := h
  split at hp
  · have heq := Option.some.inj hp
    rw [← heq]
    exact ⟨s, hs, .refl s.channel⟩
  · cases hp

theorem inherits_erase (t : Sessions α) (b : SocketAddr) : Inherits t (t.erase b) := by
  intro a s h
  rcases eq_or_ne a b with rfl | hne
  · rw [AList.lookup_erase] at h
    cases h
  · rw [AList.lookup_erase_ne hne] at h
    exact ⟨s, h, .refl s.channel⟩

/-- The second table has one session more, at an address and in a role. -/
def Opens (addr : SocketAddr) (role : ChannelRole) (old new : Sessions α) : Prop :=
  (∃ s, new.lookup addr = some s ∧ s.channel.role = role)
    ∧ ∀ a s', new.lookup a = some s' → a ≠ addr →
      ∃ s, old.lookup a = some s ∧ s.channel.SameKey s'.channel

theorem opens_insert {t t' : Sessions α} (h : Inherits t t') (addr : SocketAddr) (s : Session α) :
    Opens addr s.channel.role t (t'.insert addr s) := by
  refine ⟨⟨s, AList.lookup_insert t', rfl⟩, fun a s' hs' hne => ?_⟩
  rw [AList.lookup_insert_ne hne] at hs'
  exact h a s' hs'

end

/-! ## What a datagram does to the sessions and to the pending key -/

section
variable {γ α : Type} [AesGcm α] [GossipCodec γ] {M C : Nat}

theorem sameKey_call (node : GoatNode M C) (k : IngressCall (Aes256GcmChannel α) γ) :
    k.channel.SameKey (Aes256GcmChannel.channelOf (node.call k)).channel := by
  unfold GoatNode.call processIngressPacket
  split
  · exact .refl _
  · exact .refl _
  · dsimp only
    split
    · exact .refl _
    · split
      · exact .refl _
      · exact .refl _
  · dsimp only
    split
    · exact .refl _
    · exact .refl _
  · rename_i frame hdemux
    have hkey := Aes256GcmChannel.sameKey_decryptFrame k.channel frame k.plaintextBuf
    dsimp only
    split
    · rename_i hframe
      rw [hframe] at hkey
      exact hkey
    · rename_i hframe
      rw [hframe] at hkey
      split
      · exact hkey
      · split
        · exact hkey
        · exact hkey

theorem sameKey_encodeSecureFrame (channel : Aes256GcmChannel α) (plaintext : List UInt8) :
    channel.SameKey (encodeSecureFrame channel plaintext).2 := by
  have hkey := channel.sameKey_encryptFrame plaintext (plaintext.length + aes256GcmTagLen)
  unfold encodeSecureFrame
  split
  · rename_i h
    rw [h] at hkey
    exact hkey
  · rename_i h
    rw [h] at hkey
    exact hkey

end

namespace ConsensusActor
variable {γ α δ : Type}

/-- What a datagram can do: nothing to the pending key, and at most a responder
session; or the spending of the key on a response that verifies. -/
inductive Effect (actor : ConsensusActor γ α δ) (logical : List UInt8) (addr : SocketAddr) :
    ConsensusActor γ α δ → Prop where
  | kept {actor' : ConsensusActor γ α δ} (hkem : actor'.pendingKem = actor.pendingKem)
      (hs : Inherits actor.sessions actor'.sessions) : Effect actor logical addr actor'
  | responded {actor' : ConsensusActor γ α δ} (hkem : actor'.pendingKem = actor.pendingKem)
      (hs : Opens addr .responder actor.sessions actor'.sessions) : Effect actor logical addr actor'
  | answered {actor' : ConsensusActor γ α δ} {resp : HandshakeResponse} {signature : Signature}
      {eph : EphemeralKem δ} (hpacket : demux logical = .ok (.response resp signature))
      (hverified : verifyResponse resp signature actor.node.verifier = .ok ())
      (hpending : actor.pendingKem = some eph) (hkem : actor'.pendingKem = none)
      (hs : Opens addr .initiator actor.sessions actor'.sessions) : Effect actor logical addr actor'

theorem insertSessionBounded_spec (actor : ConsensusActor γ α δ) (addr : SocketAddr)
    (s : Session α) :
    (actor.insertSessionBounded addr s).pendingKem = actor.pendingKem
      ∧ Opens addr s.channel.role actor.sessions (actor.insertSessionBounded addr s).sessions := by
  unfold insertSessionBounded
  dsimp only
  split
  · split
    · exact ⟨rfl, opens_insert (inherits_erase _ _) addr s⟩
    · exact ⟨rfl, opens_insert (.refl _) addr s⟩
  · exact ⟨rfl, opens_insert (.refl _) addr s⟩

theorem resume_spec [AesGcm α] [GossipCodec γ] (actor : ConsensusActor γ α δ)
    (logical : List UInt8) (addr : SocketAddr) (r : Readings)
    {s : Ingress messageCacheLen cookieCacheLen (Aes256GcmChannel α) maxDatagram}
    (hs : (actor.ingressCall logical addr r).channel.SameKey s.channel) :
    (actor.resume addr s).pendingKem = actor.pendingKem
      ∧ Inherits actor.sessions (actor.resume addr s).sessions := by
  refine ⟨rfl, ?_⟩
  unfold resume
  dsimp only [ingressCall] at hs ⊢
  split
  · rename_i session hsession
    rw [hsession] at hs
    exact inherits_overwrite hsession hs
  · exact .refl _

theorem resume_lent [AesGcm α] [GossipCodec γ] (actor : ConsensusActor γ α δ)
    (logical : List UInt8) (addr : SocketAddr) (r : Readings)
    (node : GoatNode messageCacheLen cookieCacheLen) :
    actor.resume addr
        ⟨node, (actor.ingressCall logical addr r).channel,
          (actor.ingressCall logical addr r).plaintextBuf⟩
      = { actor with node := node } := by
  unfold resume ingressCall
  cases hsession : actor.sessions.lookup addr with
  | none => rfl
  | some session =>
      dsimp only
      rw [Assoc.overwrite_self hsession]

section
variable [AesGcm α]

theorem directReply_spec {actor actor' : ConsensusActor γ α δ} {addr : SocketAddr} {r : Readings}
    {egress : Egress} (h : actor.directReply addr r = some (egress, actor')) :
    actor'.pendingKem = actor.pendingKem ∧ Inherits actor.sessions actor'.sessions := by
  unfold directReply at h
  split at h
  · cases h
    exact ⟨rfl, .refl _⟩
  · rename_i s hs
    split at h
    · cases h
      exact ⟨rfl, inherits_overwrite hs (.refl _)⟩
    · obtain ⟨gossip, -, hsome⟩ := Option.bind_eq_some_iff.mp h
      cases hsome
      exact ⟨rfl, inherits_overwrite hs (sameKey_encodeSecureFrame s.channel gossip)⟩

theorem relay_spec {actor actor' : ConsensusActor γ α δ} {logical : List UInt8} {addr : SocketAddr}
    {r : Readings} {egress : Egress} (h : actor.relay logical addr r = some (egress, actor')) :
    actor'.pendingKem = actor.pendingKem ∧ Inherits actor.sessions actor'.sessions := by
  obtain ⟨plaintext, -, h⟩ := Option.bind_eq_some_iff.mp h
  obtain ⟨⟨reply, replied⟩, hreply, h⟩ := Option.bind_eq_some_iff.mp h
  obtain ⟨hkem, hinherits⟩ := directReply_spec hreply
  cases h
  refine ⟨hkem, fun a s' hs' => hinherits.trans (inherits_adjust ?_) a s' hs'⟩
  intro a s _
  split
  · exact .refl _
  · exact sameKey_encodeSecureFrame s.channel plaintext

end

variable [AesGcm α] [MlKem δ]
variable {raw logical : List UInt8} {addr : SocketAddr} {r : Readings} {egress : Egress}
  {resp : HandshakeResponse} {signature : Signature}

theorem establish_spec {actor actor' : ConsensusActor γ α δ}
    (h : actor.establish logical addr r = some (egress, actor')) :
    actor'.pendingKem = actor.pendingKem
      ∧ (actor'.sessions = actor.sessions
        ∨ Opens addr .responder actor.sessions actor'.sessions) := by
  unfold establish at h
  split at h
  · cases h
    exact ⟨rfl, .inl rfl⟩
  · split at h
    · cases h
      exact ⟨rfl, .inl rfl⟩
    · rename_i ct shared hencapsulate
      obtain ⟨preimage, -, h⟩ := Option.bind_eq_some_iff.mp h
      obtain ⟨respPkt, -, h⟩ := Option.bind_eq_some_iff.mp h
      obtain ⟨gossip, -, h⟩ := Option.bind_eq_some_iff.mp h
      cases h
      have hkey := sameKey_encodeSecureFrame
        (Aes256GcmChannel.new (α := α) (deriveSessionKey shared) .responder) gossip
      obtain ⟨hpending, hopens⟩ := actor.insertSessionBounded_spec addr
        { Session.new
          (encodeSecureFrame (.new (deriveSessionKey shared) .responder) gossip).2 r.seen
          with sentCapability := true }
      refine ⟨hpending, .inr ?_⟩
      have hrole : (encodeSecureFrame (Aes256GcmChannel.new (α := α) (deriveSessionKey shared)
        .responder) gossip).2.role = .responder := hkey.2
      exact Eq.subst (motive := fun role => Opens addr role actor.sessions _) hrole hopens

variable [GossipCodec γ]

theorem of_responseVerified {M C : Nat} {σ : Type} [SecureChannel σ] {node : GoatNode M C}
    {k : IngressCall σ γ} {s : Ingress M C σ k.bufLen} (h : node.call k = .ok .responseVerified s) :
    ∃ resp signature, demux k.raw = .ok (.response resp signature)
      ∧ verifyResponse resp signature node.verifier = .ok () := by
  have hstep := GoatNode.step_result node k
  have hout : node.outcome k = .ok .responseVerified := by
    rw [GoatNode.outcome, h]
  rw [hout] at hstep
  generalize node.afterCall k = node' at hstep
  cases hstep with
  | responded hdemux hresp => exact ⟨_, _, hdemux, hresp⟩

/-! ### The three rows of the table -/

theorem dispatch_malformed {actor : ConsensusActor γ α δ} {e : DaemonError}
    (h : demux logical = .error e) (addr : SocketAddr) (r : Readings) :
    actor.dispatch logical addr r = some ([], actor.reject) := by
  have hraw : demux (actor.ingressCall logical addr r).raw = .error e := h
  have hcall : actor.node.call (actor.ingressCall logical addr r)
      = .error e ⟨actor.node, (actor.ingressCall logical addr r).channel,
        (actor.ingressCall logical addr r).plaintextBuf⟩ := by
    rw [GoatNode.call, processIngressPacket, hraw]
  rw [dispatch, hcall]
  exact congrArg (fun a => some ([], reject a)) (actor.resume_lent logical addr r actor.node)

theorem dispatch_unverified {actor : ConsensusActor γ α δ}
    {e : TransportError}
    (h : demux logical = .ok (.response resp signature))
    (hresp : verifyResponse resp signature actor.node.verifier = .error e) (addr : SocketAddr)
    (r : Readings) : actor.dispatch logical addr r = some ([], actor.reject) := by
  rw [dispatch, GoatNode.call_response_error (k := actor.ingressCall logical addr r) h hresp]
  exact congrArg (fun a => some ([], reject a)) (actor.resume_lent logical addr r actor.node)

/-- The actor once the clock has taken the sample of a response. -/
def sampled (actor : ConsensusActor γ α δ) (resp : HandshakeResponse) (addr : SocketAddr)
    (r : Readings) : ConsensusActor γ α δ :=
  { actor with node := actor.node.recordPeerTime (peerAddrBytes addr) resp.localTime r.unixNow }

theorem dispatch_verified {actor : ConsensusActor γ α δ}
    (h : demux logical = .ok (.response resp signature))
    (hresp : verifyResponse resp signature actor.node.verifier = .ok ()) (addr : SocketAddr)
    (r : Readings) :
    actor.dispatch logical addr r = some ((actor.sampled resp addr r).answer logical addr r) := by
  rw [dispatch, GoatNode.call_responded (k := actor.ingressCall logical addr r) h hresp]
  exact congrArg (fun a => some (answer a logical addr r)) (actor.resume_lent logical addr r _)

omit [GossipCodec γ] in
theorem answer_unpending {actor : ConsensusActor γ α δ}
    (h : demux logical = .ok (.response resp signature)) (hpending : actor.pendingKem = none)
    (addr : SocketAddr) (r : Readings) :
    (actor.sampled resp addr r).answer logical addr r
      = ([], (actor.sampled resp addr r).reject) := by
  rw [answer, responseFromRaw_of_demux h]
  dsimp only
  rw [show (actor.sampled resp addr r).pendingKem = none from hpending]

/-- The channel that a response opens with an ephemeral key. -/
def answeredChannel (eph : EphemeralKem δ) (resp : HandshakeResponse) : Aes256GcmChannel α :=
  .new (deriveSessionKey (MlKem.decapsulate eph.dk resp.kemCiphertext)) .initiator

omit [GossipCodec γ] in
theorem answer_pending {actor : ConsensusActor γ α δ}
    {eph : EphemeralKem δ}
    (h : demux logical = .ok (.response resp signature)) (hpending : actor.pendingKem = some eph)
    (addr : SocketAddr) (r : Readings) :
    (actor.sampled resp addr r).answer logical addr r
      = ([], ({ actor.sampled resp addr r with pendingKem := none }.insertSessionBounded addr
          (.new (answeredChannel eph resp) r.seen)).accept) := by
  rw [answer, responseFromRaw_of_demux h]
  dsimp only
  rw [show (actor.sampled resp addr r).pendingKem = some eph from hpending]
  rfl

theorem dispatch_effect {actor actor' : ConsensusActor γ α δ}
    (h : actor.dispatch logical addr r = some (egress, actor')) :
    Effect actor logical addr actor' := by
  have hkey := sameKey_call actor.node (actor.ingressCall logical addr r)
  unfold dispatch at h
  cases hcall : actor.node.call (actor.ingressCall logical addr r) with
  | error e s =>
      rw [hcall] at h hkey
      cases h
      obtain ⟨hkem, hs⟩ := actor.resume_spec logical addr r hkey
      exact .kept hkem hs
  | ok outcome s =>
      rw [hcall] at h hkey
      obtain ⟨hkem, hs⟩ := actor.resume_spec logical addr r hkey
      cases outcome with
      | challengeIssued challenge =>
          cases h
          exact .kept hkem hs
      | handshakeEstablished =>
          obtain ⟨hkem', hs'⟩ := establish_spec h
          rcases hs' with heq | ⟨hnew, hold⟩
          · refine .kept (hkem'.trans hkem) ?_
            rw [heq]
            exact hs
          · refine .responded (hkem'.trans hkem) ⟨hnew, fun a s' hs' hne => ?_⟩
            obtain ⟨s, hlookup, hsame⟩ := hold a s' hs' hne
            obtain ⟨s₀, hlookup₀, hsame₀⟩ := hs a s hlookup
            exact ⟨s₀, hlookup₀, hsame₀.trans hsame⟩
      | responseVerified =>
          obtain ⟨resp, signature, hdemux, hresp⟩ := of_responseVerified hcall
          have hdemux : demux logical = .ok (.response resp signature) := hdemux
          have hverified : actor.dispatch logical addr r
              = some ((actor.sampled resp addr r).answer logical addr r) :=
            dispatch_verified hdemux hresp addr r
          rw [dispatch, hcall] at hverified
          rw [hverified] at h
          cases hpending : actor.pendingKem with
          | none =>
              rw [answer_unpending hdemux hpending] at h
              cases h
              exact .kept rfl (.refl _)
          | some eph =>
              rw [answer_pending hdemux hpending] at h
              cases h
              obtain ⟨hkem', hopens⟩ := { actor.sampled resp addr r with
                pendingKem := none }.insertSessionBounded_spec addr
                (.new (answeredChannel eph resp) r.seen)
              exact .answered hdemux hresp hpending hkem' hopens
      | gossipAccepted =>
          obtain ⟨hkem', hs'⟩ := relay_spec h
          exact .kept (hkem'.trans hkem) (hs.trans hs')

/-! ### The node is the pipeline's -/

omit [AesGcm α] [MlKem δ] [GossipCodec γ] in
theorem node_accept (actor : ConsensusActor γ α δ) : actor.accept.node = actor.node := rfl

omit [AesGcm α] [MlKem δ] [GossipCodec γ] in
theorem node_insertSessionBounded (actor : ConsensusActor γ α δ) (addr : SocketAddr)
    (s : Session α) : (actor.insertSessionBounded addr s).node = actor.node := by
  unfold insertSessionBounded
  dsimp only
  split
  · split
    · rfl
    · rfl
  · rfl

omit [MlKem δ] [GossipCodec γ] in
theorem node_relay {actor actor' : ConsensusActor γ α δ}
    (h : actor.relay logical addr r = some (egress, actor')) :
    actor'.node = actor.node := by
  obtain ⟨plaintext, -, h⟩ := Option.bind_eq_some_iff.mp h
  obtain ⟨⟨reply, replied⟩, hreply, h⟩ := Option.bind_eq_some_iff.mp h
  cases h
  show replied.node = actor.node
  unfold directReply at hreply
  split at hreply
  · cases hreply
    rfl
  · split at hreply
    · cases hreply
      rfl
    · obtain ⟨gossip, -, hsome⟩ := Option.bind_eq_some_iff.mp hreply
      cases hsome
      rfl

omit [GossipCodec γ] in
theorem node_establish {actor actor' : ConsensusActor γ α δ}
    (h : actor.establish logical addr r = some (egress, actor')) : actor'.node = actor.node := by
  unfold establish at h
  split at h
  · cases h
    rfl
  · split at h
    · cases h
      rfl
    · obtain ⟨preimage, -, h⟩ := Option.bind_eq_some_iff.mp h
      obtain ⟨respPkt, -, h⟩ := Option.bind_eq_some_iff.mp h
      obtain ⟨gossip, -, h⟩ := Option.bind_eq_some_iff.mp h
      cases h
      rw [node_accept, node_insertSessionBounded]

omit [GossipCodec γ] in
theorem node_answer (actor : ConsensusActor γ α δ) (logical : List UInt8) (addr : SocketAddr)
    (r : Readings) : (actor.answer logical addr r).2.node = actor.node := by
  unfold answer
  split
  · rfl
  · split
    · rfl
    · rw [node_accept, node_insertSessionBounded]

theorem node_dispatch {actor actor' : ConsensusActor γ α δ}
    (h : actor.dispatch logical addr r = some (egress, actor')) :
    actor'.node = actor.node.afterCall (actor.ingressCall logical addr r) := by
  unfold dispatch at h
  rw [GoatNode.afterCall]
  cases hcall : actor.node.call (actor.ingressCall logical addr r) with
  | error e s =>
      rw [hcall] at h
      cases h
      rfl
  | ok outcome s =>
      rw [hcall] at h
      cases outcome with
      | challengeIssued challenge =>
          cases h
          rfl
      | handshakeEstablished => exact node_establish h
      | responseVerified =>
          have hanswer := (actor.resume addr s).node_answer logical addr r
          have heq := Option.some.inj h
          rw [heq] at hanswer
          exact hanswer
      | gossipAccepted => exact node_relay h

/-! ## What a packet does -/

omit [AesGcm α] [MlKem δ] [GossipCodec γ] in
/-- The node, the sessions and the pending key are as they were. -/
structure Untouched (actor actor' : ConsensusActor γ α δ) : Prop where
  node_eq : actor'.node = actor.node
  sessions_eq : actor'.sessions = actor.sessions
  pendingKem_eq : actor'.pendingKem = actor.pendingKem

omit [AesGcm α] [MlKem δ] [GossipCodec γ] in
/-- The logical datagram that a packet completes. -/
def received (actor : ConsensusActor γ α δ) (raw : List UInt8) (addr : SocketAddr) (r : Readings) :
    Option (List UInt8) :=
  (actor.reassemble raw addr r).bind Prod.fst

omit [AesGcm α] [MlKem δ] [GossipCodec γ] in
theorem untouched_reassemble {actor actor' : ConsensusActor γ α δ}
    {logical : Option (List UInt8)}
    (h : actor.reassemble raw addr r = some (logical, actor')) : actor.Untouched actor' := by
  unfold reassemble at h
  split at h
  · obtain ⟨⟨ingested, reassembly⟩, -, h⟩ := Option.bind_eq_some_iff.mp h
    dsimp only at h
    split at h
    · cases h
      exact ⟨rfl, rfl, rfl⟩
    · cases h
      exact ⟨rfl, rfl, rfl⟩
  · cases h
    exact ⟨rfl, rfl, rfl⟩

omit [AesGcm α] [MlKem δ] [GossipCodec γ] in
theorem untouched_handleCookieChallengeReply {actor actor' : ConsensusActor γ α δ}
    (h : actor.handleCookieChallengeReply raw addr = some (egress, actor')) :
    actor.Untouched actor' := by
  unfold handleCookieChallengeReply at h
  split at h
  · cases h
    exact ⟨rfl, rfl, rfl⟩
  · split at h
    · cases h
      exact ⟨rfl, rfl, rfl⟩
    · obtain ⟨signature, -, h⟩ := Option.bind_eq_some_iff.mp h
      obtain ⟨packet, -, h⟩ := Option.bind_eq_some_iff.mp h
      cases h
      exact ⟨rfl, rfl, rfl⟩

/-- A packet is incomplete, answers a cookie challenge, or is dispatched. -/
theorem process_cases {actor actor' : ConsensusActor γ α δ}
    (h : actor.process raw addr r = some (egress, actor')) :
    (actor.received raw addr r = none ∧ actor.Untouched actor')
    ∨ ∃ logical actor₁, actor.received raw addr r = some logical ∧ actor.Untouched actor₁
      ∧ ((logical.head? = some replyTagCookieChallenge ∧ actor₁.Untouched actor')
        ∨ actor₁.dispatch logical addr r = some (egress, actor')) := by
  obtain ⟨⟨full, actor₁⟩, hfull, h⟩ := Option.bind_eq_some_iff.mp h
  have hsame := untouched_reassemble hfull
  have hreceived : actor.received raw addr r = full := by
    rw [received, hfull]
    rfl
  cases full with
  | none =>
      cases h
      exact .inl ⟨hreceived, hsame⟩
  | some logical =>
      dsimp only at h
      split at h
      · rename_i hhead
        exact .inr ⟨logical, actor₁, hreceived, hsame,
          .inl ⟨hhead, untouched_handleCookieChallengeReply h⟩⟩
      · exact .inr ⟨logical, actor₁, hreceived, hsame, .inr h⟩

/-- **What a packet does** to the sessions and to the pending key. -/
theorem process_effect {actor actor' : ConsensusActor γ α δ}
    (h : actor.process raw addr r = some (egress, actor')) :
    actor.Untouched actor'
    ∨ ∃ logical, actor.received raw addr r = some logical ∧ actor.Effect logical addr actor' := by
  rcases process_cases h with ⟨-, hsame⟩ | ⟨logical, actor₁, hreceived, hsame, hcase⟩
  · exact .inl hsame
  · rcases hcase with ⟨-, hsame'⟩ | hdispatch
    · exact .inl ⟨hsame'.node_eq.trans hsame.node_eq, hsame'.sessions_eq.trans hsame.sessions_eq,
        hsame'.pendingKem_eq.trans hsame.pendingKem_eq⟩
    · refine .inr ⟨logical, hreceived, ?_⟩
      cases dispatch_effect hdispatch with
      | kept hkem hs => exact .kept (hkem.trans hsame.pendingKem_eq) (hsame.sessions_eq ▸ hs)
      | responded hkem hs =>
          exact .responded (hkem.trans hsame.pendingKem_eq) (hsame.sessions_eq ▸ hs)
      | answered hpacket hverified hpending hkem hs =>
          exact .answered hpacket (hsame.node_eq ▸ hverified)
            (hsame.pendingKem_eq.symm.trans hpending) hkem (hsame.sessions_eq ▸ hs)

theorem process_unverified {actor actor' : ConsensusActor γ α δ}
    (h : actor.process raw addr r = some (egress, actor'))
    (hreceived : actor.received raw addr r = some logical)
    (htag : logical.head? = some PacketTag.response)
    (hbad : ∀ resp signature, demux logical = .ok (.response resp signature) →
      verifyResponse resp signature actor.node.verifier ≠ .ok ()) :
    actor.Untouched actor' := by
  rcases process_cases h with ⟨hnone, -⟩ | ⟨logical', actor₁, hsome, hsame, hcase⟩
  · rw [hreceived] at hnone
    cases hnone
  · rw [hreceived] at hsome
    cases hsome
    have hreject : actor₁.dispatch logical addr r = some ([], actor₁.reject) := by
      rcases demux_response_tag htag with ⟨resp, signature, hdemux⟩ | hdemux
      · cases hresp : verifyResponse resp signature actor₁.node.verifier with
        | error e => exact dispatch_unverified hdemux hresp addr r
        | ok _ =>
            rw [hsame.node_eq] at hresp
            exact absurd hresp (hbad resp signature hdemux)
      · exact dispatch_malformed hdemux addr r
    rcases hcase with ⟨hreply, -⟩ | hdispatch
    · rw [htag] at hreply
      cases hreply
    · rw [hreject] at hdispatch
      cases hdispatch
      exact ⟨hsame.node_eq, hsame.sessions_eq, hsame.pendingKem_eq⟩

theorem process_unpending {actor actor' : ConsensusActor γ α δ}
    (h : actor.process raw addr r = some (egress, actor'))
    (hreceived : actor.received raw addr r = some logical)
    (htag : logical.head? = some PacketTag.response) (hpending : actor.pendingKem = none) :
    actor'.sessions = actor.sessions ∧ actor'.pendingKem = actor.pendingKem := by
  by_cases hbad : ∀ resp signature, demux logical = .ok (.response resp signature) →
      verifyResponse resp signature actor.node.verifier ≠ .ok ()
  · obtain ⟨-, hs, hkem⟩ := process_unverified h hreceived htag hbad
    exact ⟨hs, hkem⟩
  · push Not at hbad
    obtain ⟨resp, signature, hdemux, hresp⟩ := hbad
    rcases process_cases h with ⟨hnone, -⟩ | ⟨logical', actor₁, hsome, hsame, hcase⟩
    · rw [hreceived] at hnone
      cases hnone
    · rw [hreceived] at hsome
      cases hsome
      rcases hcase with ⟨hreply, -⟩ | hdispatch
      · rw [htag] at hreply
        cases hreply
      · rw [← hsame.node_eq] at hresp
        rw [dispatch_verified hdemux hresp,
          answer_unpending hdemux (hsame.pendingKem_eq.trans hpending)] at hdispatch
        cases hdispatch
        exact ⟨hsame.sessions_eq, hsame.pendingKem_eq⟩

/-! ## Runs -/

/-- A packet, or a tick. -/
inductive Event where
  | packet (raw : List UInt8) (addr : SocketAddr) (r : Readings)
  | tick (now : Instant)

def step (actor : ConsensusActor γ α δ) : Event → Checked (ConsensusActor γ α δ)
  | .packet raw addr r => (actor.process raw addr r).map Prod.snd
  | .tick now => some (actor.tick now)

def run (actor : ConsensusActor γ α δ) (events : List Event) : Checked (ConsensusActor γ α δ) :=
  events.foldlM step actor

theorem verifier_step {actor actor' : ConsensusActor γ α δ} {event : Event}
    (h : actor.step event = some actor') : actor'.node.verifier = actor.node.verifier := by
  cases event with
  | tick now =>
      cases h
      rfl
  | packet raw addr r =>
      obtain ⟨⟨egress, after⟩, hprocess, rfl⟩ := Option.map_eq_some_iff.mp h
      rcases process_cases hprocess with ⟨-, hsame⟩ | ⟨logical, actor₁, -, hsame, hcase⟩
      · rw [hsame.node_eq]
      · rcases hcase with ⟨-, hsame'⟩ | hdispatch
        · rw [hsame'.node_eq, hsame.node_eq]
        · rw [node_dispatch hdispatch, ← hsame.node_eq]
          generalize actor₁.ingressCall logical addr r = k
          have hstep := GoatNode.step_result actor₁.node k
          generalize actor₁.node.outcome k = result at hstep
          generalize actor₁.node.afterCall k = node at hstep ⊢
          cases hstep with
          | refused e h => rfl
          | challenged h => rfl
          | spent h hcookie hinit => rfl
          | established h hcookie hinit => rfl
          | responded h hresp => rfl
          | gossiped h hframe hmessage hvalid => rfl

theorem verifier_run (events : List Event) :
    ∀ {actor actor' : ConsensusActor γ α δ}, actor.run events = some actor' →
      actor'.node.verifier = actor.node.verifier := by
  induction events with
  | nil =>
      intro actor actor' h
      cases h
      rfl
  | cons event events ih =>
      intro actor actor' h
      obtain ⟨actor₁, hstep, hrun⟩ := Option.bind_eq_some_iff.mp h
      exact (ih hrun).trans (verifier_step hstep)

omit [AesGcm α] [MlKem δ] [GossipCodec γ] in
/-- No key is pending, and the initiator sessions are among the earlier ones. -/
def Closed (actor actor' : ConsensusActor γ α δ) : Prop :=
  actor'.pendingKem = none
    ∧ ∀ a s', actor'.sessions.lookup a = some s' → s'.channel.role = .initiator →
      ∃ s, actor.sessions.lookup a = some s ∧ s.channel.SameKey s'.channel

omit [AesGcm α] [MlKem δ] [GossipCodec γ] in
theorem Closed.trans {actor actor' actor'' : ConsensusActor γ α δ} (h : actor.Closed actor')
    (h' : actor'.Closed actor'') : actor.Closed actor'' := by
  refine ⟨h'.1, fun a s'' hs'' hrole => ?_⟩
  obtain ⟨s', hs', hkey'⟩ := h'.2 a s'' hs'' hrole
  obtain ⟨s, hs, hkey⟩ := h.2 a s' hs' (hkey'.2.symm.trans hrole)
  exact ⟨s, hs, hkey.trans hkey'⟩

omit [AesGcm α] [MlKem δ] [GossipCodec γ] in
theorem closed_of_inherits {actor actor' : ConsensusActor γ α δ} (hkem : actor'.pendingKem = none)
    (hs : Inherits actor.sessions actor'.sessions) : actor.Closed actor' :=
  ⟨hkem, fun a s' hs' _ => hs a s' hs'⟩

theorem closed_step {actor actor' : ConsensusActor γ α δ} {event : Event}
    (hpending : actor.pendingKem = none) (h : actor.step event = some actor') :
    actor.Closed actor' := by
  cases event with
  | tick now =>
      cases h
      exact closed_of_inherits hpending (inherits_sweep _ _)
  | packet raw addr r =>
      obtain ⟨⟨egress, after⟩, hprocess, rfl⟩ := Option.map_eq_some_iff.mp h
      rcases process_effect hprocess with hsame | ⟨logical, -, heffect⟩
      · refine closed_of_inherits (hsame.pendingKem_eq.trans hpending) ?_
        rw [hsame.sessions_eq]
        exact .refl _
      · cases heffect with
        | kept hkem hs => exact closed_of_inherits (hkem.trans hpending) hs
        | responded hkem hs =>
            refine ⟨hkem.trans hpending, fun a s' hs' hrole => ?_⟩
            obtain ⟨s, hlookup, hresponder⟩ := hs.1
            rcases eq_or_ne a addr with rfl | hne
            · rw [hs'] at hlookup
              cases hlookup
              rw [hrole] at hresponder
              cases hresponder
            · exact hs.2 a s' hs' hne
        | answered hpacket hverified hsome hkem hs =>
            rw [hpending] at hsome
            cases hsome

theorem closed_run (events : List Event) :
    ∀ {actor actor' : ConsensusActor γ α δ}, actor.pendingKem = none →
      actor.run events = some actor' → actor.Closed actor' := by
  induction events with
  | nil =>
      intro actor actor' hpending h
      cases h
      exact closed_of_inherits hpending (.refl _)
  | cons event events ih =>
      intro actor actor' hpending h
      obtain ⟨actor₁, hstep, hrun⟩ := Option.bind_eq_some_iff.mp h
      have hclosed := closed_step hpending hstep
      exact hclosed.trans (ih hclosed.1 hrun)

/-- **What opens an initiator session.**  In every run, a packet spends the pending
key or opens an initiator session only if it is a response whose signature verifies
under the identity it carries, and then the key is gone; a response that does not
verify leaves the sessions, the pending key and the clock, and one that finds no
pending key leaves the sessions and the key; and once the key is gone, no
continuation opens an initiator session. -/
theorem response_binding (nodeSecret : Bytes 32) (identity : PublicKey) (nodeId : Bytes 32)
    (verifier : SignatureVerifier) (registry : KeyRegistry) (genesisTime : UInt64) (codec : γ)
    (signer : List UInt8 → Signature) (pendingInitiation : Option HandshakeInitiation)
    (pendingKem : Option (EphemeralKem δ)) (before : List Event) (actor : ConsensusActor γ α δ)
    (hrun : (new nodeSecret identity nodeId verifier registry genesisTime codec signer
      pendingInitiation pendingKem).run before = some actor) :
    (∀ raw addr r egress actor', actor.process raw addr r = some (egress, actor') →
      (actor'.pendingKem ≠ actor.pendingKem
        ∨ ∃ a s', actor'.sessions.lookup a = some s' ∧ s'.channel.role = .initiator
          ∧ ¬ ∃ s, actor.sessions.lookup a = some s ∧ s.channel.SameKey s'.channel) →
      ∃ logical resp signature eph, actor.received raw addr r = some logical
        ∧ demux logical = .ok (.response resp signature)
        ∧ verifyResponse resp signature verifier = .ok ()
        ∧ actor.pendingKem = some eph ∧ actor'.pendingKem = none)
    ∧ (∀ raw addr r egress actor' logical, actor.process raw addr r = some (egress, actor') →
      actor.received raw addr r = some logical → logical.head? = some PacketTag.response →
      ((∀ resp signature, demux logical = .ok (.response resp signature) →
          verifyResponse resp signature verifier ≠ .ok ()) →
        actor'.sessions = actor.sessions ∧ actor'.pendingKem = actor.pendingKem
          ∧ actor'.node.networkClock = actor.node.networkClock)
      ∧ (actor.pendingKem = none →
        actor'.sessions = actor.sessions ∧ actor'.pendingKem = actor.pendingKem))
    ∧ (actor.pendingKem = none → ∀ later actor', actor.run later = some actor' →
      actor.Closed actor') := by
  have hverifier := verifier_run before hrun
  change actor.node.verifier = verifier at hverifier
  refine ⟨?_, ?_, fun hpending later actor' h => closed_run later hpending h⟩
  · intro raw addr r egress actor' h hopened
    rcases process_effect h with hsame | ⟨logical, hreceived, heffect⟩
    · exfalso
      rcases hopened with hkem | ⟨a, s', hs', -, hnew⟩
      · exact hkem hsame.pendingKem_eq
      · rw [hsame.sessions_eq] at hs'
        exact hnew ⟨s', hs', .refl _⟩
    · cases heffect with
      | kept hkem hs =>
          exfalso
          rcases hopened with hne | ⟨a, s', hs', -, hnew⟩
          · exact hne hkem
          · exact hnew (hs a s' hs')
      | responded hkem hs =>
          exfalso
          rcases hopened with hne | ⟨a, s', hs', hrole, hnew⟩
          · exact hne hkem
          · obtain ⟨s, hlookup, hresponder⟩ := hs.1
            rcases eq_or_ne a addr with rfl | hne
            · rw [hs'] at hlookup
              cases hlookup
              rw [hrole] at hresponder
              cases hresponder
            · exact hnew (hs.2 a s' hs' hne)
      | answered hpacket hverified hpending hkem hs =>
          rw [hverifier] at hverified
          exact ⟨logical, _, _, _, hreceived, hpacket, hverified, hpending, hkem⟩
  · intro raw addr r egress actor' logical h hreceived htag
    refine ⟨fun hbad => ?_, process_unpending h hreceived htag⟩
    rw [← hverifier] at hbad
    have hsame := process_unverified h hreceived htag hbad
    exact ⟨hsame.sessions_eq, hsame.pendingKem_eq, by rw [hsame.node_eq]⟩

theorem process_whole {actor : ConsensusActor γ α δ}
    (hchunk : raw.head? ≠ some chunkTag) (hreply : raw.head? ≠ some replyTagCookieChallenge)
    (addr : SocketAddr) (r : Readings) :
    actor.process raw addr r = actor.dispatch raw addr r := by
  have hreassemble : actor.reassemble raw addr r = some (some raw, actor) := if_neg hchunk
  rw [process, hreassemble]
  show (if raw.head? = some replyTagCookieChallenge then actor.handleCookieChallengeReply raw addr
    else actor.dispatch raw addr r) = _
  rw [if_neg hreply]

theorem process_response {actor : ConsensusActor γ α δ}
    {eph : EphemeralKem δ}
    (hresp : verifyResponse resp signature actor.node.verifier = .ok ())
    (hpending : actor.pendingKem = some eph) (addr : SocketAddr) (r : Readings) :
    ∃ actor', actor.process (PacketTag.response :: signedResponseBytes resp signature) addr r
        = some ([], actor')
      ∧ actor'.pendingKem = none ∧ Opens addr .initiator actor.sessions actor'.sessions := by
  have hdemux := demux_response resp signature
  have hprocess : actor.process (PacketTag.response :: signedResponseBytes resp signature) addr r
      = actor.dispatch (PacketTag.response :: signedResponseBytes resp signature) addr r := by
    refine process_whole ?_ ?_ addr r
    · rw [List.head?_cons]
      decide
    · rw [List.head?_cons]
      decide
  have hdispatch := dispatch_verified hdemux hresp addr r
  rw [answer_pending hdemux hpending] at hdispatch
  obtain ⟨hkem, hopens⟩ := { actor.sampled resp addr r with
    pendingKem := none }.insertSessionBounded_spec addr (.new (answeredChannel eph resp) r.seen)
  exact ⟨_, hprocess.trans hdispatch, hkem, hopens⟩

end ConsensusActor

/-! ## A response under a key of its own -/

/-- A cipher under which nothing is encrypted or decrypted. -/
structure SilentCipher

instance : AesGcm SilentCipher where
  new _ := ⟨⟩
  encrypt _ _ _ := none
  decrypt _ _ _ := none

/-- A decapsulation key. -/
structure SampleKey

instance : MlKem SampleKey where
  encapsulate _ _ := none
  decapsulate _ _ := .replicate _ 0

/-- An initiator that waits for a response, with a registry that authorises no key. -/
def waitingActor : ConsensusActor SilentCodec SilentCipher SampleKey :=
  .new sampleSecret (.replicate _ 0) (.replicate 32 0)
    (fun _ _ signature => signature == sampleSignature) (fun _ _ => false) 0 ⟨⟩
    (fun _ => sampleSignature) (some sampleInitiation) (some ⟨⟨⟩, .replicate _ 0⟩)

/-- A response that answers another initiation. -/
def strayResponse : HandshakeResponse :=
  { sampleResponse with epoch := 1, nonce := .replicate 32 1 }

def strayPeer : SocketAddr := .v4 (.replicate 4 10) 4646

def sampleReadings : Readings := ⟨0, 0, 0, 0, .replicate 32 0⟩

theorem strayResponse_verifies :
    verifyResponse strayResponse sampleSignature waitingActor.node.verifier = .ok () := by
  rw [verifyResponse_eq]
  exact if_pos (beq_self_eq_true sampleSignature)

/-- The session opens for a key that is not registered, with another nonce and epoch. -/
theorem unregistered_response :
    waitingActor.pendingKem.isSome
      ∧ (∀ nodeId, waitingActor.node.registry strayResponse.responderIdentity nodeId = false)
      ∧ (∀ init, waitingActor.pendingInitiation = some init →
        strayResponse.nonce ≠ init.nonce ∧ strayResponse.epoch ≠ init.epoch)
      ∧ ∃ actor' s, waitingActor.process
          (PacketTag.response :: signedResponseBytes strayResponse sampleSignature) strayPeer
          sampleReadings = some ([], actor')
        ∧ actor'.pendingKem = none
        ∧ actor'.sessions.lookup strayPeer = some s ∧ s.channel.role = .initiator := by
  refine ⟨rfl, fun _ => rfl, ?_, ?_⟩
  · intro init hinit
    have heq : sampleInitiation = init := Option.some.inj hinit
    rw [← heq]
    decide
  · obtain ⟨actor', hprocess, hkem, ⟨s, hs, hrole⟩, -⟩ :=
      ConsensusActor.process_response strayResponse_verifies rfl strayPeer sampleReadings
    exact ⟨actor', s, hprocess, hkem, hs, hrole⟩

theorem response_binding_sample :
    ∃ logical resp signature, waitingActor.received
        (PacketTag.response :: signedResponseBytes strayResponse sampleSignature) strayPeer
        sampleReadings = some logical
      ∧ demux logical = .ok (.response resp signature)
      ∧ verifyResponse resp signature (fun _ _ signature => signature == sampleSignature)
        = .ok () := by
  obtain ⟨actor', hprocess, hkem, -⟩ :=
    ConsensusActor.process_response strayResponse_verifies rfl strayPeer sampleReadings
  have hspent : actor'.pendingKem ≠ waitingActor.pendingKem := by
    rw [hkem]
    exact nofun
  obtain ⟨logical, resp, signature, -, hreceived, hdemux, hverified, -⟩ :=
    (ConsensusActor.response_binding sampleSecret (.replicate _ 0) (.replicate 32 0)
      (fun _ _ signature => signature == sampleSignature) (fun _ _ => false) 0 SilentCodec.mk
      (fun _ => sampleSignature) (some sampleInitiation)
      (some ⟨SampleKey.mk, .replicate _ 0⟩) [] waitingActor (by rw [waitingActor]; rfl)).1
      _ strayPeer sampleReadings [] actor' hprocess (.inl hspent)
  exact ⟨logical, resp, signature, hreceived, hdemux, hverified⟩

end GoatCoin
