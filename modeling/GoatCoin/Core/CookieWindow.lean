/-
# `GoatCoin.Core.CookieWindow` — single-use cookies over whole runs

A run of a node is a list of calls of its ingress pipeline: any packets, from any
addresses, at any clock readings, over any channels.  The cookies it consumes are
those of the cookie echoes whose check passes, whether or not the signature of
the initiation verifies afterwards.  They are what the cookie ring is fed:

    call             consumed     cookie_cache         network_clock      message_cache
    refused          —            —                    —                  —
    challenged       —            —                    —                  —
    spent            cookie       insert cookie        —                  —
    established      cookie       insert cookie        recordPeerTime     —
    responded        —            —                    recordPeerTime     —
    gossiped         —            —                    —                  insert

so the node is a machine in the sense of `Lib.Feed` (`feeds`), and the window of
the ring is a window of the node.  The clock moves under the freshness gate from
call to call, and the gate is open until the clock has its quorum; neither
matters to the window, since the ring alone decides what is a replay.
-/
import GoatCoin.Lib.Feed
import GoatCoin.Core.Daemon
import GoatCoin.Core.Sha3Eval

namespace GoatCoin

open Wire

namespace GoatNode

section
variable {M C : Nat} {σ γ : Type} [SecureChannel σ] [GossipCodec γ]

/-- The cookie a call consumes: that of a cookie echo whose check passes. -/
def consumes (node : GoatNode M C) (k : IngressCall σ γ) : Option (Bytes 32) :=
  match demux k.raw with
  | .ok (.cookieEcho echo _) =>
      match node.checkCookie echo k.peerAddr k.now with
      | .ok _ _ => some echo.cookie
      | .error _ _ => none
  | _ => none

def run (node : GoatNode M C) (ks : List (IngressCall σ γ)) : GoatNode M C :=
  ks.foldl afterCall node

/-- The cookies consumed in a run, in order. -/
def consumed (node : GoatNode M C) (ks : List (IngressCall σ γ)) : List (Bytes 32) :=
  Feed.emitted afterCall consumes node ks

omit [SecureChannel σ] [GossipCodec γ] in
theorem consumes_of_ok {node : GoatNode M C} {k : IngressCall σ γ} {echo : HandshakeCookieEcho}
    {signature : Signature} {cache : CookieCache C}
    (h : demux k.raw = .ok (.cookieEcho echo signature))
    (hcookie : node.checkCookie echo k.peerAddr k.now = .ok () cache) :
    node.consumes k = some echo.cookie := by
  rw [consumes, h]
  dsimp only
  rw [hcookie]

omit [SecureChannel σ] [GossipCodec γ] in
theorem consumes_of_refused {node : GoatNode M C} {k : IngressCall σ γ}
    (h : ∀ echo signature, demux k.raw = .ok (.cookieEcho echo signature) →
      ∃ t cache, node.checkCookie echo k.peerAddr k.now = .error t cache) :
    node.consumes k = none := by
  unfold consumes
  split
  · rename_i echo signature hecho
    obtain ⟨t, cache, hcookie⟩ := h echo signature hecho
    rw [hcookie]
  · rfl

/-- **The cookie ring is fed the consumed cookies.** -/
theorem feeds (hC : 0 < C) :
    Feed.Feeds (afterCall : GoatNode M C → IngressCall σ γ → GoatNode M C) consumes C
      (fun node => node.cookieCache.queue) := by
  intro node k
  have hstep := step_result node k
  generalize node.outcome k = r at hstep
  generalize hafter : node.afterCall k = node' at hstep
  cases hstep with
  | refused e h =>
      refine .inl ⟨consumes_of_refused ?_, rfl⟩
      intro echo signature hecho
      obtain ⟨t, cache, hcookie, -⟩ := h echo signature hecho
      exact ⟨t, cache, hcookie⟩
  | challenged h => exact .inl ⟨consumes_of_refused (no_cookie h nofun), rfl⟩
  | spent h hcookie hinit =>
      obtain ⟨rfl, hnew⟩ := checkCookie_ok hcookie
      exact .inr ⟨_, consumes_of_ok h hcookie, hnew, node.cookieCache.queue_insert hC _⟩
  | established h hcookie hinit =>
      obtain ⟨rfl, hnew⟩ := checkCookie_ok hcookie
      exact .inr ⟨_, consumes_of_ok h hcookie, hnew, node.cookieCache.queue_insert hC _⟩
  | responded h hresp => exact .inl ⟨consumes_of_refused (no_cookie h nofun), rfl⟩
  | gossiped h hframe hmessage hvalid =>
      exact .inl ⟨consumes_of_refused (no_cookie h nofun), rfl⟩

/-- **Single-use cookies.**  In every run of a node with room for `C ≥ 1` cookies, a
cookie passes the check a second time only after `C` distinct others were consumed;
and a call whose cookie check fails, for one of its three reasons, leaves the node
as it was. -/
theorem cookies_single_use (hC : 0 < C) (nodeSecret : Bytes 32) (identityPublicKey : PublicKey)
    (verifier : SignatureVerifier) (registry : KeyRegistry) (genesisTime : UInt64)
    (before : List (IngressCall σ γ)) (node : GoatNode M C)
    (hrun : (new nodeSecret identityPublicKey verifier registry genesisTime).run before = node) :
    (∀ (first again : IngressCall σ γ) (mid : List (IngressCall σ γ)) (cookie : Bytes 32),
      node.consumes first = some cookie →
      ((node.afterCall first).run mid).consumes again = some cookie →
      C ≤ (((node.afterCall first).consumed mid).toFinset.erase cookie).card)
    ∧ ∀ (k : IngressCall σ γ) (echo : HandshakeCookieEcho) (signature : Signature)
      (e : TransportError) (cache : CookieCache C),
      demux k.raw = .ok (.cookieEcho echo signature) →
      node.checkCookie echo k.peerAddr k.now = .error e cache →
      (e = .cookieExpired ∨ e = .invalidCookie ∨ e = .cookieReplayed)
        ∧ node.outcome k = .error (.transport e)
        ∧ (node.afterCall k).cookieCache = node.cookieCache
        ∧ (node.afterCall k).messageCache = node.messageCache
        ∧ (node.afterCall k).networkClock = node.networkClock := by
  constructor
  · intro first again mid cookie hfirst hagain
    have hempty : (new nodeSecret identityPublicKey verifier registry genesisTime :
        GoatNode M C).cookieCache.queue.Nodup := List.nodup_nil
    have hnd : node.cookieCache.queue.Nodup := by
      rw [← hrun]
      exact (feeds hC).nodup_run hempty before
    exact (feeds hC).window hC hnd node.cookieCache.length_queue_le hfirst hagain
  · intro k echo signature e cache hecho hcookie
    have hcall := call_cookieEcho_error hecho hcookie
    have hafter : node.afterCall k = node := by
      rw [afterCall, hcall]
    refine ⟨verifyCookieEcho_error hcookie, ?_, ?_, ?_, ?_⟩
    · rw [outcome, hcall]
    · rw [hafter]
    · rw [hafter]
    · rw [hafter]

end

end GoatNode

/-! ## A replay through a ring of one cookie -/

/-- A session without a key: no frame decrypts. -/
structure ScratchChannel

instance : SecureChannel ScratchChannel where
  decryptFrame _ := fun s => .error .decryptionFailed s

/-- A codec that decodes nothing. -/
structure SilentCodec

instance : GossipCodec SilentCodec where
  decode _ _ := none

def sampleSecret : Bytes 32 := .replicate 32 7
def sampleAddr : PeerAddr := .replicate 16 1

/-- Zeros, which verify under no key. -/
def sampleSignature : Signature := .replicate _ 0

def sampleInitiation : HandshakeInitiation where
  initiatorIdentity := .replicate _ 0
  ephemeralKemPk := .replicate _ 0
  epoch := 0
  localTime := 0
  nonce := .replicate 32 0

/-- An echo of the cookie issued to the sample address at time `t`. -/
def sampleEcho (t : UInt64) : HandshakeCookieEcho where
  cookie := cookieMac sampleSecret sampleAddr t
  timestamp := t
  initiation := sampleInitiation

def echoCall (t : UInt64) : IngressCall ScratchChannel SilentCodec where
  raw := PacketTag.cookieEcho :: cookieEchoBytes (sampleEcho t) sampleSignature
  peerAddr := sampleAddr
  now := t
  channel := ⟨⟩
  codec := ⟨⟩
  bufLen := 0
  plaintextBuf := .nil

theorem cookieMac_toList (nodeSecret : Bytes 32) (peerAddr : PeerAddr) (timestamp : UInt64) :
    (cookieMac nodeSecret peerAddr timestamp).toList =
      let k0 := nodeSecret.toList ++ List.replicate (hmacBlock - 32) 0
      Sha3Eval.digestN (Sha3Eval.absorbed 1 (k0.map (· ^^^ 0x5c)))
        (Sha3Eval.digestN (Sha3Eval.absorbed 1 (k0.map (· ^^^ 0x36)))
          (peerAddr.toList ++ toLE 8 timestamp.toNat)) := by
  have hk0 : ∀ b : UInt8, ((nodeSecret.toList ++ List.replicate (hmacBlock - 32) 0).map
      (· ^^^ b)).length = 1 * sha3Rate := by
    intro b
    rw [List.length_map, List.length_append, List.Vector.toList_length, List.length_replicate]
    rfl
  have hmsg : (peerAddr.toList ++ toLE 8 timestamp.toNat).length < sha3Rate := by
    rw [List.length_append, List.Vector.toList_length, length_toLE]
    decide
  rw [cookieMac, Sha3Eval.sha3_256_eq_digestN (hk0 _), List.append_assoc,
    Sha3Eval.sha3_256_eq_digestN (hk0 _) hmsg]
  rw [List.Vector.toList_length]
  decide

theorem sampleCookies_ne : (sampleEcho 1).cookie ≠ (sampleEcho 2).cookie := by
  intro h
  have htoList := congrArg List.Vector.toList h
  rw [sampleEcho, sampleEcho, cookieMac_toList, cookieMac_toList] at htoList
  revert htoList
  decide +kernel

/-- A node with the sample secret that verifies nothing, so that its clock has no
samples, and that holds the cookies `q`. -/
structure Holding (node : GoatNode 1 1) (q : List (Bytes 32)) : Prop where
  secret_eq : node.nodeSecret = sampleSecret
  samples_eq : node.networkClock.samples = 0
  verifier_eq : node.verifier = fun _ _ _ => false
  queue_eq : node.cookieCache.queue = q

variable {node : GoatNode 1 1} {q : List (Bytes 32)} {t : UInt64}

theorem Holding.checkCookie (h : Holding node q)
    (hnew : (sampleEcho t).cookie ∉ q) :
    node.checkCookie (sampleEcho t) sampleAddr t
      = .ok () (node.cookieCache.insert (sampleEcho t).cookie) := by
  refine verifyCookieEcho_ok (.inl ?_) ?_ ?_
  · rw [h.samples_eq]
    decide
  · rw [h.secret_eq]
    rfl
  · rw [h.queue_eq]
    exact hnew

theorem demux_echoCall (t : UInt64) :
    demux (echoCall t).raw = .ok (.cookieEcho (sampleEcho t) sampleSignature) :=
  demux_cookieEcho (sampleEcho t) sampleSignature

theorem Holding.spend (h : Holding node q)
    (hnew : (sampleEcho t).cookie ∉ q) :
    node.consumes (echoCall t) = some (sampleEcho t).cookie
      ∧ Holding (node.afterCall (echoCall t)) (Ring.push 1 q (sampleEcho t).cookie) := by
  have hcookie := h.checkCookie hnew
  have hinit : verifyInitiation (sampleEcho t).initiation sampleSignature node.verifier
      = .error .badHandshakeSignature := by
    rw [verifyInitiation_eq, h.verifier_eq]
    exact if_neg Bool.false_ne_true
  have hafter : node.afterCall (echoCall t)
      = { node with cookieCache := node.cookieCache.insert (sampleEcho t).cookie } := by
    rw [GoatNode.afterCall, GoatNode.call_spent (demux_echoCall t) hcookie hinit]
  refine ⟨GoatNode.consumes_of_ok (demux_echoCall t) hcookie, ?_⟩
  rw [hafter]
  refine ⟨h.secret_eq, h.samples_eq, h.verifier_eq, ?_⟩
  rw [← h.queue_eq]
  exact node.cookieCache.queue_insert Nat.zero_lt_one _

theorem Holding.refuse (h : Holding node q)
    (hmem : (sampleEcho t).cookie ∈ q) :
    ∃ e cache, node.checkCookie (sampleEcho t) sampleAddr t = .error e cache := by
  cases hcookie : node.checkCookie (sampleEcho t) sampleAddr t with
  | error e cache => exact ⟨e, cache, rfl⟩
  | ok _ cache =>
      have hnew := (GoatNode.checkCookie_ok hcookie).2
      rw [h.queue_eq] at hnew
      exact absurd hmem hnew

theorem Holding.replay (h : Holding node []) :
    node.consumes (echoCall 1) = some (sampleEcho 1).cookie
      ∧ ((node.afterCall (echoCall 1)).run [echoCall 2]).consumes (echoCall 1)
        = some (sampleEcho 1).cookie
      ∧ ∃ e cache, (node.run [echoCall 1]).checkCookie (sampleEcho 1) sampleAddr 1
        = .error e cache := by
  have hpush₁ : Ring.push 1 [] (sampleEcho 1).cookie = [(sampleEcho 1).cookie] :=
    Ring.push_of_lt Nat.zero_lt_one
  have hpush₂ : Ring.push 1 [(sampleEcho 1).cookie] (sampleEcho 2).cookie
      = [(sampleEcho 2).cookie] := Ring.push_of_full rfl
  obtain ⟨hfirst, h₁⟩ := h.spend (t := 1) List.not_mem_nil
  rw [hpush₁] at h₁
  obtain ⟨-, h₂⟩ := h₁.spend (t := 2) fun hm => sampleCookies_ne (List.mem_singleton.mp hm).symm
  rw [hpush₂] at h₂
  obtain ⟨hagain, -⟩ := h₂.spend (t := 1) fun hm => sampleCookies_ne (List.mem_singleton.mp hm)
  exact ⟨hfirst, hagain, h₁.refuse (List.mem_singleton_self _)⟩

def sampleNode : GoatNode 1 1 :=
  .new sampleSecret (.replicate _ 0) (fun _ _ _ => false) (fun _ _ => false) 0

theorem holding_sampleNode : Holding sampleNode [] := ⟨rfl, rfl, rfl, rfl⟩

theorem cookies_single_use_sample :
    1 ≤ (((sampleNode.afterCall (echoCall 1)).consumed [echoCall 2]).toFinset.erase
        (sampleEcho 1).cookie).card
      ∧ ((sampleNode.run [echoCall 1]).afterCall (echoCall 1)).cookieCache
        = (sampleNode.run [echoCall 1]).cookieCache := by
  obtain ⟨hfirst, hagain, e, cache, hreplay⟩ := holding_sampleNode.replay
  constructor
  · exact (GoatNode.cookies_single_use Nat.zero_lt_one sampleSecret _ _ _ 0 [] sampleNode rfl).1
      (echoCall 1) (echoCall 1) [echoCall 2] (sampleEcho 1).cookie hfirst hagain
  · have hrun : (GoatNode.new sampleSecret (.replicate _ 0) (fun _ _ _ => false) (fun _ _ => false)
        0).run [echoCall 1] = sampleNode.run [echoCall 1] := by
      rw [sampleNode]
    obtain ⟨-, -, hcache, -⟩ := (GoatNode.cookies_single_use Nat.zero_lt_one sampleSecret _ _ _ 0
      [echoCall 1] _ hrun).2 (echoCall 1) (sampleEcho 1) sampleSignature e cache (demux_echoCall 1)
      hreplay
    exact hcache

end GoatCoin
