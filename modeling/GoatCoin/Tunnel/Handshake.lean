/-
# `GoatCoin.Tunnel.Handshake` — one hello, one confirm, and the cache of helloes

`handshake.rs`.  Both messages are signed over all their fields, each under a context of its own,
and a confirm names the hello it answers by a hash over the hello and its signature:

    hello       context ‖ version ‖ identity ‖ ciphertext ‖ three hashes        signed by the node
    transcript  SHA3-256(hello ‖ signature)
    confirm     context ‖ version ‖ identity ‖ transcript                       signed by the gateway
    key         SHA3-256(label ‖ 0 ‖ shared secret ‖ transcript)

A confirm that verifies was made by its gateway for this very hello.  It says that the gateway has
decapsulated, not what: the key to which the node has encapsulated is in neither message, and the
two ends hold one session key exactly as far as that key was the gateway's (`handshake_agreement`).

Signatures and key encapsulation are those of a backend; the gateway's run notes what was signed.
-/
import GoatCoin.Goatd.HostCrypto
import GoatCoin.Lib.Evm
import GoatCoin.Lib.Runs
import GoatCoin.Tunnel.State

namespace GoatCoin.Tunnel

open Wire

/-- The bytes of a string. -/
def asBytes (s : String) : List UInt8 := s.toList.map fun c => UInt8.ofNat c.toNat

def tunnelKdfLabel : List UInt8 := asBytes "GOAT-PROXY-TUNNEL-v1"
def tunnelProtocolVersion : UInt16 := 1
def helloContext : List UInt8 := asBytes "GOAT-PROXY-TUNNEL-HELLO-v1"
def confirmContext : List UInt8 := asBytes "GOAT-PROXY-TUNNEL-CONFIRM-v1"

/-- The key encapsulations. -/
inductive KemSuite where
  | mlKem768
  | classicalX25519
deriving DecidableEq

/-- `PeerKemOffer::select`. -/
def select (offer : List KemSuite) : Except TunnelError KemSuite :=
  if .mlKem768 ∈ offer then .ok .mlKem768 else .error .noPostQuantumKem

/-- What a hello is bound to. -/
structure HelloBinding where
  consentRecordHash : Bytes 32
  policyTextHash : Bytes 32
  allowlistDigest : Bytes 32

structure TunnelHello where
  protocolVersion : UInt16
  nodeIdentityPk : PublicKey
  kemCiphertext : Bytes mlKem768CiphertextLen
  consentRecordHash : Bytes 32
  policyTextHash : Bytes 32
  allowlistDigest : Bytes 32
  signature : Signature
deriving DecidableEq

/-- The answer of the gateway. -/
structure TunnelConfirm where
  protocolVersion : UInt16
  gatewayIdentityPk : PublicKey
  transcriptHash : Bytes 32
  signature : Signature
deriving DecidableEq

/-- What the gateway accepts. -/
structure GatewayPolicy where
  protocolVersion : UInt16
  publishedAllowlistDigests : List (Bytes 32)

def helloPreimage (version : UInt16) (identity : PublicKey)
    (kemCiphertext : Bytes mlKem768CiphertextLen) (binding : HelloBinding) : List UInt8 :=
  helloContext ++ toBE 2 version.toNat ++ identity.toList ++ kemCiphertext.toList
    ++ binding.consentRecordHash.toList ++ binding.policyTextHash.toList
    ++ binding.allowlistDigest.toList

def confirmPreimage (version : UInt16) (gatewayIdentity : PublicKey) (transcriptHash : Bytes 32) :
    List UInt8 :=
  confirmContext ++ toBE 2 version.toNat ++ gatewayIdentity.toList ++ transcriptHash.toList

namespace TunnelHello

def signedPreimage (hello : TunnelHello) : List UInt8 :=
  helloPreimage hello.protocolVersion hello.nodeIdentityPk hello.kemCiphertext
    ⟨hello.consentRecordHash, hello.policyTextHash, hello.allowlistDigest⟩

/-- What the transcript hash is taken of. -/
def transcript (hello : TunnelHello) : List UInt8 := hello.signedPreimage ++ hello.signature.toList

/-- The digest of the hello. -/
def transcriptHash (hello : TunnelHello) : Bytes 32 := sha3_256 hello.transcript

end TunnelHello

def TunnelConfirm.signedPreimage (confirm : TunnelConfirm) : List UInt8 :=
  confirmPreimage confirm.protocolVersion confirm.gatewayIdentityPk confirm.transcriptHash

/-- `SHA3-256(label ‖ 0x00 ‖ shared_secret ‖ transcript_hash)`. -/
def kdf (label : List UInt8) (sharedSecret : Bytes mlKem768SharedSecretLen)
    (transcriptHash : Bytes 32) : Bytes 32 :=
  sha3_256 (label ++ [0] ++ sharedSecret.toList ++ transcriptHash.toList)

/-- The key of a tunnel. -/
def deriveSessionKey (sharedSecret : Bytes mlKem768SharedSecretLen)
    (transcriptHash : Bytes 32) : Bytes 32 :=
  kdf tunnelKdfLabel sharedSecret transcriptHash

/-- `TunnelPqBackend`; encapsulation takes the randomness of the call. -/
class TunnelPqBackend (β : Type) where
  identityPublicKey : β → PublicKey
  sign : β → List UInt8 → Except TunnelError Signature
  verify : β → PublicKey → List UInt8 → Signature → Bool
  encapsulate : β → Bytes mlKem768EncapsKeyLen → Bytes 32 →
    Except TunnelError (Bytes mlKem768CiphertextLen × Bytes mlKem768SharedSecretLen)
  decapsulate : β → Bytes mlKem768CiphertextLen → Except TunnelError (Bytes mlKem768SharedSecretLen)

open TunnelPqBackend

/-! ## The replay cache -/

/-- The helloes that were seen. -/
structure HelloReplayCache where
  seen : Finset (Bytes 32)
  capacity : Nat

def HelloReplayCache.withCapacity (capacity : Nat) : HelloReplayCache := ⟨∅, capacity⟩

/-- `record`: the replay is named before the bound is. -/
def HelloReplayCache.record (cache : HelloReplayCache) (transcriptHash : Bytes 32) :
    Except TunnelError HelloReplayCache :=
  if transcriptHash ∈ cache.seen then .error .replayedHello
  else if cache.capacity ≤ cache.seen.card then .error (.replayCacheFull cache.seen.card)
  else .ok { cache with seen := insert transcriptHash cache.seen }

/-! ## The three steps -/

section
variable {β : Type} [TunnelPqBackend β]

/-- A suite other than ML-KEM-768 is refused again. -/
def requireMlKem (offer : List KemSuite) : Except TunnelError Unit :=
  match select offer with
  | .error e => .error e
  | .ok .mlKem768 => .ok ()
  | .ok .classicalX25519 => .error .noPostQuantumKem

/-- The hello of a node. -/
def initiate (backend : β) (gatewayKemPublic : Bytes mlKem768EncapsKeyLen) (randomness : Bytes 32)
    (offer : List KemSuite) (binding : HelloBinding) :
    Except TunnelError (TunnelHello × Bytes 32) := do
  requireMlKem offer
  let encapsulated ← encapsulate backend gatewayKemPublic randomness
  let nodeIdentityPk := identityPublicKey backend
  let signature ← sign backend
    (helloPreimage tunnelProtocolVersion nodeIdentityPk encapsulated.1 binding)
  let hello : TunnelHello :=
    ⟨tunnelProtocolVersion, nodeIdentityPk, encapsulated.1, binding.consentRecordHash,
      binding.policyTextHash, binding.allowlistDigest, signature⟩
  pure (hello, deriveSessionKey encapsulated.2 hello.transcriptHash)

/-- The checks of `respond` that come before the cache. -/
def checkHello (backend : β) (hello : TunnelHello) (policy : GatewayPolicy) :
    Except TunnelError Unit :=
  if hello.protocolVersion ≠ policy.protocolVersion then
    .error (.protocolVersionMismatch policy.protocolVersion hello.protocolVersion)
  else if hello.consentRecordHash = .replicate 32 0 then .error .zeroConsentRecordHash
  else if hello.policyTextHash = .replicate 32 0 then .error .zeroPolicyTextHash
  else if hello.allowlistDigest ∉ policy.publishedAllowlistDigests then .error
    .unknownAllowlistDigest
  else if !verify backend hello.nodeIdentityPk hello.signedPreimage hello.signature then
    .error .handshakeSignatureInvalid
  else .ok ()

/-- And what comes after it. -/
def confirmHello (backend : β) (hello : TunnelHello) (policy : GatewayPolicy) :
    Except TunnelError (TunnelConfirm × Bytes 32) := do
  let transcriptHash := hello.transcriptHash
  let shared ← decapsulate backend hello.kemCiphertext
  let key := deriveSessionKey shared transcriptHash
  let gatewayIdentityPk := identityPublicKey backend
  let signature ← sign backend
    (confirmPreimage policy.protocolVersion gatewayIdentityPk transcriptHash)
  pure (⟨policy.protocolVersion, gatewayIdentityPk, transcriptHash, signature⟩, key)

/-- The cache is written before the hello is answered. -/
def respond (backend : β) (hello : TunnelHello) (policy : GatewayPolicy)
    (replay : HelloReplayCache) :
    Except TunnelError (TunnelConfirm × Bytes 32) × HelloReplayCache :=
  match checkHello backend hello policy with
  | .error e => (.error e, replay)
  | .ok _ =>
      match replay.record hello.transcriptHash with
      | .error e => (.error e, replay)
      | .ok replay' => (confirmHello backend hello policy, replay')

def verifyConfirm (backend : β) (confirm : TunnelConfirm) (expectedGatewayPk : PublicKey)
    (expectedTranscriptHash : Bytes 32) : Except TunnelError Unit :=
  if confirm.protocolVersion ≠ tunnelProtocolVersion then
    .error (.protocolVersionMismatch tunnelProtocolVersion confirm.protocolVersion)
  else if confirm.gatewayIdentityPk ≠ expectedGatewayPk
      ∨ confirm.transcriptHash ≠ expectedTranscriptHash then .error .handshakeSignatureInvalid
  else if !verify backend confirm.gatewayIdentityPk confirm.signedPreimage confirm.signature then
    .error .handshakeSignatureInvalid
  else .ok ()

end

/-! ## The messages tell their fields -/

theorem toList_append_inj {n : Nat} {a b : Bytes n} {s t : List UInt8}
    (h : a.toList ++ s = b.toList ++ t) : a = b ∧ s = t := by
  obtain ⟨hab, hst⟩ :=
    List.append_inj h (by rw [List.Vector.toList_length, List.Vector.toList_length])
  exact ⟨List.Vector.eq a b hab, hst⟩

theorem toList_inj {n : Nat} {a b : Bytes n} (h : a.toList = b.toList) : a = b :=
  List.Vector.eq a b h

theorem version_append_inj {a b : UInt16} {s t : List UInt8}
    (h : toBE 2 a.toNat ++ s = toBE 2 b.toNat ++ t) : a = b ∧ s = t := by
  obtain ⟨hab, hst⟩ := List.append_inj h (by rw [length_toBE, length_toBE])
  exact ⟨UInt16.toNat_inj.mp (toLE_inj a.toNat_lt b.toNat_lt (List.reverse_injective hab)), hst⟩

/-- **A signature of a hello covers every field of it**, and so does the transcript. -/
theorem TunnelHello.preimage_append_inj {a b : TunnelHello} {s t : List UInt8}
    (h : a.signedPreimage ++ s = b.signedPreimage ++ t) :
    { a with signature := b.signature } = b ∧ s = t := by
  simp only [signedPreimage, helloPreimage, List.append_assoc] at h
  obtain ⟨hversion, h⟩ := version_append_inj (List.append_cancel_left h)
  obtain ⟨hidentity, h⟩ := toList_append_inj h
  obtain ⟨hciphertext, h⟩ := toList_append_inj h
  obtain ⟨hconsent, h⟩ := toList_append_inj h
  obtain ⟨hpolicy, h⟩ := toList_append_inj h
  obtain ⟨hallowlist, h⟩ := toList_append_inj h
  refine ⟨?_, h⟩
  cases a
  cases b
  simp_all

theorem TunnelHello.transcript_inj {a b : TunnelHello}
    (h : a.transcript = b.transcript) : a = b := by
  obtain ⟨hfields, hsignature⟩ := preimage_append_inj h
  rw [← hfields, ← toList_inj hsignature]

theorem confirmPreimage_inj {v w : UInt16} {a b : PublicKey} {s t : Bytes 32}
    (h : confirmPreimage v a s = confirmPreimage w b t) : v = w ∧ a = b ∧ s = t := by
  simp only [confirmPreimage, List.append_assoc] at h
  obtain ⟨hversion, h⟩ := version_append_inj (List.append_cancel_left h)
  obtain ⟨hidentity, h⟩ := toList_append_inj h
  exact ⟨hversion, hidentity, toList_inj h⟩

/-! ## The run of a gateway -/

/-- A hello that was answered. -/
structure Acceptance where
  policy : GatewayPolicy
  hello : TunnelHello
  confirm : TunnelConfirm
  key : Bytes 32

/-- A gateway process: its cache, what it has answered and what its key has signed. -/
structure Gateway where
  cache : HelloReplayCache
  accepted : List Acceptance
  signed : List (List UInt8 × Signature)

namespace Gateway
variable {β : Type} [TunnelPqBackend β]

def new (capacity : Nat) : Gateway := ⟨.withCapacity capacity, [], []⟩

/-- What `respond` has its key sign. -/
def signing (backend : β) (hello : TunnelHello) (policy : GatewayPolicy)
    (replay : HelloReplayCache) : Option (List UInt8 × Signature) :=
  match checkHello backend hello policy, replay.record hello.transcriptHash,
      decapsulate backend hello.kemCiphertext with
  | .ok _, .ok _, .ok _ =>
      let message :=
        confirmPreimage policy.protocolVersion (identityPublicKey backend) hello.transcriptHash
      (sign backend message).toOption.map fun signature => (message, signature)
  | _, _, _ => none

/-- One hello, under the policy of the moment. -/
def next (backend : β) (s : Gateway) (call : GatewayPolicy × TunnelHello) : Gateway :=
  let (answer, cache) := respond backend call.2 call.1 s.cache
  { cache
    accepted := s.accepted ++ (answer.toOption.map fun a => ⟨call.1, call.2, a.1, a.2⟩).toList
    signed := s.signed ++ (signing backend call.2 call.1 s.cache).toList }

theorem checkHello_ok {backend : β} {hello : TunnelHello} {policy : GatewayPolicy}
    (h : checkHello backend hello policy = .ok ()) :
    hello.protocolVersion = policy.protocolVersion ∧ hello.consentRecordHash ≠ .replicate 32 0
      ∧ hello.policyTextHash ≠ .replicate 32 0
      ∧ hello.allowlistDigest ∈ policy.publishedAllowlistDigests
      ∧ verify backend hello.nodeIdentityPk hello.signedPreimage hello.signature = true := by
  unfold checkHello at h
  split_ifs at h with hversion hconsent hpolicy hallowlist hsignature
  exact ⟨not_not.mp hversion, hconsent, hpolicy, hallowlist, by simpa using hsignature⟩

theorem record_ok {cache cache' : HelloReplayCache} {t : Bytes 32}
    (h : cache.record t = .ok cache') :
    t ∉ cache.seen ∧ cache.seen.card < cache.capacity
      ∧ cache' = { cache with seen := insert t cache.seen } := by
  unfold HelloReplayCache.record at h
  split_ifs at h with hseen hfull
  cases h
  exact ⟨hseen, Nat.lt_of_not_le hfull, rfl⟩

/-- What one hello does to a gateway. -/
inductive Effect (backend : β) (s : Gateway) (policy : GatewayPolicy)
    (hello : TunnelHello) : Gateway → Prop
  | refused : Effect backend s policy hello s
  | spent (hnew : hello.transcriptHash ∉ s.cache.seen)
    (hroom : s.cache.seen.card < s.cache.capacity) :
      Effect backend s policy hello
        { s with cache := { s.cache with seen := insert hello.transcriptHash s.cache.seen } }
  | accepted {shared : Bytes mlKem768SharedSecretLen} {signature : Signature}
      (hnew : hello.transcriptHash ∉ s.cache.seen) (hroom : s.cache.seen.card < s.cache.capacity)
      (hcheck : checkHello backend hello policy = .ok ())
      (hshared : decapsulate backend hello.kemCiphertext = .ok shared) :
      Effect backend s policy hello
        { cache := { s.cache with seen := insert hello.transcriptHash s.cache.seen }
          accepted :=
    s.accepted ++ [⟨policy, hello, ⟨policy.protocolVersion, identityPublicKey backend,
            hello.transcriptHash, signature⟩, deriveSessionKey shared hello.transcriptHash⟩]
          signed := s.signed ++ [(confirmPreimage policy.protocolVersion (identityPublicKey backend)
            hello.transcriptHash, signature)] }

/-- **One hello**: refused, recorded and not answered, or answered. -/
theorem next_effect (backend : β) (s : Gateway) (policy : GatewayPolicy) (hello : TunnelHello) :
    Effect backend s policy hello (s.next backend (policy, hello)) := by
  unfold next respond signing
  cases hcheck : checkHello backend hello policy with
  | error e =>
      dsimp only [Except.toOption, Option.map, Option.toList]
      rw [List.append_nil, List.append_nil]
      exact .refused
  | ok _ =>
      cases hrecord : s.cache.record hello.transcriptHash with
      | error e =>
          dsimp only [Except.toOption, Option.map, Option.toList]
          rw [List.append_nil, List.append_nil]
          exact .refused
      | ok cache =>
          obtain ⟨hnew, hroom, rfl⟩ := record_ok hrecord
          unfold confirmHello
          cases hshared : decapsulate backend hello.kemCiphertext with
          | error e =>
              have heffect := @Effect.spent β _ backend s policy hello hnew hroom
              simpa [bind, Except.bind, Except.toOption] using heffect
          | ok shared =>
              cases hsign :
                sign backend (confirmPreimage policy.protocolVersion (identityPublicKey backend)
                  hello.transcriptHash) with
              | error e =>
                  have heffect := @Effect.spent β _ backend s policy hello hnew hroom
                  simpa [bind, Except.bind, Except.toOption, hsign] using heffect
              | ok signature =>
                  have heffect :=
                    @Effect.accepted β _ backend s policy hello shared signature hnew hroom
                    hcheck hshared
                  simpa [bind, Except.bind, pure, Except.pure, Except.toOption, hsign] using heffect

theorem next_accepted {backend : β} {s : Gateway} {policy : GatewayPolicy} {hello : TunnelHello}
    {shared : Bytes mlKem768SharedSecretLen} {signature : Signature}
    (hnew : hello.transcriptHash ∉ s.cache.seen) (hroom : s.cache.seen.card < s.cache.capacity)
    (hcheck : checkHello backend hello policy = .ok ())
    (hshared : decapsulate backend hello.kemCiphertext = .ok shared)
    (hsign : sign backend (confirmPreimage policy.protocolVersion (identityPublicKey backend)
      hello.transcriptHash) = .ok signature) :
    s.next backend (policy, hello)
      = { cache := { s.cache with seen := insert hello.transcriptHash s.cache.seen }
          accepted :=
            s.accepted ++ [⟨policy, hello, ⟨policy.protocolVersion, identityPublicKey backend,
            hello.transcriptHash, signature⟩, deriveSessionKey shared hello.transcriptHash⟩]
          signed := s.signed ++ [(confirmPreimage policy.protocolVersion (identityPublicKey backend)
            hello.transcriptHash, signature)] } := by
  have hrecord : s.cache.record hello.transcriptHash
      = .ok { s.cache with seen := insert hello.transcriptHash s.cache.seen } := by
    rw [HelloReplayCache.record, if_neg hnew, if_neg (Nat.not_le.mpr hroom)]
  unfold next respond signing confirmHello
  rw [hcheck, hrecord, hshared]
  simp [bind, Except.bind, pure, Except.pure, Except.toOption, hsign]

/-- What is true of a gateway at every moment of its run. -/
structure Sound (backend : β) (capacity : Nat) (s : Gateway) : Prop where
  room : s.cache.capacity = capacity
  bounded : s.cache.seen.card ≤ capacity
  once : (s.accepted.map (·.hello.transcriptHash)).Nodup
  tracked : ∀ a ∈ s.accepted, a.hello.transcriptHash ∈ s.cache.seen
  checked : ∀ a ∈ s.accepted, checkHello backend a.hello a.policy = .ok ()
  keyed : ∀ a ∈ s.accepted, ∃ shared, decapsulate backend a.hello.kemCiphertext = .ok shared
    ∧ a.key = deriveSessionKey shared a.hello.transcriptHash
  answered : ∀ a ∈ s.accepted, a.confirm.transcriptHash = a.hello.transcriptHash
  /-- The key has signed confirms, and nothing else. -/
  signs : ∀ m ∈ s.signed, ∃ a ∈ s.accepted, m = (a.confirm.signedPreimage, a.confirm.signature)

theorem sound_new (backend : β) (capacity : Nat) : Sound backend capacity (new capacity) where
  room := rfl
  bounded := Nat.zero_le capacity
  once := List.nodup_nil
  tracked := fun _ h => absurd h List.not_mem_nil
  checked := fun _ h => absurd h List.not_mem_nil
  keyed := fun _ h => absurd h List.not_mem_nil
  answered := fun _ h => absurd h List.not_mem_nil
  signs := fun _ h => absurd h List.not_mem_nil

/-- **One hello keeps a gateway sound.** -/
theorem Sound.next {backend : β} {capacity : Nat} {s : Gateway} (h : Sound backend capacity s)
    (call : GatewayPolicy × TunnelHello) : Sound backend capacity (s.next backend call) := by
  obtain ⟨policy, hello⟩ := call
  generalize hnext : s.next backend (policy, hello) = s'
  have heffect := next_effect backend s policy hello
  rw [hnext] at heffect
  have hinsert : hello.transcriptHash ∉ s.cache.seen → s.cache.seen.card < s.cache.capacity →
      (insert hello.transcriptHash s.cache.seen).card ≤ capacity := by
    intro hnew hroom
    rw [Finset.card_insert_of_notMem hnew, ← h.room]
    exact hroom
  cases heffect with
  | refused => exact h
  | spent hnew hroom =>
      exact { h with
        bounded := hinsert hnew hroom
        tracked := fun a ha => Finset.mem_insert_of_mem (h.tracked a ha) }
  | @accepted shared signature hnew hroom hcheck hshared =>
      have hlast : ∀ {P : Acceptance → Prop}, (∀ a ∈ s.accepted, P a) →
          P ⟨policy, hello,
            ⟨policy.protocolVersion, identityPublicKey backend, hello.transcriptHash, signature⟩,
            deriveSessionKey shared hello.transcriptHash⟩ →
          ∀ a ∈ s.accepted ++ [⟨policy, hello, ⟨policy.protocolVersion, identityPublicKey backend,
            hello.transcriptHash, signature⟩, deriveSessionKey shared hello.transcriptHash⟩],
            P a := by
        intro P hall hone a ha
        rcases List.mem_append.mp ha with ha | ha
        · exact hall a ha
        · rwa [List.mem_singleton.mp ha]
      constructor
      · exact h.room
      · exact hinsert hnew hroom
      · -- a transcript that was answered before is in the cache
        rw [List.map_append, List.nodup_append]
        refine ⟨h.once, List.nodup_singleton _, fun t ht t' ht' heq => ?_⟩
        obtain ⟨a, ha, rfl⟩ := List.mem_map.mp ht
        rw [List.mem_map] at ht'
        obtain ⟨a', ha', rfl⟩ := ht'
        rw [List.mem_singleton.mp ha'] at heq
        exact hnew (heq ▸ h.tracked a ha)
      · exact hlast (fun a ha => Finset.mem_insert_of_mem (h.tracked a ha))
          (Finset.mem_insert_self _ _)
      · exact hlast h.checked hcheck
      · exact hlast h.keyed ⟨shared, hshared, rfl⟩
      · exact hlast h.answered rfl
      · intro m hm
        rcases List.mem_append.mp hm with hm | hm
        · obtain ⟨a, ha, heq⟩ := h.signs m hm
          exact ⟨a, List.mem_append_left _ ha, heq⟩
        · exact ⟨_, List.mem_append_right _ List.mem_cons_self, List.mem_singleton.mp hm⟩

theorem sound_run (backend : β) (capacity : Nat) (calls : List (GatewayPolicy × TunnelHello)) :
    Sound backend capacity (calls.foldl (next backend) (new capacity)) :=
  Runs.invariant (fun _ call h => h.next call) calls _ (sound_new backend capacity)

theorem next_unchecked {backend : β} {hello : TunnelHello} {policy : GatewayPolicy}
    (h : checkHello backend hello policy ≠ .ok ()) (s : Gateway) :
    (s.next backend (policy, hello)).cache = s.cache := by
  unfold next respond
  cases hcheck : checkHello backend hello policy with
  | error e => rfl
  | ok _ => exact absurd hcheck h

end Gateway

/-! ## Agreement -/

section
variable {β γ : Type} [TunnelPqBackend β] [TunnelPqBackend γ]

theorem verifyConfirm_ok {node : γ} {confirm : TunnelConfirm} {pk : PublicKey} {t : Bytes 32}
    (h : verifyConfirm node confirm pk t = .ok ()) :
    confirm.gatewayIdentityPk = pk ∧ confirm.transcriptHash = t
      ∧ verify node pk confirm.signedPreimage confirm.signature = true := by
  unfold verifyConfirm at h
  split_ifs at h with hversion hnames hsignature
  obtain ⟨hpk, ht⟩ := not_or.mp hnames
  have hpk := not_not.mp hpk
  exact ⟨hpk, not_not.mp ht, hpk ▸ (by simpa using hsignature)⟩

theorem initiate_ok {node : γ} {kemPublic : Bytes mlKem768EncapsKeyLen} {randomness : Bytes 32}
    {offer : List KemSuite} {binding : HelloBinding} {hello : TunnelHello} {key : Bytes 32}
    (h : initiate node kemPublic randomness offer binding = .ok (hello, key)) :
    ∃ shared, encapsulate node kemPublic randomness = .ok (hello.kemCiphertext, shared)
      ∧ key = deriveSessionKey shared hello.transcriptHash := by
  obtain ⟨_, -, h⟩ := Evm.bind_ok.mp h
  obtain ⟨⟨ciphertext, shared⟩, henc, h⟩ := Evm.bind_ok.mp h
  obtain ⟨signature, -, h⟩ := Evm.bind_ok.mp h
  cases h
  exact ⟨shared, henc, rfl⟩

/-- The key a node encapsulates to is the gateway's: what it gets, the gateway decapsulates. -/
def KemPair (gateway : β) (node : γ) (kemPublic : Bytes mlKem768EncapsKeyLen) : Prop :=
  ∀ randomness ciphertext shared, encapsulate node kemPublic randomness = .ok (ciphertext, shared) →
    decapsulate gateway ciphertext = .ok shared

/-- **The handshake**, over every run of a gateway on whatever helloes, and for every node that a
confirm verifies for.  That the confirm was signed by the gateway if it verifies, and that SHA3-256
has no collision between this hello and the answered ones, is what the primitives are trusted
with. -/
theorem handshake_agreement (gateway : β) (capacity : Nat)
    (calls : List (GatewayPolicy × TunnelHello)) :
    let s := calls.foldl (Gateway.next gateway) (.new capacity)
    ((s.accepted.map (·.hello.transcriptHash)).Nodup ∧ s.cache.seen.card ≤ capacity
        ∧ (∀ a ∈ s.accepted, a.hello.transcriptHash ∈ s.cache.seen)
        ∧ (∀ policy hello, checkHello gateway hello policy ≠ .ok () →
          (s.next gateway (policy, hello)).cache = s.cache)
        ∧ ∀ a ∈ s.accepted,
          verify gateway a.hello.nodeIdentityPk a.hello.signedPreimage a.hello.signature = true
            ∧ (∀ other : TunnelHello, other.signedPreimage = a.hello.signedPreimage →
              { other with signature := a.hello.signature } = a.hello)
            ∧ a.hello.protocolVersion = a.policy.protocolVersion
            ∧ a.hello.allowlistDigest ∈ a.policy.publishedAllowlistDigests
            ∧ a.hello.consentRecordHash ≠ .replicate 32 0
            ∧ a.hello.policyTextHash ≠ .replicate 32 0)
      ∧ ∀ (node : γ) (kemPublic : Bytes mlKem768EncapsKeyLen) (randomness : Bytes 32)
        (offer : List KemSuite)
          (binding : HelloBinding) (hello : TunnelHello) (key : Bytes 32) (confirm : TunnelConfirm),
        initiate node kemPublic randomness offer binding = .ok (hello, key) →
        (verify node (identityPublicKey gateway) confirm.signedPreimage confirm.signature = true →
          (confirm.signedPreimage, confirm.signature) ∈ s.signed) →
        (∀ a ∈ s.accepted, sha3_256 a.hello.transcript = sha3_256 hello.transcript →
          a.hello.transcript = hello.transcript) →
        verifyConfirm node confirm (identityPublicKey gateway) hello.transcriptHash = .ok () →
        ∃ a ∈ s.accepted, a.confirm = confirm ∧ a.hello = hello
          ∧ a.confirm.transcriptHash = hello.transcriptHash
          ∧ (KemPair gateway node kemPublic → a.key = key) := by
  intro s
  have hsound : Gateway.Sound gateway capacity s := Gateway.sound_run gateway capacity calls
  refine ⟨⟨hsound.once, hsound.bounded, hsound.tracked,
    fun policy hello hcheck => Gateway.next_unchecked hcheck s, fun a ha => ?_⟩, ?_⟩
  · obtain ⟨hversion, hconsent, hpolicy, hallowlist, hsignature⟩ :=
      Gateway.checkHello_ok (hsound.checked a ha)
    refine ⟨hsignature, fun other hother => ?_, hversion, hallowlist, hconsent, hpolicy⟩
    exact (TunnelHello.preimage_append_inj (s := []) (t := []) (by rw [hother])).1
  · intro node kemPublic randomness offer binding hello key confirm hinit hunforged hfree hverify
    obtain ⟨hpk, htranscript, hsignature⟩ := verifyConfirm_ok hverify
    obtain ⟨a, ha, hsigned⟩ := hsound.signs _ (hunforged hsignature)
    obtain ⟨hmessage, hsig⟩ := Prod.mk.inj hsigned
    obtain ⟨hversion, hidentity, hhash⟩ := confirmPreimage_inj hmessage
    have hconfirm : a.confirm = confirm := by
      obtain ⟨v, pk, t, sig⟩ := confirm
      obtain ⟨policy, hello', ⟨v', pk', t', sig'⟩, key'⟩ := a
      simp_all
    -- the gateway has answered a hello with this transcript, which is this hello
    have hsame : a.hello.transcriptHash = hello.transcriptHash := by
      rw [← hsound.answered a ha, hconfirm, htranscript]
    have hhello : a.hello = hello := TunnelHello.transcript_inj (hfree a ha hsame)
    refine ⟨a, ha, hconfirm, hhello, by rw [hconfirm, htranscript], fun hkem => ?_⟩
    obtain ⟨shared, henc, rfl⟩ := initiate_ok hinit
    obtain ⟨shared', hdec, hkey⟩ := hsound.keyed a ha
    have hopen := hkem randomness _ _ henc
    rw [hhello, hopen] at hdec
    cases hdec
    rw [hkey, hhello]

end

/-! Two parties whose signatures are their names, and a key encapsulation whose secret is the first
byte of the key. -/

structure SampleParty where
  name : UInt8
  kem : UInt8

def sampleIdentity (name : UInt8) : PublicKey := .replicate _ name
def sampleSignature (name : UInt8) : Signature := .replicate _ name
def sampleBinding : HelloBinding := ⟨.replicate 32 1, .replicate 32 1, .replicate 32 1⟩

def sampleHello : TunnelHello :=
  ⟨1, sampleIdentity 1, .replicate _ 9, .replicate 32 1, .replicate 32 1, .replicate 32 1,
    sampleSignature 1⟩

def sampleConfirm : TunnelConfirm :=
  ⟨1, sampleIdentity 2, sampleHello.transcriptHash, sampleSignature 2⟩

/-- What verifies: the hello of the one and the confirm of the other. -/
def SampleSigned (pk : PublicKey) (message : List UInt8) (signature : Signature) : Prop :=
  pk = sampleIdentity 1 ∧ message = sampleHello.signedPreimage ∧ signature = sampleSignature 1
    ∨ pk = sampleIdentity 2 ∧ message = sampleConfirm.signedPreimage ∧ signature = sampleSignature 2

instance (pk : PublicKey) (message : List UInt8) (signature : Signature) :
    Decidable (SampleSigned pk message signature) := inferInstanceAs (Decidable (_ ∨ _))

instance : TunnelPqBackend SampleParty where
  identityPublicKey p := sampleIdentity p.name
  sign p _ := .ok (sampleSignature p.name)
  verify _ pk message signature := decide (SampleSigned pk message signature)
  encapsulate _ key _ := .ok (.replicate _ 9, .replicate _ (key.toList.headD 0))
  decapsulate p _ := .ok (.replicate _ p.kem)

def samplePolicy : GatewayPolicy := ⟨1, [.replicate 32 1]⟩

/-- The gateway that has seen the hello. -/
def sampleGateway (kem : UInt8) : Gateway :=
  Gateway.next (⟨2, kem⟩ : SampleParty) (.new 1) (samplePolicy, sampleHello)

theorem sample_checked (kem : UInt8) :
    checkHello (⟨2, kem⟩ : SampleParty) sampleHello samplePolicy = .ok () := by
  have hverify :
    verify (⟨2, kem⟩ : SampleParty) sampleHello.nodeIdentityPk sampleHello.signedPreimage
      sampleHello.signature = true := decide_eq_true (.inl ⟨rfl, rfl, rfl⟩)
  rw [checkHello, if_neg (by decide), if_neg (by decide), if_neg (by decide),
    if_neg (by decide), hverify]
  rfl

theorem sampleGateway_eq (kem : UInt8) :
    (sampleGateway kem).accepted = [⟨samplePolicy, sampleHello, sampleConfirm,
        deriveSessionKey (.replicate _ kem) sampleHello.transcriptHash⟩]
      ∧ (sampleGateway kem).signed = [(sampleConfirm.signedPreimage, sampleSignature 2)] := by
  have hnext := @Gateway.next_accepted SampleParty _ ⟨2, kem⟩ (.new 1) samplePolicy sampleHello _ _
    (Finset.notMem_empty _) Nat.one_pos (sample_checked kem) rfl rfl
  rw [sampleGateway, hnext]
  exact ⟨rfl, rfl⟩

theorem sample_initiated (key : UInt8) :
    initiate (⟨1, 0⟩ : SampleParty) (.replicate _ key) (.replicate 32 0) [.mlKem768] sampleBinding
      = .ok (sampleHello, deriveSessionKey (.replicate _ key) sampleHello.transcriptHash) := rfl

theorem sample_verified (kem : UInt8) : verifyConfirm (⟨1, 0⟩ : SampleParty) sampleConfirm
    (identityPublicKey (⟨2, kem⟩ : SampleParty)) sampleHello.transcriptHash = .ok () := by
  have hverify :
    verify (⟨1, 0⟩ : SampleParty) sampleConfirm.gatewayIdentityPk sampleConfirm.signedPreimage
      sampleConfirm.signature = true := decide_eq_true (.inr ⟨rfl, rfl, rfl⟩)
  have hnames : ¬ (sampleConfirm.gatewayIdentityPk ≠ identityPublicKey (⟨2, kem⟩ : SampleParty)
      ∨ sampleConfirm.transcriptHash ≠ sampleHello.transcriptHash) := by
    rintro (h | h) <;> exact h rfl
  rw [verifyConfirm, if_neg (by decide), if_neg hnames, hverify]
  rfl

theorem sample_unforged (kem : UInt8) :
    (sampleConfirm.signedPreimage, sampleConfirm.signature) ∈ (sampleGateway kem).signed := by
  rw [(sampleGateway_eq kem).2]
  exact List.mem_cons_self

/-- To the key of the gateway: the two hold one session key. -/
theorem handshake_agreement_sample : ∃ a ∈ (sampleGateway 3).accepted, a.confirm = sampleConfirm
    ∧ a.hello = sampleHello
    ∧ a.key = deriveSessionKey (.replicate _ 3) sampleHello.transcriptHash := by
  have hkem : KemPair (⟨2, 3⟩ : SampleParty) (⟨1, 0⟩ : SampleParty) (.replicate _ 3) := by
    intro randomness ciphertext shared h
    cases h
    rfl
  have hrun : [(samplePolicy, sampleHello)].foldl (Gateway.next (⟨2, 3⟩ : SampleParty)) (.new 1)
      = sampleGateway 3 := by
    rw [List.foldl_cons, List.foldl_nil, sampleGateway]
  have hagree := (handshake_agreement (⟨2, 3⟩ : SampleParty) 1 [(samplePolicy, sampleHello)]).2
    (⟨1, 0⟩ : SampleParty) (.replicate _ 3) (.replicate 32 0)
      [.mlKem768] sampleBinding sampleHello _
    sampleConfirm (sample_initiated 3)
  rw [hrun] at hagree
  obtain ⟨a, ha, hconfirm, hhello, -, hkey⟩ := hagree (fun _ => sample_unforged 3) (fun a ha _ => by
    rw [(sampleGateway_eq 3).1, List.mem_singleton] at ha
    rw [ha]) (sample_verified 3)
  exact ⟨a, ha, hconfirm, hhello, hkey hkem⟩

/-- What the session key is the hash of. -/
def sampleKdfInput (secret : UInt8) : List UInt8 :=
  tunnelKdfLabel ++ [0] ++ (.replicate _ secret : Bytes mlKem768SharedSecretLen).toList
    ++ sampleHello.transcriptHash.toList

/-- To another key: the confirm verifies, the gateway has made it for this hello, and the two hold
different session keys, unless SHA3-256 collides on them. -/
theorem foreign_kem_key :
    initiate (⟨1, 0⟩ : SampleParty) (.replicate _ 3) (.replicate 32 0) [.mlKem768] sampleBinding
        = .ok (sampleHello, deriveSessionKey (.replicate _ 3) sampleHello.transcriptHash)
      ∧ verifyConfirm (⟨1, 0⟩ : SampleParty) sampleConfirm
        (identityPublicKey (⟨2, 4⟩ : SampleParty))
        sampleHello.transcriptHash = .ok ()
      ∧ (sampleGateway 4).accepted = [⟨samplePolicy, sampleHello, sampleConfirm,
        deriveSessionKey (.replicate _ 4) sampleHello.transcriptHash⟩]
      ∧ ((sha3_256 (sampleKdfInput 3) = sha3_256 (sampleKdfInput 4) →
          sampleKdfInput 3 = sampleKdfInput 4) →
        deriveSessionKey (.replicate _ 3) sampleHello.transcriptHash
          ≠ deriveSessionKey (.replicate _ 4) sampleHello.transcriptHash) := by
  refine ⟨sample_initiated 3, sample_verified 4, (sampleGateway_eq 4).1, fun hfree heq => ?_⟩
  have hinput := hfree heq
  simp only [sampleKdfInput, List.append_assoc] at hinput
  have hsecret := toList_append_inj (List.append_cancel_left (List.append_cancel_left hinput))
  exact absurd hsecret.1 (by decide)

end GoatCoin.Tunnel
