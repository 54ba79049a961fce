/-
# `GoatCoin.Core.Gossip` — verify-before-forward and the dedup cache of `gossip.rs`

A gossip message is fingerprinted, looked up in a ring of recent fingerprints,
authorised, verified, and only then recorded and forwarded:

    hash_message m ∈ cache               DuplicateMessage
    (key, origin) not registered         UnauthorizedOrigin
    signature does not verify            SignatureSpam
    otherwise                            Ok, and the cache takes (hash, origin)

Only the last line writes, so the validator is one step of a queue machine.  The
cache is the ring of `Lib.Ring` with two arrays; `queue` reads it oldest first,
and `insert` is the `enqueue` of `Lib.QuotaQueue` on that reading
(`queue_insert`).  The window theorem of the library then becomes the dedup
window of the validator, over every run.
-/
import GoatCoin.Lib.QuotaQueue
import GoatCoin.Core.Preimage

namespace GoatCoin

open Wire QuotaQueue

/-- Why a message is not taken. -/
inductive GossipError where
  | duplicateMessage
  | signatureSpam
  | unauthorizedOrigin
  | serialization (e : SerializationError)
deriving DecidableEq

def maxGossipPreimageLen : Nat := capabilityRecordMaxPreimageLen

def maxGossipMessageLen : Nat :=
  maxGossipPreimageLen + mlDsa65PublicKeyLen + mlDsa65SignatureLen

inductive GossipMessage where
  | nodeCapability (rec : SignedRecord CapabilityRecord)
  | telemetryFrame (rec : SignedRecord NetworkDensityFrame)
deriving DecidableEq

/-! ## The message cache -/

abbrev cacheIdentityDivisor : Nat := 8

/-- A ring of `N` fingerprints, each with the origin it is charged to. -/
structure MessageCache (N : Nat) extends Ring.Cursor N where
  hashes : Vector (Bytes 32) N
  origins : Vector (Bytes 32) N

namespace MessageCache
variable {N : Nat}

def new : MessageCache N :=
  { Ring.Cursor.zero with
    hashes := .replicate N (.replicate 32 0)
    origins := .replicate N (.replicate 32 0) }

def perIdentityCap (_ : MessageCache N) : Nat := max (N / cacheIdentityDivisor) 1

/-- The message was seen. -/
def contains (c : MessageCache N) (hash : Bytes 32) : Bool :=
  (c.hashes.toList.take c.filled).any (· == hash)

/-- How many slots an origin has. -/
def countFor (c : MessageCache N) (origin : Bytes 32) : Nat :=
  ((c.origins.toList.take c.filled).filter (· == origin)).length

/-- The first slot of `origin`, in ring order. -/
def oldestSlotOf (c : MessageCache N) (origin : Bytes 32) : Option Nat :=
  let start := if c.filled < N then 0 else c.next
  (List.range c.filled).findSome? fun k =>
    let idx := (start + k) % N
    if c.origins[idx]? == some origin then some idx else none

/-- An origin at its cap overwrites the hash of its own first slot; any other
insertion goes to the cursor.  Without capacity nothing happens. -/
def insert (c : MessageCache N) (hash origin : Bytes 32) : MessageCache N :=
  if h : 0 < N then
    if c.perIdentityCap ≤ c.countFor origin then
      match c.oldestSlotOf origin with
      | some slot => { c with hashes := c.hashes.setIfInBounds slot hash }
      | none => c
    else
      { c.toCursor.step with
        hashes := c.hashes.set c.next hash (c.next_lt h)
        origins := c.origins.set c.next origin (c.next_lt h) }
  else c

def len (c : MessageCache N) : Nat := c.filled

/-! ### The cache as a queue -/

/-- The recorded `(hash, origin)` pairs in ring order. -/
def queue (c : MessageCache N) : List (Bytes 32 × Bytes 32) :=
  (c.view c.hashes).zip (c.view c.origins)

@[simp] theorem queue_new : (new : MessageCache N).queue = [] := rfl

theorem length_queue (c : MessageCache N) : c.queue.length = c.filled := by
  rw [queue, List.length_zip, Ring.Cursor.length_view, Ring.Cursor.length_view, Nat.min_self]

theorem length_queue_le (c : MessageCache N) : c.queue.length ≤ N := by
  rw [c.length_queue]
  exact c.filled_le

theorem keys_queue (c : MessageCache N) : keys c.queue = c.view c.hashes := by
  rw [keys, queue, List.map_fst_zip]
  rw [Ring.Cursor.length_view, Ring.Cursor.length_view]

theorem owners_queue (c : MessageCache N) : c.queue.map Prod.snd = c.view c.origins := by
  rw [queue, List.map_snd_zip]
  rw [Ring.Cursor.length_view, Ring.Cursor.length_view]

theorem contains_iff (c : MessageCache N) {hash : Bytes 32} :
    c.contains hash = true ↔ hash ∈ keys c.queue := by
  rw [keys_queue, (c.view_perm c.hashes).mem_iff, contains, List.any_eq_true]
  simp

theorem countFor_eq_held (c : MessageCache N) (origin : Bytes 32) :
    c.countFor origin = held c.queue origin := by
  have hperm := (c.view_perm c.origins).countP_eq (fun o => decide (o = origin))
  rw [← c.owners_queue, List.countP_map] at hperm
  rw [held, countFor, ← List.countP_eq_length_filter]
  exact hperm.symm

/-- What the search for the oldest slot finds: the slot of the first queue entry
that belongs to `origin`. -/
theorem oldestSlotOf_eq_some {c : MessageCache N} {origin : Bytes 32} {slot : Nat}
    (h : c.oldestSlotOf origin = some slot) :
    ∃ k, k < c.filled ∧ slot = c.slot k ∧ (c.view c.origins)[k]? = some origin
      ∧ ∀ j, j < k → (c.view c.origins)[j]? ≠ some origin := by
  have hfind : c.oldestSlotOf origin = ((List.range c.filled).find?
      (fun k => c.origins[c.slot k]? == some origin)).map c.slot := by
    rw [← List.findSome?_guard, List.map_findSome?]
    refine congrArg (fun f => List.findSome? f _) (funext fun k => ?_)
    by_cases hk : c.origins[c.slot k]? = some origin
    · have hk' : c.origins[((if c.filled < N then 0 else c.next) + k) % N]? = some origin := hk
      simp [hk', Option.guard, Ring.Cursor.slot, Ring.Cursor.start]
    · have hk' : ¬ c.origins[((if c.filled < N then 0 else c.next) + k) % N]? = some origin := hk
      simp [hk, hk', Option.guard]
  rw [hfind, Option.map_eq_some_iff] at h
  obtain ⟨k, hk, rfl⟩ := h
  rw [List.find?_range_eq_some] at hk
  obtain ⟨hk, hmem, hmin⟩ := hk
  have hlt := List.mem_range.mp hmem
  refine ⟨k, hlt, rfl, ?_, ?_⟩
  · rw [Ring.Cursor.getElem?_view _ _ hlt]
    simpa using hk
  · intro j hj
    rw [Ring.Cursor.getElem?_view _ _ (Nat.lt_trans hj hlt)]
    simpa using hmin j hj

theorem oldestSlotOf_eq_none {c : MessageCache N} {origin : Bytes 32}
    (h : c.oldestSlotOf origin = none) : held c.queue origin = 0 := by
  rw [oldestSlotOf, List.findSome?_eq_none_iff] at h
  rw [← countFor_eq_held, countFor, List.length_eq_zero_iff, List.filter_eq_nil_iff]
  intro o ho
  rw [← (c.view_perm c.origins).mem_iff] at ho
  obtain ⟨k, hk, rfl⟩ := List.mem_iff_getElem.mp ho
  have hlt : k < c.filled := by simpa using hk
  have hslot : c.origins[c.slot k]? = some ((c.view c.origins).get ⟨k, hk⟩) := by
    rw [← Ring.Cursor.getElem?_view _ _ hlt]
    exact List.getElem?_eq_getElem hk
  have hne := h k (List.mem_range.mpr hlt)
  intro heq
  have heq : (c.view c.origins).get ⟨k, hk⟩ = origin := by simpa using heq
  rw [heq] at hslot
  have hslot' : c.origins[((if c.filled < N then 0 else c.next) + k) % N]? = some origin := hslot
  simp [hslot'] at hne

/-- **The cache refines the quota queue.** -/
theorem queue_insert (c : MessageCache N) (hN : 0 < N) (hash origin : Bytes 32) :
    (c.insert hash origin).queue = enqueue N c.perIdentityCap c.queue (hash, origin) := by
  rw [insert, dif_pos hN, enqueue, ← countFor_eq_held]
  by_cases hcap : c.perIdentityCap ≤ c.countFor origin
  · rw [if_pos hcap, if_pos hcap]
    cases hslot : c.oldestSlotOf origin with
    | none =>
        have hzero := oldestSlotOf_eq_none hslot
        rw [countFor_eq_held, hzero] at hcap
        have : 0 < c.perIdentityCap := Nat.lt_of_lt_of_le Nat.zero_lt_one (Nat.le_max_right _ _)
        omega
    | some slot =>
        obtain ⟨k, hk, rfl, hown, hmin⟩ := oldestSlotOf_eq_some hslot
        have hset : c.hashes.setIfInBounds (c.slot k) hash
            = c.hashes.set (c.slot k) hash (c.slot_lt hk) := by
          apply Vector.ext
          intro i hi
          rw [Vector.getElem_setIfInBounds, Vector.getElem_set]
        show (c.view (c.hashes.setIfInBounds (c.slot k) hash)).zip (c.view c.origins) = _
        rw [hset, Ring.Cursor.view_set_slot c.toCursor _ _ hk]
        exact (recycle_zip (by simp) hown hmin).symm
  · rw [if_neg hcap, if_neg hcap]
    show (c.toCursor.step.view _).zip (c.toCursor.step.view _) = _
    rw [Ring.Cursor.view_step, Ring.Cursor.view_step]
    exact (Ring.push_zip (by simp) hash origin).symm

theorem nodup_of_insert {c : MessageCache N} (hN : 0 < N) {hash origin : Bytes 32}
    (hnd : (keys c.queue).Nodup) (hnew : hash ∉ keys c.queue) :
    (keys (c.insert hash origin).queue).Nodup := by
  rw [c.queue_insert hN]
  exact nodup_enqueue hnd hnew

end MessageCache

/-! ## The validator -/

/-- What `hash_message` writes to its buffer. -/
def writeMessage : GossipMessage → Write SliceSink Unit
  | .nodeCapability rec => do
      writePreimage rec.payload ctxGoatCapabilityRecord
      put rec.publicKey.toList
      put rec.signature.toList
  | .telemetryFrame rec => do
      writePreimage rec.payload ctxGoatF5Telemetry
      put rec.publicKey.toList
      put rec.signature.toList

/-- What a message is known by. -/
def hashMessage (message : GossipMessage) : Except SerializationError (Bytes 32) :=
  match writeMessage message (SliceSink.stack maxGossipMessageLen) with
  | .ok _ sink => .ok (sha3_256 sink.written)
  | .error e _ => .error e

def validateOriginSigned {α : Type} [CanonicalSerialize α] (payload : α) (identity : Bytes 32)
    (publicKey : PublicKey) (signature : Signature) (ctx : List UInt8)
    (verifier : SignatureVerifier) (registry : KeyRegistry) : Except GossipError Unit :=
  if !registry publicKey identity then .error .unauthorizedOrigin
  else
    match writePreimage payload ctx (SliceSink.stack maxGossipPreimageLen) with
    | .error e _ => .error (.serialization e)
    | .ok _ sink =>
        if !verifier publicKey sink.written signature then .error .signatureSpam else .ok ()

/-- Authorise and verify by variant, and return the identity to charge. -/
def validatedOrigin (message : GossipMessage) (verifier : SignatureVerifier)
    (registry : KeyRegistry) : Except GossipError (Bytes 32) :=
  match message with
  | .nodeCapability rec => do
      validateOriginSigned rec.payload rec.payload.nodeId rec.publicKey rec.signature
        ctxGoatCapabilityRecord verifier registry
      pure rec.payload.nodeId
  | .telemetryFrame rec => do
      validateOriginSigned rec.payload rec.payload.header.endpointPseudonym rec.publicKey
        rec.signature ctxGoatF5Telemetry verifier registry
      pure rec.payload.header.endpointPseudonym

/-- Unseen, signed and authorized. -/
def validateGossipMessage {N : Nat} (message : GossipMessage) (verifier : SignatureVerifier)
    (registry : KeyRegistry) : EStateM GossipError (MessageCache N) Unit := fun cache =>
  match hashMessage message with
  | .error e => .error (.serialization e) cache
  | .ok digest =>
      if cache.contains digest then .error .duplicateMessage cache
      else
        match validatedOrigin message verifier registry with
        | .error e => .error e cache
        | .ok origin => .ok () (cache.insert digest origin)

/-! ### What it computes -/

namespace GossipMessage

/-- The identity a message is charged to. -/
def origin : GossipMessage → Bytes 32
  | nodeCapability rec => rec.payload.nodeId
  | telemetryFrame rec => rec.payload.header.endpointPseudonym

def publicKey : GossipMessage → PublicKey
  | nodeCapability rec => rec.publicKey
  | telemetryFrame rec => rec.publicKey

def signature : GossipMessage → Signature
  | nodeCapability rec => rec.signature
  | telemetryFrame rec => rec.signature

/-- The signed bytes. -/
def signedBytes : GossipMessage → List UInt8
  | nodeCapability rec => preimageBytes rec.payload ctxGoatCapabilityRecord
  | telemetryFrame rec => preimageBytes rec.payload ctxGoatF5Telemetry

/-- The fingerprint. -/
def digest (m : GossipMessage) : Bytes 32 :=
  sha3_256 (m.signedBytes ++ (m.publicKey.toList ++ m.signature.toList))

theorem length_signedBytes_le (m : GossipMessage) :
    m.signedBytes.length ≤ maxGossipPreimageLen := by
  cases m with
  | nodeCapability rec =>
      exact Signable.length_preimage_le (t := .capabilityRecord) rfl rec.payload
  | telemetryFrame rec =>
      exact Signable.length_preimage_le (t := .networkDensityFrame) rfl rec.payload

theorem writes_message (m : GossipMessage) :
    Writes (writeMessage m) (m.signedBytes ++ (m.publicKey.toList ++ m.signature.toList)) := by
  cases m with
  | nodeCapability rec =>
      exact (writesPreimage rec.payload ctxGoatCapabilityRecord).bind
        ((writes_put rec.publicKey.toList).bind (writes_put rec.signature.toList))
  | telemetryFrame rec =>
      exact (writesPreimage rec.payload ctxGoatF5Telemetry).bind
        ((writes_put rec.publicKey.toList).bind (writes_put rec.signature.toList))

theorem hashMessage_eq (m : GossipMessage) : hashMessage m = .ok m.digest := by
  have hlen : (m.signedBytes ++ (m.publicKey.toList ++ m.signature.toList)).length
      ≤ maxGossipMessageLen := by
    rw [List.length_append, List.length_append, List.Vector.toList_length,
      List.Vector.toList_length]
    have := m.length_signedBytes_le
    unfold maxGossipMessageLen
    omega
  obtain ⟨sink, hrun, -, hwritten⟩ := stack_of_writes m.writes_message hlen
  rw [hashMessage, hrun, digest, ← hwritten]

theorem validateOriginSigned_eq {α : Type} [CanonicalSerialize α] [Canonical α] {payload : α}
    {ctx : List UInt8} (hlen : (preimageBytes payload ctx).length ≤ maxGossipPreimageLen)
    (identity : Bytes 32) (publicKey : PublicKey) (signature : Signature)
    (verifier : SignatureVerifier) (registry : KeyRegistry) :
    validateOriginSigned payload identity publicKey signature ctx verifier registry
      = if !registry publicKey identity then .error .unauthorizedOrigin
        else if !verifier publicKey (preimageBytes payload ctx) signature then .error .signatureSpam
        else .ok () := by
  obtain ⟨sink, hrun, -, hwritten⟩ := stack_of_writes (writesPreimage payload ctx) hlen
  rw [validateOriginSigned, hrun, ← hwritten]

theorem validatedOrigin_eq (m : GossipMessage) (verifier : SignatureVerifier)
    (registry : KeyRegistry) :
    validatedOrigin m verifier registry
      = if !registry m.publicKey m.origin then .error .unauthorizedOrigin
        else if !verifier m.publicKey m.signedBytes m.signature then .error .signatureSpam
        else .ok m.origin := by
  have hlen := m.length_signedBytes_le
  cases m with
  | nodeCapability rec =>
      rw [validatedOrigin, validateOriginSigned_eq hlen]
      simp only [origin, publicKey, signature, signedBytes]
      by_cases hreg : registry rec.publicKey rec.payload.nodeId = true
      · by_cases hver : verifier rec.publicKey (preimageBytes rec.payload ctxGoatCapabilityRecord)
            rec.signature = true
        · simp only [hreg, hver]
          rfl
        · simp only [hreg, hver]
          rfl
      · simp only [hreg]
        rfl
  | telemetryFrame rec =>
      rw [validatedOrigin, validateOriginSigned_eq hlen]
      simp only [origin, publicKey, signature, signedBytes]
      by_cases hreg : registry rec.publicKey rec.payload.header.endpointPseudonym = true
      · by_cases hver : verifier rec.publicKey (preimageBytes rec.payload ctxGoatF5Telemetry)
            rec.signature = true
        · simp only [hreg, hver]
          rfl
        · simp only [hreg, hver]
          rfl
      · simp only [hreg]
        rfl

/-- **The validator, unfolded.** -/
theorem validateGossipMessage_eq {N : Nat} (m : GossipMessage) (verifier : SignatureVerifier)
    (registry : KeyRegistry) (cache : MessageCache N) :
    validateGossipMessage m verifier registry cache
      = if cache.contains m.digest then .error .duplicateMessage cache
        else if !registry m.publicKey m.origin then .error .unauthorizedOrigin cache
        else if !verifier m.publicKey m.signedBytes m.signature then .error .signatureSpam cache
        else .ok () (cache.insert m.digest m.origin) := by
  rw [validateGossipMessage, hashMessage_eq, validatedOrigin_eq]
  cases registry m.publicKey m.origin with
  | false => rfl
  | true =>
      cases verifier m.publicKey m.signedBytes m.signature with
      | false => rfl
      | true => rfl

/-- **What the validator can do.**  It either refuses and leaves the cache alone, or
it accepts a message whose digest was absent and records it. -/
theorem validateGossipMessage_cases {N : Nat} (m : GossipMessage) (verifier : SignatureVerifier)
    (registry : KeyRegistry) (cache : MessageCache N) :
    (∃ e, validateGossipMessage m verifier registry cache = .error e cache) ∨
    (validateGossipMessage m verifier registry cache = .ok () (cache.insert m.digest m.origin)
      ∧ m.digest ∉ keys cache.queue) := by
  rw [validateGossipMessage_eq]
  split
  · exact .inl ⟨_, rfl⟩
  · split
    · exact .inl ⟨_, rfl⟩
    · split
      · exact .inl ⟨_, rfl⟩
      · rename_i hnew _ _
        exact .inr ⟨rfl, fun hm => hnew (cache.contains_iff.mpr hm)⟩

end GossipMessage

end GoatCoin
