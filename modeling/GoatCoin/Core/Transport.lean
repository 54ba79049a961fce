/-
# `GoatCoin.Core.Transport` — handshake messages, cookies and the network clock of `transport.rs`

The responder's side of the handshake is stateless up to three small records:
the ring of consumed cookies, the ring of peer clock samples, and the node
secret that keys the cookie MAC.  A returned cookie passes three gates, in this
order, and only the last one writes:

    freshness     against the median network clock, once it has a quorum
    address MAC   HMAC-SHA3-256(node_secret, peer_addr ‖ timestamp)
    single use    absent from the ring, then recorded in it

`verifyCookieEcho` runs in `EStateM` over the ring, so that a refusal carries the
ring it leaves behind.
-/
import GoatCoin.Lib.Ring
import GoatCoin.Core.Crypto
import GoatCoin.Core.Sha3

namespace GoatCoin

open Wire

abbrev mlKem768EncapsKeyLen : Nat := 1184
abbrev mlKem768CiphertextLen : Nat := 1088
abbrev peerAddrLen : Nat := 16

abbrev PeerAddr := Bytes peerAddrLen

def maxCookieAgeSecs : UInt64 := 60
abbrev networkTimeWindow : Nat := 16
def maxClockSkewSecs : Int := 300
def clockFutureToleranceSecs : UInt64 := 5
def bootstrapQuorum : Nat := 3
abbrev hmacBlock : Nat := 136

/-- Why the transport refuses. -/
inductive TransportError where
  | bufferTooSmall
  | decryptionFailed
  | nonceExhausted
  | badHandshakeSignature
  | invalidCookie
  | cookieExpired
  | cookieReplayed
  | serialization (e : SerializationError)
deriving DecidableEq

/-! ## Handshake messages -/

structure HandshakeInitiation where
  initiatorIdentity : PublicKey
  ephemeralKemPk : Bytes mlKem768EncapsKeyLen
  epoch : Epoch
  localTime : UInt64
  nonce : Bytes 32
deriving DecidableEq

structure HandshakeResponse where
  responderIdentity : PublicKey
  kemCiphertext : Bytes mlKem768CiphertextLen
  epoch : Epoch
  localTime : UInt64
  nonce : Bytes 32
deriving DecidableEq

instance : CanonicalSerialize HandshakeInitiation where
  serializeInto i := do
    put i.initiatorIdentity.toList
    put i.ephemeralKemPk.toList
    put (toLE 8 i.epoch.toNat)
    put (toLE 8 i.localTime.toNat)
    put i.nonce.toList

instance : CanonicalSerialize HandshakeResponse where
  serializeInto r := do
    put r.responderIdentity.toList
    put r.kemCiphertext.toList
    put (toLE 8 r.epoch.toNat)
    put (toLE 8 r.localTime.toNat)
    put r.nonce.toList

def handshakeInitiationBodyLen : Nat := mlDsa65PublicKeyLen + mlKem768EncapsKeyLen + 8 + 8 + 32
def handshakeInitiationMaxPreimageLen : Nat :=
  handshakeInitiationBodyLen + 1 + ctxGoatTransportHs.length + chainIdLen

def handshakeResponseBodyLen : Nat := mlDsa65PublicKeyLen + mlKem768CiphertextLen + 8 + 8 + 32
def handshakeResponseMaxPreimageLen : Nat :=
  handshakeResponseBodyLen + 1 + ctxGoatTransportHs.length + chainIdLen

section
variable {σ : Type} [ByteSink σ]

def HandshakeInitiation.writeSigningPreimage (i : HandshakeInitiation) : Write σ Unit :=
  writePreimage i ctxGoatTransportHs

def HandshakeResponse.writeSigningPreimage (r : HandshakeResponse) : Write σ Unit :=
  writePreimage r ctxGoatTransportHs

end

def verifyInitiation (init : HandshakeInitiation) (signature : Signature)
    (verifier : SignatureVerifier) : Except TransportError Unit :=
  match init.writeSigningPreimage (SliceSink.stack handshakeInitiationMaxPreimageLen) with
  | .error e _ => .error (.serialization e)
  | .ok _ sink =>
      if verifier init.initiatorIdentity sink.written signature then .ok ()
      else .error .badHandshakeSignature

def verifyResponse (resp : HandshakeResponse) (signature : Signature)
    (verifier : SignatureVerifier) : Except TransportError Unit :=
  match resp.writeSigningPreimage (SliceSink.stack handshakeResponseMaxPreimageLen) with
  | .error e _ => .error (.serialization e)
  | .ok _ sink =>
      if verifier resp.responderIdentity sink.written signature then .ok ()
      else .error .badHandshakeSignature

/-! ## The single-use cookie ring -/

/-- A FIFO ring of `N` consumed cookies. -/
structure CookieCache (N : Nat) extends Ring.Cursor N where
  cookies : Vector (Bytes 32) N

namespace CookieCache
variable {N : Nat}

def new : CookieCache N := { Ring.Cursor.zero with cookies := .replicate N (.replicate 32 0) }

def contains (c : CookieCache N) (cookie : Bytes 32) : Bool :=
  (c.cookies.toList.take c.filled).any (· == cookie)

/-- Record a cookie, evicting the oldest once full.  Without capacity nothing happens. -/
def insert (c : CookieCache N) (cookie : Bytes 32) : CookieCache N :=
  if h : 0 < N then
    { c.toCursor.step with cookies := c.cookies.set c.next cookie (c.next_lt h) }
  else c

def len (c : CookieCache N) : Nat := c.filled

/-- The consumed cookies, oldest first. -/
def queue (c : CookieCache N) : List (Bytes 32) := c.view c.cookies

theorem contains_iff (c : CookieCache N) {cookie : Bytes 32} :
    c.contains cookie = true ↔ cookie ∈ c.queue := by
  rw [queue, (c.view_perm c.cookies).mem_iff, contains, List.any_eq_true]
  simp

theorem queue_insert (c : CookieCache N) (hN : 0 < N) (cookie : Bytes 32) :
    (c.insert cookie).queue = Ring.push N c.queue cookie := by
  rw [insert, dif_pos hN]
  exact c.view_step c.cookies cookie (c.next_lt hN)

@[simp] theorem queue_new : (new : CookieCache N).queue = [] := rfl

theorem length_queue_le (c : CookieCache N) : c.queue.length ≤ N := by
  rw [queue, Ring.Cursor.length_view]
  exact c.filled_le

end CookieCache

/-! ## The median network clock -/

/-- `x as i64`. -/
def asI64 (x : UInt64) : Int := x.toInt64.toInt

/-- `i64` saturation. -/
def satI64 (x : Int) : Int := max (-2 ^ 63) (min x (2 ^ 63 - 1))

/-- `u64::saturating_add`. -/
def saturatingAdd (a : UInt64) (b : Nat) : UInt64 := UInt64.ofNat (min (a.toNat + b) (2 ^ 64 - 1))

/-- `u64::saturating_sub`. -/
def saturatingSub (a : UInt64) (b : Nat) : UInt64 := UInt64.ofNat (a.toNat - b)

/-- Clock samples, one per peer address, in a ring of `NETWORK_TIME_WINDOW` slots. -/
structure NetworkClock extends Ring.Cursor networkTimeWindow where
  addrs : Vector PeerAddr networkTimeWindow
  offsets : Vector Int networkTimeWindow
  genesisFloor : UInt64

namespace NetworkClock

def withGenesisAnchor (genesisFloor : UInt64) : NetworkClock :=
  { Ring.Cursor.zero with
    addrs := .replicate _ (.replicate 16 0)
    offsets := .replicate _ 0
    genesisFloor }

/-- A known address is updated in place; a new one is written at the cursor. -/
def recordPeerTime (c : NetworkClock) (peerAddr : PeerAddr) (peerTime localTime : UInt64) :
    NetworkClock :=
  let offset := satI64 (asI64 peerTime - asI64 localTime)
  match (List.range c.filled).find? (fun i => c.addrs[i]? == some peerAddr) with
  | some i => { c with offsets := c.offsets.setIfInBounds i offset }
  | none =>
      { c.toCursor.step with
        addrs := c.addrs.set c.next peerAddr (c.next_lt (by decide))
        offsets := c.offsets.set c.next offset (c.next_lt (by decide))
        genesisFloor := c.genesisFloor }

/-- The median offset, clamped; `0` without samples. -/
def offset (c : NetworkClock) : Int :=
  if c.filled = 0 then 0
  else
    let s := (c.offsets.toList.take c.filled).mergeSort (· ≤ ·)
    let median := s.getD (c.filled / 2) 0
    max (-maxClockSkewSecs) (min median maxClockSkewSecs)

def logicalNow (c : NetworkClock) (localTime : UInt64) : UInt64 :=
  let off := c.offset
  let corrected :=
    if 0 ≤ off then saturatingAdd localTime off.toNat
    else saturatingSub localTime off.natAbs
  max corrected c.genesisFloor

def samples (c : NetworkClock) : Nat := c.filled

end NetworkClock

/-! ## The stateless cookie -/

structure CookieChallenge where
  cookie : Bytes 32
  timestamp : UInt64
deriving DecidableEq

structure HandshakeCookieEcho where
  cookie : Bytes 32
  timestamp : UInt64
  initiation : HandshakeInitiation
deriving DecidableEq

/-- `HMAC-SHA3-256(node_secret, peer_addr ‖ timestamp_le)`. -/
def cookieMac (nodeSecret : Bytes 32) (peerAddr : PeerAddr) (timestamp : UInt64) : Bytes 32 :=
  let k0 := nodeSecret.toList ++ List.replicate (hmacBlock - 32) 0
  let inner := sha3_256 (k0.map (· ^^^ 0x36) ++ peerAddr.toList ++ toLE 8 timestamp.toNat)
  sha3_256 (k0.map (· ^^^ 0x5c) ++ inner.toList)

/-- Equality without an early exit. -/
def ctEq32 (a b : Bytes 32) : Bool :=
  (a.toList.zip b.toList).foldl (fun diff xy => diff ||| (xy.1 ^^^ xy.2)) 0 == 0

def issueCookie (nodeSecret : Bytes 32) (peerAddr : PeerAddr) (clock : NetworkClock)
    (localTime : UInt64) : CookieChallenge :=
  let timestamp := clock.logicalNow localTime
  { cookie := cookieMac nodeSecret peerAddr timestamp, timestamp }

/-- The freshness gate: not more than the tolerance ahead of network time, not
older than `max_cookie_age`. -/
def cookieExpired (timestamp networkTime maxCookieAge : UInt64) : Bool :=
  timestamp > saturatingAdd networkTime clockFutureToleranceSecs.toNat
    || saturatingSub networkTime timestamp.toNat > maxCookieAge

def verifyCookieEcho {N : Nat} (echo : HandshakeCookieEcho) (nodeSecret : Bytes 32)
    (peerAddr : PeerAddr) (clock : NetworkClock) (localTime maxCookieAge : UInt64) :
    EStateM TransportError (CookieCache N) Unit := fun cache =>
  if bootstrapQuorum ≤ clock.samples
      && cookieExpired echo.timestamp (clock.logicalNow localTime) maxCookieAge then
    .error .cookieExpired cache
  else if !ctEq32 (cookieMac nodeSecret peerAddr echo.timestamp) echo.cookie then
    .error .invalidCookie cache
  else if cache.contains echo.cookie then
    .error .cookieReplayed cache
  else
    .ok () (cache.insert echo.cookie)

theorem foldl_or_xor_eq_zero (l : List (UInt8 × UInt8)) :
    ∀ d : UInt8, l.foldl (fun diff xy => diff ||| (xy.1 ^^^ xy.2)) d = 0
      ↔ d = 0 ∧ ∀ xy ∈ l, xy.1 = xy.2 := by
  induction l with
  | nil => intro d; simp
  | cons xy l ih =>
      intro d
      rw [List.foldl_cons, ih, UInt8.or_eq_zero_iff, UInt8.xor_eq_zero_iff, List.forall_mem_cons,
        and_assoc]

theorem ctEq32_iff {a b : Bytes 32} : ctEq32 a b = true ↔ a = b := by
  rw [ctEq32, beq_iff_eq, foldl_or_xor_eq_zero]
  constructor
  · rintro ⟨-, h⟩
    refine List.Vector.eq _ _ (List.ext_getElem (by simp) fun i hi hj => ?_)
    have hzip : (a.toList[i], b.toList[i]) ∈ a.toList.zip b.toList := by
      refine List.mem_iff_getElem.mpr ⟨i, by simpa using hi, ?_⟩
      rw [List.getElem_zip]
    exact h _ hzip
  · rintro rfl
    refine ⟨rfl, fun xy hxy => ?_⟩
    obtain ⟨i, hi, rfl⟩ := List.mem_iff_getElem.mp hxy
    rw [List.getElem_zip]

/-- **What the cookie check can do.**  It either refuses and leaves the ring alone,
or it passes, and then the cookie was absent and is now the youngest of the ring. -/
theorem verifyCookieEcho_cases {N : Nat} (echo : HandshakeCookieEcho) (nodeSecret : Bytes 32)
    (peerAddr : PeerAddr) (clock : NetworkClock) (localTime maxCookieAge : UInt64)
    (cache : CookieCache N) :
    (∃ e, verifyCookieEcho echo nodeSecret peerAddr clock localTime maxCookieAge cache
        = .error e cache) ∨
    (verifyCookieEcho echo nodeSecret peerAddr clock localTime maxCookieAge cache
        = .ok () (cache.insert echo.cookie) ∧ echo.cookie ∉ cache.queue) := by
  unfold verifyCookieEcho
  split
  · exact .inl ⟨_, rfl⟩
  · split
    · exact .inl ⟨_, rfl⟩
    · split
      · exact .inl ⟨_, rfl⟩
      · rename_i h
        exact .inr ⟨rfl, fun hm => h (cache.contains_iff.mpr hm)⟩

theorem verifyCookieEcho_error {N : Nat} {echo : HandshakeCookieEcho} {nodeSecret : Bytes 32}
    {peerAddr : PeerAddr} {clock : NetworkClock} {localTime maxCookieAge : UInt64}
    {cache cache' : CookieCache N} {e : TransportError}
    (h : verifyCookieEcho echo nodeSecret peerAddr clock localTime maxCookieAge cache
      = .error e cache') :
    e = .cookieExpired ∨ e = .invalidCookie ∨ e = .cookieReplayed := by
  unfold verifyCookieEcho at h
  split at h
  · cases h
    exact .inl rfl
  · split at h
    · cases h
      exact .inr (.inl rfl)
    · split at h
      · cases h
        exact .inr (.inr rfl)
      · cases h

/-- **What passes the cookie check**: a cookie that is fresh (or met before the
clock has its quorum), carries the MAC of the observed address, and is not in the
ring. -/
theorem verifyCookieEcho_ok {N : Nat} {echo : HandshakeCookieEcho} {nodeSecret : Bytes 32}
    {peerAddr : PeerAddr} {clock : NetworkClock} {localTime maxCookieAge : UInt64}
    {cache : CookieCache N}
    (hfresh : clock.samples < bootstrapQuorum
      ∨ cookieExpired echo.timestamp (clock.logicalNow localTime) maxCookieAge = false)
    (hmac : cookieMac nodeSecret peerAddr echo.timestamp = echo.cookie)
    (hnew : echo.cookie ∉ cache.queue) :
    verifyCookieEcho echo nodeSecret peerAddr clock localTime maxCookieAge cache
      = .ok () (cache.insert echo.cookie) := by
  have hgate : (bootstrapQuorum ≤ clock.samples
      && cookieExpired echo.timestamp (clock.logicalNow localTime) maxCookieAge) = false := by
    rcases hfresh with h | h
    · rw [decide_eq_false (Nat.not_le.mpr h), Bool.false_and]
    · rw [h, Bool.and_false]
  have hct : (!ctEq32 (cookieMac nodeSecret peerAddr echo.timestamp) echo.cookie) = false := by
    rw [ctEq32_iff.mpr hmac, Bool.not_true]
  have hring : cache.contains echo.cookie = false := by
    rw [← Bool.not_eq_true, cache.contains_iff]
    exact hnew
  rw [verifyCookieEcho, hgate, hct, hring]
  rfl

end GoatCoin
