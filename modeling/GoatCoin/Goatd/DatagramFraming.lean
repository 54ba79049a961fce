/-
# `GoatCoin.Goatd.DatagramFraming` — chunking and bounded reassembly of `datagram_framing.rs`

    chunk  =  tag(1) ‖ msg_id(4) ‖ frag_idx(2) ‖ frag_count(2) ‖ total_len(4) ‖ payload

A logical datagram above the UDP limit travels as chunks.  The receiver keeps, for
each peer and message id, a buffer and a bitset of the fragments it has; every
call first evicts what is older than the TTL.  All header fields are chosen by the
sender, and the quotas are checked before anything is allocated.

What can panic in the source (slice indexing, `copy_from_slice`, shifts by the
width or more) returns `none` here, so that "no call panics" is a statement about
the model.  `Bounded` is the invariant of the table, `PartialMsg.Valid` that of one
partial message; both hold after every run (`run_bounded`).

An `Instant` is its distance in nanoseconds from a fixed origin, and
`duration_since` saturates at zero, which is the subtraction of natural numbers.
-/
import GoatCoin.Lib.Assoc
import GoatCoin.Lib.Fragments
import GoatCoin.Lib.Wire
import GoatCoin.Core.Types

namespace GoatCoin

open Wire

abbrev Instant := Nat

/-- A computation that may panic: `none`. -/
abbrev Checked := Option

/-- The address of a peer. -/
inductive SocketAddr where
  | v4 (ip : Bytes 4) (port : UInt16)
  | v6 (ip : Bytes 16) (port : UInt16) (flowinfo scopeId : UInt32)
deriving DecidableEq

/-! ## Constants -/

def chunkTag : UInt8 := 0xF1

abbrev maxUdpDatagram : Nat := 1200
abbrev chunkHeaderLen : Nat := 4 + 2 + 2 + 4
abbrev maxChunkPayload : Nat := maxUdpDatagram - 1 - chunkHeaderLen
abbrev maxLogicalLen : Nat := 16384
abbrev maxFrags : Nat := 32
abbrev maxPartialsPerPeer : Nat := 2
abbrev maxPeersWithPartials : Nat := 64
abbrev partialTtl : Nat := 5 * 10 ^ 9

/-- Why a chunk is refused. -/
inductive ReassemblyError where
  | malformed
  | tooLarge
  | tooManyFrags
  | peerQuota
  | globalPeerQuota
  | inconsistent
deriving DecidableEq

/-! ## Fragmentation -/

/-- One chunk frame. -/
def chunkFrame (msgId : UInt32) (fragIdx fragCount : UInt16) (totalLen : UInt32)
    (chunk : List UInt8) : List UInt8 :=
  chunkTag :: (toLE 4 msgId.toNat ++ (toLE 2 fragIdx.toNat ++ (toLE 2 fragCount.toNat
    ++ (toLE 4 totalLen.toNat ++ chunk))))

/-- A datagram within the limit is sent as it is; one above the cap is not sent. -/
def fragmentDatagram (logical : List UInt8) (msgId : UInt32) : List (List UInt8) :=
  if logical.length ≤ maxUdpDatagram then [logical]
  else if maxLogicalLen < logical.length then []
  else
    let n := Fragments.count maxChunkPayload logical.length
    if maxFrags < n then []
    else
      (Fragments.chunks maxChunkPayload logical).zipIdx.map fun (chunk, i) =>
        chunkFrame msgId (UInt16.ofNat i) (UInt16.ofNat n) (UInt32.ofNat logical.length) chunk

/-! ## Headers -/

/-- `&l[lo..hi]`. -/
def index (l : List UInt8) (lo hi : Nat) : Checked (List UInt8) :=
  if lo ≤ hi ∧ hi ≤ l.length then some ((l.drop lo).take (hi - lo)) else none

structure ChunkHeader where
  msgId : UInt32
  fragIdx : UInt16
  fragCount : UInt16
  totalLen : UInt32
  payload : List UInt8
deriving DecidableEq

namespace ChunkHeader

/-- The five fields, at their offsets. -/
def read (raw : List UInt8) : Checked ChunkHeader := do
  let msgId ← index raw 1 5
  let fragIdx ← index raw 5 7
  let fragCount ← index raw 7 9
  let totalLen ← index raw 9 13
  let payload ← index raw 13 raw.length
  some { msgId := UInt32.ofNat (ofLE msgId), fragIdx := UInt16.ofNat (ofLE fragIdx)
         fragCount := UInt16.ofNat (ofLE fragCount), totalLen :=
    UInt32.ofNat (ofLE totalLen), payload }

/-- Where the payload goes. -/
def start (h : ChunkHeader) : Nat := h.fragIdx.toNat * maxChunkPayload

/-- The checks on the header alone, in the order of the source. -/
def check (h : ChunkHeader) : Except ReassemblyError Unit :=
  let expectedFrags := Fragments.count maxChunkPayload h.totalLen.toNat
  if maxLogicalLen < h.totalLen.toNat ∨ h.totalLen = 0 then .error .tooLarge
  else if expectedFrags = 0 ∨ maxFrags < expectedFrags then .error .tooManyFrags
  else if h.fragCount.toNat ≠ expectedFrags then .error .inconsistent
  else if h.fragCount = 0 ∨ h.fragCount ≤ h.fragIdx then .error .tooManyFrags
  else if maxChunkPayload < h.payload.length then .error .malformed
  else if h.totalLen.toNat ≤ h.start then .error .inconsistent
  else if h.payload.length ≠ min (h.totalLen.toNat - h.start) maxChunkPayload then
    .error .inconsistent
  else .ok ()

end ChunkHeader

/-! ## Partial messages -/

/-- A message of which some fragments are missing. -/
structure PartialMsg where
  totalLen : UInt32
  fragCount : UInt16
  received : BitVec 32
  buf : List UInt8
  firstSeen : Instant
deriving DecidableEq

/-- `1u32 << n`. -/
def shl32 (n : Nat) : Checked (BitVec 32) := if n < 32 then some (1#32 <<< n) else none

/-- `1u64 << n`. -/
def shl64 (n : Nat) : Checked (BitVec 64) := if n < 64 then some (1#64 <<< n) else none

/-- `((1u64 << frag_count) - 1) as u32`. -/
def fullMask (fragCount : UInt16) : Checked (BitVec 32) := do
  let top ← shl64 fragCount.toNat
  some ((top - 1#64).setWidth 32)

/-- `buf[start..start + xs.len()].copy_from_slice(xs)`. -/
def copyFromSlice (buf : List UInt8) (start : Nat) (xs : List UInt8) : Checked (List UInt8) :=
  if start + xs.length ≤ buf.length then some (Fragments.write buf start xs) else none

namespace PartialMsg

def new (h : ChunkHeader) (now : Instant) : PartialMsg where
  totalLen := h.totalLen
  fragCount := h.fragCount
  received := 0
  buf := List.replicate h.totalLen.toNat 0
  firstSeen := now

/-- A fragment that is already there is not written again. -/
def store (p : PartialMsg) (h : ChunkHeader) : Checked PartialMsg := do
  let bit ← shl32 h.fragIdx.toNat
  if p.received &&& bit = 0 then do
    let buf ← copyFromSlice p.buf h.start h.payload
    some { p with buf, received := p.received ||| bit }
  else some p

end PartialMsg

/-! ## The table -/

abbrev PeerMap := Assoc.Map UInt32 PartialMsg

structure ReassemblyTable where
  peers : Assoc.Map SocketAddr PeerMap

/-- What a call returns: a logical datagram, nothing yet, or a refusal. -/
abbrev Ingested := Except ReassemblyError (Option (List UInt8))

namespace ReassemblyTable

def new : ReassemblyTable := ⟨∅⟩

def fresh (now : Instant) (p : PartialMsg) : Option PartialMsg :=
  if now - p.firstSeen < partialTtl then some p else none

def sweepPeer (now : Instant) (msgs : PeerMap) : Option PeerMap :=
  let msgs := Assoc.sweep (fresh now) msgs
  if Assoc.size msgs = 0 then none else some msgs

def gc (t : ReassemblyTable) (now : Instant) : ReassemblyTable :=
  ⟨Assoc.sweep (sweepPeer now) t.peers⟩

/-- `self.peers.entry(peer)` is overwritten. -/
def setPeer (t : ReassemblyTable) (peer : SocketAddr) (msgs : PeerMap) : ReassemblyTable :=
  ⟨t.peers.insert peer msgs⟩

/-- A chunk whose header passed: the quotas, the slot, the fragment. -/
def accept (t : ReassemblyTable) (peer : SocketAddr) (h : ChunkHeader) (now : Instant) :
    Checked (Ingested × ReassemblyTable) :=
  if peer ∉ t.peers ∧ maxPeersWithPartials ≤ Assoc.size t.peers then
    some (.error .globalPeerQuota, t)
  else
    let peerMap := (t.peers.lookup peer).getD ∅
    if h.msgId ∉ peerMap ∧ maxPartialsPerPeer ≤ Assoc.size peerMap then
      some (.error .peerQuota, t.setPeer peer peerMap)
    else
      let part := (peerMap.lookup h.msgId).getD (.new h now)
      if part.totalLen ≠ h.totalLen ∨ part.fragCount ≠ h.fragCount then
        some (.error .inconsistent, t.setPeer peer (peerMap.erase h.msgId))
      else if part.buf.length ≠ h.totalLen.toNat then
        some (.error .inconsistent, t.setPeer peer (peerMap.erase h.msgId))
      else do
        let part ← part.store h
        let need ← fullMask h.fragCount
        if part.received ≠ need then
          some (.ok none, t.setPeer peer (peerMap.insert h.msgId part))
        else
          let peerMap := peerMap.erase h.msgId
          some (.ok (some part.buf),
            if Assoc.size peerMap = 0 then ⟨t.peers.erase peer⟩ else t.setPeer peer peerMap)

def ingestChunk (t : ReassemblyTable) (peer : SocketAddr) (raw : List UInt8) (now : Instant) :
    Checked (Ingested × ReassemblyTable) :=
  let t := t.gc now
  if raw.head? ≠ some chunkTag then some (.ok none, t)
  else if raw.length < 1 + chunkHeaderLen then some (.error .malformed, t)
  else do
    let h ← ChunkHeader.read raw
    match h.check with
    | .error e => some (.error e, t)
    | .ok () => t.accept peer h now

end ReassemblyTable

/-! ## Bitsets -/

theorem and_bit_eq_zero_iff {x : BitVec 32} {n : Nat} (hn : n < 32) :
    x &&& 1#32 <<< n = 0 ↔ x.getLsbD n = false := by
  constructor
  · intro h
    have hbit := congrArg (·.getLsbD n) h
    simpa [hn] using hbit
  · intro h
    apply BitVec.eq_of_getLsbD_eq
    intro i hi
    by_cases hin : i = n
    · subst hin
      simp [h]
    · simp only [BitVec.getLsbD_and, BitVec.getLsbD_shiftLeft, BitVec.getLsbD_one]
      have hbit : decide (i - n = 0) = false ∨ decide (i < n) = true := by
        rw [decide_eq_false_iff_not, decide_eq_true_eq]
        omega
      rcases hbit with hbit | hbit
      · simp [hbit]
      · simp [hbit]

theorem getLsbD_or_bit {x : BitVec 32} {n : Nat} (hn : n < 32) (i : Nat) :
    (x ||| 1#32 <<< n).getLsbD i = (x.getLsbD i || decide (i = n)) := by
  rw [BitVec.getLsbD_or, BitVec.getLsbD_shiftLeft, BitVec.getLsbD_one]
  by_cases hin : i = n
  · subst hin
    simp [hn]
  · simp only [hin, decide_false, Bool.or_false, Bool.or_eq_left_iff_imp]
    simp only [Bool.and_eq_true, decide_eq_true_eq, Bool.not_eq_true', decide_eq_false_iff_not]
    omega

theorem fullMask_eq {n : UInt16} (hn : n.toNat ≤ 32) :
    ∃ need, fullMask n = some need ∧ ∀ i, need.getLsbD i = decide (i < n.toNat) := by
  refine ⟨(1#64 <<< n.toNat - 1#64).setWidth 32, ?_, ?_⟩
  · rw [fullMask, shl64, if_pos (Nat.lt_of_le_of_lt hn (by decide))]
    rfl
  · intro i
    have htop : (1#64 <<< n.toNat - 1#64).toNat = 2 ^ n.toNat - 1 := by
      have hlt : 2 ^ n.toNat < 2 ^ 64 := Nat.pow_lt_pow_right (by decide) (by omega)
      have hpos : 0 < 2 ^ n.toNat := Nat.pow_pos (by decide)
      rw [BitVec.toNat_sub, BitVec.toNat_shiftLeft]
      simp only [BitVec.toNat_ofNat, Nat.shiftLeft_eq]
      omega
    rw [BitVec.getLsbD_setWidth, BitVec.getLsbD, htop, Nat.testBit_two_pow_sub_one]
    by_cases hin : i < n.toNat
    · simp only [hin, decide_true, Bool.and_true, decide_eq_true_eq]
      omega
    · simp only [hin, decide_false, Bool.and_false]

theorem eq_mask_iff {x need : BitVec 32} {n : Nat} (hneed : ∀ i, need.getLsbD i = decide (i < n))
    (hx : ∀ i, x.getLsbD i = true → i < n) : x = need ↔ ∀ i < n, x.getLsbD i = true := by
  constructor
  · rintro rfl i hi
    rw [hneed]
    exact decide_eq_true hi
  · intro hall
    apply BitVec.eq_of_getLsbD_eq
    intro i _
    rw [hneed]
    by_cases hi : i < n
    · rw [hall i hi, decide_eq_true hi]
    · rw [decide_eq_false hi, ← Bool.not_eq_true]
      exact fun h => hi (hx i h)

/-! ## Headers that pass -/

/-- What the checks leave of the header. -/
structure ChunkHeader.Valid (h : ChunkHeader) : Prop where
  total_pos : 0 < h.totalLen.toNat
  total_le : h.totalLen.toNat ≤ maxLogicalLen
  fragCount_eq : h.fragCount.toNat = Fragments.count maxChunkPayload h.totalLen.toNat
  fragIdx_lt : h.fragIdx.toNat < h.fragCount.toNat
  length_payload : h.payload.length = min (h.totalLen.toNat - h.start) maxChunkPayload

theorem count_le {n : Nat} (h : n ≤ maxLogicalLen) : Fragments.count maxChunkPayload n ≤ 14 := by
  have h : n ≤ 16384 := h
  show (n + 1187 - 1) / 1187 ≤ 14
  omega

theorem ChunkHeader.Valid.start_lt {h : ChunkHeader} (hv : h.Valid) :
    h.start < h.totalLen.toNat := by
  have hlt := hv.fragIdx_lt
  rw [hv.fragCount_eq, Fragments.lt_count_iff (by decide)] at hlt
  exact hlt

theorem ChunkHeader.Valid.fragCount_le {h : ChunkHeader} (hv : h.Valid) :
    h.fragCount.toNat ≤ 14 := by
  rw [hv.fragCount_eq]
  exact count_le hv.total_le

theorem ChunkHeader.check_eq_ok {h : ChunkHeader} : h.check = .ok () ↔ h.Valid := by
  constructor
  · intro hc
    unfold check at hc
    dsimp only at hc
    split at hc
    · cases hc
    · rename_i h1
      split at hc
      · cases hc
      · split at hc
        · cases hc
        · rename_i h3
          split at hc
          · cases hc
          · rename_i h4
            split at hc
            · cases hc
            · split at hc
              · cases hc
              · split at hc
                · cases hc
                · rename_i h7
                  obtain ⟨hle, hne⟩ := not_or.mp h1
                  refine ⟨Nat.pos_of_ne_zero fun h0 => hne (UInt32.toNat_inj.mp h0),
                    Nat.not_lt.mp hle, not_not.mp h3, ?_, not_not.mp h7⟩
                  exact UInt16.lt_iff_toNat_lt.mp (UInt16.not_le.mp (not_or.mp h4).2)
  · intro hv
    have hstart := hv.start_lt
    have hcount := hv.fragCount_le
    have hidx := hv.fragIdx_lt
    have hpos := hv.total_pos
    have hne : h.totalLen ≠ 0 := fun h0 => by rw [h0] at hpos; exact absurd hpos (by decide)
    have hcne : h.fragCount ≠ 0 := fun h0 => by
      rw [h0] at hidx; exact absurd hidx (Nat.not_lt_zero _)
    have hnot : ¬ h.fragCount ≤ h.fragIdx := UInt16.not_le.mpr (UInt16.lt_iff_toNat_lt.mpr hidx)
    have hpay : ¬ maxChunkPayload < h.payload.length := by
      rw [hv.length_payload]
      exact Nat.not_lt.mpr (Nat.min_le_right _ _)
    have hfrags : ¬ (Fragments.count maxChunkPayload h.totalLen.toNat = 0
        ∨ maxFrags < Fragments.count maxChunkPayload h.totalLen.toNat) := by
      rw [← hv.fragCount_eq]
      show ¬ (_ ∨ 32 < _)
      omega
    unfold check
    dsimp only
    rw [if_neg (not_or.mpr ⟨Nat.not_lt.mpr hv.total_le, hne⟩), if_neg hfrags,
      if_neg (not_not.mpr hv.fragCount_eq), if_neg (not_or.mpr ⟨hcne, hnot⟩), if_neg hpay,
      if_neg (Nat.not_le.mpr hstart), if_neg (not_not.mpr hv.length_payload)]

theorem index_eq {l : List UInt8} {lo hi : Nat} (h : lo ≤ hi ∧ hi ≤ l.length) :
    index l lo hi = some ((l.drop lo).take (hi - lo)) := if_pos h

theorem ChunkHeader.exists_read {raw : List UInt8} (h : 1 + chunkHeaderLen ≤ raw.length) :
    ∃ hd, ChunkHeader.read raw = some hd := by
  have h : 13 ≤ raw.length := h
  rw [read, index_eq ⟨by omega, by omega⟩, index_eq ⟨by omega, by omega⟩,
    index_eq ⟨by omega, by omega⟩, index_eq ⟨by omega, by omega⟩, index_eq ⟨h, Nat.le_refl _⟩]
  exact ⟨_, rfl⟩

/-! ## One fragment -/

namespace PartialMsg

/-- `q` is `p` with the fragment of `h`. -/
structure Stored (p : PartialMsg) (h : ChunkHeader) (q : PartialMsg) : Prop where
  totalLen_eq : q.totalLen = p.totalLen
  fragCount_eq : q.fragCount = p.fragCount
  firstSeen_eq : q.firstSeen = p.firstSeen
  received_eq : ∀ i, q.received.getLsbD i = (p.received.getLsbD i || decide (i = h.fragIdx.toNat))
  buf_eq : q.buf = if p.received.getLsbD h.fragIdx.toNat = true then p.buf
    else Fragments.write p.buf h.start h.payload

variable {p q : PartialMsg}

theorem fits {h : ChunkHeader} (hv : h.Valid)
    (hlen : p.buf.length = h.totalLen.toNat) : h.start + h.payload.length ≤ p.buf.length := by
  have := hv.start_lt
  rw [hlen, hv.length_payload]
  omega

theorem exists_stored {h : ChunkHeader} (hv : h.Valid)
    (hlen : p.buf.length = h.totalLen.toNat) : ∃ q, p.store h = some q ∧ Stored p h q := by
  have hidx : h.fragIdx.toNat < 32 := by
    have := hv.fragIdx_lt
    have := hv.fragCount_le
    omega
  rw [store, shl32, if_pos hidx]
  show ∃ q, (if p.received &&& 1#32 <<< h.fragIdx.toNat = 0 then _ else _) = some q ∧ _
  by_cases hbit : p.received.getLsbD h.fragIdx.toNat = true
  · have hne : ¬ p.received &&& 1#32 <<< h.fragIdx.toNat = 0 := by
      rw [and_bit_eq_zero_iff hidx, hbit]
      exact Bool.noConfusion
    rw [if_neg hne]
    refine ⟨p, rfl, rfl, rfl, rfl, ?_, (if_pos hbit).symm⟩
    intro i
    by_cases hi : i = h.fragIdx.toNat
    · rw [hi, hbit]
      rfl
    · rw [decide_eq_false hi, Bool.or_false]
  · rw [if_pos ((and_bit_eq_zero_iff hidx).mpr (Bool.not_eq_true _ ▸ hbit)), copyFromSlice,
      if_pos (fits hv hlen)]
    refine ⟨_, rfl, rfl, rfl, rfl, ?_, (if_neg hbit).symm⟩
    exact getLsbD_or_bit hidx

theorem Stored.length_buf {h : ChunkHeader} (hs : Stored p h q) (hv : h.Valid)
    (hlen : p.buf.length = h.totalLen.toNat) : q.buf.length = h.totalLen.toNat := by
  rw [hs.buf_eq]
  split
  · exact hlen
  · rw [Fragments.length_write (fits hv hlen), hlen]

/-- The invariant of a partial message: bounded, of the announced size, and incomplete. -/
structure Valid (p : PartialMsg) : Prop where
  total_le : p.totalLen.toNat ≤ maxLogicalLen
  length_buf : p.buf.length = p.totalLen.toNat
  fragCount_eq : p.fragCount.toNat = Fragments.count maxChunkPayload p.totalLen.toNat
  received_lt : ∀ i, p.received.getLsbD i = true → i < p.fragCount.toNat
  not_full : ∃ i < p.fragCount.toNat, p.received.getLsbD i = false

theorem valid_new {h : ChunkHeader} (hv : h.Valid) (now : Instant) : (new h now).Valid where
  total_le := hv.total_le
  length_buf := List.length_replicate
  fragCount_eq := hv.fragCount_eq
  received_lt i hi := by
    have hzero : (0#32).getLsbD i = true := hi
    rw [BitVec.getLsbD_zero] at hzero
    cases hzero
  not_full := ⟨h.fragIdx.toNat, hv.fragIdx_lt, BitVec.getLsbD_zero⟩

theorem Stored.received_lt {h : ChunkHeader} (hs : Stored p h q) (hv : h.Valid)
    (hp : p.Valid) (hcount : p.fragCount = h.fragCount) (i : Nat)
    (hi : q.received.getLsbD i = true) : i < h.fragCount.toNat := by
  rw [hs.received_eq, Bool.or_eq_true, decide_eq_true_eq] at hi
  rcases hi with hi | rfl
  · rw [← hcount]
    exact hp.received_lt i hi
  · exact hv.fragIdx_lt

theorem Stored.valid {h : ChunkHeader} (hs : Stored p h q) (hv : h.Valid)
    (hp : p.Valid) (htotal : p.totalLen = h.totalLen) (hcount : p.fragCount = h.fragCount)
    {need : BitVec 32} (hneed : ∀ i, need.getLsbD i = decide (i < h.fragCount.toNat))
    (hmore : q.received ≠ need) : q.Valid := by
  have htotal' : q.totalLen = h.totalLen := hs.totalLen_eq.trans htotal
  have hcount' : q.fragCount = h.fragCount := hs.fragCount_eq.trans hcount
  have hlen : p.buf.length = h.totalLen.toNat := hp.length_buf.trans (congrArg _ htotal)
  have hlt := hs.received_lt hv hp hcount
  refine ⟨?_, ?_, ?_, ?_, ?_⟩
  · rw [htotal']
    exact hv.total_le
  · rw [htotal']
    exact hs.length_buf hv hlen
  · rw [htotal', hcount']
    exact hv.fragCount_eq
  · rw [hcount']
    exact hlt
  · have hnot := (eq_mask_iff hneed hlt).not.mp hmore
    push Not at hnot
    obtain ⟨i, hi, hbit⟩ := hnot
    exact ⟨i, by rw [hcount']; exact hi, Bool.not_eq_true _ ▸ hbit⟩

end PartialMsg

/-! ## One chunk -/

namespace ReassemblyTable

/-- The partial message of a peer under an id. -/
def part? (t : ReassemblyTable) (peer : SocketAddr) (msgId : UInt32) : Option PartialMsg :=
  (t.peers.lookup peer).bind (·.lookup msgId)

theorem lookup_peerMap (t : ReassemblyTable) (peer : SocketAddr) (msgId : UInt32) :
    ((t.peers.lookup peer).getD ∅).lookup msgId = t.part? peer msgId := by
  rw [part?]
  cases t.peers.lookup peer with
  | none => rfl
  | some m => rfl

theorem part?_setPeer (t : ReassemblyTable) (peer p : SocketAddr) (m : PeerMap) (id : UInt32) :
    (t.setPeer peer m).part? p id = if p = peer then m.lookup id else t.part? p id := by
  rw [part?, setPeer]
  split
  · rename_i h
    rw [h, AList.lookup_insert]
    rfl
  · rename_i h
    rw [AList.lookup_insert_ne h]
    rfl

theorem part?_erasePeer (t : ReassemblyTable) (peer p : SocketAddr) (id : UInt32) :
    (⟨t.peers.erase peer⟩ : ReassemblyTable).part? p id = if p = peer then none
    else t.part? p id := by
  rw [part?]
  split
  · rename_i h
    rw [h, AList.lookup_erase]
    rfl
  · rename_i h
    rw [AList.lookup_erase_ne h]
    rfl

theorem part?_gc (t : ReassemblyTable) (now : Instant) (p : SocketAddr) (id : UInt32) :
    (t.gc now).part? p id = (t.part? p id).bind (fresh now) := by
  rw [part?, part?, gc, Assoc.lookup_sweep]
  cases t.peers.lookup p with
  | none => rfl
  | some m =>
      show (sweepPeer now m).bind _ = (m.lookup id).bind (fresh now)
      rw [sweepPeer, ← Assoc.lookup_sweep]
      split
      · rename_i h
        exact (Assoc.size_eq_zero_iff.mp h id).symm
      · rfl

/-- **The bound on memory**: peers, partial messages of one peer, and each of these. -/
structure Bounded (t : ReassemblyTable) : Prop where
  peers_le : Assoc.size t.peers ≤ maxPeersWithPartials
  partials_le : ∀ peer m, t.peers.lookup peer = some m → Assoc.size m ≤ maxPartialsPerPeer
  valid : ∀ peer id p, t.part? peer id = some p → p.Valid

theorem bounded_new : Bounded new where
  peers_le := Nat.zero_le _
  partials_le _ _ h := by cases h
  valid _ _ _ h := by cases h

theorem Bounded.gc {t : ReassemblyTable} (h : t.Bounded) (now : Instant) : (t.gc now).Bounded where
  peers_le := Nat.le_trans (Assoc.size_sweep_le _ _) h.peers_le
  partials_le peer m hm := by
    rw [ReassemblyTable.gc, Assoc.lookup_sweep, Option.bind_eq_some_iff] at hm
    obtain ⟨m₀, hm₀, hsweep⟩ := hm
    rw [sweepPeer] at hsweep
    split at hsweep
    · cases hsweep
    · cases hsweep
      exact Nat.le_trans (Assoc.size_sweep_le _ _) (h.partials_le peer m₀ hm₀)
  valid peer id p hp := by
    rw [part?_gc, Option.bind_eq_some_iff] at hp
    obtain ⟨q, hq, hfresh⟩ := hp
    rw [fresh] at hfresh
    split at hfresh
    · cases hfresh
      exact h.valid peer id p hq
    · cases hfresh

theorem Bounded.setPeer {t : ReassemblyTable} (h : t.Bounded) {peer : SocketAddr} {m : PeerMap}
    (hroom : peer ∈ t.peers ∨ Assoc.size t.peers < maxPeersWithPartials)
    (hm : Assoc.size m ≤ maxPartialsPerPeer) (hvalid : ∀ id p, m.lookup id = some p → p.Valid) :
    (t.setPeer peer m).Bounded where
  peers_le := Assoc.size_insert_le h.peers_le hroom
  partials_le p m' hm' := by
    rw [ReassemblyTable.setPeer] at hm'
    by_cases hp : p = peer
    · rw [hp, AList.lookup_insert] at hm'
      cases hm'
      exact hm
    · rw [AList.lookup_insert_ne hp] at hm'
      exact h.partials_le p m' hm'
  valid p id q hq := by
    rw [part?_setPeer] at hq
    split at hq
    · exact hvalid id q hq
    · exact h.valid p id q hq

theorem Bounded.erasePeer {t : ReassemblyTable} (h : t.Bounded) (peer : SocketAddr) :
    (⟨t.peers.erase peer⟩ : ReassemblyTable).Bounded where
  peers_le := Nat.le_trans (Assoc.size_erase_le _ _) h.peers_le
  partials_le p m hm := by
    by_cases hp : p = peer
    · rw [hp, AList.lookup_erase] at hm
      cases hm
    · rw [AList.lookup_erase_ne hp] at hm
      exact h.partials_le p m hm
  valid p id q hq := by
    rw [part?_erasePeer] at hq
    split at hq
    · cases hq
    · exact h.valid p id q hq

/-- The slot the fragment goes to: the one that is there, or a new one. -/
def slot (t : ReassemblyTable) (peer : SocketAddr) (h : ChunkHeader) (now : Instant) : PartialMsg :=
  (t.part? peer h.msgId).getD (.new h now)

/-- What `accept` can do.  Only the slot of the chunk is ever touched. -/
inductive Accepted (t : ReassemblyTable) (peer : SocketAddr) (h : ChunkHeader) (now : Instant) :
    Ingested → Option PartialMsg → Prop
  | globalQuota (hnone : t.part? peer h.msgId = none) :
      Accepted t peer h now (.error .globalPeerQuota) none
  | peerQuota (hnone : t.part? peer h.msgId = none) :
      Accepted t peer h now (.error .peerQuota) none
  | inconsistent (hdiffer : (t.slot peer h now).totalLen ≠ h.totalLen
        ∨ (t.slot peer h now).fragCount ≠ h.fragCount) :
      Accepted t peer h now (.error .inconsistent) none
  | stored (q : PartialMsg) (hs : (t.slot peer h now).Stored h q)
      (hmore : ∃ i < h.fragCount.toNat, q.received.getLsbD i = false) :
      Accepted t peer h now (.ok none) (some q)
  | complete (q : PartialMsg) (hs : (t.slot peer h now).Stored h q)
      (hfull : ∀ i < h.fragCount.toNat, q.received.getLsbD i = true) :
      Accepted t peer h now (.ok (some q.buf)) none

/-- The table after a chunk: the slot of the chunk is `p`, every other is as before. -/
def Touches (t t' : ReassemblyTable) (peer : SocketAddr) (msgId : UInt32) (p : Option PartialMsg) :
    Prop :=
  ∀ peer' id, t'.part? peer' id = if peer' = peer ∧ id = msgId then p else t.part? peer' id

section
variable {t : ReassemblyTable} {peer : SocketAddr} {h : ChunkHeader} {now : Instant}

theorem touches_setPeer {m : PeerMap} {msgId : UInt32} {p : Option PartialMsg}
    (hslot : m.lookup msgId = p) (hother : ∀ id, id ≠ msgId → m.lookup id = t.part? peer id) :
    Touches t (t.setPeer peer m) peer msgId p := by
  intro peer' id
  rw [part?_setPeer]
  by_cases hp : peer' = peer
  · subst hp
    by_cases hid : id = msgId
    · rw [if_pos rfl, if_pos ⟨rfl, hid⟩, hid, hslot]
    · rw [if_pos rfl, if_neg (fun h => hid h.2), hother id hid]
  · rw [if_neg hp, if_neg (fun h => hp h.1)]

theorem touches_insert (q : PartialMsg) :
    Touches t (t.setPeer peer (((t.peers.lookup peer).getD ∅).insert h.msgId q)) peer h.msgId
      (some q) := by
  refine touches_setPeer (AList.lookup_insert _) fun id hid => ?_
  rw [AList.lookup_insert_ne hid, lookup_peerMap]

theorem touches_erase :
    Touches t (t.setPeer peer (((t.peers.lookup peer).getD ∅).erase h.msgId)) peer
      h.msgId none := by
  refine touches_setPeer (AList.lookup_erase _ _) fun id hid => ?_
  rw [AList.lookup_erase_ne hid, lookup_peerMap]

theorem touches_erasePeer (hempty : Assoc.size (((t.peers.lookup peer).getD ∅).erase h.msgId) = 0) :
    Touches t ⟨t.peers.erase peer⟩ peer h.msgId none := by
  intro peer' id
  rw [part?_erasePeer]
  by_cases hp : peer' = peer
  · subst hp
    have hnone := Assoc.size_eq_zero_iff.mp hempty id
    by_cases hid : id = h.msgId
    · rw [if_pos rfl, if_pos ⟨rfl, hid⟩]
    · rw [AList.lookup_erase_ne hid, lookup_peerMap] at hnone
      rw [if_pos rfl, if_neg (fun h => hid h.2), hnone]
  · rw [if_neg hp, if_neg (fun h => hp h.1)]

theorem Bounded.peerMap (hb : t.Bounded) (peer : SocketAddr) :
    Assoc.size ((t.peers.lookup peer).getD ∅) ≤ maxPartialsPerPeer
      ∧ ∀ id p, ((t.peers.lookup peer).getD ∅).lookup id = some p → p.Valid := by
  refine ⟨?_, fun id p hp => hb.valid peer id p (by rwa [lookup_peerMap] at hp)⟩
  cases hm : t.peers.lookup peer with
  | none => exact Nat.zero_le _
  | some m => exact hb.partials_le peer m hm

theorem Bounded.slot_valid (hb : t.Bounded) (hv : h.Valid) : (t.slot peer h now).Valid := by
  rw [slot]
  cases hp : t.part? peer h.msgId with
  | none => exact PartialMsg.valid_new hv now
  | some p => exact hb.valid peer h.msgId p hp

theorem Bounded.erase_msg (hb : t.Bounded) (peer : SocketAddr) (msgId : UInt32)
    (hroom : peer ∈ t.peers ∨ Assoc.size t.peers < maxPeersWithPartials) :
    (t.setPeer peer (((t.peers.lookup peer).getD ∅).erase msgId)).Bounded := by
  obtain ⟨hsize, hvalid⟩ := hb.peerMap peer
  refine hb.setPeer hroom (Nat.le_trans (Assoc.size_erase_le _ _) hsize) fun id p hp => ?_
  by_cases hid : id = msgId
  · rw [hid, AList.lookup_erase] at hp
    cases hp
  · rw [AList.lookup_erase_ne hid] at hp
    exact hvalid id p hp

theorem Bounded.insert_msg (hb : t.Bounded) {msgId : UInt32} {q : PartialMsg} (hq : q.Valid)
    (hroom : peer ∈ t.peers ∨ Assoc.size t.peers < maxPeersWithPartials)
    (hslots : msgId ∈ (t.peers.lookup peer).getD ∅
      ∨ Assoc.size ((t.peers.lookup peer).getD ∅) < maxPartialsPerPeer) :
    (t.setPeer peer (((t.peers.lookup peer).getD ∅).insert msgId q)).Bounded := by
  obtain ⟨hsize, hvalid⟩ := hb.peerMap peer
  refine hb.setPeer hroom (Assoc.size_insert_le hsize hslots) fun id p hp => ?_
  by_cases hid : id = msgId
  · rw [hid, AList.lookup_insert] at hp
    cases hp
    exact hq
  · rw [AList.lookup_insert_ne hid] at hp
    exact hvalid id p hp

/-- A chunk with a valid header never panics, touches its own slot only, and keeps the bound. -/
theorem accept_spec (hb : t.Bounded) (hv : h.Valid) :
    ∃ r t' p, t.accept peer h now = some (r, t') ∧ t'.Bounded ∧ Accepted t peer h now r p
      ∧ Touches t t' peer h.msgId p := by
  have hslot : (((t.peers.lookup peer).getD ∅).lookup h.msgId).getD (.new h now)
      = t.slot peer h now := by rw [lookup_peerMap, slot]
  obtain ⟨hsize, hvalid⟩ := hb.peerMap peer
  unfold accept
  by_cases hglobal : peer ∉ t.peers ∧ maxPeersWithPartials ≤ Assoc.size t.peers
  · rw [if_pos hglobal]
    have hnone : t.part? peer h.msgId = none := by
      rw [part?, AList.lookup_eq_none.mpr hglobal.1]
      rfl
    refine ⟨_, _, _, rfl, hb, .globalQuota hnone, fun peer' id => ?_⟩
    split
    · rename_i heq
      rw [heq.1, heq.2, hnone]
    · rfl
  · have hroom : peer ∈ t.peers ∨ Assoc.size t.peers < maxPeersWithPartials := by
      rw [not_and_or, not_not, Nat.not_le] at hglobal
      exact hglobal
    rw [if_neg hglobal]
    dsimp only
    by_cases hquota : h.msgId ∉ (t.peers.lookup peer).getD ∅
        ∧ maxPartialsPerPeer ≤ Assoc.size ((t.peers.lookup peer).getD ∅)
    · rw [if_pos hquota]
      have hnone : ((t.peers.lookup peer).getD ∅).lookup h.msgId = none :=
        AList.lookup_eq_none.mpr hquota.1
      refine ⟨_, _, _, rfl, hb.setPeer hroom hsize hvalid,
        .peerQuota (by rw [← lookup_peerMap, hnone]), ?_⟩
      exact touches_setPeer hnone fun id _ => lookup_peerMap t peer id
    · have hslots : h.msgId ∈ (t.peers.lookup peer).getD ∅
          ∨ Assoc.size ((t.peers.lookup peer).getD ∅) < maxPartialsPerPeer := by
        rw [not_and_or, not_not, Nat.not_le] at hquota
        exact hquota
      rw [if_neg hquota, hslot]
      have hpv : (t.slot peer h now).Valid := hb.slot_valid hv
      by_cases hdiffer : (t.slot peer h now).totalLen ≠ h.totalLen
          ∨ (t.slot peer h now).fragCount ≠ h.fragCount
      · rw [if_pos hdiffer]
        exact ⟨_, _, _, rfl, hb.erase_msg peer h.msgId hroom, .inconsistent hdiffer, touches_erase⟩
      · obtain ⟨htotal, hcount⟩ := not_or.mp hdiffer
        rw [not_not] at htotal hcount
        have hlen : (t.slot peer h now).buf.length = h.totalLen.toNat :=
          hpv.length_buf.trans (congrArg _ htotal)
        obtain ⟨q, hq, hs⟩ := PartialMsg.exists_stored hv hlen
        obtain ⟨need, hneed, hbits⟩ := fullMask_eq (n := h.fragCount)
          (Nat.le_trans hv.fragCount_le (by decide))
        rw [if_neg hdiffer, if_neg (not_not.mpr hlen), hq, hneed]
        show ∃ r t' p, (if q.received ≠ need then _ else _) = some (r, t') ∧ _
        have hmask := eq_mask_iff hbits (hs.received_lt hv hpv hcount)
        by_cases hmore : q.received ≠ need
        · rw [if_pos hmore]
          have hqv : q.Valid := hs.valid hv hpv htotal hcount hbits hmore
          have hnot := hqv.not_full
          rw [hs.fragCount_eq, hcount] at hnot
          exact ⟨_, _, _, rfl, hb.insert_msg hqv hroom hslots, .stored q hs hnot, touches_insert q⟩
        · have hfull := hmask.mp (not_not.mp hmore)
          rw [if_neg hmore]
          by_cases hempty : Assoc.size (((t.peers.lookup peer).getD ∅).erase h.msgId) = 0
          · refine ⟨_, _, _, rfl, ?_, .complete q hs hfull, ?_⟩
            · rw [if_pos hempty]
              exact hb.erasePeer peer
            · rw [if_pos hempty]
              exact touches_erasePeer hempty
          · refine ⟨_, _, _, rfl, ?_, .complete q hs hfull, ?_⟩
            · rw [if_neg hempty]
              exact hb.erase_msg peer h.msgId hroom
            · rw [if_neg hempty]
              exact touches_erase

theorem ingest_of_valid {raw : List UInt8} (htag : raw.head? = some chunkTag)
    (hlen : 1 + chunkHeaderLen ≤ raw.length) (hread : ChunkHeader.read raw = some h)
    (hv : h.Valid) : t.ingestChunk peer raw now = (t.gc now).accept peer h now := by
  unfold ingestChunk
  dsimp only
  rw [if_neg (not_not.mpr htag), if_neg (Nat.not_lt.mpr hlen), hread, Option.bind_eq_bind,
    Option.bind_some, ChunkHeader.check_eq_ok.mpr hv]

theorem ingest_spec {t : ReassemblyTable} (hb : t.Bounded) (peer : SocketAddr) (raw : List UInt8)
    (now : Instant) : ∃ r t',
      t.ingestChunk peer raw now = some (r, t') ∧ t'.Bounded ∧
      ((t' = t.gc now ∧ ∀ l, r ≠ .ok (some l)) ∨
        ∃ hd p, raw.head? = some chunkTag ∧ 1 + chunkHeaderLen ≤ raw.length ∧
          ChunkHeader.read raw = some hd ∧ hd.Valid ∧ Accepted (t.gc now) peer hd now r p ∧
          Touches (t.gc now) t' peer hd.msgId p) := by
  by_cases hhead : raw.head? = some chunkTag ∧ 1 + chunkHeaderLen ≤ raw.length
  · obtain ⟨htag, hlen⟩ := hhead
    obtain ⟨hd, hread⟩ := ChunkHeader.exists_read hlen
    by_cases hv : hd.Valid
    · obtain ⟨r, t', p, hacc, hb', haccepted, htouch⟩ := accept_spec (hb.gc now) hv
      refine ⟨r, t', ?_, hb', .inr ⟨hd, p, htag, hlen, hread, hv, haccepted, htouch⟩⟩
      rw [ingest_of_valid htag hlen hread hv]
      exact hacc
    · unfold ingestChunk
      dsimp only
      rw [if_neg (not_not.mpr htag), if_neg (Nat.not_lt.mpr hlen), hread, Option.bind_eq_bind,
        Option.bind_some]
      cases hc : hd.check with
      | error e => exact ⟨_, _, rfl, hb.gc now, .inl ⟨rfl, nofun⟩⟩
      | ok u => exact absurd (ChunkHeader.check_eq_ok.mp hc) hv
  · unfold ingestChunk
    dsimp only
    by_cases htag : raw.head? = some chunkTag
    · have hlen : raw.length < 1 + chunkHeaderLen := Nat.not_le.mp fun h => hhead ⟨htag, h⟩
      rw [if_neg (not_not.mpr htag), if_pos hlen]
      exact ⟨_, _, rfl, hb.gc now, .inl ⟨rfl, nofun⟩⟩
    · rw [if_pos htag]
      exact ⟨_, _, rfl, hb.gc now, .inl ⟨rfl, nofun⟩⟩

end

/-! ## Runs -/

inductive Event where
  | ingest (peer : SocketAddr) (raw : List UInt8) (now : Instant)
  | gc (now : Instant)

def step (t : ReassemblyTable) : Event → Checked ReassemblyTable
  | .ingest peer raw now => (t.ingestChunk peer raw now).map (·.2)
  | .gc now => some (t.gc now)

def run (t : ReassemblyTable) (events : List Event) : Checked ReassemblyTable :=
  events.foldlM step t

theorem Bounded.step {t : ReassemblyTable} (hb : t.Bounded) (e : Event) :
    ∃ t', t.step e = some t' ∧ t'.Bounded := by
  cases e with
  | ingest peer raw now =>
      obtain ⟨r, t', hrun, hb', -⟩ := ingest_spec hb peer raw now
      exact ⟨t', by rw [ReassemblyTable.step, hrun]; rfl, hb'⟩
  | gc now => exact ⟨t.gc now, rfl, hb.gc now⟩

theorem Bounded.run {t : ReassemblyTable} (hb : t.Bounded) (events : List Event) :
    ∃ t', t.run events = some t' ∧ t'.Bounded := by
  induction events generalizing t with
  | nil => exact ⟨t, rfl, hb⟩
  | cons e events ih =>
      obtain ⟨t₁, hstep, hb₁⟩ := hb.step e
      obtain ⟨t', hrun, hb'⟩ := ih hb₁
      refine ⟨t', ?_, hb'⟩
      rw [ReassemblyTable.run, List.foldlM_cons, hstep]
      exact hrun

/-- The peers that have a partial message. -/
def peersWithPartials (t : ReassemblyTable) : List SocketAddr :=
  t.peers.keys.filter fun peer => ((t.peers.lookup peer).getD ∅).keys.length ≠ 0

/-- **Reassembly memory is bounded** in every state of every run, whatever the datagrams,
peers and times are, and no call panics. -/
theorem run_bounded (events : List Event) :
    ∃ t, new.run events = some t ∧ t.peersWithPartials.length ≤ maxPeersWithPartials ∧ t.Bounded
      ∧ ∀ e, t.step e ≠ none := by
  obtain ⟨t, hrun, hb⟩ := bounded_new.run events
  refine ⟨t, hrun, ?_, hb, ?_⟩
  · exact Nat.le_trans (List.length_filter_le _ _) hb.peers_le
  · intro e
    obtain ⟨t', hstep, -⟩ := hb.step e
    rw [hstep]
    exact nofun

end ReassemblyTable

end GoatCoin
