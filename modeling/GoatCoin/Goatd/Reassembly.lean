/-
# `GoatCoin.Goatd.Reassembly` — every datagram is put together again

The fragments of one logical datagram arrive in any order, more than once, among
chunks of other peers and other messages and among malformed datagrams.  As long
as the message is incomplete, its slot in the table records how far it has come:

    Collects L S t₀ p    p announces `L`, has the bits of `S`, agrees with `L` on the
                         pieces of `S` (`Fragments.Holds`) and was opened at t₀

One call moves `S` to `S ∪ {i}` (a fragment), leaves it alone (anything else), or
completes it, and then returns `L` and clears the slot.  The run lemma follows the
list of calls to the one that delivers the last missing fragment.
-/
import GoatCoin.Goatd.DatagramFraming

namespace GoatCoin

open Wire

/-! ## Fragments -/

section
variable {L : List UInt8} {id : UInt32}

/-- The header of fragment `i`. -/
def fragmentHeader (L : List UInt8) (id : UInt32) (i : Nat) : ChunkHeader where
  msgId := id
  fragIdx := UInt16.ofNat i
  fragCount := UInt16.ofNat (Fragments.count maxChunkPayload L.length)
  totalLen := UInt32.ofNat L.length
  payload := Fragments.piece maxChunkPayload L i

def fragment (L : List UInt8) (id : UInt32) (i : Nat) : List UInt8 :=
  chunkFrame id (UInt16.ofNat i) (UInt16.ofNat (Fragments.count maxChunkPayload L.length))
    (UInt32.ofNat L.length) (Fragments.piece maxChunkPayload L i)

/-- The number of fragments. -/
def fragCountOf (L : List UInt8) : Nat := Fragments.count maxChunkPayload L.length

theorem mem_fragmentDatagram (hbig : maxUdpDatagram < L.length) (hmax : L.length ≤ maxLogicalLen)
    {f : List UInt8} : f ∈ fragmentDatagram L id ↔ ∃ i < fragCountOf L, f = fragment L id i := by
  have hcount : ¬ maxFrags < Fragments.count maxChunkPayload L.length :=
    Nat.not_lt.mpr (Nat.le_trans (count_le hmax) (by decide))
  rw [fragmentDatagram, if_neg (Nat.not_le.mpr hbig), if_neg (Nat.not_lt.mpr hmax)]
  dsimp only
  rw [if_neg hcount, List.mem_map]
  constructor
  · rintro ⟨⟨chunk, i⟩, hmem, rfl⟩
    rw [List.mk_mem_zipIdx_iff_getElem?, Fragments.chunks, List.getElem?_map] at hmem
    obtain ⟨j, hj, rfl⟩ := Option.map_eq_some_iff.mp hmem
    obtain ⟨hi, rfl⟩ := List.getElem?_eq_some_iff.mp hj
    rw [List.length_range] at hi
    rw [List.getElem_range]
    exact ⟨i, hi, rfl⟩
  · rintro ⟨i, hi, rfl⟩
    refine ⟨(Fragments.piece maxChunkPayload L i, i), ?_, rfl⟩
    rw [fragCountOf] at hi
    rw [List.mk_mem_zipIdx_iff_getElem?, Fragments.chunks, List.getElem?_map,
      List.getElem?_range hi]
    rfl

theorem index_of_split {raw a xs b : List UInt8} {lo hi : Nat} (hraw : raw = a ++ (xs ++ b))
    (hlo : a.length = lo) (hhi : lo + xs.length = hi) : index raw lo hi = some xs := by
  have hlen : raw.length = lo + (xs.length + b.length) := by
    rw [hraw, List.length_append, List.length_append, hlo]
  have hdiff : hi - lo = xs.length := by omega
  rw [index_eq ⟨by omega, by omega⟩, hraw, ← hlo, List.drop_left, hlo, hdiff, List.take_left]

theorem read_chunkFrame (msgId : UInt32) (fragIdx fragCount : UInt16) (totalLen : UInt32)
    (chunk : List UInt8) :
    ChunkHeader.read (chunkFrame msgId fragIdx fragCount totalLen chunk)
      = some ⟨msgId, fragIdx, fragCount, totalLen, chunk⟩ := by
  have hlen : (chunkFrame msgId fragIdx fragCount totalLen chunk).length = 13 + chunk.length := by
    simp only [chunkFrame, List.length_cons, List.length_append, length_toLE]
    omega
  have h1 : index (chunkFrame msgId fragIdx fragCount totalLen chunk) 1 5
      = some (toLE 4 msgId.toNat) :=
    index_of_split (a := [chunkTag]) rfl rfl (by rw [length_toLE])
  have h2 : index (chunkFrame msgId fragIdx fragCount totalLen chunk) 5 7
      = some (toLE 2 fragIdx.toNat) :=
    index_of_split (a := chunkTag :: toLE 4 msgId.toNat) rfl
      (by rw [List.length_cons, length_toLE]) (by rw [length_toLE])
  have h3 : index (chunkFrame msgId fragIdx fragCount totalLen chunk) 7 9
      = some (toLE 2 fragCount.toNat) :=
    index_of_split (a := chunkTag :: (toLE 4 msgId.toNat ++ toLE 2 fragIdx.toNat))
      (b := toLE 4 totalLen.toNat ++ chunk)
      (by simp only [chunkFrame, List.cons_append, List.append_assoc])
      (by simp only [List.length_cons, List.length_append, length_toLE]) (by rw [length_toLE])
  have h4 : index (chunkFrame msgId fragIdx fragCount totalLen chunk) 9 13
      = some (toLE 4 totalLen.toNat) :=
    index_of_split
      (a := chunkTag :: (toLE 4 msgId.toNat ++ (toLE 2 fragIdx.toNat ++ toLE 2 fragCount.toNat)))
      (b := chunk)
      (by simp only [chunkFrame, List.cons_append, List.append_assoc])
      (by simp only [List.length_cons, List.length_append, length_toLE]) (by rw [length_toLE])
  have h5 : index (chunkFrame msgId fragIdx fragCount totalLen chunk) 13
      (chunkFrame msgId fragIdx fragCount totalLen chunk).length = some chunk :=
    index_of_split
      (a := chunkTag :: (toLE 4 msgId.toNat ++ (toLE 2 fragIdx.toNat ++ (toLE 2 fragCount.toNat
        ++ toLE 4 totalLen.toNat)))) (b := [])
      (by simp only [chunkFrame, List.cons_append, List.append_assoc, List.append_nil])
      (by simp only [List.length_cons, List.length_append, length_toLE]) hlen.symm
  rw [ChunkHeader.read, h1, h2, h3, h4, h5]
  simp only [Option.bind_eq_bind, Option.bind_some]
  rw [ofLE_toLE 4 _ msgId.toNat_lt, ofLE_toLE 2 _ fragIdx.toNat_lt,
    ofLE_toLE 2 _ fragCount.toNat_lt,
    ofLE_toLE 4 _ totalLen.toNat_lt, UInt32.ofNat_toNat, UInt16.ofNat_toNat, UInt16.ofNat_toNat,
    UInt32.ofNat_toNat]

theorem toNat_fragCount (hmax : L.length ≤ maxLogicalLen) :
    (UInt16.ofNat (fragCountOf L)).toNat = fragCountOf L :=
  UInt16.toNat_ofNat_of_lt' (Nat.lt_of_le_of_lt (count_le hmax) (by decide))

theorem toNat_totalLen (hmax : L.length ≤ maxLogicalLen) :
    (UInt32.ofNat L.length).toNat = L.length :=
  UInt32.toNat_ofNat_of_lt' (Nat.lt_of_le_of_lt hmax (by decide))

theorem toNat_fragIdx (hmax : L.length ≤ maxLogicalLen) {i : Nat} (hi : i < fragCountOf L) :
    (UInt16.ofNat i).toNat = i :=
  UInt16.toNat_ofNat_of_lt' (Nat.lt_of_lt_of_le hi (Nat.le_trans (count_le hmax) (by decide)))

theorem mul_lt_of_lt_fragCount {i : Nat} (hi : i < fragCountOf L) :
    i * maxChunkPayload < L.length :=
  (Fragments.lt_count_iff (by decide)).mp hi

theorem valid_fragmentHeader (hmax : L.length ≤ maxLogicalLen) {i : Nat} (hi : i < fragCountOf L) :
    (fragmentHeader L id i).Valid := by
  have hlt := mul_lt_of_lt_fragCount hi
  have htotal : (fragmentHeader L id i).totalLen.toNat = L.length := toNat_totalLen hmax
  have hcount : (fragmentHeader L id i).fragCount.toNat = fragCountOf L := toNat_fragCount hmax
  have hidx : (fragmentHeader L id i).fragIdx.toNat = i := toNat_fragIdx hmax hi
  refine ⟨?_, ?_, ?_, ?_, ?_⟩
  · rw [htotal]
    exact Nat.lt_of_le_of_lt (Nat.zero_le _) hlt
  · rw [htotal]
    exact hmax
  · rw [hcount, htotal]
    rfl
  · rw [hidx, hcount]
    exact hi
  · rw [ChunkHeader.start, hidx, htotal]
    exact Fragments.length_piece _ _ _

theorem fragment_injective (hmax : L.length ≤ maxLogicalLen) {i j : Nat} (hi : i < fragCountOf L)
    (hj : j < fragCountOf L) (h : fragment L id i = fragment L id j) : i = j := by
  have hread := congrArg ChunkHeader.read h
  rw [fragment, fragment, read_chunkFrame, read_chunkFrame] at hread
  have hidx := congrArg UInt16.toNat (congrArg ChunkHeader.fragIdx (Option.some.inj hread))
  exact (toNat_fragIdx hmax hi).symm.trans (hidx.trans (toNat_fragIdx hmax hj))

theorem length_fragment (i : Nat) : 1 + chunkHeaderLen ≤ (fragment L id i).length := by
  simp only [fragment, chunkFrame, List.length_cons, List.length_append, length_toLE]
  show 13 ≤ _
  omega

end

/-! ## How far a message has come -/

/-- The partial message announces `L`, has the fragments of `S`, and was opened at `t₀`. -/
structure PartialMsg.Collects (L : List UInt8) (S : Nat → Prop) (t₀ : Instant) (p : PartialMsg) :
    Prop where
  totalLen_eq : p.totalLen = UInt32.ofNat L.length
  fragCount_eq : p.fragCount = UInt16.ofNat (fragCountOf L)
  received_iff : ∀ i, p.received.getLsbD i = true ↔ S i
  holds : Fragments.Holds maxChunkPayload L S p.buf
  firstSeen_eq : p.firstSeen = t₀

section
variable {L : List UInt8} {id : UInt32} {S : Nat → Prop} {t₀ : Instant}

theorem PartialMsg.collects_new (hmax : L.length ≤ maxLogicalLen) (i : Nat) (now : Instant) :
    (PartialMsg.new (fragmentHeader L id i) now).Collects L (fun _ => False) now where
  totalLen_eq := rfl
  fragCount_eq := rfl
  received_iff j := by
    show (0#32).getLsbD j = true ↔ False
    rw [BitVec.getLsbD_zero]
    exact iff_of_false Bool.false_ne_true not_false
  holds := .of_none (List.length_replicate.trans (toNat_totalLen hmax))
  firstSeen_eq := rfl

theorem PartialMsg.Collects.stored {p q : PartialMsg} (hp : p.Collects L S t₀)
    (hmax : L.length ≤ maxLogicalLen) {i : Nat} (hi : i < fragCountOf L)
    (hs : p.Stored (fragmentHeader L id i) q) : q.Collects L (fun j => S j ∨ j = i) t₀ := by
  have hidx : (fragmentHeader L id i).fragIdx.toNat = i := toNat_fragIdx hmax hi
  refine ⟨hs.totalLen_eq.trans hp.totalLen_eq, hs.fragCount_eq.trans hp.fragCount_eq, ?_, ?_,
    hs.firstSeen_eq.trans hp.firstSeen_eq⟩
  · intro j
    rw [hs.received_eq, hidx, Bool.or_eq_true, hp.received_iff, decide_eq_true_eq]
  · rw [hs.buf_eq, hidx]
    split
    · rename_i hbit
      have hSi := (hp.received_iff i).mp hbit
      exact hp.holds.congr fun j hj => hj.elim (fun h => h) fun h => h ▸ hSi
    · rw [ChunkHeader.start, hidx]
      exact hp.holds.write (by decide) (mul_lt_of_lt_fragCount hi)

end

/-! ## Calls -/

/-- One call of `ingest_chunk`. -/
structure Call where
  peer : SocketAddr
  raw : List UInt8
  now : Instant

/-- The message id a datagram carries, if it has a chunk header. -/
def messageOf (raw : List UInt8) : Option UInt32 :=
  if raw.head? = some chunkTag ∧ 1 + chunkHeaderLen ≤ raw.length then
    (ChunkHeader.read raw).map (·.msgId)
  else none

/-- The call brings a chunk of the message `id` of `peer`. -/
def Call.isOf (c : Call) (peer : SocketAddr) (id : UInt32) : Bool :=
  c.peer == peer && messageOf c.raw == some id

theorem Call.isOf_iff {c : Call} {peer : SocketAddr} {id : UInt32} :
    c.isOf peer id = true ↔ c.peer = peer ∧ messageOf c.raw = some id := by
  rw [isOf, Bool.and_eq_true, beq_iff_eq, beq_iff_eq]

theorem messageOf_fragment (L : List UInt8) (id : UInt32) (i : Nat) :
    messageOf (fragment L id i) = some id := by
  rw [messageOf, if_pos ⟨rfl, length_fragment i⟩, fragment, read_chunkFrame]
  rfl

namespace ReassemblyTable

def ingest (t : ReassemblyTable) (c : Call) : Checked (Ingested × ReassemblyTable) :=
  t.ingestChunk c.peer c.raw c.now

/-- The calls one after another, with what each returned. -/
def ingestAll (t : ReassemblyTable) : List Call → Checked (List Ingested × ReassemblyTable)
  | [] => some ([], t)
  | c :: cs => do
      let (r, t) ← t.ingest c
      let (rs, t) ← t.ingestAll cs
      some (r :: rs, t)

theorem ingestAll_cons {t t₁ t₂ : ReassemblyTable} {c : Call} {cs : List Call} {r : Ingested}
    {rs : List Ingested} (h : t.ingest c = some (r, t₁)) (hs : t₁.ingestAll cs = some (rs, t₂)) :
    t.ingestAll (c :: cs) = some (r :: rs, t₂) := by
  rw [ingestAll, h, Option.bind_eq_bind, Option.bind_some]
  dsimp only
  rw [hs]
  rfl

theorem ingestAll_append {t t₁ t₂ : ReassemblyTable} {cs ds : List Call} {rs ss : List Ingested}
    (h : t.ingestAll cs = some (rs, t₁)) (hs : t₁.ingestAll ds = some (ss, t₂)) :
    t.ingestAll (cs ++ ds) = some (rs ++ ss, t₂) := by
  induction cs generalizing t rs with
  | nil =>
      cases h
      exact hs
  | cons c cs ih =>
      rw [ingestAll, Option.bind_eq_bind, Option.bind_eq_some_iff] at h
      obtain ⟨⟨r, t'⟩, hc, h⟩ := h
      rw [Option.bind_eq_bind, Option.bind_eq_some_iff] at h
      obtain ⟨⟨rs', t''⟩, hcs, h⟩ := h
      cases h
      exact ingestAll_cons hc (ih hcs)

section
variable {t : ReassemblyTable} {peer : SocketAddr} {id : UInt32}
variable {c : Call} {j : Nat} {calls : List Call}

theorem ingest_other (hb : t.Bounded) (hc : c.isOf peer id = false) :
    ∃ r t', t.ingest c = some (r, t') ∧ t'.Bounded ∧
      t'.part? peer id = (t.part? peer id).bind (fresh c.now) := by
  obtain ⟨r, t', hrun, hb', hcase⟩ := ingest_spec hb c.peer c.raw c.now
  refine ⟨r, t', hrun, hb', ?_⟩
  rw [← part?_gc]
  rcases hcase with ⟨rfl, -⟩ | ⟨hd, p, htag, hlen, hread, -, -, htouch⟩
  · rfl
  · have hmsg : messageOf c.raw = some hd.msgId := by
      rw [messageOf, if_pos ⟨htag, hlen⟩, hread]
      rfl
    have hne : ¬ (peer = c.peer ∧ id = hd.msgId) := by
      rintro ⟨hp, hid⟩
      rw [Call.isOf_iff.mpr ⟨hp.symm, by rw [hmsg, hid]⟩] at hc
      cases hc
    rw [htouch peer id, if_neg hne]

variable {L : List UInt8} {S : Nat → Prop} {t₀ : Instant}

theorem ingest_fragment (hb : t.Bounded) (hmax : L.length ≤ maxLogicalLen) {i : Nat}
    (hi : i < fragCountOf L) (hpeer : c.peer = peer) (hraw : c.raw = fragment L id i)
    (hslot : ((t.gc c.now).slot peer (fragmentHeader L id i) c.now).Collects L S t₀)
    (hroom : (t.gc c.now).part? peer id ≠ none ∨ ∀ r t', t.ingest c = some (r, t') →
      r ≠ .error .globalPeerQuota ∧ r ≠ .error .peerQuota) :
    ∃ r t', t.ingest c = some (r, t') ∧ t'.Bounded ∧
      ((r = .ok none ∧ (∃ j < fragCountOf L, ¬ (S j ∨ j = i)) ∧
          ∃ q, t'.part? peer id = some q ∧ q.Collects L (fun j => S j ∨ j = i) t₀) ∨
        (r = .ok (some L) ∧ (∀ j < fragCountOf L, S j ∨ j = i) ∧ t'.part? peer id = none)) := by
  have hv : (fragmentHeader L id i).Valid := valid_fragmentHeader hmax hi
  have hcount : (fragmentHeader L id i).fragCount.toNat = fragCountOf L := toNat_fragCount hmax
  have hrun : t.ingest c = (t.gc c.now).accept peer (fragmentHeader L id i) c.now := by
    rw [ingest, hpeer, hraw]
    exact ingest_of_valid rfl (length_fragment i) (read_chunkFrame _ _ _ _ _) hv
  obtain ⟨r, t', p, hacc, hb', haccepted, htouch⟩ := accept_spec (hb.gc c.now) hv
  have hres := hrun.trans hacc
  have hpart : t'.part? peer id = p := (htouch peer id).trans (if_pos ⟨rfl, rfl⟩)
  refine ⟨r, t', hres, hb', ?_⟩
  cases haccepted with
  | globalQuota hnone => exact absurd rfl (hroom.resolve_left (not_not.mpr hnone) _ _ hres).1
  | peerQuota hnone => exact absurd rfl (hroom.resolve_left (not_not.mpr hnone) _ _ hres).2
  | inconsistent hdiffer =>
      exact absurd hdiffer
        (not_or.mpr ⟨not_not.mpr hslot.totalLen_eq, not_not.mpr hslot.fragCount_eq⟩)
  | stored q hs hmore =>
      have hq := hslot.stored hmax hi hs
      obtain ⟨j, hj, hbit⟩ := hmore
      rw [hcount] at hj
      refine .inl ⟨rfl, ⟨j, hj, fun h => ?_⟩, q, hpart, hq⟩
      rw [(hq.received_iff j).mpr h] at hbit
      cases hbit
  | complete q hs hfull =>
      have hq := hslot.stored hmax hi hs
      rw [hcount] at hfull
      have hall : ∀ j < fragCountOf L, S j ∨ j = i :=
        fun j hj => (hq.received_iff j).mp (hfull j hj)
      refine .inr ⟨?_, hall, hpart⟩
      rw [hq.holds.eq (by decide) hall]

/-! ## Runs -/

/-- Fragment `j` is among the calls. -/
def Arrived (peer : SocketAddr) (L : List UInt8) (id : UInt32) (calls : List Call)
    (j : Nat) : Prop :=
  ∃ c ∈ calls, c.peer = peer ∧ c.raw = fragment L id j

theorem arrived_cons :
    Arrived peer L id (c :: calls) j
      ↔ (c.peer = peer ∧ c.raw = fragment L id j) ∨ Arrived peer L id calls j :=
  List.exists_mem_cons_iff _ _ _

theorem arrived_append {calls' : List Call} :
    Arrived peer L id (calls ++ calls') j
    ↔ Arrived peer L id calls j ∨ Arrived peer L id calls' j := by
  constructor
  · rintro ⟨c, hc, h⟩
    exact (List.mem_append.mp hc).imp (fun hc => ⟨c, hc, h⟩) (fun hc => ⟨c, hc, h⟩)
  · rintro (⟨c, hc, h⟩ | ⟨c, hc, h⟩)
    · exact ⟨c, List.mem_append_left _ hc, h⟩
    · exact ⟨c, List.mem_append_right _ hc, h⟩

theorem not_arrived_nil : ¬ Arrived peer L id [] j := nofun

theorem isOf_of_fragment (hpeer : c.peer = peer)
    (hraw : c.raw = fragment L id j) : c.isOf peer id = true :=
  Call.isOf_iff.mpr ⟨hpeer, by rw [hraw, messageOf_fragment]⟩

theorem slot_of_part {q : PartialMsg} (hq : t.part? peer id = some q) (i : Nat) (now : Instant) :
    t.slot peer (fragmentHeader L id i) now = q := by
  have hq : t.part? peer (fragmentHeader L id i).msgId = some q := hq
  rw [slot, hq]
  rfl

theorem part?_gc_of_fresh {q : PartialMsg} {now : Instant} (hq : t.part? peer id = some q)
    (hfresh : now - q.firstSeen < partialTtl) : (t.gc now).part? peer id = some q := by
  rw [part?_gc, hq]
  exact if_pos hfresh

/-- No call for the message has returned a datagram. -/
def Quiet (peer : SocketAddr) (id : UInt32) (calls : List Call) (rs : List Ingested) : Prop :=
  ∀ x ∈ calls.zip rs, x.1.isOf peer id = true → ∀ l, x.2 ≠ .ok (some l)

theorem Quiet.cons {r : Ingested} {rs : List Ingested}
    (hr : c.isOf peer id = true → ∀ l, r ≠ .ok (some l)) (hrs : Quiet peer id calls rs) :
    Quiet peer id (c :: calls) (r :: rs) := by
  intro x hx
  rcases List.mem_cons.mp hx with rfl | hx
  · exact hr
  · exact hrs x hx

theorem collect_run (hmax : L.length ≤ maxLogicalLen) :
    ∀ {t : ReassemblyTable} {S : Nat → Prop}, t.Bounded →
      (∃ q, t.part? peer id = some q ∧ q.Collects L S t₀) →
      (∀ c ∈ calls, c.isOf peer id = true → ∃ i < fragCountOf L, c.raw = fragment L id i) →
      (∃ j < fragCountOf L, ¬ S j) →
      (∀ j < fragCountOf L, S j ∨ Arrived peer L id calls j) →
      (∀ xs c ys, calls = xs ++ c :: ys →
        (∃ j < fragCountOf L, ¬ (S j ∨ Arrived peer L id xs j)) → c.now - t₀ < partialTtl) →
      ∃ xs c ys i rs tx t', calls = xs ++ c :: ys ∧ i < fragCountOf L ∧ c.peer = peer ∧
        c.raw = fragment L id i ∧ ¬ (S i ∨ Arrived peer L id xs i) ∧
        (∀ j < fragCountOf L, (S j ∨ Arrived peer L id xs j) ∨ j = i) ∧
        t.ingestAll xs = some (rs, tx) ∧ Quiet peer id xs rs ∧
        tx.ingest c = some (.ok (some L), t') ∧ t'.part? peer id = none := by
  induction calls with
  | nil =>
      intro t S _ _ _ hmiss hall _
      obtain ⟨j, hj, hS⟩ := hmiss
      exact absurd ((hall j hj).resolve_left hS) not_arrived_nil
  | cons c calls ih =>
      intro t S hb hq hsame hmiss hall httl
      obtain ⟨q, hpart, hq⟩ := hq
      have hfresh : c.now - q.firstSeen < partialTtl := by
        obtain ⟨j, hj, hS⟩ := hmiss
        rw [hq.firstSeen_eq]
        exact httl [] c calls rfl ⟨j, hj, fun h => h.elim hS not_arrived_nil⟩
      have hgc := part?_gc_of_fresh hpart hfresh
      have hsame' : ∀ d ∈ calls, d.isOf peer id = true →
          ∃ i < fragCountOf L, d.raw = fragment L id i :=
        fun d hd => hsame d (List.mem_cons_of_mem c hd)
      cases hof : c.isOf peer id with
      | false =>
          have hnot : ∀ xs j, Arrived peer L id (c :: xs) j ↔ Arrived peer L id xs j := by
            intro xs j
            rw [arrived_cons]
            refine ⟨fun h => h.resolve_left fun hc => ?_, .inr⟩
            rw [isOf_of_fragment hc.1 hc.2] at hof
            cases hof
          obtain ⟨r, t₁, hrun, hb₁, hpart₁⟩ := ingest_other hb hof
          rw [← part?_gc, hgc] at hpart₁
          obtain ⟨xs, d, ys, i, rs, tx, t', hcalls, hi, hd, hraw, hnew, hlast, hxs,
            hquiet, hdone⟩ :=
            ih hb₁ ⟨q, hpart₁, hq⟩ hsame' hmiss (fun j hj => by rw [← hnot]; exact hall j hj)
              (fun xs d ys hcalls hj => httl (c :: xs) d ys (by rw [hcalls]; rfl)
                (by simp only [hnot]; exact hj))
          refine ⟨c :: xs, d, ys, i, r :: rs, tx, t', by rw [hcalls]; rfl, hi, hd, hraw, ?_, ?_,
            ingestAll_cons hrun hxs, hquiet.cons (fun h => ?_), hdone⟩
          · rw [hnot]
            exact hnew
          · simp only [hnot]
            exact hlast
          · rw [hof] at h
            cases h
      | true =>
          obtain ⟨i, hi, hraw⟩ := hsame c List.mem_cons_self hof
          have hpeer := (Call.isOf_iff.mp hof).1
          have hadd : ∀ xs j, j < fragCountOf L →
              (S j ∨ Arrived peer L id (c :: xs) j ↔ (S j ∨ j = i) ∨ Arrived peer L id xs j) := by
            intro xs j hj
            have hc : (c.peer = peer ∧ c.raw = fragment L id j) ↔ j = i := by
              rw [hraw]
              refine ⟨fun h => (fragment_injective hmax hi hj h.2).symm,
                fun h => ⟨hpeer, by rw [h]⟩⟩
            rw [arrived_cons, hc, or_assoc]
          have hslot : ((t.gc c.now).slot peer (fragmentHeader L id i) c.now).Collects L S t₀ := by
            rw [slot_of_part hgc]
            exact hq
          obtain ⟨r, t₁, hrun, hb₁, hcase⟩ := ingest_fragment hb hmax hi hpeer hraw hslot
            (.inl (by rw [hgc]; exact nofun))
          rcases hcase with ⟨rfl, hmiss', hq'⟩ | ⟨rfl, hfull, hnone⟩
          · obtain ⟨xs, d, ys, k, rs, tx, t', hcalls, hk, hd, hraw', hnew, hlast, hxs,
              hquiet, hdone⟩ :=
              ih hb₁ hq' hsame' hmiss' (fun j hj => (hadd calls j hj).mp (hall j hj))
                (fun xs d ys hcalls ⟨j, hj, hmissing⟩ => httl (c :: xs) d ys (by rw [hcalls]; rfl)
                  ⟨j, hj, fun h => hmissing ((hadd xs j hj).mp h)⟩)
            refine ⟨c :: xs, d, ys, k, .ok none :: rs, tx, t', by rw [hcalls]; rfl, hk, hd, hraw',
              fun h => hnew ((hadd xs k hk).mp h),
              fun j hj => (hlast j hj).imp_left (hadd xs j hj).mpr, ingestAll_cons hrun hxs,
              hquiet.cons (fun _ _ => nofun), hdone⟩
          · obtain ⟨j, hj, hS⟩ := hmiss
            have hji : j = i := (hfull j hj).resolve_left hS
            refine ⟨[], c, calls, i, [], t, t₁, rfl, hi, hpeer, hraw, ?_, ?_, rfl,
              nofun, hrun, hnone⟩
            · exact fun h => h.elim (hji ▸ hS) not_arrived_nil
            · exact fun k hk => (hfull k hk).imp_left .inl

theorem skip_run : ∀ {t : ReassemblyTable}, t.Bounded → t.part? peer id = none →
    (∀ c ∈ calls, c.isOf peer id = false) →
    ∃ rs t', t.ingestAll calls = some (rs, t') ∧ t'.Bounded ∧ t'.part? peer id = none ∧
      Quiet peer id calls rs := by
  induction calls with
  | nil =>
      intro t hb hnone _
      exact ⟨[], t, rfl, hb, hnone, nofun⟩
  | cons c calls ih =>
      intro t hb hnone hother
      have hof := hother c List.mem_cons_self
      obtain ⟨r, t₁, hrun, hb₁, hpart⟩ := ingest_other hb hof
      rw [hnone, Option.bind_none] at hpart
      obtain ⟨rs, t', hrest, hb', hnone', hquiet⟩ :=
        ih hb₁ hpart (fun d hd => hother d (List.mem_cons_of_mem c hd))
      refine ⟨r :: rs, t', ingestAll_cons hrun hrest, hb', hnone', hquiet.cons fun h => ?_⟩
      rw [hof] at h
      cases h

theorem Quiet.append {calls' : List Call} {rs rs' : List Ingested}
    (hlen : calls.length = rs.length) (h : Quiet peer id calls rs) (h' : Quiet peer id calls' rs') :
    Quiet peer id (calls ++ calls') (rs ++ rs') := by
  intro x hx
  rw [List.zip_append hlen, List.mem_append] at hx
  exact hx.elim (h x) (h' x)

theorem length_ingestAll : ∀ {t t' : ReassemblyTable} {rs : List Ingested},
    t.ingestAll calls = some (rs, t') → calls.length = rs.length := by
  induction calls with
  | nil =>
      intro t t' rs h
      cases h
      rfl
  | cons c calls ih =>
      intro t t' rs h
      rw [ingestAll, Option.bind_eq_bind, Option.bind_eq_some_iff] at h
      obtain ⟨⟨r, t₁⟩, -, h⟩ := h
      rw [Option.bind_eq_bind, Option.bind_eq_some_iff] at h
      obtain ⟨⟨rs', t₂⟩, hrest, h⟩ := h
      cases h
      rw [List.length_cons, List.length_cons, ih hrest]

theorem two_le_fragCountOf (hbig : maxUdpDatagram < L.length) : 2 ≤ fragCountOf L := by
  have hlt : 1 * maxChunkPayload < L.length := Nat.lt_trans (by decide) hbig
  exact (Fragments.lt_count_iff (by decide)).mpr hlt

theorem ingest_first (hb : t.Bounded) (hbig : maxUdpDatagram < L.length)
    (hmax : L.length ≤ maxLogicalLen) (hnone : t.part? peer id = none) {i : Nat}
    (hi : i < fragCountOf L) (hpeer : c.peer = peer) (hraw : c.raw = fragment L id i)
    (hquota : ∀ r t', t.ingest c = some (r, t') →
      r ≠ .error .globalPeerQuota ∧ r ≠ .error .peerQuota) :
    ∃ t', t.ingest c = some (.ok none, t') ∧ t'.Bounded ∧
      ∃ q, t'.part? peer id = some q ∧ q.Collects L (fun j => False ∨ j = i) c.now := by
  have hslot : ((t.gc c.now).slot peer (fragmentHeader L id i) c.now).Collects L (fun _ => False)
      c.now := by
    have hgc : (t.gc c.now).part? peer (fragmentHeader L id i).msgId = none := by
      show (t.gc c.now).part? peer id = none
      rw [part?_gc, hnone]
      rfl
    rw [slot, hgc]
    exact PartialMsg.collects_new hmax i c.now
  obtain ⟨r, t', hrun, hb', hcase⟩ := ingest_fragment hb hmax hi hpeer hraw hslot (.inr hquota)
  rcases hcase with ⟨rfl, -, hq⟩ | ⟨-, hfull, -⟩
  · exact ⟨t', hrun, hb', hq⟩
  · have htwo := two_le_fragCountOf hbig
    have h0 := (hfull 0 (by omega)).resolve_left (fun h => h)
    have h1 := (hfull 1 (by omega)).resolve_left (fun h => h)
    omega

theorem exists_first {p : Call → Bool} (h : ∃ c ∈ calls, p c = true) :
    ∃ ws c ys, calls = ws ++ c :: ys ∧ p c = true ∧ ∀ x ∈ ws, p x = false := by
  obtain ⟨c, hc, hp⟩ := h
  cases hf : calls.find? p with
  | none => exact absurd hp (List.find?_eq_none.mp hf c hc)
  | some d =>
      obtain ⟨hd, ws, ys, hcalls, hws⟩ := List.find?_eq_some_iff_append.mp hf
      exact ⟨ws, d, ys, hcalls, hd, fun x hx => by simpa using hws x hx⟩

/-- With a clock that does not go back, every call up to the one that brings a missing
fragment is within the TTL of the first, if that one is. -/
theorem within_ttl {ws xs zs : List Call} {d : Call}
    (hmono : calls.Pairwise fun c d => c.now ≤ d.now) (hcalls : calls = ws ++ c :: (xs ++ d :: zs))
    (harrives : Arrived peer L id calls j) (hmissing : ¬ Arrived peer L id (ws ++ c :: xs) j)
    (httl : ∀ ws' e ys, calls = ws' ++ e :: ys → e.isOf peer id = true →
      ¬ Arrived peer L id ws' j → ∀ x ∈ ws', x.isOf peer id = true → e.now - x.now < partialTtl)
    (hc : c.isOf peer id = true) : d.now - c.now < partialTtl := by
  have hsplit : calls = (ws ++ c :: xs) ++ d :: zs := by
    rw [hcalls, List.append_assoc, List.cons_append]
  have hrest : ∃ e ∈ d :: zs, (e.peer == peer && e.raw == fragment L id j) = true := by
    obtain ⟨e, he, hpeer, hraw⟩ := harrives
    rw [hsplit, List.mem_append] at he
    refine ⟨e, he.resolve_left fun hin => hmissing ⟨e, hin, hpeer, hraw⟩, ?_⟩
    rw [Bool.and_eq_true, beq_iff_eq, beq_iff_eq]
    exact ⟨hpeer, hraw⟩
  obtain ⟨us, e, vs, hus, he, hnot⟩ := exists_first hrest
  rw [Bool.and_eq_true, beq_iff_eq, beq_iff_eq] at he
  have hwithin : e.now - c.now < partialTtl := by
    refine httl (ws ++ c :: xs ++ us) e vs (by rw [hsplit, hus, List.append_assoc _ us])
      (isOf_of_fragment he.1 he.2) ?_ c (by simp) hc
    rintro ⟨x, hx, hpeer, hraw⟩
    rcases List.mem_append.mp hx with hx | hx
    · exact hmissing ⟨x, hx, hpeer, hraw⟩
    · have hno := hnot x hx
      rw [hpeer, hraw, beq_self_eq_true, beq_self_eq_true] at hno
      cases hno
  have hle : d.now ≤ e.now := by
    have hmem : e ∈ d :: zs := by rw [hus]; simp
    rcases List.mem_cons.mp hmem with rfl | hmem
    · exact Nat.le_refl _
    · rw [hsplit, List.pairwise_append] at hmono
      exact (List.pairwise_cons.mp hmono.2.1).1 e hmem
  exact Nat.lt_of_le_of_lt (Nat.sub_le_sub_right hle _) hwithin

end

/-- **Every fragmented datagram is reassembled.**  After any past that left no partial
message for `peer` and `id`, take any calls in the order of their times that bring all
fragments of `L`, with whatever else between them, where no other chunk of the same
message is among them, the first fragment meets no quota, and each fragment up to
completion comes within the TTL of those before it.  Then the call that brings the last
missing fragment returns `L` and leaves no partial message, and no call for the message
before it returned a datagram. -/
theorem reassembles {L : List UInt8} {peer : SocketAddr} {id : UInt32}
    (hbig : maxUdpDatagram < L.length) (hmax : L.length ≤ maxLogicalLen)
    {past : List Event} {t : ReassemblyTable} (ht : new.run past = some t)
    (hnone : t.part? peer id = none) {calls : List Call}
    (hmono : calls.Pairwise fun c d => c.now ≤ d.now)
    (hall : ∀ f ∈ fragmentDatagram L id, ∃ c ∈ calls, c.peer = peer ∧ c.raw = f)
    (hsame : ∀ c ∈ calls, c.isOf peer id = true → c.raw ∈ fragmentDatagram L id)
    (hquota : ∀ ws c ys rs tw r t', calls = ws ++ c :: ys → (∀ x ∈ ws, x.isOf peer id = false) →
      c.isOf peer id = true → t.ingestAll ws = some (rs, tw) → tw.ingest c = some (r, t') →
      r ≠ .error .globalPeerQuota ∧ r ≠ .error .peerQuota)
    (httl : ∀ ws c ys, calls = ws ++ c :: ys → c.isOf peer id = true →
      (∃ f ∈ fragmentDatagram L id, ∀ x ∈ ws, ¬ (x.peer = peer ∧ x.raw = f)) →
      ∀ x ∈ ws, x.isOf peer id = true → c.now - x.now < partialTtl) :
    ∃ xs c ys rs tx t', calls = xs ++ c :: ys ∧
      c.peer = peer ∧ c.raw ∈ fragmentDatagram L id ∧
      (∀ x ∈ xs, ¬ (x.peer = peer ∧ x.raw = c.raw)) ∧
      (∀ f ∈ fragmentDatagram L id, ∃ x ∈ xs ++ [c], x.peer = peer ∧ x.raw = f) ∧
      t.ingestAll xs = some (rs, tx) ∧ Quiet peer id xs rs ∧
      tx.ingest c = some (.ok (some L), t') ∧ t'.part? peer id = none := by
  have hfrag : ∀ f, f ∈ fragmentDatagram L id ↔ ∃ i < fragCountOf L, f = fragment L id i :=
    fun f => mem_fragmentDatagram hbig hmax
  have harrives : ∀ j < fragCountOf L, Arrived peer L id calls j :=
    fun j hj => hall _ ((hfrag _).mpr ⟨j, hj, rfl⟩)
  have hsame' : ∀ c ∈ calls, c.isOf peer id = true → ∃ i < fragCountOf L, c.raw = fragment L id i :=
    fun c hc hof => (hfrag _).mp (hsame c hc hof)
  obtain ⟨t', ht', hb⟩ := bounded_new.run past
  rw [ht] at ht'
  cases ht'
  -- the first chunk of the message
  have hfirst : ∃ c ∈ calls, c.isOf peer id = true := by
    obtain ⟨c, hc, hpeer, hraw⟩ :=
      harrives 0 (Nat.lt_of_lt_of_le Nat.two_pos (two_le_fragCountOf hbig))
    exact ⟨c, hc, isOf_of_fragment hpeer hraw⟩
  obtain ⟨ws, c, ys, hcalls, hc, hws⟩ := exists_first hfirst
  obtain ⟨i, hi, hraw⟩ := hsame' c (by rw [hcalls]; simp) hc
  have hpeer := (Call.isOf_iff.mp hc).1
  obtain ⟨rs₁, tw, hrun₁, hbw, hnone₁, hquiet₁⟩ := skip_run hb hnone hws
  obtain ⟨t₁, hopen, hb₁, hq⟩ := ingest_first hbw hbig hmax hnone₁ hi hpeer hraw
    (fun r t' hr => hquota ws c ys rs₁ tw r t' hcalls hws hc hrun₁ hr)
  -- arrivals before and after it
  have hadd : ∀ xs j, j < fragCountOf L →
      (Arrived peer L id (ws ++ c :: xs) j ↔ (False ∨ j = i) ∨ Arrived peer L id xs j) := by
    intro xs j hj
    have hnot : ¬ Arrived peer L id ws j := by
      rintro ⟨x, hx, hxpeer, hxraw⟩
      have hx := hws x hx
      rw [isOf_of_fragment hxpeer hxraw] at hx
      cases hx
    rw [arrived_append, or_iff_right hnot, arrived_cons, false_or, hraw]
    refine or_congr_left ⟨fun h => (fragment_injective hmax hi hj h.2).symm, fun h => ⟨hpeer, ?_⟩⟩
    rw [h]
  have hmiss : ∃ j < fragCountOf L, ¬ (False ∨ j = i) := by
    have htwo := two_le_fragCountOf hbig
    by_cases h0 : i = 0
    · exact ⟨1, htwo, by rw [false_or]; omega⟩
    · exact ⟨0, by omega, by rw [false_or]; omega⟩
  obtain ⟨xs, d, zs, k, rs₂, tx, t', hys, hk, hdpeer, hdraw, hnew, hlast, hrun₂, hquiet₂, hdone,
      hclear⟩ := collect_run hmax hb₁ hq
    (fun d hd =>
      hsame' d (by rw [hcalls]; exact List.mem_append_right _ (List.mem_cons_of_mem c hd)))
    hmiss (fun j hj => (hadd ys j hj).mp (hcalls ▸ harrives j hj))
    (fun xs d zs hys ⟨j, hj, hmissing⟩ => within_ttl hmono (hys ▸ hcalls) (harrives j hj)
      (fun h => hmissing ((hadd xs j hj).mp h))
      (fun ws' e vs hsplit he hj' => httl ws' e vs hsplit he
        ⟨fragment L id j, (hfrag _).mpr ⟨j, hj, rfl⟩, fun x hx h => hj' ⟨x, hx, h⟩⟩) hc)
  refine ⟨ws ++ c :: xs, d, zs, rs₁ ++ .ok none :: rs₂, tx, t', ?_, hdpeer,
    (hfrag _).mpr ⟨k, hk, hdraw⟩, ?_, ?_, ingestAll_append hrun₁ (ingestAll_cons hopen hrun₂),
    hquiet₁.append (length_ingestAll hrun₁) (hquiet₂.cons fun _ _ => nofun), hdone, hclear⟩
  · rw [hcalls, hys, List.append_assoc, List.cons_append]
  · intro x hx h
    rw [hdraw] at h
    exact hnew ((hadd xs k hk).mp ⟨x, hx, h⟩)
  · intro f hf
    obtain ⟨j, hj, rfl⟩ := (hfrag f).mp hf
    rcases hlast j hj with hin | rfl
    · obtain ⟨x, hx, h⟩ := (hadd xs j hj).mpr hin
      exact ⟨x, List.mem_append_left _ hx, h⟩
    · exact ⟨d, by simp, hdpeer, hdraw⟩

/-- One byte more than fits one datagram. -/
def sampleLogical : List UInt8 := List.replicate 1201 0xAB

def samplePeer (port : UInt16) : SocketAddr := .v4 (.replicate 4 10) port

/-- The two fragments in reverse order, the second of them twice, with a truncated chunk
of another peer between them. -/
def sampleCalls : List Call :=
  [⟨samplePeer 9, fragment sampleLogical 42 1, 0⟩, ⟨samplePeer 8, [chunkTag], 1⟩,
   ⟨samplePeer 9, fragment sampleLogical 42 1, 2⟩, ⟨samplePeer 9, fragment sampleLogical 42 0, 3⟩]

theorem reassembles_sample :
    ∃ xs c ys rs tx t', sampleCalls = xs ++ c :: ys ∧
      c.peer = samplePeer 9 ∧ c.raw ∈ fragmentDatagram sampleLogical 42 ∧
      (∀ x ∈ xs, ¬ (x.peer = samplePeer 9 ∧ x.raw = c.raw)) ∧
      (∀ f ∈ fragmentDatagram sampleLogical 42,
        ∃ x ∈ xs ++ [c], x.peer = samplePeer 9 ∧ x.raw = f) ∧
      new.ingestAll xs = some (rs, tx) ∧ Quiet (samplePeer 9) 42 xs rs ∧
      tx.ingest c = some (.ok (some sampleLogical), t') ∧ t'.part? (samplePeer 9) 42 = none := by
  have hlen : sampleLogical.length = 1201 := List.length_replicate
  have hbig : maxUdpDatagram < sampleLogical.length := by rw [hlen]; decide
  have hmax : sampleLogical.length ≤ maxLogicalLen := by rw [hlen]; decide
  have hcount : fragCountOf sampleLogical = 2 := by rw [fragCountOf, hlen]; rfl
  have hmem : ∀ i < 2, fragment sampleLogical 42 i ∈ fragmentDatagram sampleLogical 42 :=
    fun i hi => (mem_fragmentDatagram hbig hmax).mpr ⟨i, by rw [hcount]; exact hi, rfl⟩
  have hfirst : ∀ r t', new.ingest ⟨samplePeer 9, fragment sampleLogical 42 1, 0⟩ = some (r, t') →
      r ≠ .error .globalPeerQuota ∧ r ≠ .error .peerQuota := by
    have hopen : (new.ingest ⟨samplePeer 9, fragment sampleLogical 42 1, 0⟩).map
        (fun s => s.1.toOption) = some (some none) := by decide +kernel
    intro r t' hr
    rw [hr] at hopen
    cases r with
    | ok l => exact ⟨nofun, nofun⟩
    | error e => cases hopen
  have htimes : ∀ c ∈ sampleCalls, c.now ≤ 3 := by
    simp only [sampleCalls, List.forall_mem_cons]
    exact ⟨by decide, by decide, by decide, by decide, nofun⟩
  refine @reassembles sampleLogical (samplePeer 9) 42 hbig hmax [] new rfl rfl sampleCalls
    ?_ ?_ ?_ ?_ ?_
  · have hnow : sampleCalls.map Call.now = [0, 1, 2, 3] := rfl
    have hsorted : (sampleCalls.map Call.now).Pairwise (· ≤ ·) := by rw [hnow]; decide
    exact List.pairwise_map.mp hsorted
  · intro f hf
    obtain ⟨i, hi, rfl⟩ := (mem_fragmentDatagram hbig hmax).mp hf
    rw [hcount] at hi
    obtain rfl | rfl : i = 0 ∨ i = 1 := by omega
    · exact ⟨⟨samplePeer 9, fragment sampleLogical 42 0, 3⟩, List.mem_cons_of_mem _
        (List.mem_cons_of_mem _ (List.mem_cons_of_mem _ List.mem_cons_self)), rfl, rfl⟩
    · exact ⟨⟨samplePeer 9, fragment sampleLogical 42 1, 0⟩, List.mem_cons_self, rfl, rfl⟩
  · simp only [sampleCalls, List.forall_mem_cons]
    exact ⟨fun _ => hmem 1 (by decide), by decide, fun _ => hmem 1 (by decide),
      fun _ => hmem 0 (by decide), nofun⟩
  · intro ws c ys rs tw r t' hcalls hws hc hrun
    cases ws with
    | nil =>
        cases hcalls
        cases hrun
        exact hfirst r t'
    | cons x ws =>
        obtain ⟨rfl, -⟩ := List.cons.inj hcalls
        have hx := hws _ List.mem_cons_self
        rw [isOf_of_fragment rfl rfl] at hx
        cases hx
  · intro ws c ys hcalls _ _ x hx _
    have hc := htimes c (by rw [hcalls]; simp)
    exact Nat.lt_of_le_of_lt (Nat.le_trans (Nat.sub_le _ _) hc) (by decide)

end ReassemblyTable

end GoatCoin
