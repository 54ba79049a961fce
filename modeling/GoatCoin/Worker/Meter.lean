/-
# `GoatCoin.Worker.Meter` — `meter.rs`: a session cut into drafts, and the counter they share

Bytes come in as they come in, a whole chunk is cut off as soon as it is there, and what is left at
the end is the last one.  Where nothing is left, the chunk cut last is relabelled:

    observe      pending + bytes, then 10485760 at a time       INTERIM
    seal_final   the rest                                       FINAL
                 no rest                                        the last INTERIM becomes FINAL

The attestor computes the same list from the total alone.  The ordinal of a draft is of the process,
not of the session, and sessions run side by side: the second part lets them take turns at every
draft.
-/
import GoatCoin.Attestor.ChunkPartition

namespace GoatCoin.Worker

open Evm Attestor

/-! ## The meter of a session -/

def chunkBytes : Word 64 := 10485760

theorem chunkBytes_val : chunkBytes.val = receiptChunkBytes := rfl

inductive ChunkKind where
  | interim
  | final
deriving DecidableEq

def ChunkKind.asStr : ChunkKind → String
  | .interim => "INTERIM"
  | .final => "FINAL"

/-- The counter of a process. -/
structure MeterCounter where
  issued : Word 64
deriving DecidableEq

def MeterCounter.new : MeterCounter := ⟨0⟩

/-- `fetch_add(1) + 1`: both additions wrap. -/
def MeterCounter.next (counter : MeterCounter) : Word 64 × MeterCounter :=
  (counter.issued + 1, ⟨counter.issued + 1⟩)

structure ChunkReceiptDraft where
  sessionId : Bytes32
  chunkSeq : Word 64
  chunkKind : ChunkKind
  allowlistEntryId : Word 32
  bytesTransferred : Word 64
  counter : Word 64
  sealedAtUnix : Word 64
deriving DecidableEq

/-- The meter of a session. -/
structure SessionMeter where
  sessionId : Bytes32
  allowlistEntryId : Word 32
  observedTotal : Word 64
  pending : Word 64
  drafts : List ChunkReceiptDraft
  sealed : Bool
deriving DecidableEq

def saturatingAdd (a b : Word 64) : Word 64 :=
  ⟨min (a.val + b.val) (2 ^ 64 - 1), lt_of_le_of_lt (Nat.min_le_right _ _) (by decide)⟩

/-- The last draft of a session, and only it, becomes final. -/
def relabelLast : List ChunkReceiptDraft → List ChunkReceiptDraft
  | [] => []
  | [last] => [{ last with chunkKind := .final }]
  | d :: rest => d :: relabelLast rest

namespace SessionMeter

def new (sessionId : Bytes32) (allowlistEntryId : Word 32) : SessionMeter where
  sessionId := sessionId
  allowlistEntryId := allowlistEntryId
  observedTotal := 0
  pending := 0
  drafts := []
  sealed := false

/-- The draft that `push_draft` pushes. -/
def draft (m : SessionMeter) (counter : MeterCounter) (bytes : Word 64) (kind : ChunkKind)
    (nowUnix : Word 64) : ChunkReceiptDraft where
  sessionId := m.sessionId
  chunkSeq := Fin.ofNat (2 ^ 64) m.drafts.length
  chunkKind := kind
  allowlistEntryId := m.allowlistEntryId
  bytesTransferred := bytes
  counter := counter.next.1
  sealedAtUnix := nowUnix

def pushDraft (m : SessionMeter) (counter : MeterCounter) (bytes : Word 64) (kind : ChunkKind)
    (nowUnix : Word 64) : SessionMeter × MeterCounter :=
  ({ m with drafts := m.drafts ++ [m.draft counter bytes kind nowUnix] }, counter.next.2)

/-- The two additions of `observe`. -/
def receive (m : SessionMeter) (bytes : Word 64) : SessionMeter :=
  { m with observedTotal := saturatingAdd m.observedTotal bytes,
           pending := saturatingAdd m.pending bytes }

/-- The body of the loop of `observe`. -/
def cutChunk (m : SessionMeter) (counter : MeterCounter) (nowUnix : Word 64) :
    SessionMeter × MeterCounter :=
  { m with pending := m.pending - chunkBytes }.pushDraft counter chunkBytes .interim nowUnix

theorem pending_cutChunk {m : SessionMeter} (h : chunkBytes ≤ m.pending) (counter : MeterCounter)
    (nowUnix : Word 64) :
    (m.cutChunk counter nowUnix).1.pending.val = m.pending.val - receiptChunkBytes :=
  Fin.sub_val_of_le h

def cutChunks (m : SessionMeter) (counter : MeterCounter) (nowUnix : Word 64) :
    SessionMeter × MeterCounter :=
  if chunkBytes ≤ m.pending then
    (m.cutChunk counter nowUnix).1.cutChunks (m.cutChunk counter nowUnix).2 nowUnix
  else (m, counter)
termination_by m.pending.val
decreasing_by
  rename_i h
  have hle : receiptChunkBytes ≤ m.pending.val := h
  have hpos : 0 < receiptChunkBytes := by decide
  rw [pending_cutChunk h]
  omega

/-- Counts bytes, and cuts chunks. -/
def observe (m : SessionMeter) (counter : MeterCounter) (bytes nowUnix : Word 64) :
    SessionMeter × MeterCounter :=
  if m.sealed ∨ bytes = 0 then (m, counter)
  else (m.receive bytes).cutChunks counter nowUnix

/-- The last draft of a session. -/
def sealFinal (m : SessionMeter) (counter : MeterCounter) (nowUnix : Word 64) :
    SessionMeter × MeterCounter :=
  if m.sealed then (m, counter)
  else
    let m := { m with sealed := true }
    if m.observedTotal = 0 then (m, counter)
    else if 0 < m.pending then { m with pending := 0 }.pushDraft counter m.pending .final nowUnix
    else ({ m with drafts := relabelLast m.drafts }, counter)

end SessionMeter

/-! ## The cut -/

/-- What a draft says of its chunk: the size, the kind and the number. -/
def ChunkReceiptDraft.cut (d : ChunkReceiptDraft) : Nat × String × Nat :=
  (d.bytesTransferred.val, d.chunkKind.asStr, d.chunkSeq.val)

/-- What the attestor's split says of each chunk. -/
def numberedSplit (total : Nat) : List (Nat × String × Nat) :=
  (splitIntoChunks total).zipIdx.map fun c => (c.1.1, c.1.2.asToken, c.2)

/-- The first `k` chunks, all of them whole. -/
def wholeChunks (k : Nat) : List (Nat × String × Nat) :=
  (List.range k).map fun i => (receiptChunkBytes, "INTERIM", i)

theorem wholeChunks_succ (k : Nat) :
    wholeChunks (k + 1) = wholeChunks k ++ [(receiptChunkBytes, "INTERIM", k)] := by
  unfold wholeChunks
  rw [List.range_succ, List.map_append]
  rfl

theorem length_wholeChunks (k : Nat) : (wholeChunks k).length = k := by
  unfold wholeChunks
  rw [List.length_map, List.length_range]

theorem numberedSplit_eq (k : Nat) {x : Nat} (hpos : 1 ≤ x) (hle : x ≤ receiptChunkBytes) :
    numberedSplit (k * receiptChunkBytes + x) = wholeChunks k ++ [(x, "FINAL", k)] := by
  have hwhole : (List.replicate k (receiptChunkBytes, Attestor.ChunkKind.interim)).zipIdx.map
      (fun c => (c.1.1, c.1.2.asToken, c.2)) = wholeChunks k := by
    refine List.ext_getElem ?_ fun i _ _ => ?_
    · rw [List.length_map, List.length_zipIdx, List.length_replicate, length_wholeChunks]
    · simp [wholeChunks, Attestor.ChunkKind.asToken]
  unfold numberedSplit
  rw [splitIntoChunks_eq k hpos hle, List.zipIdx_append, List.map_append, hwhole]
  simp [Attestor.ChunkKind.asToken]

/-- **A session that is not sealed**: whole chunks were cut off what came in, and the rest is
pending. -/
structure SessionMeter.Balanced (m : SessionMeter) : Prop where
  unsealed : m.sealed = false
  total : m.observedTotal.val = m.drafts.length * receiptChunkBytes + m.pending.val
  cuts : m.drafts.map (·.cut) = wholeChunks m.drafts.length

theorem balanced_new (sessionId : Bytes32) (allowlistEntryId : Word 32) :
    (SessionMeter.new sessionId allowlistEntryId).Balanced where
  unsealed := rfl
  total := by simp [SessionMeter.new]
  cuts := rfl

theorem saturatingAdd_val {a b : Word 64} (h : a.val + b.val < 2 ^ 64) :
    (saturatingAdd a b).val = a.val + b.val := by
  unfold saturatingAdd
  exact Nat.min_eq_left (Nat.le_sub_one_of_lt h)

namespace SessionMeter.Balanced

variable {m : SessionMeter}

theorem receive (hm : m.Balanced) {bytes : Word 64} (h : m.observedTotal.val + bytes.val < 2 ^ 64) :
    (m.receive bytes).Balanced := by
  have htotal := hm.total
  have hpending : m.pending.val + bytes.val < 2 ^ 64 := by omega
  refine ⟨hm.unsealed, ?_, hm.cuts⟩
  show (saturatingAdd m.observedTotal bytes).val = _ * _ + (saturatingAdd m.pending bytes).val
  rw [saturatingAdd_val h, saturatingAdd_val hpending, htotal]
  exact Nat.add_assoc _ _ _

theorem length_lt (hm : m.Balanced) : m.drafts.length < 2 ^ 64 := by
  have hle : m.drafts.length * 1 ≤ m.drafts.length * receiptChunkBytes :=
    Nat.mul_le_mul_left _ (by decide)
  have htotal := hm.total
  have hbound := m.observedTotal.isLt
  omega

theorem cut_draft (hm : m.Balanced) (counter : MeterCounter) (bytes : Word 64) (kind : ChunkKind)
    (nowUnix : Word 64) :
    (m.draft counter bytes kind nowUnix).cut = (bytes.val, kind.asStr, m.drafts.length) := by
  have hseq : m.drafts.length % 2 ^ 64 = m.drafts.length := Nat.mod_eq_of_lt hm.length_lt
  exact congrArg (fun i => (bytes.val, kind.asStr, i)) hseq

theorem cutChunk (hm : m.Balanced) (h : chunkBytes ≤ m.pending) (counter : MeterCounter)
    (nowUnix : Word 64) : (m.cutChunk counter nowUnix).1.Balanced := by
  have hle : receiptChunkBytes ≤ m.pending.val := h
  have hdrafts : (m.cutChunk counter nowUnix).1.drafts
      = m.drafts ++ [m.draft counter chunkBytes .interim nowUnix] := rfl
  refine ⟨hm.unsealed, ?_, ?_⟩
  · have htotal : (m.cutChunk counter nowUnix).1.observedTotal = m.observedTotal := rfl
    rw [pending_cutChunk h, htotal, hdrafts, List.length_append, List.length_singleton,
      Nat.succ_mul, hm.total]
    omega
  · rw [hdrafts, List.length_append, List.length_singleton, wholeChunks_succ,
      List.map_append, hm.cuts, List.map_singleton, hm.cut_draft, chunkBytes_val]
    rfl

theorem cutChunks (hm : m.Balanced) (counter : MeterCounter) (nowUnix : Word 64) :
    (m.cutChunks counter nowUnix).1.Balanced
      ∧ (m.cutChunks counter nowUnix).1.pending.val < receiptChunkBytes
      ∧ (m.cutChunks counter nowUnix).1.observedTotal = m.observedTotal := by
  induction m, counter using SessionMeter.cutChunks.induct nowUnix with
  | case1 m counter hle ih =>
      rw [SessionMeter.cutChunks, if_pos hle]
      exact ih (hm.cutChunk hle counter nowUnix)
  | case2 m counter hlt =>
      rw [SessionMeter.cutChunks, if_neg hlt]
      exact ⟨hm, Nat.lt_of_not_le hlt, rfl⟩

/-- **One observation.** -/
theorem observe (hm : m.Balanced) (hpending : m.pending.val < receiptChunkBytes) {bytes : Word 64}
    (h : m.observedTotal.val + bytes.val < 2 ^ 64) (counter : MeterCounter) (nowUnix : Word 64) :
    (m.observe counter bytes nowUnix).1.Balanced
      ∧ (m.observe counter bytes nowUnix).1.pending.val < receiptChunkBytes
      ∧ (m.observe counter bytes nowUnix).1.observedTotal.val
        = m.observedTotal.val + bytes.val := by
  unfold SessionMeter.observe
  rw [hm.unsealed]
  by_cases hbytes : bytes = 0
  · subst hbytes
    exact ⟨hm, hpending, rfl⟩
  · have hskip : ¬ (false = true ∨ bytes = 0) := by simp [hbytes]
    obtain ⟨hcut, hrest, htotal⟩ := (hm.receive h).cutChunks counter nowUnix
    rw [if_neg hskip]
    refine ⟨hcut, hrest, ?_⟩
    rw [htotal]
    exact saturatingAdd_val h

end SessionMeter.Balanced

theorem relabelLast_concat (drafts : List ChunkReceiptDraft) (last : ChunkReceiptDraft) :
    relabelLast (drafts ++ [last]) = drafts ++ [{ last with chunkKind := .final }] := by
  induction drafts with
  | nil => rfl
  | cons d drafts ih =>
      rw [List.cons_append, List.cons_append, relabelLast, ih]
      intro hnil
      exact List.append_ne_nil_of_right_ne_nil drafts (List.cons_ne_nil last []) hnil

/-- **The seal of a session whose rest is less than a chunk.** -/
theorem SessionMeter.Balanced.sealFinal {m : SessionMeter} (hm : m.Balanced)
    (hpending : m.pending.val < receiptChunkBytes) (counter : MeterCounter) (nowUnix : Word 64) :
    (m.sealFinal counter nowUnix).1.drafts.map (·.cut) = numberedSplit m.observedTotal.val := by
  have htotal := hm.total
  unfold SessionMeter.sealFinal
  rw [hm.unsealed, if_neg Bool.false_ne_true]
  dsimp only
  by_cases hzero : m.observedTotal = 0
  · have hval : m.observedTotal.val = 0 := congrArg Fin.val hzero
    have hnone : m.drafts.length = 0 := by
      have hle : m.drafts.length * 1 ≤ m.drafts.length * receiptChunkBytes :=
        Nat.mul_le_mul_left _ (by decide)
      omega
    rw [if_pos hzero, hval, List.eq_nil_of_length_eq_zero hnone]
    rfl
  rw [if_neg hzero]
  by_cases hrest : 0 < m.pending
  · have hdrafts :
      ({ m with sealed := true, pending := 0 }.pushDraft counter m.pending .final nowUnix).1.drafts
        = m.drafts ++ [m.draft counter m.pending .final nowUnix] := rfl
    rw [if_pos hrest, hdrafts, htotal, numberedSplit_eq m.drafts.length hrest hpending.le,
      List.map_append, hm.cuts, List.map_singleton, hm.cut_draft]
    rfl
  · -- nothing is left, so the last whole chunk is the last one of the split
    have hnone : m.pending.val = 0 := Nat.eq_zero_of_not_pos hrest
    rcases List.eq_nil_or_concat' m.drafts with hnil | ⟨drafts, last, hlast⟩
    · rw [hnil, hnone] at htotal
      exact absurd (Fin.ext (htotal.trans (Nat.zero_mul _))) hzero
    · have hlength : m.drafts.length = drafts.length + 1 := by
        rw [hlast, List.length_append, List.length_singleton]
      have hcuts := hm.cuts
      rw [hlength, wholeChunks_succ, hlast, List.map_append, List.map_singleton] at hcuts
      obtain ⟨hbefore, hcut⟩ := List.append_inj' hcuts rfl
      have hfinal : ({ last with chunkKind := .final } : ChunkReceiptDraft).cut
          = (receiptChunkBytes, "FINAL", drafts.length) := by
        have hfields := List.singleton_inj.mp hcut
        have hbytes : last.bytesTransferred.val = receiptChunkBytes := congrArg Prod.fst hfields
        have hseq : last.chunkSeq.val = drafts.length :=
          congrArg (fun c : Nat × String × Nat => c.2.2) hfields
        show (last.bytesTransferred.val, "FINAL", last.chunkSeq.val) = _
        rw [hbytes, hseq]
      rw [if_neg hrest, htotal, hnone, hlength, Nat.succ_mul, Nat.add_zero,
        numberedSplit_eq drafts.length (by decide) le_rfl]
      dsimp only
      rw [hlast, relabelLast_concat, List.map_append, hbefore, List.map_singleton, hfinal]

/-- The calls of `observe` of a session, each with what the counter was and the time. -/
def SessionMeter.observeAll (m : SessionMeter)
    (calls : List (MeterCounter × Word 64 × Word 64)) : SessionMeter :=
  calls.foldl (fun m call => (m.observe call.1 call.2.1 call.2.2).1) m

/-- **Every way the bytes arrive.** -/
theorem SessionMeter.Balanced.observeAll {calls : List (MeterCounter × Word 64 × Word 64)} :
    ∀ {m : SessionMeter}, m.Balanced → m.pending.val < receiptChunkBytes →
      m.observedTotal.val + (calls.map (·.2.1.val)).sum < 2 ^ 64 →
      (m.observeAll calls).Balanced ∧ (m.observeAll calls).pending.val < receiptChunkBytes
        ∧ (m.observeAll calls).observedTotal.val
          = m.observedTotal.val + (calls.map (·.2.1.val)).sum := by
  induction calls with
  | nil =>
      intro m hm hpending _
      exact ⟨hm, hpending, rfl⟩
  | cons call calls ih =>
      intro m hm hpending hfits
      rw [List.map_cons, List.sum_cons, ← Nat.add_assoc] at hfits ⊢
      obtain ⟨hone, hrest, htotal⟩ :=
        hm.observe hpending (Nat.lt_of_le_of_lt (Nat.le_add_right _ _) hfits) call.1 call.2.2
      rw [← htotal] at hfits ⊢
      exact ih hone hrest hfits

/-! ## The counter of the process

Sessions are threads.  A call holds its meter, so what another thread can come between is the
drafts: a draft and its ordinal are one step, and so is each end of a call. -/

/-- A session, and the time of the observation whose chunks are being cut. -/
structure Session where
  meter : SessionMeter
  cutting : Option (Word 64)

/-- The sessions of a process, and every ordinal that was stamped, in order, with the session of its
draft. -/
structure Process where
  counter : MeterCounter
  sessions : Nat → Session
  stamped : List (Nat × Word 64)

inductive MeterStep where
  | observe (i : Nat) (bytes nowUnix : Word 64)
  /-- A turn of the loop, or its end. -/
  | cut (i : Nat)
  | sealFinal (i : Nat) (nowUnix : Word 64)

namespace Process

/-- A process whose sessions are all new. -/
def new (ids : Nat → Bytes32 × Word 32) : Process where
  counter := .new
  sessions := fun i => ⟨.new (ids i).1 (ids i).2, none⟩
  stamped := []

/-- A session is replaced; the drafts it has more are the ones that were stamped. -/
def put (p : Process) (i : Nat) (session : SessionMeter × MeterCounter)
    (cutting : Option (Word 64)) : Process where
  counter := session.2
  sessions := Function.update p.sessions i ⟨session.1, cutting⟩
  stamped := p.stamped
    ++ (session.1.drafts.drop (p.sessions i).meter.drafts.length).map fun d => (i, d.counter)

@[simp] theorem sessions_put_self {p : Process} {i : Nat} {session : SessionMeter × MeterCounter}
    {cutting : Option (Word 64)} : (p.put i session cutting).sessions i = ⟨session.1, cutting⟩ :=
  Function.update_self _ _ _

theorem sessions_put_of_ne {p : Process} {i j : Nat} (h : j ≠ i)
    {session : SessionMeter × MeterCounter}
    {cutting : Option (Word 64)} : (p.put i session cutting).sessions j = p.sessions j :=
  Function.update_of_ne h _ _

def step (p : Process) : MeterStep → Process
  | .observe i bytes nowUnix =>
      if (p.sessions i).cutting.isSome ∨ (p.sessions i).meter.sealed ∨ bytes = 0 then p
      else p.put i ((p.sessions i).meter.receive bytes, p.counter) (some nowUnix)
  | .cut i =>
      match (p.sessions i).cutting with
      | none => p
      | some nowUnix =>
          if chunkBytes ≤ (p.sessions i).meter.pending then
            p.put i ((p.sessions i).meter.cutChunk p.counter nowUnix) (some nowUnix)
          else p.put i ((p.sessions i).meter, p.counter) none
  | .sealFinal i nowUnix =>
      if (p.sessions i).cutting.isSome then p
      else p.put i ((p.sessions i).meter.sealFinal p.counter nowUnix) none

def run (ids : Nat → Bytes32 × Word 32) (steps : List MeterStep) : Process :=
  steps.foldl step (new ids)

end Process

/-- What a call may do to the drafts of its meter: nothing that the ordinals show, or one draft with
the next. -/
def Stamps (m : SessionMeter) (counter : MeterCounter)
    (after : SessionMeter × MeterCounter) : Prop :=
  (after.1.drafts.map (·.counter) = m.drafts.map (·.counter) ∧ after.2 = counter)
    ∨ ∃ d, after.1.drafts = m.drafts ++ [d] ∧ d.counter = counter.next.1 ∧ after.2 = counter.next.2

theorem counter_relabelLast (drafts : List ChunkReceiptDraft) :
    (relabelLast drafts).map (·.counter) = drafts.map (·.counter) := by
  rcases List.eq_nil_or_concat' drafts with rfl | ⟨drafts, last, rfl⟩
  · rfl
  · rw [relabelLast_concat, List.map_append, List.map_append]
    rfl

theorem stamps_pushDraft (m : SessionMeter) (counter : MeterCounter) (bytes : Word 64)
    (kind : ChunkKind)
    (nowUnix : Word 64) : Stamps m counter (m.pushDraft counter bytes kind nowUnix) :=
  .inr ⟨m.draft counter bytes kind nowUnix, rfl, rfl, rfl⟩

theorem stamps_sealFinal (m : SessionMeter) (counter : MeterCounter) (nowUnix : Word 64) :
    Stamps m counter (m.sealFinal counter nowUnix) := by
  unfold SessionMeter.sealFinal
  dsimp only
  split_ifs
  · exact .inl ⟨rfl, rfl⟩
  · exact .inl ⟨rfl, rfl⟩
  · exact stamps_pushDraft { m with sealed := true, pending := 0 } counter m.pending .final nowUnix
  · exact .inl ⟨counter_relabelLast m.drafts, rfl⟩

/-- **The counter along a run**: the ordinals are the numbers from one on, as far as a word holds
them, and each draft has its own. -/
structure Process.Stamped (p : Process) : Prop where
  issued : p.counter.issued.val = p.stamped.length % 2 ^ 64
  ordinals : p.stamped.map (·.2.val) = (List.range p.stamped.length).map fun n => (n + 1) % 2 ^ 64
  drafts : ∀ i, (p.sessions i).meter.drafts.map (·.counter) = (p.stamped.filter (·.1 = i)).map (·.2)

theorem stamped_new (ids : Nat → Bytes32 × Word 32) : (Process.new ids).Stamped where
  issued := rfl
  ordinals := rfl
  drafts := fun _ => rfl

theorem next_val (counter : MeterCounter) :
    counter.next.1.val = (counter.issued.val + 1) % 2 ^ 64 := by
  unfold MeterCounter.next
  rw [Fin.val_add]
  rfl

namespace Process.Stamped

variable {p : Process}

theorem put (hp : p.Stamped) {i : Nat} {after : SessionMeter × MeterCounter}
    {cutting : Option (Word 64)}
    (h : Stamps (p.sessions i).meter p.counter after) : (p.put i after cutting).Stamped := by
  rcases h with ⟨hsame, hcounter⟩ | ⟨d, hdrafts, hd, hcounter⟩
  · have hlength : after.1.drafts.length = (p.sessions i).meter.drafts.length := by
      have hmap := congrArg List.length hsame
      rwa [List.length_map, List.length_map] at hmap
    have hstamped : (p.put i after cutting).stamped = p.stamped := by
      unfold Process.put
      rw [List.drop_of_length_le hlength.le, List.map_nil, List.append_nil]
    have hissued : (p.put i after cutting).counter = p.counter := hcounter
    refine ⟨?_, ?_, fun j => ?_⟩
    · rw [hissued, hstamped, hp.issued]
    · rw [hstamped, hp.ordinals]
    · by_cases hj : j = i
      · subst hj
        rw [Process.sessions_put_self, hstamped, hsame, hp.drafts]
      · rw [Process.sessions_put_of_ne hj, hstamped, hp.drafts]
  · have hstamped : (p.put i after cutting).stamped = p.stamped ++ [(i, p.counter.next.1)] := by
      unfold Process.put
      rw [hdrafts, List.drop_left, List.map_singleton, hd]
    have hissued : (p.put i after cutting).counter = p.counter.next.2 := hcounter
    have hordinal : p.counter.next.1.val = (p.stamped.length + 1) % 2 ^ 64 := by
      rw [next_val, hp.issued, Nat.mod_add_mod]
    refine ⟨?_, ?_, fun j => ?_⟩
    · rw [hissued, hstamped, List.length_append, List.length_singleton]
      exact hordinal
    · rw [hstamped, List.length_append, List.length_singleton, List.range_succ, List.map_append,
        List.map_append, hp.ordinals, List.map_singleton, List.map_singleton, hordinal]
    · rw [hstamped, List.filter_append, List.map_append, ← hp.drafts j]
      by_cases hj : j = i
      · subst hj
        rw [Process.sessions_put_self, hdrafts, List.map_append, List.map_singleton, hd]
        simp
      · have hskip : ¬ i = j := fun h => hj h.symm
        rw [Process.sessions_put_of_ne hj]
        simp [hskip]

theorem step (hp : p.Stamped) (s : MeterStep) : (p.step s).Stamped := by
  cases s with
  | observe i bytes nowUnix =>
      unfold Process.step
      dsimp only
      split_ifs
      · exact hp
      · exact hp.put (.inl ⟨rfl, rfl⟩)
  | cut i =>
      unfold Process.step
      dsimp only
      split
      · exact hp
      · split_ifs
        · exact hp.put (stamps_pushDraft _ p.counter chunkBytes .interim _)
        · exact hp.put (.inl ⟨rfl, rfl⟩)
  | sealFinal i nowUnix =>
      unfold Process.step
      dsimp only
      split_ifs
      · exact hp
      · exact hp.put (stamps_sealFinal _ p.counter nowUnix)

end Process.Stamped

theorem stamped_run (ids : Nat → Bytes32 × Word 32) (steps : List MeterStep) :
    (Process.run ids steps).Stamped :=
  Runs.invariant (fun _ s hp => hp.step s) steps _ (stamped_new ids)

/-- **Side by side**: what a session is cut into does not depend on the others. -/
structure Session.Cut (s : Session) : Prop where
  opened : s.meter.sealed = false → s.meter.observedTotal.val < 2 ^ 64 - 1 →
    s.meter.Balanced ∧ (s.cutting = none → s.meter.pending.val < receiptChunkBytes)
  closed : s.meter.sealed = true → s.cutting = none ∧ (s.meter.observedTotal.val < 2 ^ 64 - 1 →
    s.meter.drafts.map (·.cut) = numberedSplit s.meter.observedTotal.val)

theorem cut_new (sessionId : Bytes32) (allowlistEntryId : Word 32) :
    Session.Cut ⟨.new sessionId allowlistEntryId, none⟩ where
  opened :=
    fun _ _ =>
      ⟨balanced_new sessionId allowlistEntryId, fun _ => (by decide : 0 < receiptChunkBytes)⟩
  closed := fun h => nomatch h

theorem saturatingAdd_lt {a b : Word 64} (h : (saturatingAdd a b).val < 2 ^ 64 - 1) :
    a.val + b.val < 2 ^ 64 - 1 := by
  unfold saturatingAdd at h
  rcases Nat.lt_or_ge (a.val + b.val) (2 ^ 64 - 1) with hlt | hge
  · exact hlt
  · exact absurd h (Nat.not_lt.mpr (Nat.le_min.mpr ⟨hge, le_rfl⟩))

theorem sealed_sealFinal (m : SessionMeter) (counter : MeterCounter) (nowUnix : Word 64) :
    (m.sealFinal counter nowUnix).1.sealed = true
      ∧ (m.sealFinal counter nowUnix).1.observedTotal = m.observedTotal := by
  unfold SessionMeter.sealFinal
  dsimp only
  split_ifs with hsealed
  · exact ⟨hsealed, rfl⟩
  · exact ⟨rfl, rfl⟩
  · exact ⟨rfl, rfl⟩
  · exact ⟨rfl, rfl⟩

namespace Session.Cut

variable {s : Session}

theorem receive (hs : s.Cut) (hidle : s.meter.sealed = false) (bytes nowUnix : Word 64) :
    Session.Cut ⟨s.meter.receive bytes, some nowUnix⟩ where
  opened := fun _ htotal => by
    have hsum := saturatingAdd_lt htotal
    have hold : s.meter.observedTotal.val < 2 ^ 64 - 1 :=
      Nat.lt_of_le_of_lt (Nat.le_add_right _ _) hsum
    exact ⟨(hs.opened hidle hold).1.receive (by omega), fun h => nomatch h⟩
  closed := fun h => absurd (hidle.symm.trans h) Bool.false_ne_true

theorem cutChunk (hs : s.Cut) (hopen : s.meter.sealed = false) (h : chunkBytes ≤ s.meter.pending)
    (counter : MeterCounter) (nowUnix : Word 64) :
    Session.Cut ⟨(s.meter.cutChunk counter nowUnix).1, some nowUnix⟩ where
  opened :=
    fun _ htotal => ⟨(hs.opened hopen htotal).1.cutChunk h counter nowUnix, fun h => nomatch h⟩
  closed := fun h => absurd (hopen.symm.trans h) Bool.false_ne_true

theorem endCut (hs : s.Cut) (hopen : s.meter.sealed = false) (h : ¬ chunkBytes ≤ s.meter.pending) :
    Session.Cut ⟨s.meter, none⟩ where
  opened := fun _ htotal => ⟨(hs.opened hopen htotal).1, fun _ => Nat.lt_of_not_le h⟩
  closed := fun h => absurd (hopen.symm.trans h) Bool.false_ne_true

theorem sealFinal (hs : s.Cut) (hidle : s.cutting = none) (counter : MeterCounter)
    (nowUnix : Word 64) : Session.Cut ⟨(s.meter.sealFinal counter nowUnix).1, none⟩ := by
  obtain ⟨hsealed, htotal⟩ := sealed_sealFinal s.meter counter nowUnix
  refine ⟨fun h => absurd (hsealed.symm.trans h).symm Bool.false_ne_true,
    fun _ => ⟨rfl, fun hfits => ?_⟩⟩
  rw [htotal] at hfits ⊢
  cases hbefore : s.meter.sealed with
  | false =>
      obtain ⟨hbalanced, hpending⟩ := hs.opened hbefore hfits
      exact hbalanced.sealFinal (hpending hidle) counter nowUnix
  | true =>
      unfold SessionMeter.sealFinal
      rw [hbefore, if_pos rfl]
      exact (hs.closed hbefore).2 hfits

end Session.Cut

theorem cut_put {p : Process} (hp : ∀ i, (p.sessions i).Cut) {i : Nat}
    {after : SessionMeter × MeterCounter}
    {cutting : Option (Word 64)} (h : Session.Cut ⟨after.1, cutting⟩) :
    ∀ j, ((p.put i after cutting).sessions j).Cut := by
  intro j
  by_cases hj : j = i
  · subst hj
    rw [Process.sessions_put_self]
    exact h
  · rw [Process.sessions_put_of_ne hj]
    exact hp j

theorem cut_step (p : Process) (s : MeterStep) (hp : ∀ i, (p.sessions i).Cut) :
    ∀ i, ((p.step s).sessions i).Cut := by
  -- a session whose chunks are being cut is not sealed
  have hopen : ∀ i, (p.sessions i).cutting ≠ none → (p.sessions i).meter.sealed = false := by
    intro i hcutting
    refine Bool.eq_false_iff.mpr fun hsealed => ?_
    exact hcutting ((hp i).closed hsealed).1
  cases s with
  | observe i bytes nowUnix =>
      unfold Process.step
      dsimp only
      split_ifs with hskip
      · exact hp
      · push Not at hskip
        exact cut_put hp ((hp i).receive (Bool.eq_false_iff.mpr hskip.2.1) bytes nowUnix)
  | cut i =>
      unfold Process.step
      dsimp only
      split
      · exact hp
      · rename_i nowUnix hcutting
        have hsealed := hopen i (by rw [hcutting]; exact Option.some_ne_none nowUnix)
        split_ifs with hchunk
        · exact cut_put hp ((hp i).cutChunk hsealed hchunk p.counter nowUnix)
        · exact cut_put hp ((hp i).endCut hsealed hchunk)
  | sealFinal i nowUnix =>
      unfold Process.step
      dsimp only
      split_ifs with hbusy
      · exact hp
      · exact cut_put hp
          ((hp i).sealFinal (Option.not_isSome_iff_eq_none.mp hbusy) p.counter nowUnix)

theorem cut_run (ids : Nat → Bytes32 × Word 32) (steps : List MeterStep) (i : Nat) :
    ((Process.run ids steps).sessions i).Cut :=
  Runs.invariant (I := fun p : Process => ∀ i, (p.sessions i).Cut) cut_step steps _
    (fun i => cut_new (ids i).1 (ids i).2) i

/-- **A call that nothing comes between** is its first step and the turns of its loop. -/
theorem observe_alone (p : Process) (i : Nat) (bytes nowUnix : Word 64)
    (hidle : (p.sessions i).cutting = none) :
    ∃ turns, ((MeterStep.observe i bytes nowUnix :: List.replicate turns (.cut i)).foldl
      Process.step p).sessions i
        = ⟨((p.sessions i).meter.observe p.counter bytes nowUnix).1, none⟩
      ∧ ((MeterStep.observe i bytes nowUnix :: List.replicate turns (.cut i)).foldl
        Process.step p).counter = ((p.sessions i).meter.observe p.counter bytes nowUnix).2 := by
  have hloop : ∀ (m : SessionMeter) (counter : MeterCounter) (q : Process), q.counter = counter →
      q.sessions i = ⟨m, some nowUnix⟩ → ∃ turns,
        ((List.replicate turns (MeterStep.cut i)).foldl Process.step q).sessions i
            = ⟨(m.cutChunks counter nowUnix).1, none⟩
          ∧ ((List.replicate turns (MeterStep.cut i)).foldl Process.step q).counter
            = (m.cutChunks counter nowUnix).2 := by
    intro m counter
    induction m, counter using SessionMeter.cutChunks.induct nowUnix with
    | case1 m counter hle ih =>
        intro q hcounter hq
        have hturn : q.step (.cut i) = q.put i (m.cutChunk counter nowUnix) (some nowUnix) := by
          simp only [Process.step, hq, hcounter, if_pos hle]
        obtain ⟨turns, hturns⟩ := ih (q.step (.cut i)) (by rw [hturn]; rfl)
          (by rw [hturn]; exact Process.sessions_put_self)
        refine ⟨turns + 1, ?_⟩
        rw [SessionMeter.cutChunks, if_pos hle, List.replicate_succ, List.foldl_cons]
        exact hturns
    | case2 m counter hlt =>
        intro q hcounter hq
        refine ⟨1, ?_⟩
        rw [SessionMeter.cutChunks, if_neg hlt]
        show (q.step (.cut i)).sessions i = _ ∧ (q.step (.cut i)).counter = counter
        simp only [Process.step, hq, hcounter, if_neg hlt, Process.sessions_put_self, true_and]
        rfl
  unfold SessionMeter.observe
  by_cases hskip : (p.sessions i).meter.sealed = true ∨ bytes = 0
  · -- nothing to receive: the call is over at once
    have hfirst : p.step (.observe i bytes nowUnix) = p := if_pos (.inr hskip)
    refine ⟨0, ?_⟩
    rw [if_pos hskip, List.replicate_zero, List.foldl_cons, hfirst, ← hidle]
    exact ⟨rfl, rfl⟩
  · have hstart :
      ¬ ((p.sessions i).cutting.isSome = true ∨ (p.sessions i).meter.sealed = true
      ∨ bytes = 0) := by
      rw [hidle]
      exact fun h => h.elim Bool.noConfusion hskip
    have hfirst : p.step (.observe i bytes nowUnix)
        = p.put i ((p.sessions i).meter.receive bytes, p.counter) (some nowUnix) := if_neg hstart
    obtain ⟨turns, hturns⟩ :=
      hloop ((p.sessions i).meter.receive bytes) p.counter (p.step (.observe i bytes nowUnix))
      (by rw [hfirst]; rfl) (by rw [hfirst]; exact Process.sessions_put_self)
    refine ⟨turns, ?_⟩
    rw [List.foldl_cons, if_neg hskip]
    exact hturns

/-- A chunk and a byte: one draft, with the counter's first ordinal. -/
theorem observe_alone_sample :
    (((SessionMeter.new 0 0).observe .new 10485761 0).1.drafts.map (·.cut)
        = [(10485760, "INTERIM", 0)] ∧ ((SessionMeter.new 0 0).observe .new 10485761 0).2 ≠ .new)
        ∧ ∃ turns,
    ((MeterStep.observe 0 10485761 0 :: List.replicate turns (.cut 0)).foldl Process.step
        (.new fun _ => (0, 0))).sessions 0
        = ⟨((SessionMeter.new 0 0).observe .new 10485761 0).1, none⟩
      ∧ ((MeterStep.observe 0 10485761 0 :: List.replicate turns (.cut 0)).foldl Process.step
        (.new fun _ => (0, 0))).counter = ((SessionMeter.new 0 0).observe .new 10485761 0).2 := by
  refine ⟨?_, observe_alone (.new fun _ => (0, 0)) 0 10485761 0 rfl⟩
  -- one turn that cuts, and one that ends the loop
  unfold SessionMeter.observe
  rw [if_neg (by decide), SessionMeter.cutChunks, if_pos (by decide), SessionMeter.cutChunks,
    if_neg (by decide)]
  decide

/-! ## The ordinals of a process -/

theorem Process.Stamped.increasing {p : Process} (hp : p.Stamped) (h : p.stamped.length < 2 ^ 64) :
    (p.stamped.map (·.2)).Pairwise (· < ·) := by
  have hvals : p.stamped.map (·.2.val) = (List.range p.stamped.length).map (· + 1) := by
    rw [hp.ordinals]
    refine List.map_congr_left fun n hn => ?_
    have hlt := List.mem_range.mp hn
    exact Nat.mod_eq_of_lt (by omega)
  have hsorted : (p.stamped.map (·.2.val)).Pairwise (· < ·) := by
    rw [hvals, List.pairwise_map]
    exact List.pairwise_lt_range.imp fun hlt => Nat.succ_lt_succ hlt
  rw [List.pairwise_map] at hsorted ⊢
  exact hsorted

/-- **The worker cuts a session as the attestor does, and no two drafts of a process have one
ordinal**, up to `2 ^ 64` drafts. -/
theorem cut_alike_and_stamped_apart :
    (∀ (sessionId : Bytes32) (allowlistEntryId : Word 32)
      (calls : List (MeterCounter × Word 64 × Word 64))
        (counter : MeterCounter) (nowUnix : Word 64), (calls.map (·.2.1.val)).sum < 2 ^ 64 - 1 →
      (((SessionMeter.new sessionId allowlistEntryId).observeAll calls).sealFinal counter
        nowUnix).1.drafts.map (·.cut) = numberedSplit (calls.map (·.2.1.val)).sum)
    ∧ ∀ (ids : Nat → Bytes32 × Word 32) (steps : List MeterStep), let p := Process.run ids steps
      (∀ i, (p.sessions i).meter.sealed = true →
        (p.sessions i).meter.observedTotal.val < 2 ^ 64 - 1 →
        (p.sessions i).meter.drafts.map (·.cut)
        = numberedSplit (p.sessions i).meter.observedTotal.val)
      ∧ (∀ i, (p.sessions i).meter.drafts.map (·.counter) = (p.stamped.filter (·.1 = i)).map (·.2))
      ∧ (p.stamped.length < 2 ^ 64 → (p.stamped.map (·.2)).Pairwise (· < ·)) := by
  refine ⟨?_, ?_⟩
  · intro sessionId allowlistEntryId calls counter nowUnix hfits
    have hnew := balanced_new sessionId allowlistEntryId
    have hzero : (SessionMeter.new sessionId allowlistEntryId).observedTotal.val = 0 := rfl
    have hsum :
      (SessionMeter.new sessionId allowlistEntryId).observedTotal.val + (calls.map (·.2.1.val)).sum
        < 2 ^ 64 := by omega
    obtain ⟨hbalanced, hpending, htotal⟩ := hnew.observeAll (by decide : 0 < receiptChunkBytes) hsum
    rw [hzero, Nat.zero_add] at htotal
    rw [← htotal]
    exact hbalanced.sealFinal hpending counter nowUnix
  · intro ids steps
    have hstamped := stamped_run ids steps
    refine ⟨fun i hsealed => ?_, hstamped.drafts, hstamped.increasing⟩
    exact ((cut_run ids steps i).closed hsealed).2

/-- Two observations that fill a chunk between them, and a byte more. -/
theorem cut_alike_sample :
    (((SessionMeter.new 7 1).observeAll [(.new, 10485759, 5), (.new, 2, 6)]).sealFinal
      ⟨1⟩ 9).1.drafts.map (·.cut)
        = [(10485760, "INTERIM", 0), (1, "FINAL", 1)]
      ∧ ((Process.run (fun _ => (7, 1)) [.observe 0 3 5, .cut 0, .sealFinal 0 6]).stamped.map
        (·.2)).Pairwise (· < ·) := by
  refine ⟨(cut_alike_and_stamped_apart.1 7 1 _ ⟨1⟩ 9 (by decide)).trans (by decide), ?_⟩
  exact (cut_alike_and_stamped_apart.2 (fun _ => (7, 1))
    [.observe 0 3 5, .cut 0, .sealFinal 0 6]).2.2 (by decide)

/-- A session after another, of a byte each. -/
def oneByteEach (n : Nat) : List MeterStep :=
  (List.range n).flatMap fun i => [.observe i 1 0, .cut i, .sealFinal i 0]

/-- A session that a byte came in for. -/
def byteSeen : SessionMeter := (SessionMeter.new 0 0).receive 1

theorem byteSeen_steps {p : Process} {i : Nat} (h : p.sessions i = ⟨.new 0 0, none⟩) :
    ([.observe i 1 0, .cut i, .sealFinal i 0].foldl Process.step p).stamped.length
    = p.stamped.length + 1
      ∧ ∀ j, j ≠ i → ([.observe i 1 0, .cut i, .sealFinal i 0].foldl Process.step p).sessions j
        = p.sessions j := by
  have hobserve : p.step (.observe i 1 0) = p.put i (byteSeen, p.counter) (some 0) := by
    simp [Process.step, h, SessionMeter.new, byteSeen]
  have hcut : (p.put i (byteSeen, p.counter) (some 0)).step (.cut i)
      = (p.put i (byteSeen, p.counter) (some 0)).put i (byteSeen, p.counter) none := by
    simp only [Process.step, Process.sessions_put_self]
    exact if_neg (by decide)
  have hseal : ((p.put i (byteSeen, p.counter) (some 0)).put i (byteSeen, p.counter) none).step
    (.sealFinal i 0)
      = ((p.put i (byteSeen, p.counter) (some 0)).put i (byteSeen, p.counter) none).put i
        (byteSeen.sealFinal p.counter 0) none := by
    simp only [Process.step, Process.sessions_put_self]
    exact if_neg Bool.false_ne_true
  rw [List.foldl_cons, List.foldl_cons, List.foldl_cons, List.foldl_nil, hobserve, hcut, hseal]
  refine ⟨?_, fun j hj => ?_⟩
  · have hdraft : (byteSeen.sealFinal p.counter 0).1.drafts.length = 1 := rfl
    have hnone : byteSeen.drafts = [] := rfl
    simp [Process.put, h, hdraft, hnone, SessionMeter.new]
  · rw [Process.sessions_put_of_ne hj, Process.sessions_put_of_ne hj, Process.sessions_put_of_ne hj]

theorem length_oneByteEach (n : Nat) :
    (Process.run (fun _ => (0, 0)) (oneByteEach n)).stamped.length = n
      ∧ ∀ i, n ≤ i → (Process.run (fun _ => (0, 0)) (oneByteEach n)).sessions i
        = ⟨.new 0 0, none⟩ := by
  induction n with
  | zero => exact ⟨rfl, fun _ _ => rfl⟩
  | succ n ih =>
      obtain ⟨hlength, hnew⟩ := ih
      have hrun : Process.run (fun _ => (0, 0)) (oneByteEach (n + 1))
          = [.observe n 1 0, .cut n, .sealFinal n 0].foldl Process.step
            (Process.run (fun _ => (0, 0)) (oneByteEach n)) := by
        unfold Process.run oneByteEach
        rw [List.range_succ, List.flatMap_append, List.foldl_append]
        rfl
      obtain ⟨hone, hothers⟩ := byteSeen_steps (hnew n le_rfl)
      rw [hrun]
      refine ⟨hone.trans (congrArg (· + 1) hlength), fun i hi => ?_⟩
      rw [hothers i (by omega)]
      exact hnew i (by omega)

/-- The ordinal after `2 ^ 64 - 1` is zero. -/
theorem ordinals_wrap :
    ¬ ((Process.run (fun _ => (0, 0)) (oneByteEach (2 ^ 64))).stamped.map (·.2)).Pairwise
      (· < ·) := by
  have hlength := (length_oneByteEach (2 ^ 64)).1
  have hstamped := stamped_run (fun _ => (0, 0)) (oneByteEach (2 ^ 64))
  generalize Process.run (fun _ => (0, 0)) (oneByteEach (2 ^ 64)) = p at hlength hstamped ⊢
  intro hsorted
  have hvals : (p.stamped.map (·.2.val)).Pairwise (· < ·) := by
    rw [List.pairwise_map] at hsorted ⊢
    exact hsorted
  rw [hstamped.ordinals, hlength, List.pairwise_map] at hvals
  have hlast :=
    List.pairwise_iff_getElem.mp hvals 0 (2 ^ 64 - 1) (by rw [List.length_range]; decide)
    (by rw [List.length_range]; decide) (by decide)
  rw [List.getElem_range, List.getElem_range] at hlast
  exact absurd hlast (by decide)

end GoatCoin.Worker
