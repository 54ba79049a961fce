/-
# `GoatCoin.Attestor.ChunkPartition` — `split_into_chunks`, and the two checks that pin it down

A session of `k` whole chunks and `x` bytes more, `1 ≤ x ≤ 10485760`, is receipted as

    (10485760, INTERIM) × k,  (x, FINAL)

and there is one such pair for every total but zero, which is receipted as nothing.  The producer
computes it from a quotient and a remainder; the size of a chunk and the sequence of a session are
checked elsewhere, each without the other.  The two checks together accept no other list, in
whatever order it is handed in.
-/
import GoatCoin.Attestor.EpochBatch

namespace GoatCoin.Attestor

open Evm

/-! ## The split -/

/-- `split_into_chunks`. -/
def splitIntoChunks (totalBytes : Nat) : List (Nat × ChunkKind) :=
  if totalBytes = 0 then []
  else
    let remainder := totalBytes % receiptChunkBytes
    let full := totalBytes / receiptChunkBytes
    let interim := if remainder = 0 then full - 1 else full
    List.replicate interim (receiptChunkBytes, .interim)
      ++ [(if remainder = 0 then receiptChunkBytes else remainder, .final)]

theorem splitIntoChunks_zero : splitIntoChunks 0 = [] := rfl

/-- **The split of `k` whole chunks and a last one.** -/
theorem splitIntoChunks_eq (k : Nat) {x : Nat} (hpos : 1 ≤ x) (hle : x ≤ receiptChunkBytes) :
    splitIntoChunks (k * receiptChunkBytes + x) = List.replicate k (receiptChunkBytes, .interim)
    ++ [(x, .final)] := by
  have hchunk : 0 < receiptChunkBytes := by decide
  have hne : k * receiptChunkBytes + x ≠ 0 := by omega
  unfold splitIntoChunks
  rw [if_neg hne]
  rcases Nat.lt_or_eq_of_le hle with hlt | rfl
  · have hmod : (k * receiptChunkBytes + x) % receiptChunkBytes = x := by
      rw [Nat.mul_comm, Nat.mul_add_mod, Nat.mod_eq_of_lt hlt]
    have hdiv : (k * receiptChunkBytes + x) / receiptChunkBytes = k := by
      rw [Nat.mul_comm, Nat.mul_add_div hchunk, Nat.div_eq_of_lt hlt, Nat.add_zero]
    have hx : x ≠ 0 := Nat.one_le_iff_ne_zero.mp hpos
    simp only [hmod, hdiv, if_neg hx]
  · -- an exact multiple: the last whole chunk is the final one
    have hmul : k * receiptChunkBytes + receiptChunkBytes = (k + 1) * receiptChunkBytes :=
      (Nat.succ_mul _ _).symm
    have hmod : (k * receiptChunkBytes + receiptChunkBytes) % receiptChunkBytes = 0 := by
      rw [hmul, Nat.mul_mod_left]
    have hdiv : (k * receiptChunkBytes + receiptChunkBytes) / receiptChunkBytes = k + 1 := by
      rw [hmul, Nat.mul_div_cancel _ hchunk]
    simp only [hmod, hdiv, if_true, Nat.add_sub_cancel]

theorem exists_chunks {total : Nat} (h : total ≠ 0) :
    ∃ k x, 1 ≤ x ∧ x ≤ receiptChunkBytes ∧ total = k * receiptChunkBytes + x := by
  have hdecomposed := Nat.div_add_mod (total - 1) receiptChunkBytes
  have hlt : (total - 1) % receiptChunkBytes < receiptChunkBytes := Nat.mod_lt _ (by decide)
  rw [Nat.mul_comm] at hdecomposed
  exact ⟨(total - 1) / receiptChunkBytes, (total - 1) % receiptChunkBytes + 1,
    Nat.le_add_left _ _, hlt, by omega⟩

theorem splitIntoChunks_cases (total : Nat) :
    (total = 0 ∧ splitIntoChunks total = []) ∨ ∃ k x, 1 ≤ x ∧ x ≤ receiptChunkBytes
      ∧ total = k * receiptChunkBytes + x
      ∧ splitIntoChunks total = List.replicate k (receiptChunkBytes, .interim)
        ++ [(x, .final)] := by
  by_cases hzero : total = 0
  · subst hzero
    exact .inl ⟨rfl, rfl⟩
  · obtain ⟨k, x, hpos, hle, rfl⟩ := exists_chunks hzero
    exact .inr ⟨k, x, hpos, hle, rfl, splitIntoChunks_eq k hpos hle⟩

theorem sum_splitIntoChunks (total : Nat) : ((splitIntoChunks total).map Prod.fst).sum = total := by
  rcases splitIntoChunks_cases total with ⟨rfl, hsplit⟩ | ⟨k, x, -, -, rfl, hsplit⟩
  · rw [hsplit]
    rfl
  · rw [hsplit]
    simp

/-! ## The checks -/

theorem checkChunkSize_interim {bytes : Word 64} :
    checkChunkSize .interim bytes = .ok () ↔ bytes.val = receiptChunkBytes := by
  unfold checkChunkSize
  by_cases h : bytes.val = receiptChunkBytes
  · simp [h]
  · simp [h]

theorem checkChunkSize_final {bytes : Word 64} :
    checkChunkSize .final bytes = .ok () ↔ 1 ≤ bytes.val ∧ bytes.val ≤ receiptChunkBytes := by
  unfold checkChunkSize
  by_cases h : 1 ≤ bytes.val ∧ bytes.val ≤ receiptChunkBytes
  · simp [h]
  · simp [h]

/-- A session in the order of its numbers, as the check sorts it. -/
def inSequence (receipts : List StoredReceipt) : List StoredReceipt :=
  receipts.mergeSort fun a b => a.chunkSeq ≤ b.chunkSeq

theorem inSequence_perm (receipts : List StoredReceipt) : (inSequence receipts).Perm receipts :=
  List.mergeSort_perm _ _

theorem checkContiguous_of {hex : String} {sorted : List StoredReceipt} : ∀ {n : Nat},
    sorted.map (·.chunkSeq.val) = List.range' n sorted.length →
    checkContiguous hex n sorted = .ok () := by
  induction sorted with
  | nil =>
      intro n _
      rfl
  | cons r sorted ih =>
      intro n h
      rw [List.map_cons, List.length_cons, List.range'_succ] at h
      obtain ⟨hr, hrest⟩ := List.cons.inj h
      exact bind_ok.mpr ⟨(), require_ok.mpr hr, ih hrest⟩

theorem map_kind_of_final {sorted : List StoredReceipt} (hne : sorted ≠ [])
    (h : ∀ i (hi : i < sorted.length), sorted[i].chunkKind = .final ↔ i + 1 = sorted.length) :
    sorted.map (·.chunkKind) = List.replicate (sorted.length - 1) .interim ++ [.final] := by
  have hpos : 0 < sorted.length := List.length_pos_of_ne_nil hne
  have hlength : sorted.length - 1 + 1 = sorted.length := by omega
  refine List.ext_getElem ?_ fun i hi _ => ?_
  · rw [List.length_map, List.length_append, List.length_replicate, List.length_singleton, hlength]
  · rw [List.length_map] at hi
    rw [List.getElem_map, List.getElem_append]
    by_cases hlast : i + 1 = sorted.length
    · have hge : ¬ i < sorted.length - 1 := by omega
      simp only [List.length_replicate, hge, dite_false, List.getElem_singleton]
      exact (h i hi).mpr hlast
    · have hlt : i < sorted.length - 1 := by omega
      simp only [List.length_replicate, hlt, dite_true, List.getElem_replicate]
      cases hkind : sorted[i].chunkKind with
      | interim => rfl
      | final => exact absurd ((h i hi).mp hkind) hlast

variable {receipts : List StoredReceipt}

/-- **The sequence of a session that is not empty**: numbered from zero, and the last chunk alone is
final. -/
theorem checkSessionChunkSequence_iff (hne : receipts ≠ []) :
    checkSessionChunkSequence receipts = .ok () ↔
      (inSequence receipts).map (·.chunkSeq.val) = List.range receipts.length
        ∧ ∃ k, (inSequence receipts).map (·.chunkKind) = List.replicate k .interim ++ [.final] := by
  have hperm := inSequence_perm receipts
  have hlength := hperm.length_eq
  cases receipts with
  | nil => exact absurd rfl hne
  | cons first rest =>
      constructor
      · intro h
        obtain ⟨-, hfinal⟩ := closed_of_check h hne
        obtain ⟨_, hcontiguous, -⟩ := bind_ok.mp h
        have hseqs : (inSequence (first :: rest)).map (·.chunkSeq.val)
          = List.range (first :: rest).length := by
          have hsorted := checkContiguous_ok hcontiguous
          rw [← List.range_eq_range'] at hsorted
          rw [← hlength]
          exact hsorted
        refine ⟨hseqs, _, map_kind_of_final ?_ fun i hi => ?_⟩
        · exact fun hnil => hne (List.perm_nil.mp (hnil ▸ hperm).symm)
        · have hseq : (inSequence (first :: rest))[i].chunkSeq.val = i := by
            have hget := congrArg (·[i]?) hseqs
            rw [List.getElem?_map, List.getElem?_eq_getElem hi,
              List.getElem?_range (hlength ▸ hi)] at hget
            exact Option.some.inj hget
          rw [hfinal _ (hperm.mem_iff.mp (List.getElem_mem hi)), hseq, hlength]
      · rintro ⟨hseqs, k, hkinds⟩
        obtain ⟨init, tail, hsorted, hinit, htail⟩ := List.map_eq_append_iff.mp hkinds
        obtain ⟨last, rfl, hlast⟩ := List.map_eq_singleton_iff.mp htail
        have hcontiguous :
          checkContiguous first.sessionIdHex 0 (inSequence (first :: rest)) = .ok () := by
          refine checkContiguous_of ?_
          rw [hseqs, hlength, List.range_eq_range']
        have hfinals :
          (inSequence (first :: rest)).filter (fun r => r.chunkKind = .final) = [last] := by
          have hnone : init.filter (fun r => r.chunkKind = .final) = [] := by
            refine List.filter_eq_nil_iff.mpr fun r hr hkind => ?_
            have hmem : r.chunkKind ∈ List.replicate k ChunkKind.interim :=
              hinit ▸ List.mem_map_of_mem hr
            rw [of_decide_eq_true hkind] at hmem
            cases List.eq_of_mem_replicate hmem
          rw [hsorted, List.filter_append, hnone, List.nil_append]
          simp [hlast]
        have hseq : last.chunkSeq.val = (inSequence (first :: rest)).length - 1 := by
          have hnumber :
            init.map (·.chunkSeq.val) ++ [last.chunkSeq.val] = List.range (init.length + 1) := by
            rw [← hlength, hsorted] at hseqs
            simpa using hseqs
          rw [List.range_succ] at hnumber
          have hend := (List.append_inj' hnumber rfl).2
          rw [hsorted, List.length_append, List.length_singleton, Nat.add_sub_cancel]
          exact (List.cons.inj hend).1
        unfold checkSessionChunkSequence
        refine bind_ok.mpr ⟨(), hcontiguous, ?_⟩
        rw [← inSequence, hfinals]
        exact require_ok.mpr hseq

/-! ## One way to claim a number of bytes -/

/-- What a receipt claims of its session. -/
def chunkOf (r : StoredReceipt) : Nat × ChunkKind := (r.bytesTransferred.val, r.chunkKind)

/-- Both checks pass. -/
def Passes (receipts : List StoredReceipt) : Prop :=
  checkSessionChunkSequence receipts = .ok ()
    ∧ ∀ r ∈ receipts, checkChunkSize r.chunkKind r.bytesTransferred = .ok ()

instance (receipts : List StoredReceipt) : Decidable (Passes receipts) :=
  inferInstanceAs (Decidable (_ ∧ ∀ r ∈ receipts, _))

/-- Receipts of the chunks of a split, each with its place for a number, in whatever order. -/
def Receipts (total : Nat) (receipts : List StoredReceipt) : Prop :=
  (receipts.map fun r => (chunkOf r, r.chunkSeq.val)).Perm (splitIntoChunks total).zipIdx

theorem inSequence_of_zipIdx {chunks : List (Nat × ChunkKind)}
    (h : (receipts.map fun r => (chunkOf r, r.chunkSeq.val)).Perm chunks.zipIdx) :
    (inSequence receipts).map (fun r => (chunkOf r, r.chunkSeq.val)) = chunks.zipIdx := by
  have hperm := ((inSequence_perm receipts).map fun r => (chunkOf r, r.chunkSeq.val)).trans h
  have hsorted :
    ((inSequence receipts).map fun r => (chunkOf r, r.chunkSeq.val)).Pairwise fun a b =>
    a.2 ≤ b.2 := by
    rw [List.pairwise_map]
    refine (List.pairwise_mergeSort ?_ ?_ receipts).imp fun hle => of_decide_eq_true hle
    · intro a b c hab hbc
      exact decide_eq_true (le_trans (of_decide_eq_true hab) (of_decide_eq_true hbc))
    · intro a b
      rw [Bool.or_eq_true]
      exact (le_total a.chunkSeq b.chunkSeq).imp decide_eq_true decide_eq_true
  have hnumbered : chunks.zipIdx.Pairwise fun a b => a.2 ≤ b.2 := by
    have hnumbers : (chunks.zipIdx.map Prod.snd).Pairwise (· ≤ ·) := by
      rw [List.zipIdx_map_snd]
      exact List.pairwise_le_range'
    exact List.pairwise_map.mp hnumbers
  refine List.Perm.eq_of_pairwise (fun a b ha hb hab hba => ?_) hsorted hnumbered hperm
  -- a number is in the list once
  have ha := List.mem_zipIdx_iff_getElem?.mp (hperm.mem_iff.mp ha)
  have hb := List.mem_zipIdx_iff_getElem?.mp hb
  have hsame : a.2 = b.2 := Nat.le_antisymm hab hba
  rw [hsame, hb] at ha
  exact Prod.ext (Option.some.inj ha).symm hsame

theorem passes_of_receipts {total : Nat} (h : Receipts total receipts) :
    Passes receipts := by
  have hperm := inSequence_perm receipts
  have hzip := inSequence_of_zipIdx h
  have hchunks : (inSequence receipts).map chunkOf = splitIntoChunks total := by
    have hfst := congrArg (List.map Prod.fst) hzip
    rw [List.map_map, List.zipIdx_map_fst] at hfst
    exact hfst
  have hseqs : (inSequence receipts).map (·.chunkSeq.val) = List.range receipts.length := by
    have hsnd := congrArg (List.map Prod.snd) hzip
    rw [List.map_map, List.zipIdx_map_snd, ← hchunks, List.length_map, hperm.length_eq] at hsnd
    rw [List.range_eq_range']
    exact hsnd
  rcases splitIntoChunks_cases total with ⟨-, hsplit⟩ | ⟨k, x, hpos, hle, -, hsplit⟩
  · rw [hsplit] at hchunks
    have hnil : receipts = [] := List.nil_perm.mp (List.map_eq_nil_iff.mp hchunks ▸ hperm)
    subst hnil
    exact ⟨rfl, fun r hr => absurd hr List.not_mem_nil⟩
  · rw [hsplit] at hchunks
    have hkinds :
      (inSequence receipts).map (·.chunkKind) = List.replicate k .interim ++ [.final] := by
      have hsnd := congrArg (List.map Prod.snd) hchunks
      rw [List.map_map, List.map_append, List.map_replicate] at hsnd
      exact hsnd
    have hne : receipts ≠ [] := by
      rintro rfl
      rw [List.perm_nil.mp hperm] at hkinds
      exact absurd hkinds.symm (List.append_ne_nil_of_right_ne_nil _ (List.cons_ne_nil _ _))
    refine ⟨(checkSessionChunkSequence_iff hne).mpr ⟨hseqs, k, hkinds⟩, fun r hr => ?_⟩
    have hmem : chunkOf r ∈ List.replicate k (receiptChunkBytes, .interim) ++ [(x, .final)] :=
      hchunks ▸ List.mem_map_of_mem (hperm.mem_iff.mpr hr)
    rcases List.mem_append.mp hmem with hwhole | hlast
    · obtain ⟨hbytes, hkind⟩ := Prod.mk.inj (List.eq_of_mem_replicate hwhole)
      rw [hkind]
      exact checkChunkSize_interim.mpr hbytes
    · obtain ⟨hbytes, hkind⟩ := Prod.mk.inj (List.mem_singleton.mp hlast)
      rw [hkind]
      exact checkChunkSize_final.mpr ⟨hbytes ▸ hpos, hbytes ▸ hle⟩

/-- **Chunks that pass are the split of their bytes.** -/
theorem chunks_of_passes (h : Passes receipts) :
    (inSequence receipts).map chunkOf
    = splitIntoChunks (receipts.map (·.bytesTransferred.val)).sum := by
  obtain ⟨hsequence, hsizes⟩ := h
  have hperm := inSequence_perm receipts
  by_cases hne : receipts = []
  · subst hne
    rw [List.perm_nil.mp hperm]
    rfl
  · obtain ⟨-, k, hkinds⟩ := (checkSessionChunkSequence_iff hne).mp hsequence
    obtain ⟨init, tail, hsorted, hinit, htail⟩ := List.map_eq_append_iff.mp hkinds
    obtain ⟨last, rfl, hlast⟩ := List.map_eq_singleton_iff.mp htail
    have hmem : ∀ r ∈ init ++ [last], r ∈ receipts := fun r hr => hperm.mem_iff.mp (hsorted ▸ hr)
    have hwhole : init.map chunkOf = List.replicate k (receiptChunkBytes, .interim) := by
      refine List.eq_replicate_iff.mpr ⟨?_, fun chunk hchunk => ?_⟩
      · have hlength := congrArg List.length hinit
        rw [List.length_map, List.length_replicate] at hlength
        rw [List.length_map, hlength]
      · obtain ⟨r, hr, rfl⟩ := List.mem_map.mp hchunk
        have hkind : r.chunkKind = .interim :=
          List.eq_of_mem_replicate (hinit ▸ List.mem_map_of_mem (f := StoredReceipt.chunkKind) hr)
        have hsize := hsizes r (hmem r (List.mem_append_left _ hr))
        rw [hkind] at hsize
        rw [chunkOf, hkind, checkChunkSize_interim.mp hsize]
    have hfinal : 1 ≤ last.bytesTransferred.val
      ∧ last.bytesTransferred.val ≤ receiptChunkBytes := by
      have hsize := hsizes last (hmem last (List.mem_append_right _ (List.mem_singleton_self last)))
      rw [hlast] at hsize
      exact checkChunkSize_final.mp hsize
    have hchunks : (inSequence receipts).map chunkOf
        = List.replicate k (receiptChunkBytes, .interim)
        ++ [(last.bytesTransferred.val, .final)] := by
      rw [hsorted, List.map_append, hwhole, List.map_singleton, chunkOf, hlast]
    have hsum : (receipts.map (·.bytesTransferred.val)).sum
        = k * receiptChunkBytes + last.bytesTransferred.val := by
      calc (receipts.map (·.bytesTransferred.val)).sum
          = (((inSequence receipts).map chunkOf).map Prod.fst).sum := by
            rw [List.map_map]
            exact ((hperm.map _).sum_eq).symm
        _ = k * receiptChunkBytes + last.bytesTransferred.val := by
            rw [hchunks]
            simp
    rw [hchunks, hsum, splitIntoChunks_eq k hfinal.1 hfinal.2]

/-- The receipts of a split, written out like one of them. -/
def receiptsOf (like : StoredReceipt) (total : Nat) : List StoredReceipt :=
  (splitIntoChunks total).zipIdx.map fun (chunk, i) =>
    { like with chunkSeq := Fin.ofNat _ i, bytesTransferred := Fin.ofNat _ chunk.1,
                chunkKind := chunk.2 }

theorem splitIntoChunks_le (total : Nat) : (splitIntoChunks total).length ≤ total
    ∧ ∀ chunk ∈ splitIntoChunks total, chunk.1 ≤ receiptChunkBytes := by
  rcases splitIntoChunks_cases total with ⟨rfl, hsplit⟩ | ⟨k, x, hpos, hle, rfl, hsplit⟩
  · rw [hsplit]
    exact ⟨Nat.le_refl 0, fun chunk hchunk => absurd hchunk List.not_mem_nil⟩
  · rw [hsplit, List.length_append, List.length_replicate, List.length_singleton]
    have hmul : k ≤ k * receiptChunkBytes := Nat.le_mul_of_pos_right k (by decide)
    refine ⟨by omega, fun chunk hchunk => ?_⟩
    rcases List.mem_append.mp hchunk with hwhole | hlast
    · rw [List.eq_of_mem_replicate hwhole]
    · rw [List.mem_singleton.mp hlast]
      exact hle

theorem receipts_receiptsOf (like : StoredReceipt) (total : Word 64) :
    Receipts total.val (receiptsOf like total.val) := by
  obtain ⟨hlength, hsizes⟩ := splitIntoChunks_le total.val
  have hsame : ∀ p ∈ (splitIntoChunks total.val).zipIdx,
      ((fun r => (chunkOf r, r.chunkSeq.val)) ∘ fun p : (Nat × ChunkKind) × Nat =>
        { like with chunkSeq := Fin.ofNat _ p.2, bytesTransferred := Fin.ofNat _ p.1.1,
                    chunkKind := p.1.2 }) p
        = id p := by
    rintro ⟨⟨bytes, kind⟩, i⟩ hp
    have hget := List.mem_zipIdx_iff_getElem?.mp hp
    have hi : i < 2 ^ 64 := by
      have hlt := (List.getElem?_eq_some_iff.mp hget).1
      have htotal := total.isLt
      omega
    have hbytes : bytes < 2 ^ 64 := by
      have hle : bytes ≤ receiptChunkBytes := hsizes _ (List.mem_of_getElem? hget)
      exact lt_of_le_of_lt hle (by decide)
    show ((bytes % 2 ^ 64, kind), i % 2 ^ 64) = ((bytes, kind), i)
    rw [Nat.mod_eq_of_lt hbytes, Nat.mod_eq_of_lt hi]
  unfold Receipts receiptsOf
  rw [List.map_map]
  exact List.Perm.of_eq ((List.map_congr_left hsame).trans (List.map_id _))

/-- **A number of bytes is claimed in one way.** -/
theorem one_chunk_partition :
    (∀ total : Word 64, ((splitIntoChunks total.val).map Prod.fst).sum = total.val
        ∧ (∀ like, Receipts total.val (receiptsOf like total.val))
        ∧ ∀ receipts, Receipts total.val receipts → Passes receipts)
      ∧ ∀ receipts, Passes receipts →
        (inSequence receipts).map chunkOf
        = splitIntoChunks (receipts.map (·.bytesTransferred.val)).sum :=
  ⟨fun total => ⟨sum_splitIntoChunks total.val, fun like => receipts_receiptsOf like total,
    fun _ h => passes_of_receipts h⟩, fun _ h => chunks_of_passes h⟩

/-- Two receipts of one session, the second handed in first. -/
def sampleChunks : List StoredReceipt :=
  [⟨"b", 8000000000000, "5", 1, "", "", 3, .final, "", 1⟩,
    ⟨"a", 8000000000000, "5", 0, "", "", 10485760, .interim, "", 1⟩]

theorem one_chunk_partition_sample : Passes sampleChunks
    ∧ (inSequence sampleChunks).map chunkOf
      = splitIntoChunks (sampleChunks.map (·.bytesTransferred.val)).sum := by
  have hreceipts : Receipts (10485763 : Word 64).val sampleChunks := List.Perm.swap _ _ _
  have hpasses := (one_chunk_partition.1 10485763).2.2 sampleChunks hreceipts
  exact ⟨hpasses, one_chunk_partition.2 sampleChunks hpasses⟩

end GoatCoin.Attestor
