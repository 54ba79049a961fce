/-
# `GoatCoin.Core.Fold` — the attribution fold of `crypto.rs`

Signed receipts of one window are counted per cluster and the counts normalised
to basis points by largest remainder:

    counted       window, registered key, assigned executor, signature
    accumulated   one record per cluster, in order of first appearance, at most 32
    weights       ⌊n·10000 / G⌋, plus one for the `deficit` largest remainders

Counts, quotas and remainders depend on the multiset of counted receipts only.
The order enters through the index: equal remainders are ranked by position, so
by which cluster appeared first.  `recomputers_agree_iff` says exactly when that
matters: when a remainder is cut by the deficit (`Ranking.Uncut`).

The casts of the source lose nothing, as a total is at most the grand total, so
totals and weights are natural numbers, with the saturating additions written
out.
-/
import Mathlib.Algebra.Order.BigOperators.Group.List
import Mathlib.Data.Finset.Card
import GoatCoin.Lib.Ranking
import GoatCoin.Core.Preimage

namespace GoatCoin

/-- Saturating addition of `w`-bit words. -/
def satAdd (w a b : Nat) : Nat := min (a + b) (2 ^ w - 1)

structure AggregatedAttribution where
  clusterId : Bytes 32
  totalVerifiedGcuHours : Nat
  representationWeightBp : Nat
deriving DecidableEq

/-! ## Normalisation -/

def normalizeWeightsLargestRemainder (attrs : List AggregatedAttribution) :
    List AggregatedAttribution :=
  let n := attrs.length
  if n = 0 then attrs
  else
    let grandTotal := attrs.foldl (fun g a => satAdd 64 g a.totalVerifiedGcuHours) 0
    if grandTotal = 0 then attrs.map fun a => { a with representationWeightBp := 0 }
    else
      let rem := attrs.map fun a => a.totalVerifiedGcuHours * bpFull % grandTotal
      let attrs := attrs.map fun a =>
        { a with representationWeightBp := a.totalVerifiedGcuHours * bpFull / grandTotal }
      let flooredSum := attrs.foldl (fun s a => satAdd 32 s a.representationWeightBp) 0
      let deficit := bpFull - flooredSum
      if deficit = 0 then attrs
      else
        (Ranking.winners (rem.getD · 0) n (min deficit n)).foldl (fun attrs i =>
          attrs.modify i fun a =>
            { a with representationWeightBp := satAdd 32 a.representationWeightBp 1 }) attrs

/-! ## The fold -/

/-- The search for the cluster's record; `none` if there is none. -/
def bump (cid : Bytes 32) : List AggregatedAttribution → Option (List AggregatedAttribution)
  | [] => none
  | attr :: attrs =>
      if attr.clusterId == cid then
        some ({ attr with totalVerifiedGcuHours := satAdd 64 attr.totalVerifiedGcuHours 1 }
          :: attrs)
      else (bump cid attrs).map (attr :: ·)

theorem length_bump {cid : Bytes 32} {l l' : List AggregatedAttribution}
    (h : bump cid l = some l') : l'.length = l.length := by
  induction l generalizing l' with
  | nil => cases h
  | cons a l ih =>
      rw [bump] at h
      split at h
      · cases h
        rfl
      · obtain ⟨l'', hl'', rfl⟩ := Option.map_eq_some_iff.mp h
        rw [List.length_cons, ih hl'', List.length_cons]

abbrev Accumulated := BoundedVec AggregatedAttribution maxAttributionsPerFold

def addCluster (accumulated : Accumulated) (cid : Bytes 32) :
    Except SerializationError Accumulated :=
  match h : bump cid accumulated.asSlice with
  | some attrs => .ok ⟨attrs, by rw [length_bump h]; exact accumulated.len_le⟩
  | none =>
      match accumulated.tryPush ⟨cid, 1, 0⟩ with
      | some accumulated => .ok accumulated
      | none => .error .capacityExceeded

section
variable (targetWindow : Epoch) (verifier : SignatureVerifier) (registry : KeyRegistry)
  (authorization : AuthorizationSet)

def foldReceipt (accumulated : Accumulated) (receipt : SignedReceipt) :
    Except SerializationError Accumulated :=
  let att := receipt.attestation
  if att.window != targetWindow then .ok accumulated
  else if !registry receipt.publicKey att.nodeId then .ok accumulated
  else
    let assigned := authorization.window == targetWindow
      && att.taskClassId == authorization.taskClassId
      && authorization.executors.asSlice.contains att.nodeId
    if !assigned then .ok accumulated
    else
      match att.writeSigningPreimage (SliceSink.stack execAttestationMaxPreimageLen) with
      | .error e _ => .error e
      | .ok _ sink =>
          if !verifier receipt.publicKey sink.written receipt.signature then .ok accumulated
          else addCluster accumulated att.clusterId

end

theorem map_foldl_modify {α β : Type} {f : α → β} {g : α → α} (hg : ∀ a, f (g a) = f a)
    (is : List Nat) : ∀ l : List α,
    (is.foldl (fun l i => l.modify i g) l).map f = l.map f := by
  induction is with
  | nil => intro l; rfl
  | cons i is ih =>
      intro l
      rw [List.foldl_cons, ih]
      apply List.ext_getElem?
      intro j
      rw [List.getElem?_map, List.getElem?_map, List.getElem?_modify]
      cases l[j]? with
      | none => rfl
      | some a =>
          show some _ = some _
          split
          · exact congrArg some (hg a)
          · rfl

theorem map_normalize {β : Type} {f : AggregatedAttribution → β}
    (hf : ∀ a w, f { a with representationWeightBp := w } = f a)
    (attrs : List AggregatedAttribution) :
    (normalizeWeightsLargestRemainder attrs).map f = attrs.map f := by
  unfold normalizeWeightsLargestRemainder
  dsimp only
  split
  · rfl
  · split
    · rw [List.map_map]
      exact List.map_congr_left fun a _ => hf a _
    · split
      · rw [List.map_map]
        exact List.map_congr_left fun a _ => hf a _
      · refine (map_foldl_modify (fun a => hf a _) _ _).trans ?_
        rw [List.map_map]
        exact List.map_congr_left fun a _ => hf a _

theorem clusterIds_normalize (attrs : List AggregatedAttribution) :
    (normalizeWeightsLargestRemainder attrs).map (·.clusterId) = attrs.map (·.clusterId) :=
  map_normalize (fun _ _ => rfl) attrs

theorem length_normalize (attrs : List AggregatedAttribution) :
    (normalizeWeightsLargestRemainder attrs).length = attrs.length := by
  have h := congrArg List.length (clusterIds_normalize attrs)
  rwa [List.length_map, List.length_map] at h

def foldVerifiedAttributed (receipts : List SignedReceipt) (targetWindow : Epoch)
    (verifier : SignatureVerifier) (registry : KeyRegistry) (authorization : AuthorizationSet) :
    Except SerializationError Accumulated := do
  let accumulated ←
    receipts.foldlM (foldReceipt targetWindow verifier registry authorization) BoundedVec.new
  pure ⟨normalizeWeightsLargestRemainder accumulated.asSlice, by
    rw [length_normalize]; exact accumulated.len_le⟩

theorem length_normalize_le (accumulated : Accumulated) :
    (normalizeWeightsLargestRemainder accumulated.asSlice).length ≤ maxAttributionsPerFold := by
  rw [length_normalize]
  exact accumulated.len_le

/-! ## Which receipts count -/

section
variable (targetWindow : Epoch) (verifier : SignatureVerifier) (registry : KeyRegistry)
  (authorization : AuthorizationSet)

/-- The receipt passes all four checks. -/
def counts (receipt : SignedReceipt) : Bool :=
  receipt.attestation.window == targetWindow
    && registry receipt.publicKey receipt.attestation.nodeId
    && (authorization.window == targetWindow
      && receipt.attestation.taskClassId == authorization.taskClassId
      && authorization.executors.asSlice.contains receipt.attestation.nodeId)
    && verifier receipt.publicKey (preimageBytes receipt.attestation ctxGoatExecAttestation)
      receipt.signature

/-- The clusters of the counted receipts, in order. -/
def verifiedClusters (receipts : List SignedReceipt) : List (Bytes 32) :=
  (receipts.filter (counts targetWindow verifier registry authorization)).map
    (·.attestation.clusterId)

theorem foldReceipt_eq (accumulated : Accumulated) (receipt : SignedReceipt) :
    foldReceipt targetWindow verifier registry authorization accumulated receipt
      = if counts targetWindow verifier registry authorization receipt
        then addCluster accumulated receipt.attestation.clusterId else .ok accumulated := by
  have hlen : (preimageBytes receipt.attestation ctxGoatExecAttestation).length
      ≤ execAttestationMaxPreimageLen :=
    Signable.length_preimage_le (t := .executionAttestation) rfl receipt.attestation
  obtain ⟨sink, hrun, -, hwritten⟩ :=
    stack_of_writes (writesPreimage receipt.attestation ctxGoatExecAttestation) hlen
  unfold foldReceipt counts ExecutionAttestation.writeSigningPreimage
  dsimp only
  rw [hrun]
  dsimp only
  rw [hwritten]
  by_cases h1 : (receipt.attestation.window == targetWindow) = true
  · by_cases h2 : registry receipt.publicKey receipt.attestation.nodeId = true
    · by_cases h3 : (authorization.window == targetWindow
          && receipt.attestation.taskClassId == authorization.taskClassId
          && authorization.executors.asSlice.contains receipt.attestation.nodeId) = true
      · by_cases h4 : verifier receipt.publicKey
            (preimageBytes receipt.attestation ctxGoatExecAttestation) receipt.signature = true
        · simp only [bne, h1, h2, h3, h4, Bool.not_true, Bool.and_self,
            Bool.false_eq_true, if_false, if_true]
        · simp only [bne, h1, h2, h3, h4, Bool.not_true, Bool.and_self, Bool.and_false,
            Bool.false_eq_true, Bool.not_false, if_false, if_true]
      · simp only [bne, h1, h2, h3, Bool.not_true, Bool.and_false, Bool.false_and,
          Bool.false_eq_true, Bool.not_false, if_false, if_true]
    · simp only [bne, h1, h2, Bool.not_true, Bool.and_false, Bool.false_and, Bool.false_eq_true,
        Bool.not_false, if_false, if_true]
  · simp only [bne, h1, Bool.false_and, Bool.false_eq_true, Bool.not_false, if_false, if_true]

theorem foldlM_foldReceipt (receipts : List SignedReceipt) : ∀ accumulated : Accumulated,
    receipts.foldlM (foldReceipt targetWindow verifier registry authorization) accumulated
      = (verifiedClusters targetWindow verifier registry authorization receipts).foldlM addCluster
          accumulated := by
  induction receipts with
  | nil => intro accumulated; rfl
  | cons r receipts ih =>
      intro accumulated
      rw [List.foldlM_cons, foldReceipt_eq]
      unfold verifiedClusters at ih ⊢
      by_cases hr : counts targetWindow verifier registry authorization r = true
      · rw [if_pos hr, List.filter_cons_of_pos hr, List.map_cons, List.foldlM_cons]
        exact congrArg (addCluster accumulated r.attestation.clusterId >>= ·) (funext ih)
      · rw [if_neg hr, List.filter_cons_of_neg hr]
        exact ih accumulated

end

/-! ## The counts -/

/-- The clusters in order of first appearance. -/
def firsts (ids : List (Bytes 32)) : List (Bytes 32) := ids.reverse.dedup.reverse

theorem mem_firsts {ids : List (Bytes 32)} {c : Bytes 32} : c ∈ firsts ids ↔ c ∈ ids := by
  simp [firsts]

theorem nodup_firsts (ids : List (Bytes 32)) : (firsts ids).Nodup :=
  List.nodup_reverse.mpr (List.nodup_dedup _)

theorem length_firsts (ids : List (Bytes 32)) : (firsts ids).length = ids.toFinset.card := by
  rw [← List.toFinset_card_of_nodup (nodup_firsts ids)]
  congr 1
  ext c
  simp [mem_firsts]

theorem firsts_append (ids : List (Bytes 32)) (c : Bytes 32) :
    firsts (ids ++ [c]) = if c ∈ ids then firsts ids else firsts ids ++ [c] := by
  rw [firsts, List.reverse_append, List.reverse_singleton, List.singleton_append]
  split
  · rename_i h
    rw [List.dedup_cons_of_mem (List.mem_reverse.mpr h)]
    rfl
  · rename_i h
    rw [List.dedup_cons_of_notMem (fun h' => h (List.mem_reverse.mp h')), List.reverse_cons]
    rfl

theorem perm_firsts {ids ids' : List (Bytes 32)} (h : ids.Perm ids') :
    (firsts ids).Perm (firsts ids') := by
  refine (List.perm_ext_iff_of_nodup (nodup_firsts ids) (nodup_firsts ids')).mpr ?_
  intro c
  rw [mem_firsts, mem_firsts, h.mem_iff]

/-- Records of the clusters `cs` with counts `n` and no weight yet. -/
def records (n : Bytes 32 → Nat) (cs : List (Bytes 32)) : List AggregatedAttribution :=
  cs.map fun c => ⟨c, n c, 0⟩

/-- The count of a cluster. -/
def total (ids : List (Bytes 32)) (c : Bytes 32) : Nat := min (ids.count c) (2 ^ 64 - 1)

theorem records_cons (n : Bytes 32 → Nat) (c : Bytes 32) (cs : List (Bytes 32)) :
    records n (c :: cs) = ⟨c, n c, 0⟩ :: records n cs :=
  rfl

theorem records_congr {n n' : Bytes 32 → Nat} {cs : List (Bytes 32)} (h : ∀ c ∈ cs, n c = n' c) :
    records n cs = records n' cs := by
  refine List.map_congr_left fun c hc => ?_
  rw [h c hc]

theorem bump_records {c : Bytes 32} {n : Bytes 32 → Nat} {cs : List (Bytes 32)} (hcs : cs.Nodup) :
    bump c (records n cs)
      = if c ∈ cs then some (records (fun d => if d = c then satAdd 64 (n d) 1 else n d) cs)
        else none := by
  induction cs with
  | nil => rfl
  | cons d cs ih =>
      obtain ⟨hd, hcs⟩ := List.nodup_cons.mp hcs
      rw [records_cons, records_cons, bump]
      by_cases hdc : d = c
      · subst hdc
        have hrest : ∀ x ∈ cs, n x = if x = d then satAdd 64 (n x) 1 else n x := by
          intro x hx
          have hne : x ≠ d := fun h => hd (h ▸ hx)
          rw [if_neg hne]
        rw [if_pos (beq_self_eq_true d), if_pos List.mem_cons_self, if_pos rfl, records_congr hrest]
      · have hne : ¬ (d == c) = true := by simpa using hdc
        have hmem : c ∈ d :: cs ↔ c ∈ cs := by simp [Ne.symm hdc]
        rw [if_neg hne, if_neg hdc, ih hcs]
        by_cases hc : c ∈ cs
        · rw [if_pos hc, if_pos (hmem.mpr hc)]
          rfl
        · rw [if_neg hc, if_neg (fun h => hc (hmem.mp h))]
          rfl

section
variable {accumulated : Accumulated} {n : Bytes 32 → Nat} {cs : List (Bytes 32)} {c : Bytes 32}

theorem addCluster_of_mem (h : accumulated.asSlice = records n cs) (hcs : cs.Nodup) (hc : c ∈ cs) :
    ∃ accumulated', addCluster accumulated c = .ok accumulated'
      ∧ accumulated'.asSlice = records (fun d => if d = c then satAdd 64 (n d) 1 else n d) cs := by
  have hb := bump_records (c := c) (n := n) hcs
  rw [if_pos hc, ← h] at hb
  unfold addCluster
  split
  · rename_i attrs hattrs
    exact ⟨_, rfl, Option.some.inj (hattrs.symm.trans hb)⟩
  · rename_i hnone
    rw [hb] at hnone
    cases hnone

theorem addCluster_of_notMem (h : accumulated.asSlice = records n cs) (hcs : cs.Nodup)
    (hc : c ∉ cs) :
    addCluster accumulated c
      = match accumulated.tryPush ⟨c, 1, 0⟩ with
        | some accumulated' => .ok accumulated'
        | none => .error .capacityExceeded := by
  have hb := bump_records (c := c) (n := n) hcs
  rw [if_neg hc, ← h] at hb
  unfold addCluster
  split
  · rename_i attrs hattrs
    rw [hb] at hattrs
    cases hattrs
  · rfl

end

theorem total_append (ids : List (Bytes 32)) (c d : Bytes 32) :
    total (ids ++ [c]) d = if d = c then satAdd 64 (total ids d) 1 else total ids d := by
  rw [total, List.count_append, List.count_singleton]
  by_cases hdc : d = c
  · rw [if_pos hdc, if_pos (by rw [hdc]; exact beq_self_eq_true c), satAdd, total]
    omega
  · have hne : ¬ (c == d) = true := by simpa using Ne.symm hdc
    rw [if_neg hdc, if_neg hne, Nat.add_zero, total]

theorem addCluster_eq {ids : List (Bytes 32)} {accumulated : Accumulated} (c : Bytes 32)
    (h : accumulated.asSlice = records (total ids) (firsts ids)) :
    (addCluster accumulated c).map BoundedVec.asSlice
      = if (firsts (ids ++ [c])).length ≤ maxAttributionsPerFold
        then .ok (records (total (ids ++ [c])) (firsts (ids ++ [c])))
        else .error .capacityExceeded := by
  have hlen : (firsts ids).length = accumulated.asSlice.length := by
    rw [h, records, List.length_map]
  rw [firsts_append]
  by_cases hc : c ∈ ids
  · obtain ⟨accumulated', hadd, hslice⟩ :=
      addCluster_of_mem h (nodup_firsts ids) (mem_firsts.mpr hc)
    rw [hadd, if_pos hc, if_pos (by rw [hlen]; exact accumulated.len_le)]
    show Except.ok accumulated'.asSlice = _
    rw [hslice, records_congr (fun d _ => total_append ids c d)]
  · rw [if_neg hc, addCluster_of_notMem h (nodup_firsts ids) (mem_firsts.not.mpr hc),
      List.length_append, hlen]
    cases hpush : accumulated.tryPush ⟨c, 1, 0⟩ with
    | none =>
        have hfull := BoundedVec.tryPush_eq_none.mp hpush
        rw [hfull, List.length_singleton, if_neg (Nat.not_succ_le_self _)]
        rfl
    | some accumulated' =>
        obtain ⟨hlt, happ⟩ := BoundedVec.tryPush_eq_some.mp hpush
        have hold : ∀ d ∈ firsts ids, total ids d = total (ids ++ [c]) d := by
          intro d hd
          have hne : d ≠ c := fun h => hc (h ▸ mem_firsts.mp hd)
          rw [total_append, if_neg hne]
        have hnew : total (ids ++ [c]) c = 1 := by
          rw [total_append, if_pos rfl, total, List.count_eq_zero.mpr hc]
          rfl
        rw [if_pos (show accumulated.asSlice.length + [c].length ≤ _ from hlt)]
        show Except.ok accumulated'.asSlice = _
        rw [happ, h, records_congr hold, records, records, List.map_append,
          List.map_singleton, hnew]

/-- The accumulated set: every cluster with its count, in order of first appearance,
or the capacity error. -/
theorem accumulate_eq (ids : List (Bytes 32)) :
    (ids.foldlM addCluster BoundedVec.new).map BoundedVec.asSlice
      = if (firsts ids).length ≤ maxAttributionsPerFold
        then .ok (records (total ids) (firsts ids)) else .error .capacityExceeded := by
  induction ids using List.reverseRecOn with
  | nil => rfl
  | append_singleton ids c ih =>
      rw [List.foldlM_append]
      cases hacc : ids.foldlM addCluster BoundedVec.new with
      | error e =>
          rw [hacc] at ih
          split at ih
          · cases ih
          · rename_i hfull
            cases ih
            have hgrow : (firsts ids).length ≤ (firsts (ids ++ [c])).length := by
              rw [firsts_append]
              split
              · exact Nat.le_refl _
              · rw [List.length_append]
                exact Nat.le_add_right _ _
            rw [if_neg (fun h => hfull (Nat.le_trans hgrow h))]
            rfl
      | ok accumulated =>
          rw [hacc] at ih
          split at ih
          · rw [← addCluster_eq c (Except.ok.inj ih)]
            show ([c].foldlM addCluster accumulated).map BoundedVec.asSlice = _
            rw [List.foldlM_cons]
            cases addCluster accumulated c <;> rfl
          · cases ih

/-! ## The weights -/

theorem foldl_satAdd {α : Type} (w : Nat) (f : α → Nat) (l : List α) : ∀ {g : Nat}, g ≤ 2 ^ w - 1 →
    l.foldl (fun g a => satAdd w g (f a)) g = min (g + (l.map f).sum) (2 ^ w - 1) := by
  induction l with
  | nil =>
      intro g hg
      exact (Nat.min_eq_left hg).symm
  | cons a l ih =>
      intro g hg
      have hstep : satAdd w g (f a) ≤ 2 ^ w - 1 := Nat.min_le_right _ _
      rw [List.foldl_cons, ih hstep, List.map_cons, List.sum_cons, satAdd]
      omega

theorem getElem?_foldl_modify {α : Type} (g : α → α) {is : List Nat} (his : is.Nodup) (j : Nat) :
    ∀ l : List α, (is.foldl (fun l i => l.modify i g) l)[j]?
      = if j ∈ is then l[j]?.map g else l[j]? := by
  induction is with
  | nil => intro l; rfl
  | cons i is ih =>
      intro l
      obtain ⟨hi, his⟩ := List.nodup_cons.mp his
      rw [List.foldl_cons, ih his, List.getElem?_modify]
      by_cases hij : j = i
      · subst hij
        simp [hi]
      · simp [hij, Ne.symm hij]

section
variable (n : Bytes 32 → Nat) (cs : List (Bytes 32))

def grandTotal : Nat := min (cs.map n).sum (2 ^ 64 - 1)

def quota (c : Bytes 32) : Nat := n c * bpFull / grandTotal n cs

def remainder (c : Bytes 32) : Nat := n c * bpFull % grandTotal n cs

def deficit : Nat := bpFull - min (cs.map (quota n cs)).sum (2 ^ 32 - 1)

/-- The clusters whose remainder is larger, and those before it with the same. -/
def rank (pre : List (Bytes 32)) (c : Bytes 32) : Nat :=
  cs.countP (fun d => remainder n cs c < remainder n cs d)
    + pre.countP (fun d => remainder n cs d = remainder n cs c)

end

section
variable {n : Bytes 32 → Nat} {cs : List (Bytes 32)}

theorem normalize_records (hpos : grandTotal n cs ≠ 0) :
    normalizeWeightsLargestRemainder (records n cs)
      = (Ranking.winners ((cs.map (remainder n cs)).getD · 0) cs.length (deficit n cs)).foldl
          (fun attrs i => attrs.modify i fun a =>
            { a with representationWeightBp := satAdd 32 a.representationWeightBp 1 })
          (cs.map fun c => ⟨c, n c, quota n cs c⟩) := by
  have hlen : (records n cs).length = cs.length := List.length_map _
  have hgrand : (records n cs).foldl (fun g a => satAdd 64 g a.totalVerifiedGcuHours) 0
      = grandTotal n cs := by
    rw [foldl_satAdd 64 _ _ (Nat.zero_le _), Nat.zero_add, records, List.map_map]
    rfl
  have hne : cs.length ≠ 0 := by
    intro h
    rw [List.length_eq_zero_iff] at h
    subst h
    exact hpos rfl
  have hquota : ((records n cs).map fun a => (⟨a.clusterId, a.totalVerifiedGcuHours,
      a.totalVerifiedGcuHours * bpFull / grandTotal n cs⟩ : AggregatedAttribution))
        = cs.map fun c => ⟨c, n c, quota n cs c⟩ := by
    rw [records, List.map_map]
    rfl
  have hrem : (records n cs).map (fun a => a.totalVerifiedGcuHours * bpFull % grandTotal n cs)
      = cs.map (remainder n cs) := by
    rw [records, List.map_map]
    rfl
  have hdeficit : bpFull - (cs.map fun c => (⟨c, n c, quota n cs c⟩ : AggregatedAttribution)).foldl
      (fun s a => satAdd 32 s a.representationWeightBp) 0 = deficit n cs := by
    rw [foldl_satAdd 32 _ _ (Nat.zero_le _), Nat.zero_add, List.map_map]
    rfl
  unfold normalizeWeightsLargestRemainder
  dsimp only
  rw [hlen, if_neg hne, hgrand, if_neg hpos, hquota, hrem, hdeficit, Ranking.winners_min]
  split
  · rename_i hzero
    rw [hzero]
    rfl
  · rfl

/-- What an attribution set assigns to a cluster. -/
def assigned (attrs : List AggregatedAttribution) (c : Bytes 32) : Option (Nat × Nat) :=
  (attrs.find? (·.clusterId == c)).map fun a => (a.totalVerifiedGcuHours, a.representationWeightBp)

theorem assigned_of_getElem? {attrs : List AggregatedAttribution} {pre post : List (Bytes 32)}
    {c : Bytes 32} {a : AggregatedAttribution}
    (hids : attrs.map (·.clusterId) = pre ++ c :: post) (hc : c ∉ pre)
    (ha : attrs[pre.length]? = some a) :
    assigned attrs c = some (a.totalVerifiedGcuHours, a.representationWeightBp) := by
  induction pre generalizing attrs with
  | nil =>
      cases attrs with
      | nil => cases ha
      | cons b attrs =>
          obtain ⟨hb, -⟩ := List.cons.inj hids
          cases ha
          have heq : (a.clusterId == c) = true := beq_iff_eq.mpr hb
          rw [assigned,
            List.find?_cons_of_pos (p := fun x : AggregatedAttribution => x.clusterId == c) heq]
          rfl
  | cons d pre ih =>
      cases attrs with
      | nil => cases ha
      | cons b attrs =>
          obtain ⟨hb, hrest⟩ := List.cons.inj hids
          obtain ⟨hcd, hc⟩ := not_or.mp (List.mem_cons.not.mp hc)
          have hne : ¬ (b.clusterId == c) = true := fun h => hcd ((beq_iff_eq.mp h).symm.trans hb)
          rw [assigned,
            List.find?_cons_of_neg (p := fun x : AggregatedAttribution => x.clusterId == c) hne]
          exact ih hrest hc ha

theorem clusterIds_records (n : Bytes 32 → Nat) (cs : List (Bytes 32)) :
    (normalizeWeightsLargestRemainder (records n cs)).map (·.clusterId) = cs := by
  rw [clusterIds_normalize, records, List.map_map]
  exact List.map_id cs

/-- The weight of a cluster: its quota, and one more if fewer than `deficit` rank before it. -/
theorem assigned_normalize {pre post : List (Bytes 32)} {c : Bytes 32}
    (hcs : cs = pre ++ c :: post) (hnodup : cs.Nodup) (hpos : 0 < n c) :
    assigned (normalizeWeightsLargestRemainder (records n cs)) c
      = some (n c, if rank n cs pre c < deficit n cs then satAdd 32 (quota n cs c) 1
          else quota n cs c) := by
  have hgrand : grandTotal n cs ≠ 0 := by
    have hsum : n c ≤ (cs.map n).sum :=
      List.le_sum_of_mem (List.mem_map_of_mem (by rw [hcs]; simp))
    rw [grandTotal]
    omega
  have hc : c ∉ pre := by
    intro h
    rw [hcs] at hnodup
    exact (List.disjoint_of_nodup_append hnodup) h List.mem_cons_self
  have hwins : pre.length ∈ Ranking.winners ((cs.map (remainder n cs)).getD · 0) cs.length
      (deficit n cs) ↔ rank n cs pre c < deficit n cs := by
    subst hcs
    exact Ranking.mem_winners_append
  have hat : (cs.map fun c => (⟨c, n c, quota n cs c⟩ : AggregatedAttribution))[pre.length]?
      = some ⟨c, n c, quota n cs c⟩ := by
    rw [List.getElem?_map]
    subst hcs
    simp
  have hids := (clusterIds_records n cs).trans hcs
  rw [normalize_records hgrand] at hids ⊢
  by_cases hwin : rank n cs pre c < deficit n cs
  · rw [if_pos hwin]
    refine assigned_of_getElem? (a := ⟨c, n c, satAdd 32 (quota n cs c) 1⟩) hids hc ?_
    rw [getElem?_foldl_modify _ (Ranking.nodup_winners _ _), if_pos (hwins.mpr hwin), hat]
    rfl
  · rw [if_neg hwin]
    refine assigned_of_getElem? (a := ⟨c, n c, quota n cs c⟩) hids hc ?_
    rw [getElem?_foldl_modify _ (Ranking.nodup_winners _ _),
      if_neg (fun h => hwin (hwins.mp h)), hat]

theorem assigned_of_notMem {c : Bytes 32} (hc : c ∉ cs) :
    assigned (normalizeWeightsLargestRemainder (records n cs)) c = none := by
  rw [assigned, Option.map_eq_none_iff, List.find?_eq_none]
  intro a ha h
  have hmem := List.mem_map_of_mem (f := (·.clusterId)) ha
  rw [clusterIds_records] at hmem
  exact hc (beq_iff_eq.mp h ▸ hmem)

end

/-! ## Two orders of the same receipts -/

section
variable {ids ids' : List (Bytes 32)}

theorem total_perm (h : ids.Perm ids') : total ids = total ids' := by
  funext c
  rw [total, total, h.count_eq]

theorem grandTotal_perm {n : Bytes 32 → Nat} {cs cs' : List (Bytes 32)} (h : cs.Perm cs') :
    grandTotal n cs = grandTotal n cs' := by
  rw [grandTotal, grandTotal, (h.map n).sum_eq]

theorem quota_perm {n : Bytes 32 → Nat} {cs cs' : List (Bytes 32)} (h : cs.Perm cs') :
    quota n cs = quota n cs' := by
  funext c
  rw [quota, quota, grandTotal_perm h]

theorem remainder_perm {n : Bytes 32 → Nat} {cs cs' : List (Bytes 32)} (h : cs.Perm cs') :
    remainder n cs = remainder n cs' := by
  funext c
  rw [remainder, remainder, grandTotal_perm h]

theorem deficit_perm {n : Bytes 32 → Nat} {cs cs' : List (Bytes 32)} (h : cs.Perm cs') :
    deficit n cs = deficit n cs' := by
  rw [deficit, deficit, quota_perm h, (h.map _).sum_eq]

theorem total_pos {c : Bytes 32} (hc : c ∈ firsts ids) : 0 < total ids c := by
  have := List.count_pos_iff.mpr (mem_firsts.mp hc)
  rw [total]
  omega

/-- No remainder of the counted receipts is cut by the deficit. -/
def Untied (ids : List (Bytes 32)) : Prop :=
  Ranking.Uncut (remainder (total ids) (firsts ids)) (firsts ids) (deficit (total ids) (firsts ids))

theorem rank_lt_of_untied {cs : List (Bytes 32)} (hcut : Untied ids) (hperm : cs.Perm (firsts ids))
    {pre post : List (Bytes 32)} {c : Bytes 32} (hcs : cs = pre ++ c :: post) :
    rank (total ids) cs pre c < deficit (total ids) cs ↔
      (firsts ids).countP (fun d => remainder (total ids) (firsts ids) c
        < remainder (total ids) (firsts ids) d) < deficit (total ids) (firsts ids) := by
  have hcut' := hcut.of_perm hperm.symm
  rw [hcs] at hcut'
  rw [rank, remainder_perm hperm, deficit_perm hperm, ← hperm.countP_eq, hcs]
  exact Ranking.rank_lt_iff hcut'

/-- The attributions of the counted receipts. -/
def attributions (ids : List (Bytes 32)) : List AggregatedAttribution :=
  normalizeWeightsLargestRemainder (records (total ids) (firsts ids))

theorem assigned_attributions {pre post : List (Bytes 32)} {c : Bytes 32}
    (hids : firsts ids = pre ++ c :: post) :
    assigned (attributions ids) c
      = some (total ids c, if rank (total ids) (firsts ids) pre c < deficit (total ids) (firsts ids)
          then satAdd 32 (quota (total ids) (firsts ids) c) 1
          else quota (total ids) (firsts ids) c) :=
  assigned_normalize hids (nodup_firsts ids) (total_pos (by rw [hids]; simp))

theorem assigned_perm_of_untied (h : ids'.Perm ids) (hcut : Untied ids) (c : Bytes 32) :
    assigned (attributions ids') c = assigned (attributions ids) c := by
  have hperm := perm_firsts h
  by_cases hc : c ∈ firsts ids
  · obtain ⟨pre, post, hcs⟩ := List.append_of_mem hc
    obtain ⟨pre', post', hcs'⟩ := List.append_of_mem (hperm.mem_iff.mpr hc)
    have hrank := (rank_lt_of_untied hcut hperm hcs').trans
      (rank_lt_of_untied hcut (List.Perm.refl _) hcs).symm
    rw [assigned_attributions hcs', assigned_attributions hcs, total_perm h]
    simp only [hrank, quota_perm hperm]
  · rw [attributions, attributions, assigned_of_notMem hc,
      assigned_of_notMem (hperm.mem_iff.not.mpr hc)]

theorem quota_le {c : Bytes 32} (hc : c ∈ firsts ids) :
    quota (total ids) (firsts ids) c ≤ bpFull := by
  have hsum : total ids c ≤ ((firsts ids).map (total ids)).sum :=
    List.le_sum_of_mem (List.mem_map_of_mem hc)
  have hle : total ids c ≤ grandTotal (total ids) (firsts ids) :=
    Nat.le_min.mpr ⟨hsum, Nat.min_le_right _ _⟩
  refine Nat.div_le_of_le_mul ?_
  exact Nat.mul_le_mul_right bpFull hle

theorem satAdd_quota_ne {c : Bytes 32} (hc : c ∈ firsts ids) :
    satAdd 32 (quota (total ids) (firsts ids) c) 1 ≠ quota (total ids) (firsts ids) c := by
  have hle := quota_le hc
  rw [satAdd]
  have : bpFull = 10000 := rfl
  omega

theorem exists_loser (hcut : ¬ Untied ids) :
    ∃ c ∈ ids, ∀ {ids' rest : List (Bytes 32)}, ids'.Perm ids → firsts ids' = c :: rest →
      assigned (attributions ids') c ≠ assigned (attributions ids) c := by
  obtain ⟨pre, c, post, hcs, hwin, hlose⟩ := Ranking.exists_cut_loser hcut
  have hc : c ∈ firsts ids := by rw [hcs]; simp
  refine ⟨c, mem_firsts.mp hc, ?_⟩
  intro ids' rest h hcs'
  have hperm := perm_firsts h
  have hfirst : rank (total ids) (firsts ids') [] c < deficit (total ids) (firsts ids') := by
    rw [rank, List.countP_nil, Nat.add_zero, remainder_perm hperm, deficit_perm hperm,
      hperm.countP_eq]
    exact hwin
  have hlast : ¬ rank (total ids) (firsts ids) pre c < deficit (total ids) (firsts ids) :=
    Nat.not_lt.mpr hlose
  rw [assigned_attributions (show firsts ids' = [] ++ c :: rest from hcs'),
    assigned_attributions hcs, total_perm h, if_pos hfirst, if_neg hlast, quota_perm hperm]
  intro heq
  exact satAdd_quota_ne hc (Prod.mk.inj (Option.some.inj heq)).2

theorem firsts_cons (c : Bytes 32) (ids : List (Bytes 32)) :
    ∃ rest, firsts (c :: ids) = c :: rest := by
  induction ids using List.reverseRecOn with
  | nil => exact ⟨[], rfl⟩
  | append_singleton ids d ih =>
      obtain ⟨rest, hrest⟩ := ih
      rw [← List.cons_append, firsts_append]
      split
      · exact ⟨rest, hrest⟩
      · exact ⟨rest ++ [d], by rw [hrest, List.cons_append]⟩

end

/-- Two recomputations agree: both are refused for capacity, or both succeed and assign
every cluster the same count and the same weight. -/
def Agree (x y : Except SerializationError Accumulated) : Prop :=
  (x = .error .capacityExceeded ∧ y = .error .capacityExceeded) ∨
    ∃ a b, x = .ok a ∧ y = .ok b ∧ ∀ c, assigned a.asSlice c = assigned b.asSlice c

section
variable (targetWindow : Epoch) (verifier : SignatureVerifier) (registry : KeyRegistry)
  (authorization : AuthorizationSet)

theorem fold_eq (receipts : List SignedReceipt) :
    (foldVerifiedAttributed receipts targetWindow verifier registry authorization).map
        BoundedVec.asSlice
      = if (verifiedClusters targetWindow verifier registry authorization receipts).toFinset.card
          ≤ maxAttributionsPerFold
        then .ok (attributions
          (verifiedClusters targetWindow verifier registry authorization receipts))
        else .error .capacityExceeded := by
  have hacc :=
    accumulate_eq (verifiedClusters targetWindow verifier registry authorization receipts)
  rw [length_firsts] at hacc
  rw [foldVerifiedAttributed, foldlM_foldReceipt]
  cases hrun : (verifiedClusters targetWindow verifier registry authorization receipts).foldlM
      addCluster BoundedVec.new with
  | error e =>
      rw [hrun] at hacc
      split at hacc
      · cases hacc
      · rename_i hfull
        cases hacc
        rw [if_neg hfull]
        rfl
  | ok accumulated =>
      rw [hrun] at hacc
      split at hacc
      · rename_i hle
        rw [if_pos hle, attributions, ← Except.ok.inj hacc]
        rfl
      · cases hacc

end

theorem agree_iff {x y : Except SerializationError Accumulated} {u v : List AggregatedAttribution}
    {p : Prop} [Decidable p]
    (hx : x.map BoundedVec.asSlice = if p then .ok u else .error .capacityExceeded)
    (hy : y.map BoundedVec.asSlice = if p then .ok v else .error .capacityExceeded) :
    Agree x y ↔ ¬ p ∨ ∀ c, assigned u c = assigned v c := by
  by_cases hp : p
  · rw [if_pos hp] at hx hy
    cases x with
    | error e => cases hx
    | ok a =>
        cases y with
        | error e => cases hy
        | ok b =>
            rw [← Except.ok.inj hx, ← Except.ok.inj hy]
            constructor
            · rintro (⟨h, -⟩ | ⟨a', b', ha, hb, h⟩)
              · cases h
              · cases ha
                cases hb
                exact .inr h
            · rintro (h | h)
              · exact absurd hp h
              · exact .inr ⟨a, b, rfl, rfl, h⟩
  · rw [if_neg hp] at hx hy
    cases x with
    | ok a => cases hx
    | error e =>
        cases y with
        | ok b => cases hy
        | error e' =>
            cases hx
            cases hy
            exact ⟨fun _ => .inl hp, fun _ => .inl ⟨rfl, rfl⟩⟩

section
variable {targetWindow : Epoch} {verifier : SignatureVerifier} {registry : KeyRegistry}
  {authorization : AuthorizationSet} {receipts receipts' : List SignedReceipt}

theorem verifiedClusters_perm (h : receipts'.Perm receipts) :
    (verifiedClusters targetWindow verifier registry authorization receipts').Perm
      (verifiedClusters targetWindow verifier registry authorization receipts) :=
  (h.filter _).map _

theorem verifiedClusters_append :
    verifiedClusters targetWindow verifier registry authorization (receipts ++ receipts')
      = verifiedClusters targetWindow verifier registry authorization receipts
        ++ verifiedClusters targetWindow verifier registry authorization receipts' := by
  rw [verifiedClusters, List.filter_append, List.map_append]
  rfl

theorem agree_perm_iff (h : receipts'.Perm receipts) :
    Agree (foldVerifiedAttributed receipts targetWindow verifier registry authorization)
        (foldVerifiedAttributed receipts' targetWindow verifier registry authorization)
      ↔ maxAttributionsPerFold
          < (verifiedClusters targetWindow verifier registry authorization receipts).toFinset.card ∨
        ∀ c, assigned (attributions
            (verifiedClusters targetWindow verifier registry authorization receipts)) c
          = assigned (attributions
            (verifiedClusters targetWindow verifier registry authorization receipts')) c := by
  have hy := fold_eq targetWindow verifier registry authorization receipts'
  rw [List.toFinset_eq_of_perm _ _ (verifiedClusters_perm h)] at hy
  rw [agree_iff (fold_eq targetWindow verifier registry authorization receipts) hy, Nat.not_le]

theorem exists_perm_first {c : Bytes 32}
    (hc : c ∈ verifiedClusters targetWindow verifier registry authorization receipts) :
    ∃ receipts' rest, receipts'.Perm receipts ∧
      firsts (verifiedClusters targetWindow verifier registry authorization receipts')
      = c :: rest := by
  let own : SignedReceipt → Bool := fun r => r.attestation.clusterId == c
  have hown : ∀ d ∈ verifiedClusters targetWindow verifier registry authorization
      (receipts.filter own), d = c := by
    intro d hd
    obtain ⟨r, hr, rfl⟩ := List.mem_map.mp hd
    exact beq_iff_eq.mp (List.mem_filter.mp (List.mem_filter.mp hr).1).2
  have hmem : c ∈ verifiedClusters targetWindow verifier registry authorization
      (receipts.filter own) := by
    obtain ⟨r, hr, rfl⟩ := List.mem_map.mp hc
    obtain ⟨hr, hcounts⟩ := List.mem_filter.mp hr
    exact List.mem_map_of_mem
      (List.mem_filter.mpr ⟨List.mem_filter.mpr ⟨hr, beq_self_eq_true _⟩, hcounts⟩)
  have hsplit : verifiedClusters targetWindow verifier registry authorization
      (receipts.filter own ++ receipts.filter (fun r => !own r))
        = verifiedClusters targetWindow verifier registry authorization (receipts.filter own)
          ++ verifiedClusters targetWindow verifier registry authorization
            (receipts.filter fun r => !own r) := verifiedClusters_append
  cases hfront : verifiedClusters targetWindow verifier registry authorization
      (receipts.filter own) with
  | nil =>
      rw [hfront] at hmem
      cases hmem
  | cons d front =>
      have hd : d = c := hown d (by rw [hfront]; exact List.mem_cons_self)
      rw [hfront, hd, List.cons_append] at hsplit
      obtain ⟨rest, hrest⟩ :=
        firsts_cons c (front ++ verifiedClusters targetWindow verifier registry
        authorization (receipts.filter fun r => !own r))
      exact ⟨_, rest, List.filter_append_perm own receipts, by rw [hsplit, hrest]⟩

end

/-- **Every order of the receipts gives the same attributions** exactly when all are
refused for capacity, or no remainder is cut by the deficit: with fewer than `deficit`
clusters above it and more than `deficit` at or above it. -/
theorem recomputers_agree_iff (receipts : List SignedReceipt) (targetWindow : Epoch)
    (verifier : SignatureVerifier) (registry : KeyRegistry) (authorization : AuthorizationSet) :
    (∀ receipts' : List SignedReceipt, receipts'.Perm receipts →
      Agree (foldVerifiedAttributed receipts targetWindow verifier registry authorization)
        (foldVerifiedAttributed receipts' targetWindow verifier registry authorization))
    ↔ maxAttributionsPerFold
          < (verifiedClusters targetWindow verifier registry authorization receipts).toFinset.card ∨
        Untied (verifiedClusters targetWindow verifier registry authorization receipts) := by
  constructor
  · intro hall
    rw [or_iff_not_imp_right]
    intro hcut
    obtain ⟨c, hc, hdiffer⟩ := exists_loser hcut
    obtain ⟨receipts', rest, hperm, hfirst⟩ := exists_perm_first hc
    rcases (agree_perm_iff hperm).mp (hall receipts' hperm) with hfull | hsame
    · exact hfull
    · exact absurd (hsame c).symm (hdiffer (verifiedClusters_perm hperm) hfirst)
  · rintro h receipts' hperm
    refine (agree_perm_iff hperm).mpr (h.imp_right fun hcut c => ?_)
    exact (assigned_perm_of_untied (verifiedClusters_perm hperm) hcut c).symm

/-! ### Three equal clusters -/

theorem tag_le : [(116 : UInt8)].length ≤ opaqueTagCap := by decide

def receiptFor (cluster node : UInt8) (window : Epoch) : SignedReceipt where
  attestation :=
    { nodeId := .replicate 32 node, classId := ⟨[99], by decide⟩, taskClassId := ⟨[116], tag_le⟩
      window := window, subWindow := 0, clusterId := .replicate 32 cluster, asn := 7
      resultCommit := .replicate 32 0 }
  publicKey := .replicate _ 0
  signature := .replicate _ 0

def authFor (window : Epoch) : AuthorizationSet where
  window := window
  taskClassId := ⟨[116], tag_le⟩
  executors := ⟨[.replicate 32 1, .replicate 32 2, .replicate 32 3], by decide⟩

/-- One receipt each of three clusters: the cluster that is read first gets the odd
basis point. -/
theorem equal_clusters_disagree :
    [receiptFor 2 2 50, receiptFor 1 1 50, receiptFor 3 3 50].Perm
      [receiptFor 1 1 50, receiptFor 2 2 50, receiptFor 3 3 50] ∧
    ¬ Agree
      (foldVerifiedAttributed [receiptFor 1 1 50, receiptFor 2 2 50, receiptFor 3 3 50] 50
        (fun _ _ _ => true) (fun _ _ => true) (authFor 50))
      (foldVerifiedAttributed [receiptFor 2 2 50, receiptFor 1 1 50, receiptFor 3 3 50] 50
        (fun _ _ _ => true) (fun _ _ => true) (authFor 50)) := by
  have hperm : [receiptFor 2 2 50, receiptFor 1 1 50, receiptFor 3 3 50].Perm
      [receiptFor 1 1 50, receiptFor 2 2 50, receiptFor 3 3 50] := List.Perm.swap _ _ _
  refine ⟨hperm, ?_⟩
  rw [agree_perm_iff hperm]
  have h123 : verifiedClusters 50 (fun _ _ _ => true) (fun _ _ => true) (authFor 50)
      [receiptFor 1 1 50, receiptFor 2 2 50, receiptFor 3 3 50]
        = [.replicate 32 1, .replicate 32 2, .replicate 32 3] := by decide
  have h213 : verifiedClusters 50 (fun _ _ _ => true) (fun _ _ => true) (authFor 50)
      [receiptFor 2 2 50, receiptFor 1 1 50, receiptFor 3 3 50]
        = [.replicate 32 2, .replicate 32 1, .replicate 32 3] := by decide
  rw [h123, h213]
  -- Cluster 1 is ranked without a sort: the sort is not evaluated by the kernel.
  have hfirst : assigned (attributions [.replicate 32 1, .replicate 32 2, .replicate 32 3])
      (.replicate 32 1) = some (1, 3334) := by
    rw [assigned_attributions (show firsts _ = [] ++ .replicate 32 1 ::
      [.replicate 32 2, .replicate 32 3] by decide)]
    decide
  have hsecond : assigned (attributions [.replicate 32 2, .replicate 32 1, .replicate 32 3])
      (.replicate 32 1) = some (1, 3333) := by
    rw [assigned_attributions (show firsts _ = [.replicate 32 2] ++ .replicate 32 1 ::
      [.replicate 32 3] by decide)]
    decide
  rintro (h | h)
  · revert h
    decide
  · have h1 := h (.replicate 32 1)
    rw [hfirst, hsecond] at h1
    cases h1

end GoatCoin
