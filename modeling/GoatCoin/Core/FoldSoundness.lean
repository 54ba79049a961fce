/-
# `GoatCoin.Core.FoldSoundness` — what the attribution fold counts

`fold_verified_attributed` reads a slice of receipts once, with two things carried
along: the accumulated set and one scratch buffer, in which each preimage is rebuilt
over what the one before it left there.

    the buffer   only what was just written is read back, so the fold over one buffer
                 is the fold over a fresh one per receipt (`foldInto_eq`)
    the counts   a cluster's total is the number of receipts of its own that meet all
                 of `Counted`, a declarative reading of the four filters
    the error    more clusters than the accumulated set has room for
-/
import Mathlib.Data.Set.Card
import Mathlib.Algebra.Order.BigOperators.Group.List
import GoatCoin.Core.Weights

namespace GoatCoin

/-- `&[T]`: no slice is longer than a `usize` can say. -/
abbrev Slice (α : Type) := { l : List α // l.length < 2 ^ 64 }

/-! ## One buffer for all preimages -/

section
variable (targetWindow : Epoch) (verifier : SignatureVerifier) (registry : KeyRegistry)
  (authorization : AuthorizationSet)

/-- One receipt, with the buffer that the receipts before it have written to. -/
def foldReceiptInto (state : Accumulated × List UInt8) (receipt : SignedReceipt) :
    Except SerializationError (Accumulated × List UInt8) :=
  let (accumulated, scratch) := state
  let att := receipt.attestation
  if att.window != targetWindow then .ok (accumulated, scratch)
  else if !registry receipt.publicKey att.nodeId then .ok (accumulated, scratch)
  else
    let assigned := authorization.window == targetWindow
      && att.taskClassId == authorization.taskClassId
      && authorization.executors.asSlice.contains att.nodeId
    if !assigned then .ok (accumulated, scratch)
    else
      match att.writeSigningPreimage (SliceSink.new scratch) with
      | .error e _ => .error e
      | .ok _ sink =>
          if !verifier receipt.publicKey sink.written receipt.signature then
            .ok (accumulated, sink.buf)
          else (addCluster accumulated att.clusterId).map fun accumulated => (accumulated, sink.buf)

/-- `fold_verified_attributed`, with its scratch buffer. -/
def foldVerifiedAttributedInto (receipts : Slice SignedReceipt) :
    Except SerializationError Accumulated := do
  let (accumulated, _) ← receipts.val.foldlM
    (foldReceiptInto targetWindow verifier registry authorization)
    (BoundedVec.new, List.replicate execAttestationMaxPreimageLen 0)
  pure ⟨normalizeWeightsLargestRemainder accumulated.asSlice, length_normalize_le accumulated⟩

theorem foldReceiptInto_eq (accumulated : Accumulated) {scratch : List UInt8}
    (hscratch : scratch.length = execAttestationMaxPreimageLen) (receipt : SignedReceipt) :
    ∃ scratch', scratch'.length = execAttestationMaxPreimageLen ∧
      foldReceiptInto targetWindow verifier registry authorization (accumulated, scratch) receipt
        = (foldReceipt targetWindow verifier registry authorization accumulated receipt).map
            fun accumulated => (accumulated, scratch') := by
  have hlen : (preimageBytes receipt.attestation ctxGoatExecAttestation).length
      ≤ execAttestationMaxPreimageLen :=
    Signable.length_preimage_le (t := .executionAttestation) rfl receipt.attestation
  obtain ⟨fresh, hfresh, -, hfwritten⟩ :=
    stack_of_writes (writesPreimage receipt.attestation ctxGoatExecAttestation) hlen
  obtain ⟨used, hused, -, huwritten, hubuf⟩ :=
    new_of_writes scratch (writesPreimage receipt.attestation ctxGoatExecAttestation)
      (by rw [hscratch]; exact hlen)
  unfold foldReceiptInto foldReceipt ExecutionAttestation.writeSigningPreimage
  dsimp only
  rw [hfresh, hused]
  dsimp only
  rw [hfwritten, huwritten]
  split
  · exact ⟨scratch, hscratch, rfl⟩
  · split
    · exact ⟨scratch, hscratch, rfl⟩
    · split
      · exact ⟨scratch, hscratch, rfl⟩
      · refine ⟨used.buf, hubuf.trans hscratch, ?_⟩
        split
        · rfl
        · rfl

theorem foldlM_foldReceiptInto (receipts : List SignedReceipt) :
    ∀ (accumulated : Accumulated) {scratch : List UInt8},
      scratch.length = execAttestationMaxPreimageLen →
      (receipts.foldlM (foldReceiptInto targetWindow verifier registry authorization)
          (accumulated, scratch)).map Prod.fst
        = receipts.foldlM (foldReceipt targetWindow verifier registry authorization)
          accumulated := by
  induction receipts with
  | nil => intro accumulated scratch _; rfl
  | cons r receipts ih =>
      intro accumulated scratch hscratch
      obtain ⟨scratch', hscratch', hstep⟩ := foldReceiptInto_eq targetWindow verifier registry
        authorization accumulated hscratch r
      rw [List.foldlM_cons, List.foldlM_cons, hstep]
      cases foldReceipt targetWindow verifier registry authorization accumulated r with
      | error e => rfl
      | ok accumulated' => exact ih accumulated' hscratch'

/-- **The reuse of the buffer is harmless.** -/
theorem foldInto_eq (receipts : Slice SignedReceipt) :
    foldVerifiedAttributedInto targetWindow verifier registry authorization receipts
      = foldVerifiedAttributed receipts.val targetWindow verifier registry authorization := by
  have hscratch : (List.replicate execAttestationMaxPreimageLen (0 : UInt8)).length
      = execAttestationMaxPreimageLen := List.length_replicate
  have h := foldlM_foldReceiptInto targetWindow verifier registry authorization receipts.val
    BoundedVec.new hscratch
  rw [foldVerifiedAttributed, ← h, foldVerifiedAttributedInto]
  cases receipts.val.foldlM (foldReceiptInto targetWindow verifier registry authorization)
      (BoundedVec.new, List.replicate execAttestationMaxPreimageLen 0) with
  | error e => rfl
  | ok state => rfl

/-! ## The filters, declaratively -/

/-- The receipt is one that counts for cluster `c`. -/
structure Counted (c : Bytes 32) (receipt : SignedReceipt) : Prop where
  cluster : receipt.attestation.clusterId = c
  window : receipt.attestation.window = targetWindow
  authorized : authorization.window = targetWindow
  task : receipt.attestation.taskClassId = authorization.taskClassId
  executor : receipt.attestation.nodeId ∈ authorization.executors.asSlice
  registered : registry receipt.publicKey receipt.attestation.nodeId = true
  signed : verifier receipt.publicKey
    (preimageBytes receipt.attestation ctxGoatExecAttestation) receipt.signature = true

theorem counted_iff (c : Bytes 32) (receipt : SignedReceipt) :
    (receipt.attestation.clusterId == c
        && counts targetWindow verifier registry authorization receipt) = true
      ↔ Counted targetWindow verifier registry authorization c receipt := by
  simp only [counts, Bool.and_eq_true, beq_iff_eq, List.contains_iff_mem]
  constructor
  · rintro ⟨hcluster, ⟨⟨hwindow, hregistered⟩, ⟨hauth, htask⟩, hexecutor⟩, hsigned⟩
    exact ⟨hcluster, hwindow, hauth, htask, hexecutor, hregistered, hsigned⟩
  · rintro ⟨hcluster, hwindow, hauth, htask, hexecutor, hregistered, hsigned⟩
    exact ⟨hcluster, ⟨⟨hwindow, hregistered⟩, ⟨hauth, htask⟩, hexecutor⟩, hsigned⟩

instance (c : Bytes 32) :
    DecidablePred (Counted targetWindow verifier registry authorization c) := fun receipt =>
  decidable_of_iff _ (counted_iff targetWindow verifier registry authorization c receipt)

end

section
variable {targetWindow : Epoch} {verifier : SignatureVerifier} {registry : KeyRegistry}
  {authorization : AuthorizationSet}

theorem count_verifiedClusters (receipts : List SignedReceipt) (c : Bytes 32) :
    (verifiedClusters targetWindow verifier registry authorization receipts).count c
      = receipts.countP (Counted targetWindow verifier registry authorization c) := by
  rw [verifiedClusters, List.count_eq_countP, List.countP_map, List.countP_filter]
  refine List.countP_congr fun receipt _ => ?_
  rw [decide_eq_true_eq, ← counted_iff]
  rfl

theorem mem_verifiedClusters {receipts : List SignedReceipt} {c : Bytes 32} :
    c ∈ verifiedClusters targetWindow verifier registry authorization receipts
      ↔ ∃ receipt ∈ receipts, Counted targetWindow verifier registry authorization c receipt := by
  rw [← List.count_pos_iff, count_verifiedClusters, List.countP_pos_iff]
  simp only [decide_eq_true_eq]

theorem length_verifiedClusters_le (receipts : List SignedReceipt) :
    (verifiedClusters targetWindow verifier registry authorization receipts).length
      ≤ receipts.length := by
  rw [verifiedClusters, List.length_map]
  exact List.length_filter_le _ _

end

/-! ## The attributions of a list of clusters -/

section
variable {ids : List (Bytes 32)}

theorem total_eq_count (hlen : ids.length < 2 ^ 64) (c : Bytes 32) : total ids c = ids.count c := by
  have hle := List.count_le_length (a := c) (l := ids)
  rw [total]
  omega

theorem totals_records (n : Bytes 32 → Nat) (cs : List (Bytes 32)) :
    totals (records n cs) = cs.map n := by
  rw [totals, records, List.map_map]
  rfl

theorem sum_counts (hlen : ids.length < 2 ^ 64) :
    (totals (records (total ids) (firsts ids))).sum = ids.length := by
  rw [totals_records, funext (total_eq_count hlen)]
  have hperm : (firsts ids).Perm ids.dedup := by
    refine (List.perm_ext_iff_of_nodup (nodup_firsts ids) (List.nodup_dedup ids)).mpr fun c => ?_
    rw [mem_firsts, List.mem_dedup]
  rw [(hperm.map _).sum_eq]
  exact List.sum_map_count_dedup_eq_length ids

theorem records_attributions : (attributions ids).map
    (fun a => (a.clusterId, a.totalVerifiedGcuHours)) = (firsts ids).map fun c =>
    (c, total ids c) := by
  rw [attributions, map_normalize (fun _ _ => rfl), records, List.map_map]
  rfl

theorem sum_weights_attributions (hlen : ids.length < 2 ^ 64) (hne : attributions ids ≠ []) :
    ((attributions ids).map (·.representationWeightBp)).sum = bpFull := by
  have hids : ids ≠ [] := by
    rintro rfl
    exact hne rfl
  have hsum := sum_counts hlen
  exact sum_weights (by rw [hsum]; exact List.length_pos_of_ne_nil hids) (by rw [hsum]; exact hlen)

end

/-! ## Soundness and completeness -/

/-- The total of a cluster in an attribution set; without a record it is zero. -/
def totalOf (attrs : List AggregatedAttribution) (c : Bytes 32) : Nat :=
  ((attrs.find? (·.clusterId == c)).map (·.totalVerifiedGcuHours)).getD 0

theorem totalOf_attributions {ids : List (Bytes 32)} (hlen : ids.length < 2 ^ 64) (c : Bytes 32) :
    totalOf (attributions ids) c = ids.count c := by
  rw [totalOf]
  cases hfind : (attributions ids).find? (·.clusterId == c) with
  | none =>
      -- no record has the cluster, and every cluster has a record
      have hnot : c ∉ ids := by
        intro hc
        have hmem : (c, total ids c) ∈ (attributions ids).map
            (fun a => (a.clusterId, a.totalVerifiedGcuHours)) := by
          rw [records_attributions]
          exact List.mem_map_of_mem (mem_firsts.mpr hc)
        obtain ⟨a, ha, heq⟩ := List.mem_map.mp hmem
        have hid : a.clusterId = c := congrArg Prod.fst heq
        exact List.find?_eq_none.mp hfind a ha (by rw [hid]; exact beq_self_eq_true c)
      exact (List.count_eq_zero.mpr hnot).symm
  | some a =>
      have hid : a.clusterId = c := by
        have hfound := List.find?_some hfind
        exact beq_iff_eq.mp hfound
      have hmem := List.mem_map_of_mem (f := fun a : AggregatedAttribution =>
        (a.clusterId, a.totalVerifiedGcuHours)) (List.mem_of_find?_eq_some hfind)
      rw [records_attributions] at hmem
      obtain ⟨d, -, heq⟩ := List.mem_map.mp hmem
      obtain ⟨hd, htotal⟩ := Prod.mk.inj heq
      show a.totalVerifiedGcuHours = _
      rw [← htotal, total_eq_count hlen, hd, hid]

/-- **The fold counts what is there to count, and all of it.**  Of a list on which it
succeeds every cluster gets the number of its receipts that pass all the checks; the
records are of distinct clusters, none is empty, and their weights are all of
`BP_FULL`.  It fails exactly when more clusters than `MAX_ATTRIBUTIONS_PER_FOLD` have
such a receipt. -/
theorem fold_counts_exactly (receipts : Slice SignedReceipt) (targetWindow : Epoch)
    (verifier : SignatureVerifier) (registry : KeyRegistry) (authorization : AuthorizationSet) :
    (∀ out, foldVerifiedAttributedInto targetWindow verifier registry authorization receipts
      = .ok out → (∀ c, totalOf out.asSlice c
        = receipts.val.countP (Counted targetWindow verifier registry authorization c)) ∧
      (out.asSlice.map (·.clusterId)).Nodup ∧
      (∀ a ∈ out.asSlice, a.totalVerifiedGcuHours ≠ 0) ∧
      (out.asSlice ≠ [] → (out.asSlice.map (·.representationWeightBp)).sum = bpFull)) ∧
    ((∃ e, foldVerifiedAttributedInto targetWindow verifier registry authorization receipts
      = .error e)
      ↔ maxAttributionsPerFold < { c | ∃ receipt ∈ receipts.val,
          Counted targetWindow verifier registry authorization c receipt }.ncard) := by
  have hlen : (verifiedClusters targetWindow verifier registry authorization receipts.val).length
      < 2 ^ 64 := Nat.lt_of_le_of_lt (length_verifiedClusters_le _) receipts.property
  have hclusters : { c | ∃ receipt ∈ receipts.val,
      Counted targetWindow verifier registry authorization c receipt }.ncard
        = (verifiedClusters targetWindow verifier registry authorization
            receipts.val).toFinset.card := by
    rw [← Set.ncard_coe_finset]
    congr 1
    ext c
    rw [Set.mem_ofPred_eq, Finset.mem_coe, List.mem_toFinset, mem_verifiedClusters]
  have hfold := fold_eq targetWindow verifier registry authorization receipts.val
  rw [foldInto_eq, hclusters]
  constructor
  · intro out hout
    rw [hout] at hfold
    split at hfold
    · rw [Except.ok.inj hfold]
      refine ⟨fun c => ?_, ?_, ?_, sum_weights_attributions hlen⟩
      · rw [totalOf_attributions hlen, count_verifiedClusters]
      · rw [attributions, clusterIds_records]
        exact nodup_firsts _
      · intro a ha
        have hmem := List.mem_map_of_mem (f := fun a : AggregatedAttribution =>
          (a.clusterId, a.totalVerifiedGcuHours)) ha
        rw [records_attributions] at hmem
        obtain ⟨c, hc, heq⟩ := List.mem_map.mp hmem
        obtain ⟨-, htotal⟩ := Prod.mk.inj heq
        rw [← htotal]
        exact Nat.ne_of_gt (total_pos hc)
    · cases hfold
  · constructor
    · rintro ⟨e, he⟩
      rw [he] at hfold
      split at hfold
      · cases hfold
      · rename_i hfull
        exact Nat.lt_of_not_le hfull
    · intro hfull
      rw [if_neg (Nat.not_le.mpr hfull)] at hfold
      cases hrun :
        foldVerifiedAttributed receipts.val targetWindow verifier registry authorization with
      | error e => exact ⟨e, rfl⟩
      | ok out =>
          rw [hrun] at hfold
          cases hfold

end GoatCoin
