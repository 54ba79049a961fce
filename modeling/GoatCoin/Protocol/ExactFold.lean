/-
# `GoatCoin.Protocol.ExactFold` — what the strictest fold counts

`foldVerifiedAttributed` looks at one receipt at a time:

    a repeated receipt          is counted again
    a flag                      has to be proved by a record
    a proof                     does not have to show in a flag

so the fold is exact when the list has no two receipts of one node for one task in a class and
window, and when the receipts of the faults that are proved carry a flag.
-/
import GoatCoin.Protocol.Attribution
import Mathlib.Data.List.Dedup
import Mathlib.Algebra.BigOperators.Group.List.Basic

namespace GoatCoin.Protocol

open Assoc
open Evm (require bind_ok bind_ok₂ bind_ok₄ require_ok require_of forM_ok)

/-! ## Counting receipts -/

theorem sum_bump (v : Vector Nat 24) (i : Fin 24) : (bump v i).toList.sum = v.toList.sum + 1 := by
  have hlt : i.val < v.toList.length := by
    rw [Vector.length_toList]
    exact i.isLt
  have hsum :
    v.toList.sum = (v.toList.take i.val).sum + v.toList[i.val]
    + (v.toList.drop (i.val + 1)).sum := by
    rw [← List.sum_take_succ _ _ hlt, List.sum_take_add_sum_drop]
  have hget : v.toList[i.val] = v[i] := Vector.getElem_toList hlt
  unfold bump
  rw [Vector.toList_set, List.sum_set, if_pos hlt, hsum, hget]
  omega

theorem foldl_record (rep : String → String) (items : List Receipt) : ∀ acc : ClassAccumulator,
    (items.foldl (fun acc r => acc.record rep r) acc).vC = acc.vC + items.length
      ∧ (items.foldl (fun acc r => acc.record rep r) acc).subEvents.toList.sum
        = acc.subEvents.toList.sum + items.countP Receipt.anomalous := by
  induction items with
  | nil =>
      intro acc
      exact ⟨rfl, rfl⟩
  | cons r items ih =>
      intro acc
      obtain ⟨hvolume, htally⟩ := ih (acc.record rep r)
      rw [List.foldl_cons, hvolume, htally, List.length_cons, List.countP_cons]
      refine ⟨?_, ?_⟩
      · show acc.vC + 1 + items.length = acc.vC + (items.length + 1)
        omega
      · show (if r.anomalous then bump acc.subEvents r.bucket else acc.subEvents).toList.sum + _ = _
        split
        · rw [sum_bump]
          omega
        · omega

/-- The volume of a class and window. -/
def volumeAt (out : Map (ClassId × Nat) ClassAccumulator) (key : ClassId × Nat) : Nat :=
  ((out.lookup key).map ClassAccumulator.vC).getD 0

/-- The anomalies that were counted in a class and window. -/
def anomaliesAt (out : Map (ClassId × Nat) ClassAccumulator) (key : ClassId × Nat) : Nat :=
  ((out.lookup key).map fun acc => acc.subEvents.toList.sum).getD 0

/-- **The fold counts the elements of the list.** -/
theorem counts_foldReceipts (receipts : List Receipt) (groups : List (List String))
    (key : ClassId × Nat) :
    volumeAt (foldReceipts receipts groups) key = (itemsAt key receipts).length
      ∧ anomaliesAt (foldReceipts receipts groups) key
        = (itemsAt key receipts).countP Receipt.anomalous := by
  unfold volumeAt anomaliesAt
  rw [lookup_foldReceipts]
  split
  · rename_i hnil
    rw [hnil]
    exact ⟨rfl, rfl⟩
  · have hcounts := foldl_record (representative groups) (itemsAt key receipts) (.empty key.1 key.2)
    have hempty : (ClassAccumulator.empty key.1 key.2).subEvents.toList.sum = 0 := rfl
    have hnone : (ClassAccumulator.empty key.1 key.2).vC = 0 := rfl
    rw [hempty, hnone, Nat.zero_add, Nat.zero_add] at hcounts
    exact hcounts

/-! ## Exactness -/

/-- The signed receipts of a class and window. -/
def signedAt (key : ClassId × Nat) (signed : List SignedReceipt) : List SignedReceipt :=
  signed.filter fun sr => sr.receipt.key = key

/-- Whose receipt it is, for what. -/
def SignedReceipt.pair (sr : SignedReceipt) : Nat × String := (sr.taskId, sr.nodeId)

theorem itemsAt_map (key : ClassId × Nat) (signed : List SignedReceipt) :
    itemsAt key (signed.map SignedReceipt.receipt)
    = (signedAt key signed).map SignedReceipt.receipt := by
  unfold itemsAt signedAt
  rw [List.filter_map]
  rfl

section
variable (mlDsa : List UInt8 → List UInt8 → List UInt8 → Bool) (registry : KeyRegistry)
  (auth : AuthorizationSet)

/-- A record of the list proves a fault of the node in the task. -/
def Proven (records : List EscalationRecord) (p : Nat × String) : Prop :=
  ∃ rec ∈ records, rec.verifyAttribution mlDsa registry auth = .ok (.faulted p.2) ∧ rec.taskId = p.1

open scoped Classical in
/-- What the fold is to count. -/
structure ExactFold (signed : List SignedReceipt) (records : List EscalationRecord)
    (out : Map (ClassId × Nat) ClassAccumulator) : Prop where
  volume : ∀ key, volumeAt out key = ((signedAt key signed).map SignedReceipt.pair).dedup.length
  flags : ∀ sr ∈ signed, sr.receipt.anomalous = true ↔ Proven mlDsa registry auth records sr.pair
  anomalies : ∀ key, anomaliesAt out key
    = (signedAt key signed).countP fun sr => decide (Proven mlDsa registry auth records sr.pair)

end

section
variable {mlDsa : List UInt8 → List UInt8 → List UInt8 → Bool} {registry : KeyRegistry}
  {auth : AuthorizationSet}

theorem length_eq_dedup_iff {α : Type} [DecidableEq α] (l : List α) : l.length = l.dedup.length
    ↔ l.Nodup := by
  constructor
  · intro hlength
    exact List.dedup_eq_self.mp ((List.dedup_sublist l).eq_of_length hlength.symm)
  · intro hnodup
    rw [List.dedup_eq_self.mpr hnodup]

/-- **The fold is exact, if and only if** no receipt is repeated and every proof shows in a flag. -/
theorem exact_fold_iff {signed : List SignedReceipt} {records : List EscalationRecord}
    {groups : List (List String)} {out : Map (ClassId × Nat) ClassAccumulator}
    (h : foldVerifiedAttributed mlDsa signed registry auth records groups = .ok out) :
    ExactFold mlDsa registry auth signed records out ↔
      (∀ key, ((signedAt key signed).map SignedReceipt.pair).Nodup) ∧
        ∀ sr ∈ signed, Proven mlDsa registry auth records sr.pair → sr.receipt.diverged = true
        ∨ sr.receipt.fault = true := by
  classical
  obtain ⟨hasserted, rfl⟩ := foldVerifiedAttributed_ok h
  have hvolume : ∀ key, volumeAt (foldReceipts (signed.map SignedReceipt.receipt) groups) key
      = ((signedAt key signed).map SignedReceipt.pair).length := by
    intro key
    rw [(counts_foldReceipts _ groups key).1, itemsAt_map, List.length_map, List.length_map]
  have hflag : ∀ sr : SignedReceipt, sr.receipt.anomalous = true
    ↔ sr.receipt.diverged = true ∨ sr.receipt.fault = true :=
    fun sr => Bool.or_eq_true_iff
  constructor
  · intro hexact
    refine ⟨fun key => ?_, fun sr hmem hproven => ?_⟩
    · exact (length_eq_dedup_iff _).mp ((hvolume key).symm.trans (hexact.volume key))
    · exact (hflag sr).mp ((hexact.flags sr hmem).mpr hproven)
  · rintro ⟨hnodup, hshown⟩
    have hflags : ∀ sr ∈ signed, sr.receipt.anomalous = true
      ↔ Proven mlDsa registry auth records sr.pair :=
      fun sr hmem => ⟨hasserted sr hmem, fun hproven => (hflag sr).mpr (hshown sr hmem hproven)⟩
    refine ⟨fun key => ?_, hflags, fun key => ?_⟩
    · rw [hvolume key]
      exact (length_eq_dedup_iff _).mpr (hnodup key)
    · rw [(counts_foldReceipts _ groups key).2, itemsAt_map, List.countP_map]
      refine List.countP_congr fun sr hmem => ?_
      rw [decide_eq_true_eq]
      exact hflags sr (List.mem_of_mem_filter hmem)

end

/-! ### A list that is exact, and a list that is not -/

/-- The record that proves B's fault: C is within five of A, and not of B. -/
def sampleFault : EscalationRecord :=
  sampleEvidence.assemble
    (accuse sampleEvidence true false ⟨.tolerance, some 5⟩ ⟨.tolerance, some 5⟩ 7)

theorem sampleFault_proves :
    sampleFault.verifyAttribution sampleMlDsa sampleRegistry sampleAuthorization
    = .ok (.faulted "B") :=
  accuse_accepted sampleEvidence_sound (by decide +kernel) (by decide +kernel) 7

/-- The receipts of A and B are counted exactly, B's with the flags that its fault is proved by. -/
theorem exact_fold_sample :
    ∃ out, foldVerifiedAttributed sampleMlDsa [sampleFault.a, sampleFault.b] sampleRegistry
      sampleAuthorization
        [sampleFault] [] = .ok out ∧
      ExactFold sampleMlDsa sampleRegistry sampleAuthorization [sampleFault.a, sampleFault.b]
        [sampleFault] out := by
  have hsigned := forM_ok.mp sampleEvidence_sound.signed
  have hauthorized := forM_ok.mp sampleEvidence_sound.authorized
  have hpair : ∀ {P : SignedReceipt → Prop}, P sampleFault.a → P sampleFault.b →
      ∀ sr ∈ [sampleFault.a, sampleFault.b], P sr := fun ha hb =>
    List.forall_mem_cons.mpr ⟨ha, List.forall_mem_singleton.mpr hb⟩
  have hfolds : foldVerifiedAttributed sampleMlDsa [sampleFault.a, sampleFault.b] sampleRegistry
      sampleAuthorization [sampleFault] [] = .ok _ :=
    bind_ok₄.mpr
      ⟨(), forM_ok.mpr
      (hpair (hsigned sampleEvidence.a (by simp)) (hsigned sampleEvidence.b (by simp))),
      (), forM_ok.mpr
        (hpair (hauthorized sampleEvidence.a (by simp)) (hauthorized sampleEvidence.b (by simp))),
      [(7, "B")], bind_ok₂.mpr ⟨_, sampleFault_proves, [], rfl, rfl⟩, (),
      forM_ok.mpr (hpair (require_of (.inl rfl)) (require_of (.inr (List.mem_singleton_self _)))),
      rfl⟩
  refine ⟨_, hfolds, (exact_fold_iff hfolds).mpr ⟨fun key => ?_, hpair ?_ ?_⟩⟩
  · have hnodup : ([sampleFault.a, sampleFault.b].map SignedReceipt.pair).Nodup := by decide
    exact hnodup.sublist (List.filter_sublist.map _)
  · rintro ⟨rec, hrec, hproves, -⟩
    rw [List.mem_singleton.mp hrec, sampleFault_proves] at hproves
    exact absurd (Attribution.faulted.inj (Except.ok.inj hproves)) (by decide)
  · exact fun _ => .inl rfl

/-- A's receipt, twice. -/
theorem repeated_receipt_counts_twice : ¬∀ mlDsa registry auth signed records groups out,
    foldVerifiedAttributed mlDsa signed registry auth records groups = .ok out →
      ExactFold mlDsa registry auth signed records out := by
  intro h
  have hsigned := forM_ok.mp sampleEvidence_sound.signed sampleEvidence.a (by simp)
  have hauthorized := forM_ok.mp sampleEvidence_sound.authorized sampleEvidence.a (by simp)
  have htwice : ∀ {P : SignedReceipt → Prop}, P sampleEvidence.a →
      ∀ sr ∈ List.replicate 2 sampleEvidence.a, P sr :=
    fun ha sr hmem => List.eq_of_mem_replicate hmem ▸ ha
  have hfolds :
    foldVerifiedAttributed sampleMlDsa (List.replicate 2 sampleEvidence.a) sampleRegistry
      sampleAuthorization [] [] = .ok _ :=
    bind_ok₄.mpr ⟨(), forM_ok.mpr (htwice hsigned), (), forM_ok.mpr (htwice hauthorized), [],
      rfl, (), forM_ok.mpr (htwice (require_of (.inl rfl))), rfl⟩
  have hvolume := (h _ _ _ _ _ _ _ hfolds).volume sampleReceipt.key
  rw [(counts_foldReceipts _ _ _).1] at hvolume
  revert hvolume
  decide

end GoatCoin.Protocol
