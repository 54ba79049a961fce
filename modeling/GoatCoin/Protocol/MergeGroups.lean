/-
# `GoatCoin.Protocol.MergeGroups` — when two recomputers reach one accumulator

Receipts are folded in any order.  Merge groups are not: where two groups share a cluster, the later
one names the cluster's representative.

    groups        {a, x}, {b, x}
    in this order      x ↦ b        a, x, b are counted as a, b, b
    in the other       x ↦ a        a, x, b are counted as a, a, b

A recomputer gets its groups out of a hash map.  All orders give one accumulator, and a chain of
groups is counted as one cluster, exactly when groups that share a cluster have smallest ids that
the sketch cannot tell apart (the same id, but for a coincidence of hashes).
-/
import GoatCoin.Core.Sha3Eval
import GoatCoin.Protocol.Maturity
import Mathlib.Logic.Relation

namespace GoatCoin.Protocol

open Assoc

/-! ## Slots -/

theorem slotRank_pos (item : List UInt8) : 0 < slotRank item := by
  unfold slotRank
  dsimp only
  split
  · exact Nat.succ_pos _
  · exact lt_min (Nat.succ_pos _) (Nat.succ_pos _)

theorem add_eq_iff {x y : List UInt8} : Hll.new.add x = Hll.new.add y ↔ slot x = slot y := by
  constructor
  · intro h
    have hat : ∀ s : Fin 4096 × Nat, (Hll.new.addSlot s).registers[(slotIndex x).val]
        = if s.1.val = (slotIndex x).val then s.2 else 0 := by
      intro s
      have hzero : Hll.new.registers[(slotIndex x).val] = 0 := Vector.getElem_replicate _
      rw [getElem_addSlot, hzero, Nat.zero_max]
    have hself : (slot x).1.val = (slotIndex x).val := rfl
    have hx := hat (slot x)
    have hy := hat (slot y)
    rw [show Hll.new.addSlot (slot x) = Hll.new.addSlot (slot y) from h, hy, if_pos hself] at hx
    split at hx
    · rename_i hindex
      exact Prod.ext (Fin.ext hindex.symm) hx.symm
    · exact absurd hx.symm (Nat.ne_of_gt (slotRank_pos x))
  · intro h
    unfold Hll.add
    rw [h]

/-! ## Representatives -/

theorem lookup_foldl_insert (r : String) (c : String) (grp : List String) :
    ∀ rep : Map String String, (grp.foldl (fun rep c => rep.insert c r) rep).lookup c
      = if c ∈ grp then some r else rep.lookup c := by
  induction grp with
  | nil =>
      intro rep
      rfl
  | cons d grp ih =>
      intro rep
      rw [List.foldl_cons, ih]
      by_cases hmem : c ∈ grp
      · rw [if_pos hmem, if_pos (List.mem_cons_of_mem _ hmem)]
      · rw [if_neg hmem]
        by_cases hcd : c = d
        · subst hcd
          rw [AList.lookup_insert, if_pos List.mem_cons_self]
        · rw [AList.lookup_insert_ne hcd, if_neg fun h => (List.mem_cons.mp h).elim hcd hmem]

variable {c : String} {gs : List (List String)}

theorem min?_of_mem {grp : List String} (h : c ∈ grp) : ∃ r, grp.min? = some r := by
  cases hmin : grp.min? with
  | none =>
      rw [List.min?_eq_none_iff] at hmin
      rw [hmin] at h
      exact absurd h List.not_mem_nil
  | some r => exact ⟨r, rfl⟩

/-- A group writes its smallest id for its members. -/
theorem lookup_mergeGroup (rep : Map String String) (grp : List String) (c : String) :
    (mergeGroup rep grp).lookup c = if c ∈ grp then grp.min? else rep.lookup c := by
  unfold mergeGroup
  cases hmin : grp.min? with
  | some r => exact lookup_foldl_insert r c grp rep
  | none =>
      dsimp only
      rw [if_neg]
      intro hmem
      obtain ⟨r, hr⟩ := min?_of_mem hmem
      rw [hmin] at hr
      cases hr

theorem clusterRepresentative_snoc (gs : List (List String)) (grp : List String) :
    clusterRepresentative (gs ++ [grp]) = mergeGroup (clusterRepresentative gs) grp := by
  unfold clusterRepresentative
  rw [List.foldl_append]
  rfl

theorem representative_cases (gs : List (List String)) (c : String) :
    ((∀ G ∈ gs, c ∉ G) ∧ (clusterRepresentative gs).lookup c = none) ∨
      ∃ G ∈ gs, c ∈ G ∧ (clusterRepresentative gs).lookup c = G.min? := by
  induction gs using List.reverseRecOn with
  | nil => exact .inl ⟨fun G hG => absurd hG List.not_mem_nil, rfl⟩
  | append_singleton gs grp ih =>
      rw [clusterRepresentative_snoc, lookup_mergeGroup]
      by_cases hmem : c ∈ grp
      · rw [if_pos hmem]
        exact .inr ⟨grp, List.mem_append_right _ List.mem_cons_self, hmem, rfl⟩
      · rw [if_neg hmem]
        rcases ih with ⟨hnone, hlookup⟩ | ⟨G, hG, hcG, hlookup⟩
        · refine .inl ⟨?_, hlookup⟩
          intro G hG
          rcases List.mem_append.mp hG with hold | hnew
          · exact hnone G hold
          · rw [List.mem_singleton.mp hnew]
            exact hmem
        · exact .inr ⟨G, List.mem_append_left _ hG, hcG, hlookup⟩

theorem representative_last {grp : List String} {r : String} (hmem : c ∈ grp)
    (hmin : grp.min? = some r) : representative (gs ++ [grp]) c = r := by
  unfold representative
  rw [clusterRepresentative_snoc, lookup_mergeGroup, if_pos hmem, hmin]
  rfl

/-! ## What the recomputers need -/

/-- The fold is the same in all orders of the receipts and of the groups. -/
def OrderFree (gs : List (List String)) : Prop :=
  ∀ gs', gs.Perm gs' → ∀ receipts receipts' : List Receipt, receipts.Perm receipts' →
    ∀ key, (foldReceipts receipts gs).lookup key = (foldReceipts receipts' gs').lookup key

/-- Two clusters are in one group, or joined by a chain of groups that overlap. -/
def Joined (gs : List (List String)) : String → String → Prop :=
  Relation.TransGen fun c d => ∃ G ∈ gs, c ∈ G ∧ d ∈ G

/-- Every sketch takes the two for one. -/
def CountedAsOne (gs : List (List String)) (c d : String) : Prop :=
  ∀ h : Hll, h.add (textBytes (representative gs c)) = h.add (textBytes (representative gs d))

/-- The slot of a group's smallest id. -/
def groupSlot (G : List String) : Option (Fin 4096 × Nat) := G.min?.map fun r => slot (textBytes r)

/-- Groups that share a cluster have smallest ids of one slot. -/
def Compatible (gs : List (List String)) : Prop :=
  ∀ G ∈ gs, ∀ H ∈ gs, ∀ c ∈ G, c ∈ H → groupSlot G = groupSlot H

theorem Compatible.of_mem {gs' : List (List String)} (h : Compatible gs)
    (hsub : ∀ G ∈ gs', G ∈ gs) : Compatible gs' :=
  fun G hG H hH => h G (hsub G hG) H (hsub H hH)

theorem slot_of_mem (h : Compatible gs) {G : List String} (hG : G ∈ gs)
    (hc : c ∈ G) : some (slot (textBytes (representative gs c))) = groupSlot G := by
  rcases representative_cases gs c with ⟨hnone, -⟩ | ⟨H, hH, hcH, hlookup⟩
  · exact absurd hc (hnone G hG)
  · rw [h G hG H hH c hc hcH]
    obtain ⟨r, hr⟩ := min?_of_mem hcH
    unfold representative groupSlot
    rw [hlookup, hr]
    rfl

theorem slot_perm {gs' : List (List String)} (h : Compatible gs)
    (hperm : gs.Perm gs') (c : String) :
    slot (textBytes (representative gs c)) = slot (textBytes (representative gs' c)) := by
  have h' : Compatible gs' := h.of_mem fun G hG => hperm.mem_iff.mpr hG
  by_cases hmem : ∃ G ∈ gs, c ∈ G
  · obtain ⟨G, hG, hc⟩ := hmem
    have hslot := slot_of_mem h hG hc
    rw [← slot_of_mem h' (hperm.mem_iff.mp hG) hc] at hslot
    exact Option.some.inj hslot
  · have hself : ∀ {ls : List (List String)}, (∀ G ∈ ls, c ∉ G) → representative ls c = c := by
      intro ls hout
      rcases representative_cases ls c with ⟨-, hnone⟩ | ⟨H, hH, hcH, -⟩
      · unfold representative
        rw [hnone]
        rfl
      · exact absurd hcH (hout H hH)
    rw [hself fun G hG hc => hmem ⟨G, hG, hc⟩,
      hself fun G hG hc => hmem ⟨G, hperm.mem_iff.mpr hG, hc⟩]

theorem accumulate_congr {rep rep' : String → String}
    (h : ∀ c, slot (textBytes (rep c)) = slot (textBytes (rep' c)))
    (key : ClassId × Nat) (items : List Receipt) :
    accumulate rep key items = accumulate rep' key items := by
  have hrecord : (fun (acc : ClassAccumulator) r => acc.record rep r) = fun acc r =>
    acc.record rep' r := by
    funext acc r
    unfold ClassAccumulator.record Hll.add
    rw [h]
  unfold accumulate
  rw [hrecord]

theorem orderFree_of_compatible (h : Compatible gs) : OrderFree gs := by
  intro gs' hgs receipts receipts' hreceipts key
  rw [foldReceipts_perm hreceipts gs key, lookup_foldReceipts, lookup_foldReceipts,
    accumulate_congr (slot_perm h hgs)]

theorem countedAsOne_of_joined (h : Compatible gs) {d : String} (hjoined : Joined gs c d) :
    CountedAsOne gs c d := by
  have hslot : slot (textBytes (representative gs c)) = slot (textBytes (representative gs d)) := by
    induction hjoined with
    | single hstep =>
        obtain ⟨G, hG, hc, hd⟩ := hstep
        have heq := slot_of_mem h hG hc
        rw [← slot_of_mem h hG hd] at heq
        exact Option.some.inj heq
    | tail _ hstep ih =>
        obtain ⟨G, hG, hc, hd⟩ := hstep
        have heq := slot_of_mem h hG hc
        rw [← slot_of_mem h hG hd] at heq
        rw [ih]
        exact Option.some.inj heq
  intro sketch
  unfold Hll.add
  rw [hslot]

/-- One receipt of a cluster. -/
def soleReceipt (c : String) : Receipt := ⟨"", 0, 0, 0, c, "", false, false⟩

theorem lookup_soleReceipt (c : String) (gs : List (List String)) :
    ((foldReceipts [soleReceipt c] gs).lookup ("", 0)).map ClassAccumulator.coverClustersHll
      = some (Hll.new.add (textBytes (representative gs c))) := by
  rw [lookup_foldReceipts, if_neg nofun]
  rfl

theorem perm_last {G : List String} (hG : G ∈ gs) : ∃ rest, gs.Perm (rest ++ [G]) := by
  obtain ⟨before, after, rfl⟩ := List.append_of_mem hG
  refine ⟨before ++ after, ?_⟩
  rw [List.append_assoc]
  exact (@List.perm_append_comm _ [G] after).append_left before

theorem compatible_of_orderFree (h : OrderFree gs) : Compatible gs := by
  have hsketch : ∀ G ∈ gs, ∀ c ∈ G, ∀ r, G.min? = some r →
      Hll.new.add (textBytes (representative gs c)) = Hll.new.add (textBytes r) := by
    intro G hG c hc r hr
    obtain ⟨rest, hperm⟩ := perm_last hG
    have hsame := h (rest ++ [G]) hperm [soleReceipt c] [soleReceipt c] (List.Perm.refl _) ("", 0)
    have hmap := congrArg (Option.map ClassAccumulator.coverClustersHll) hsame
    rw [lookup_soleReceipt, lookup_soleReceipt, representative_last hc hr] at hmap
    exact Option.some.inj hmap
  intro G hG H hH c hcG hcH
  obtain ⟨r, hr⟩ := min?_of_mem hcG
  obtain ⟨s, hs⟩ := min?_of_mem hcH
  have heq := (hsketch G hG c hcG r hr).symm.trans (hsketch H hH c hcH s hs)
  unfold groupSlot
  rw [hr, hs, Option.map_some, Option.map_some, add_eq_iff.mp heq]

/-- **Recomputers reach one accumulator if and only if groups that share a cluster have smallest ids
of one slot.** -/
theorem merged_recomputers_agree_iff (gs : List (List String)) :
    (OrderFree gs ∧ ∀ c d, Joined gs c d → CountedAsOne gs c d) ↔ Compatible gs := by
  constructor
  · intro h
    exact compatible_of_orderFree h.1
  · intro h
    exact ⟨orderFree_of_compatible h, fun c d hjoined => countedAsOne_of_joined h hjoined⟩

/-! ## Two groups that share a cluster -/

section
open Sha3Eval Wire

theorem hash64_short {item : List UInt8} (h : item.length < sha3Rate) :
    hash64 item = ofLE ((digestN (absorbed 0 []) item).take 8).reverse := by
  have hdigest := @sha3_256_eq_digestN 0 [] item rfl h
  rw [List.nil_append] at hdigest
  rw [hash64, hdigest]

theorem slot_a_ne_slot_b : slot (textBytes "a") ≠ slot (textBytes "b") := by
  have ha : textBytes "a" = [97] := by decide +kernel
  have hb : textBytes "b" = [98] := by decide +kernel
  rw [ha, hb]
  intro h
  have hindex : slotIndex [97] = slotIndex [98] := congrArg Prod.fst h
  unfold slotIndex at hindex
  rw [hash64_short (by decide), hash64_short (by decide)] at hindex
  revert hindex
  decide +kernel

end

/-- **The order of two overlapping groups decides the accumulator.** -/
theorem overlapping_groups_diverge :
    ¬ ∀ gs : List (List String), OrderFree gs ∧ ∀ c d, Joined gs c d → CountedAsOne gs c d := by
  intro h
  have hcompatible := compatible_of_orderFree (h [["a", "x"], ["b", "x"]]).1
  have hslots := hcompatible ["a", "x"] List.mem_cons_self ["b", "x"]
    (List.mem_cons_of_mem _ List.mem_cons_self) "x" (by decide) (by decide)
  have ha : ["a", "x"].min? = some "a" := by decide +kernel
  have hb : ["b", "x"].min? = some "b" := by decide +kernel
  unfold groupSlot at hslots
  rw [ha, hb] at hslots
  exact slot_a_ne_slot_b (Option.some.inj hslots)

end GoatCoin.Protocol
