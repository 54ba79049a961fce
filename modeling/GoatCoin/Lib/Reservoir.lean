/-
# `GoatCoin.Lib.Reservoir` — counting distinct arrivals with a bounded memory

Keys arrive one by one.  A key in the reservoir is ignored; any other is counted
in `seen`, appended while there is room, and afterwards written over the slot
`pick seen` or not at all, in which case and in which case only it is not kept:

    k ∈ entries                nothing
    |entries| < N              append,   seen + 1
    |entries| = N              replace or skip,   seen + 1,   dropped + 1

The reservoir is the only memory, so `seen` counts a key again if it arrives
again after it was shed.  Hence `seen` is the number of distinct arrivals
exactly if no key arrives that was named before and is no longer held
(`seen_eq_card_iff`), for every `pick`.
-/
import Mathlib.Data.Finset.Card
import Mathlib.Data.List.Nodup

structure Reservoir (κ : Type) where
  entries : List κ
  seen : Nat
  dropped : Nat

namespace Reservoir

variable {κ : Type} [DecidableEq κ] (N : Nat) (pick : Nat → Nat)

def empty : Reservoir κ := ⟨[], 0, 0⟩

def insert (r : Reservoir κ) (k : κ) : Reservoir κ :=
  if k ∈ r.entries then r
  else if r.entries.length < N then ⟨r.entries ++ [k], r.seen + 1, r.dropped⟩
  else
    ⟨if pick r.seen < N then r.entries.set (pick r.seen) k else r.entries, r.seen + 1,
      r.dropped + 1⟩

def run (ks : List κ) : Reservoir κ := ks.foldl (insert N pick) empty

/-- **What an arrival can do.** -/
theorem insert_cases (r : Reservoir κ) (k : κ) :
    (k ∈ r.entries ∧ insert N pick r k = r) ∨
    (k ∉ r.entries ∧ r.entries.length < N
      ∧ insert N pick r k = ⟨r.entries ++ [k], r.seen + 1, r.dropped⟩) ∨
    (k ∉ r.entries ∧ N ≤ r.entries.length
      ∧ ∃ es, insert N pick r k = ⟨es, r.seen + 1, r.dropped + 1⟩
        ∧ (es = r.entries ∨ ∃ i, es = r.entries.set i k)) := by
  unfold insert
  split
  · rename_i hk
    exact .inl ⟨hk, rfl⟩
  · rename_i hk
    split
    · rename_i hlt
      exact .inr (.inl ⟨hk, hlt, rfl⟩)
    · rename_i hge
      refine .inr (.inr ⟨hk, Nat.le_of_not_lt hge, _, rfl, ?_⟩)
      split
      · exact .inr ⟨_, rfl⟩
      · exact .inl rfl

section
variable {N pick}

theorem seen_insert (r : Reservoir κ) (k : κ) :
    (insert N pick r k).seen = if k ∈ r.entries then r.seen else r.seen + 1 := by
  rcases insert_cases N pick r k with ⟨hk, h⟩ | ⟨hk, -, h⟩ | ⟨hk, -, es, h, -⟩
  · rw [h, if_pos hk]
  · rw [h, if_neg hk]
  · rw [h, if_neg hk]

theorem run_append (ks : List κ) (k : κ) :
    run N pick (ks ++ [k]) = insert N pick (run N pick ks) k := by
  rw [run, List.foldl_append]
  rfl

/-! ## The invariant -/

/-- What holds of the reservoir after the arrivals `ks`. -/
structure Inv (N : Nat) (ks : List κ) (r : Reservoir κ) : Prop where
  nodup : r.entries.Nodup
  named : ∀ k ∈ r.entries, k ∈ ks
  length_le : r.entries.length ≤ N
  seen_eq : r.seen = r.entries.length + r.dropped
  full : 0 < r.dropped → r.entries.length = N

theorem Inv.insert {ks : List κ} {r : Reservoir κ} (h : Inv N ks r) (k : κ) :
    Inv N (ks ++ [k]) (insert N pick r k) := by
  have hmono : ∀ x ∈ r.entries, x ∈ ks ++ [k] := fun x hx =>
    List.mem_append_left _ (h.named x hx)
  have hlast : k ∈ ks ++ [k] := List.mem_append_right _ (List.mem_singleton.mpr rfl)
  rcases insert_cases N pick r k with ⟨-, hr⟩ | ⟨hk, hlt, hr⟩ | ⟨hk, hge, es, hr, hes⟩
  · rw [hr]
    exact ⟨h.nodup, hmono, h.length_le, h.seen_eq, h.full⟩
  · rw [hr]
    refine ⟨?_, ?_, ?_, ?_, ?_⟩
    · exact List.nodup_append.mpr ⟨h.nodup, List.nodup_singleton k, fun a ha b hb hab =>
        hk (List.mem_singleton.mp hb ▸ hab ▸ ha)⟩
    · intro x hx
      rcases List.mem_append.mp hx with hx | hx
      · exact hmono x hx
      · exact List.mem_singleton.mp hx ▸ hlast
    · rw [List.length_append]
      exact hlt
    · have := h.seen_eq
      show r.seen + 1 = (r.entries ++ [k]).length + r.dropped
      rw [List.length_append, List.length_singleton]
      omega
    · intro hd
      exact absurd (h.full hd) (Nat.ne_of_lt hlt)
  · have hlen : r.entries.length = N := Nat.le_antisymm h.length_le hge
    have hes_len : es.length = N := by
      rcases hes with rfl | ⟨i, rfl⟩
      · exact hlen
      · rw [List.length_set]
        exact hlen
    rw [hr]
    refine ⟨?_, ?_, hes_len.le, ?_, fun _ => hes_len⟩
    · rcases hes with rfl | ⟨i, rfl⟩
      · exact h.nodup
      · exact h.nodup.set hk
    · intro x hx
      rcases hes with rfl | ⟨i, rfl⟩
      · exact hmono x hx
      · rcases List.mem_or_eq_of_mem_set hx with hx | rfl
        · exact hmono x hx
        · exact hlast
    · have := h.seen_eq
      show r.seen + 1 = es.length + (r.dropped + 1)
      omega

theorem inv_run (N : Nat) (pick : Nat → Nat) (ks : List κ) : Inv N ks (run N pick ks) := by
  induction ks using List.reverseRecOn with
  | nil => exact ⟨List.nodup_nil, nofun, Nat.zero_le N, rfl, nofun⟩
  | append_singleton ks k ih =>
      rw [run_append]
      exact ih.insert k

/-! ## Counting -/

/-- No key arrives that was named before and is no longer held. -/
def NoReentry (N : Nat) (pick : Nat → Nat) (ks : List κ) : Prop :=
  ∀ pre k post, ks = pre ++ k :: post → k ∈ pre → k ∈ (run N pick pre).entries

theorem noReentry_append (ks : List κ) (k : κ) :
    NoReentry N pick (ks ++ [k]) ↔
      NoReentry N pick ks ∧ (k ∈ ks → k ∈ (run N pick ks).entries) := by
  constructor
  · intro h
    refine ⟨?_, h ks k [] rfl⟩
    rintro pre x post rfl
    exact h pre x (post ++ [k]) (by simp)
  · rintro ⟨h, hk⟩ pre x post heq
    rcases List.eq_nil_or_concat post with rfl | ⟨post, y, rfl⟩
    · obtain ⟨rfl, hx⟩ := List.append_inj' heq rfl
      rw [List.singleton_inj.mp hx] at hk
      exact hk
    · have heq : ks ++ [k] = (pre ++ x :: post) ++ [y] := by simpa using heq
      exact h pre x post (List.append_inj' heq rfl).1

theorem card_append (ks : List κ) (k : κ) :
    (ks ++ [k]).toFinset.card = if k ∈ ks then ks.toFinset.card else ks.toFinset.card + 1 := by
  have hset : (ks ++ [k]).toFinset = Insert.insert k ks.toFinset := by
    ext x
    simp
  rw [hset]
  split
  · rename_i hk
    rw [Finset.insert_eq_of_mem (List.mem_toFinset.mpr hk)]
  · rename_i hk
    rw [Finset.card_insert_of_notMem (fun h => hk (List.mem_toFinset.mp h))]

/-- Every distinct key is counted at least once, and exactly once if none re-enters. -/
theorem card_le_seen_and (ks : List κ) :
    ks.toFinset.card ≤ (run N pick ks).seen ∧
    ((run N pick ks).seen = ks.toFinset.card ↔ NoReentry N pick ks) := by
  induction ks using List.reverseRecOn with
  | nil => exact ⟨Nat.le_refl 0, fun _ pre k post h => by simp at h, fun _ => rfl⟩
  | append_singleton ks k ih =>
      obtain ⟨hle, hiff⟩ := ih
      have hnamed : k ∈ (run N pick ks).entries → k ∈ ks := (inv_run N pick ks).named k
      rw [run_append, seen_insert, card_append, noReentry_append, ← hiff]
      by_cases hheld : k ∈ (run N pick ks).entries
      · rw [if_pos hheld, if_pos (hnamed hheld)]
        exact ⟨hle, fun h => ⟨h, fun _ => hheld⟩, fun h => h.1⟩
      · by_cases hk : k ∈ ks
        · rw [if_neg hheld, if_pos hk]
          refine ⟨Nat.le_succ_of_le hle, ?_, fun h => absurd (h.2 hk) hheld⟩
          intro h
          omega
        · rw [if_neg hheld, if_neg hk]
          refine ⟨Nat.succ_le_succ hle, ?_, ?_⟩
          · intro h
            exact ⟨Nat.succ.inj h, fun hk' => absurd hk' hk⟩
          · intro h
            rw [h.1]

theorem seen_eq_card_iff (ks : List κ) :
    (run N pick ks).seen = ks.toFinset.card ↔ NoReentry N pick ks :=
  (card_le_seen_and ks).2

/-! ## Below capacity nothing is shed -/

theorem dropped_eq_zero_or (N : Nat) (pick : Nat → Nat) (ks : List κ) :
    ((run N pick ks).dropped = 0 ∧ ∀ k ∈ ks, k ∈ (run N pick ks).entries) ∨
      (0 < (run N pick ks).dropped ∧ N < ks.toFinset.card) := by
  induction ks using List.reverseRecOn with
  | nil => exact .inl ⟨rfl, nofun⟩
  | append_singleton ks k ih =>
      rw [run_append]
      have hcard : ks.toFinset.card ≤ (ks ++ [k]).toFinset.card := by
        rw [card_append]
        split
        · exact Nat.le_refl _
        · exact Nat.le_succ _
      have hinv := inv_run N pick ks
      rcases insert_cases N pick (run N pick ks) k with ⟨hk, hr⟩ | ⟨hk, hlt, hr⟩
        | ⟨hk, hge, es, hr, -⟩
      · rw [hr]
        rcases ih with ⟨hzero, hall⟩ | ⟨hpos, hN⟩
        · refine .inl ⟨hzero, ?_⟩
          intro x hx
          rcases List.mem_append.mp hx with hx | hx
          · exact hall x hx
          · exact List.mem_singleton.mp hx ▸ hk
        · exact .inr ⟨hpos, Nat.lt_of_lt_of_le hN hcard⟩
      · rw [hr]
        rcases ih with ⟨hzero, hall⟩ | ⟨hpos, -⟩
        · refine .inl ⟨hzero, ?_⟩
          intro x hx
          rcases List.mem_append.mp hx with hx | hx
          · exact List.mem_append_left _ (hall x hx)
          · exact List.mem_append_right _ hx
        · exact absurd (hinv.full hpos) (Nat.ne_of_lt hlt)
      · rw [hr]
        rcases ih with ⟨hzero, hall⟩ | ⟨-, hN⟩
        · -- every key so far is held, so the one that does not fit is new
          have hnew : k ∉ ks := fun h => hk (hall k h)
          have hsub : (run N pick ks).entries.length ≤ ks.toFinset.card := by
            rw [← List.toFinset_card_of_nodup hinv.nodup]
            exact Finset.card_le_card fun x hx =>
              List.mem_toFinset.mpr (hinv.named x (List.mem_toFinset.mp hx))
          rw [card_append, if_neg hnew]
          exact .inr ⟨Nat.succ_pos _, by omega⟩
        · exact .inr ⟨Nat.succ_pos _, Nat.lt_of_lt_of_le hN hcard⟩

theorem entries_of_card_le (pick : Nat → Nat) {ks : List κ} (h : ks.toFinset.card ≤ N) :
    (run N pick ks).dropped = 0 ∧ ∀ k, k ∈ (run N pick ks).entries ↔ k ∈ ks := by
  rcases dropped_eq_zero_or N pick ks with ⟨hzero, hall⟩ | ⟨-, hN⟩
  · exact ⟨hzero, fun k => ⟨(inv_run N pick ks).named k, hall k⟩⟩
  · exact absurd h (Nat.not_le.mpr hN)

theorem min_length_entries {M : Nat} (hM : M ≤ N) (ks : List κ) :
    min (run N pick ks).entries.length M = min ks.toFinset.card M := by
  have hinv := inv_run N pick ks
  rcases dropped_eq_zero_or N pick ks with ⟨-, hall⟩ | ⟨hpos, hN⟩
  · have hset : (run N pick ks).entries.toFinset = ks.toFinset := by
      ext x
      rw [List.mem_toFinset, List.mem_toFinset]
      exact ⟨hinv.named x, hall x⟩
    rw [← hset, List.toFinset_card_of_nodup hinv.nodup]
  · have := hinv.full hpos
    omega

theorem not_noReentry_twice {ks : List κ} (hN : N < ks.toFinset.card) :
    ¬ NoReentry N pick (ks ++ ks) := by
  intro h
  have hsecond : ∀ pre : List κ, pre <+: ks →
      run N pick (ks ++ pre) = run N pick ks ∧ ∀ k ∈ pre, k ∈ (run N pick ks).entries := by
    intro pre
    induction pre using List.reverseRecOn with
    | nil => intro _; exact ⟨by rw [List.append_nil], nofun⟩
    | append_singleton pre k ih =>
        rintro ⟨post, rfl⟩
        have hsplit : pre ++ [k] ++ post = pre ++ k :: post := by simp
        rw [hsplit] at h ih ⊢
        obtain ⟨hrun, hheld⟩ := ih (List.prefix_append _ _)
        have hk := h (pre ++ k :: post ++ pre) k post (by simp) (by simp)
        rw [hrun] at hk
        have hstep :
          run N pick (pre ++ k :: post ++ (pre ++ [k])) = run N pick (pre ++ k :: post) := by
          rw [← List.append_assoc, run_append, hrun, insert, if_pos hk]
        refine ⟨hstep, ?_⟩
        intro x hx
        rcases List.mem_append.mp hx with hx | hx
        · exact hheld x hx
        · exact List.mem_singleton.mp hx ▸ hk
  have hall := (hsecond ks (List.prefix_refl ks)).2
  have hcard : ks.toFinset.card ≤ (run N pick ks).entries.toFinset.card :=
    Finset.card_le_card fun x hx => List.mem_toFinset.mpr (hall x (List.mem_toFinset.mp hx))
  have hlen := (inv_run N pick ks).length_le
  rw [List.toFinset_card_of_nodup (inv_run N pick ks).nodup] at hcard
  omega

end

end Reservoir
