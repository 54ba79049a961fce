/-
# `GoatCoin.Lib.Assoc` — keeping part of an association list

Maps are Mathlib's `AList`.  What it lacks is a sweep: `sweep f m` replaces every
value `v` by `f v`, and drops the key where `f v` is `none`.  All that is needed of
it is what it does to a lookup, and that it never adds a key.
-/
import Mathlib.Data.List.AList

namespace Assoc

variable {κ ν : Type}

/-- A map from `κ` to `ν`. -/
abbrev Map (κ ν : Type) := AList (fun _ : κ => ν)

/-- The number of keys. -/
def size (m : Map κ ν) : Nat := m.keys.length

def sweepEntry (f : ν → Option ν) (e : Sigma fun _ : κ => ν) : Option (Sigma fun _ : κ => ν) :=
  (f e.2).map (⟨e.1, ·⟩)

theorem sweep_cons_none {f : ν → Option ν} {k : κ} {v : ν} (h : f v = none)
    (l : List (Sigma fun _ : κ => ν)) :
    (⟨k, v⟩ :: l).filterMap (sweepEntry f) = l.filterMap (sweepEntry f) := by
  refine List.filterMap_cons_none ?_
  rw [sweepEntry, h]
  rfl

theorem sweep_cons_some {f : ν → Option ν} {k : κ} {v w : ν} (h : f v = some w)
    (l : List (Sigma fun _ : κ => ν)) :
    (⟨k, v⟩ :: l).filterMap (sweepEntry f) = ⟨k, w⟩ :: l.filterMap (sweepEntry f) := by
  refine List.filterMap_cons_some ?_
  rw [sweepEntry, h]
  rfl

theorem keys_sweep_sublist (f : ν → Option ν) (l : List (Sigma fun _ : κ => ν)) :
    (l.filterMap (sweepEntry f)).keys.Sublist l.keys := by
  induction l with
  | nil => exact List.Sublist.refl _
  | cons e l ih =>
      obtain ⟨k, v⟩ := e
      cases hf : f v with
      | none =>
          rw [sweep_cons_none hf]
          exact ih.cons k
      | some w =>
          rw [sweep_cons_some hf]
          exact ih.cons_cons k

def sweep (f : ν → Option ν) (m : Map κ ν) : Map κ ν :=
  ⟨m.entries.filterMap (sweepEntry f), m.keys_nodup.sublist (keys_sweep_sublist f m.entries)⟩

theorem size_sweep_le (f : ν → Option ν) (m : Map κ ν) : size (sweep f m) ≤ size m :=
  (keys_sweep_sublist f m.entries).length_le

variable [DecidableEq κ]

theorem dlookup_sweep (f : ν → Option ν) (k : κ) {l : List (Sigma fun _ : κ => ν)}
    (hl : l.keys.Nodup) : (l.filterMap (sweepEntry f)).dlookup k = (l.dlookup k).bind f := by
  induction l with
  | nil => rfl
  | cons e l ih =>
      obtain ⟨a, v⟩ := e
      obtain ⟨ha, hl⟩ := List.nodup_cons.mp hl
      by_cases hk : k = a
      · subst hk
        rw [List.dlookup_cons_eq, Option.bind_some]
        cases hf : f v with
        | none =>
            rw [sweep_cons_none hf, List.dlookup_eq_none]
            exact fun h => ha ((keys_sweep_sublist f l).subset h)
        | some w => rw [sweep_cons_some hf, List.dlookup_cons_eq]
      · rw [List.dlookup_cons_ne _ _ hk]
        cases hf : f v with
        | none =>
            rw [sweep_cons_none hf]
            exact ih hl
        | some w =>
            rw [sweep_cons_some hf, List.dlookup_cons_ne _ _ hk]
            exact ih hl

theorem lookup_sweep (f : ν → Option ν) (m : Map κ ν) (k : κ) :
    (sweep f m).lookup k = (m.lookup k).bind f :=
  dlookup_sweep f k m.keys_nodup

theorem size_insert (m : Map κ ν) (k : κ) (v : ν) :
    size (m.insert k v) = if k ∈ m then size m else size m + 1 := by
  rw [size, AList.keys_insert, List.length_cons]
  split
  · rename_i hmem
    have hpos := List.length_pos_of_mem (AList.mem_keys.mp hmem)
    rw [List.length_erase_of_mem (AList.mem_keys.mp hmem), size]
    omega
  · rename_i hmem
    rw [List.erase_of_not_mem (mt AList.mem_keys.mpr hmem), size]

/-! ## Values updated in place -/

/-- Every value is replaced by what its key and it give. -/
def adjust (f : κ → ν → ν) (m : Map κ ν) : Map κ ν :=
  ⟨m.entries.map (fun e => ⟨e.1, f e.1 e.2⟩), by
    have hkeys : (m.entries.map fun e => (⟨e.1, f e.1 e.2⟩ : Sigma fun _ : κ => ν)).keys
        = m.entries.keys := by
      rw [List.keys, List.map_map]
      rfl
    rw [List.NodupKeys, hkeys]
    exact m.nodupKeys⟩

omit [DecidableEq κ] in
theorem keys_adjust (f : κ → ν → ν) (m : Map κ ν) : (adjust f m).keys = m.keys := by
  show (m.entries.map _).keys = m.entries.keys
  rw [List.keys, List.map_map]
  rfl

theorem dlookup_adjust (f : κ → ν → ν) (k : κ) (l : List (Sigma fun _ : κ => ν)) :
    (l.map fun e => (⟨e.1, f e.1 e.2⟩ : Sigma fun _ : κ => ν)).dlookup k
      = (l.dlookup k).map (f k) := by
  induction l with
  | nil => rfl
  | cons e l ih =>
      obtain ⟨a, v⟩ := e
      rcases eq_or_ne k a with rfl | hk
      · rw [List.map_cons, List.dlookup_cons_eq, List.dlookup_cons_eq]
        rfl
      · rw [List.map_cons, List.dlookup_cons_ne _ _ hk, List.dlookup_cons_ne _ _ hk]
        exact ih

theorem lookup_adjust (f : κ → ν → ν) (m : Map κ ν) (k : κ) :
    (adjust f m).lookup k = (m.lookup k).map (f k) :=
  dlookup_adjust f k m.entries

/-- The value of a key that is there is written over. -/
def overwrite (m : Map κ ν) (k : κ) (v : ν) : Map κ ν :=
  adjust (fun a w => if a = k then v else w) m

theorem overwrite_self {m : Map κ ν} {k : κ} {v : ν} (h : m.lookup k = some v) :
    overwrite m k v = m := by
  refine AList.ext ((List.map_congr_left fun e he => ?_).trans (List.map_id _))
  obtain ⟨a, w⟩ := e
  show (⟨a, if a = k then v else w⟩ : Sigma fun _ : κ => ν) = ⟨a, w⟩
  split
  · rename_i ha
    subst ha
    have hw : m.lookup a = some w := AList.mem_lookup_iff.mpr he
    rw [h] at hw
    cases hw
    rfl
  · rfl

/-! ## Sizes -/

theorem size_insert_of_mem {m : Map κ ν} {k : κ} {v : ν} (h : k ∈ m) :
    size (m.insert k v) = size m := by
  have hk : k ∈ m.keys := h
  rw [size, AList.keys_insert, List.length_cons, List.length_erase_of_mem hk, size]
  exact Nat.sub_add_cancel (List.length_pos_of_mem hk)

theorem size_insert_of_notMem {m : Map κ ν} {k : κ} {v : ν} (h : k ∉ m) :
    size (m.insert k v) = size m + 1 := by
  have hk : k ∉ m.keys := h
  rw [size, AList.keys_insert, List.length_cons, List.erase_of_not_mem hk]
  rfl

theorem size_insert_le {m : Map κ ν} {k : κ} {v : ν} {N : Nat} (hm : size m ≤ N)
    (hroom : k ∈ m ∨ size m < N) : size (m.insert k v) ≤ N := by
  by_cases hk : k ∈ m
  · rw [size_insert_of_mem hk]
    exact hm
  · rw [size_insert_of_notMem hk]
    exact hroom.resolve_left hk

theorem size_erase_le (m : Map κ ν) (k : κ) : size (m.erase k) ≤ size m := by
  rw [size, AList.keys_erase]
  exact List.length_erase_le

theorem size_eq_zero_iff {m : Map κ ν} : size m = 0 ↔ ∀ k, m.lookup k = none := by
  rw [size, List.length_eq_zero_iff, List.eq_nil_iff_forall_not_mem]
  exact forall_congr' fun k => AList.lookup_eq_none.symm

end Assoc
