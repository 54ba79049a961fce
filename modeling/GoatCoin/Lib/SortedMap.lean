/-
# `GoatCoin.Lib.SortedMap` — maps that are listed in the order of their keys

A map is the list of its entries, with its keys in strictly ascending order.  So two maps with the
same lookups are the same list, in whatever order their entries were put in:

    get?_insert   what one insertion does to a lookup
    ext           equal lookups, equal maps
    gather        a loop that updates one key at a time is, at each key, the loop over its own items
-/
import Mathlib.Data.List.Basic
import Mathlib.Data.List.Nodup
import Mathlib.Order.Lattice

/-- A map from `κ` to `ν`, listed by its keys. -/
structure SortedMap (κ ν : Type) [LinearOrder κ] where
  entries : List (κ × ν)
  sorted : (entries.map Prod.fst).Pairwise (· < ·)

namespace SortedMap

variable {κ ν : Type} [LinearOrder κ]

/-! ## Entries in order -/

/-- An entry put at the place of its key, over the one that was there. -/
def put (k : κ) (v : ν) : List (κ × ν) → List (κ × ν)
  | [] => [(k, v)]
  | e :: l =>
      if k < e.1 then (k, v) :: e :: l
      else if k = e.1 then (k, v) :: l
      else e :: put k v l

theorem mem_keys_put {k a : κ} {v : ν} {l : List (κ × ν)} (h : a ∈ (put k v l).map Prod.fst) :
    a = k ∨ a ∈ l.map Prod.fst := by
  induction l with
  | nil => exact .inl (List.mem_singleton.mp h)
  | cons e l ih =>
      rw [put] at h
      split_ifs at h with hlt heq
      · exact List.mem_cons.mp h
      · rcases List.mem_cons.mp h with rfl | h
        · exact .inl rfl
        · exact .inr (List.mem_cons_of_mem _ h)
      · rcases List.mem_cons.mp h with rfl | h
        · exact .inr List.mem_cons_self
        · exact (ih h).imp_right (List.mem_cons_of_mem _)

theorem sorted_put (k : κ) (v : ν) {l : List (κ × ν)} (h : (l.map Prod.fst).Pairwise (· < ·)) :
    ((put k v l).map Prod.fst).Pairwise (· < ·) := by
  induction l with
  | nil => exact List.pairwise_singleton _ _
  | cons e l ih =>
      obtain ⟨hhead, htail⟩ := List.pairwise_cons.mp h
      rw [put]
      split_ifs with hlt heq
      · refine List.pairwise_cons.mpr ⟨fun a ha => ?_, h⟩
        rcases List.mem_cons.mp ha with rfl | ha
        · exact hlt
        · exact lt_trans hlt (hhead a ha)
      · subst heq
        exact h
      · refine List.pairwise_cons.mpr ⟨fun a ha => ?_, ih htail⟩
        rcases mem_keys_put ha with rfl | ha
        · exact lt_of_le_of_ne (not_lt.mp hlt) (Ne.symm heq)
        · exact hhead a ha

theorem lookup_cons (e : κ × ν) (l : List (κ × ν)) (a : κ) :
    (e :: l).lookup a = if a = e.1 then some e.2 else l.lookup a := by
  rw [List.lookup_cons]
  split_ifs with ha
  · rw [beq_iff_eq.mpr ha]
  · rw [beq_false_of_ne ha]

theorem lookup_put (k a : κ) (v : ν) (l : List (κ × ν)) :
    (put k v l).lookup a = if a = k then some v else l.lookup a := by
  induction l with
  | nil => rw [put, lookup_cons]
  | cons e l ih =>
      rw [put]
      by_cases hlt : k < e.1
      · rw [if_pos hlt, lookup_cons]
      · rw [if_neg hlt]
        by_cases heq : k = e.1
        · rw [if_pos heq, lookup_cons, lookup_cons, ← heq]
          split_ifs <;> rfl
        · rw [if_neg heq, lookup_cons, ih, lookup_cons]
          split_ifs with hae hak
          · exact absurd (hak.symm.trans hae) heq
          · rfl
          · rfl
          · rfl

/-! ## Maps -/

def empty : SortedMap κ ν := ⟨[], List.Pairwise.nil⟩

def get? (m : SortedMap κ ν) (k : κ) : Option ν := m.entries.lookup k

def insert (m : SortedMap κ ν) (k : κ) (v : ν) : SortedMap κ ν :=
  ⟨put k v m.entries, sorted_put k v m.sorted⟩

def values (m : SortedMap κ ν) : List ν := m.entries.map Prod.snd

/-- Entries put in one after another. -/
def ofList (l : List (κ × ν)) : SortedMap κ ν := l.foldl (fun m e => m.insert e.1 e.2) empty

@[simp] theorem get?_empty (k : κ) : (empty : SortedMap κ ν).get? k = none := rfl

theorem get?_insert (m : SortedMap κ ν) (k a : κ) (v : ν) :
    (m.insert k v).get? a = if a = k then some v else m.get? a :=
  lookup_put k a v m.entries

@[simp] theorem get?_insert_self (m : SortedMap κ ν) (k : κ) (v : ν) :
    (m.insert k v).get? k = some v := by
  rw [get?_insert, if_pos rfl]

theorem get?_insert_of_ne (m : SortedMap κ ν) {k a : κ} (h : a ≠ k) (v : ν) :
    (m.insert k v).get? a = m.get? a := by
  rw [get?_insert, if_neg h]

theorem lookup_eq_some_iff {l : List (κ × ν)} (h : (l.map Prod.fst).Pairwise (· < ·)) (k : κ)
    (v : ν) : l.lookup k = some v ↔ (k, v) ∈ l := by
  induction l with
  | nil => simp
  | cons e l ih =>
      obtain ⟨hhead, htail⟩ := List.pairwise_cons.mp h
      by_cases hk : k = e.1
      · subst hk
        have hnot : (e.1, v) ∉ l := by
          intro hmem
          have hkey : e.1 ∈ l.map Prod.fst := List.mem_map.mpr ⟨_, hmem, rfl⟩
          exact absurd (hhead e.1 hkey) (lt_irrefl _)
        simp only [lookup_cons, if_pos, Option.some.injEq, List.mem_cons, hnot, or_false]
        exact ⟨fun hv => by rw [← hv], fun he => by rw [← he]⟩
      · have hne : (k, v) ≠ e := fun he => hk (by rw [← he])
        simp only [lookup_cons, if_neg hk, List.mem_cons, hne, false_or]
        exact ih htail

theorem mem_entries_iff (m : SortedMap κ ν) (k : κ) (v : ν) :
    (k, v) ∈ m.entries ↔ m.get? k = some v :=
  (lookup_eq_some_iff m.sorted k v).symm

theorem mem_values_iff (m : SortedMap κ ν) (v : ν) : v ∈ m.values ↔ ∃ k, m.get? k = some v := by
  simp only [values, List.mem_map, Prod.exists, exists_eq_right, mem_entries_iff]

theorem eq_of_lookup {l : List (κ × ν)} (hl : (l.map Prod.fst).Pairwise (· < ·)) :
    ∀ {l' : List (κ × ν)}, (l'.map Prod.fst).Pairwise (· < ·) →
      (∀ k, l.lookup k = l'.lookup k) → l = l' := by
  induction l with
  | nil =>
      intro l' hl' h
      cases l' with
      | nil => rfl
      | cons e l' =>
          have hnone := h e.1
          simp [lookup_cons] at hnone
  | cons e l ih =>
      intro l' hl' h
      cases l' with
      | nil =>
          have hnone := h e.1
          simp [lookup_cons] at hnone
      | cons e' l' =>
          obtain ⟨hhead, htail⟩ := List.pairwise_cons.mp hl
          obtain ⟨hhead', htail'⟩ := List.pairwise_cons.mp hl'
          have hmem : ∀ p, p ∈ e :: l ↔ p ∈ e' :: l' := by
            intro p
            rw [← lookup_eq_some_iff hl, ← lookup_eq_some_iff hl', h]
          -- the least key heads both lists
          have hfirst : e = e' := by
            rcases List.mem_cons.mp ((hmem e).mp List.mem_cons_self) with heq | hin
            · exact heq
            · rcases List.mem_cons.mp ((hmem e').mpr List.mem_cons_self) with heq | hin'
              · exact heq.symm
              · have hlt := hhead e'.1 (List.mem_map_of_mem hin')
                have hgt := hhead' e.1 (List.mem_map_of_mem hin)
                exact absurd (hlt.trans hgt) (lt_irrefl _)
          subst hfirst
          refine congrArg (e :: ·) (ih htail htail' fun k => ?_)
          by_cases hk : k = e.1
          · subst hk
            have hnone : ∀ {l : List (κ × ν)}, (∀ a ∈ l.map Prod.fst, e.1 < a) →
                l.lookup e.1 = none := by
              intro l hlt
              refine List.lookup_eq_none_iff.mpr fun p hp => ?_
              exact bne_iff_ne.mpr (hlt p.1 (List.mem_map_of_mem hp)).ne
            rw [hnone hhead, hnone hhead']
          · have hlook := h k
            simp only [lookup_cons, if_neg hk] at hlook
            exact hlook

theorem ext {m n : SortedMap κ ν} (h : ∀ k, m.get? k = n.get? k) : m = n := by
  obtain ⟨l, hl⟩ := m
  obtain ⟨l', hl'⟩ := n
  have heq := eq_of_lookup hl hl' h
  subst heq
  rfl

/-- Every value changed, under its key. -/
def mapValues (g : κ → ν → ν) (m : SortedMap κ ν) : SortedMap κ ν :=
  ⟨m.entries.map fun e => (e.1, g e.1 e.2), by
    rw [List.map_map]
    exact m.sorted⟩

theorem get?_mapValues (g : κ → ν → ν) (m : SortedMap κ ν) (k : κ) :
    (m.mapValues g).get? k = (m.get? k).map (g k) := by
  show (m.entries.map fun e => (e.1, g e.1 e.2)).lookup k = (m.entries.lookup k).map (g k)
  induction m.entries with
  | nil => rfl
  | cons e l ih =>
      rw [List.map_cons, lookup_cons, lookup_cons, ih]
      by_cases hk : k = e.1
      · rw [if_pos hk, if_pos hk, hk]
        rfl
      · rw [if_neg hk, if_neg hk]

theorem mapValues_insert (g : κ → ν → ν) (m : SortedMap κ ν) (k : κ) (v : ν) :
    (m.insert k v).mapValues g = (m.mapValues g).insert k (g k v) := by
  refine ext fun a => ?_
  rw [get?_mapValues, get?_insert, get?_insert, get?_mapValues]
  by_cases ha : a = k
  · rw [if_pos ha, if_pos ha, ha]
    rfl
  · rw [if_neg ha, if_neg ha]

/-! ## Loops over a map -/

theorem get?_foldl_insert (l : List (κ × ν)) (m : SortedMap κ ν) (k : κ) :
    (l.foldl (fun m e => m.insert e.1 e.2) m).get? k
      = ((l.filter (·.1 = k)).getLast?.map Prod.snd).or (m.get? k) := by
  induction l generalizing m with
  | nil => rfl
  | cons e l ih =>
      rw [List.foldl_cons, ih, get?_insert]
      by_cases hk : e.1 = k
      · rw [List.filter_cons_of_pos (by simpa using hk), if_pos hk.symm, List.getLast?_cons]
        cases (l.filter (·.1 = k)).getLast? <;> rfl
      · rw [List.filter_cons_of_neg (by simpa using hk), if_neg (Ne.symm hk)]

theorem get?_ofList (l : List (κ × ν)) (k : κ) :
    (ofList l).get? k = (l.filter (·.1 = k)).getLast?.map Prod.snd := by
  rw [ofList, get?_foldl_insert, get?_empty, Option.or_none]

theorem mem_of_mem_ofList {l : List (κ × ν)} {e : κ × ν} (h : e ∈ (ofList l).entries) : e ∈ l := by
  have hget := (mem_entries_iff _ e.1 e.2).mp h
  rw [get?_ofList, Option.map_eq_some_iff] at hget
  obtain ⟨f, hf, hvalue⟩ := hget
  obtain ⟨hmem, hkey⟩ := List.mem_filter.mp (List.mem_of_getLast? hf)
  have heq : f = e := Prod.ext (by simpa using hkey) hvalue
  exact heq ▸ hmem

theorem get?_ofList_iff {l : List (κ × ν)} (hl : (l.map Prod.fst).Nodup) {k : κ} {v : ν} :
    (ofList l).get? k = some v ↔ (k, v) ∈ l := by
  constructor
  · intro h
    exact mem_of_mem_ofList ((mem_entries_iff _ k v).mpr h)
  · intro h
    have hmem : (k, v) ∈ l.filter (·.1 = k) := List.mem_filter.mpr ⟨h, by simp⟩
    obtain ⟨e, he⟩ : ∃ e, (l.filter (·.1 = k)).getLast? = some e :=
      ⟨_, List.getLast?_eq_some_getLast (List.ne_nil_of_mem hmem)⟩
    obtain ⟨hel, hek⟩ := List.mem_filter.mp (List.mem_of_getLast? he)
    have heq : e = (k, v) := List.inj_on_of_nodup_map hl hel h (by simpa using hek)
    rw [get?_ofList, he, heq]
    rfl

theorem get?_ofList_keyed {key : ν → κ} {l : List ν} (hl : (l.map key).Nodup) {k : κ} {v : ν} :
    (ofList (l.map fun v => (key v, v))).get? k = some v ↔ v ∈ l ∧ key v = k := by
  rw [get?_ofList_iff (by rw [List.map_map]; exact hl), List.mem_map]
  constructor
  · rintro ⟨w, hw, heq⟩
    cases heq
    exact ⟨hw, rfl⟩
  · rintro ⟨hv, rfl⟩
    exact ⟨v, hv, rfl⟩

theorem ofList_perm {l l' : List (κ × ν)} (h : l.Perm l') (hl : (l.map Prod.fst).Nodup) :
    ofList l = ofList l' := by
  refine ext fun k => ?_
  have hkeys : ((l.filter (·.1 = k)).map Prod.fst).Nodup :=
    hl.sublist (List.filter_sublist.map Prod.fst)
  have hk : ∀ e ∈ l.filter (·.1 = k), e.1 = k := fun e he => by
    simpa using (List.mem_filter.mp he).2
  have hfilter : l.filter (·.1 = k) = l'.filter (·.1 = k) := by
    have hperm := h.filter (·.1 = k)
    match hlist : l.filter (·.1 = k) with
    | [] =>
        rw [hlist] at hperm
        rw [hlist, List.nil_perm.mp hperm]
    | [e] =>
        rw [hlist] at hperm
        rw [hlist, List.singleton_perm.mp hperm]
    | e :: e' :: rest =>
        rw [hlist] at hkeys hk
        have hsame : e.1 = e'.1 := by
          rw [hk e List.mem_cons_self, hk e' (List.mem_cons_of_mem e List.mem_cons_self)]
        exact absurd (List.mem_cons.mpr (.inl hsame)) (List.nodup_cons.mp hkeys).1
  rw [get?_ofList, get?_ofList, hfilter]

theorem entries_ofList {l l' : List (κ × ν)} (h : l.Perm l')
    (hsorted : (l'.map Prod.fst).Pairwise (· < ·)) : (ofList l).entries = l' := by
  have hnodup : (l'.map Prod.fst).Nodup := hsorted.imp ne_of_lt
  have hnodup' : (l.map Prod.fst).Nodup := (h.map Prod.fst).nodup_iff.mpr hnodup
  refine eq_of_lookup (ofList l).sorted hsorted fun k => ?_
  have hget : (ofList l).get? k = l'.lookup k := by
    rw [ofList_perm h hnodup', get?_ofList]
    clear hnodup' hnodup h
    induction l' with
    | nil => rfl
    | cons e l' ih =>
        obtain ⟨hhead, htail⟩ := List.pairwise_cons.mp hsorted
        rw [lookup_cons]
        by_cases hk : e.1 = k
        · have hrest : l'.filter (·.1 = k) = [] := by
            refine List.filter_eq_nil_iff.mpr fun f hf => ?_
            have hlt := hhead f.1 (List.mem_map_of_mem hf)
            simpa using (hk ▸ hlt).ne'
          rw [List.filter_cons_of_pos (by simpa using hk), hrest, if_pos hk.symm]
          rfl
        · rw [List.filter_cons_of_neg (by simpa using hk), if_neg (Ne.symm hk)]
          exact ih htail
  exact hget

section
variable {α ε : Type} (key : α → Except ε κ) (f : κ → Option ν → α → Except ε ν)

/-- One turn of a loop that updates the entry of its item. -/
def turn (m : SortedMap κ ν) (x : α) : Except ε (SortedMap κ ν) := do
  let k ← key x
  let v ← f k (m.get? k) x
  pure (m.insert k v)

/-- The items of a key. -/
def itemsOf (k : κ) (l : List α) : List α := l.filter fun x => (key x).toOption = some k

/-- The loop over the items of one key. -/
def gathered (k : κ) (l : List α) (o : Option ν) : Except ε (Option ν) :=
  (itemsOf key k l).foldlM (fun o x => some <$> f k o x) o

variable {key f}

theorem itemsOf_cons_self {k : κ} {x : α} (h : key x = .ok k) (l : List α) :
    itemsOf key k (x :: l) = x :: itemsOf key k l :=
  List.filter_cons_of_pos (by simp [h, Except.toOption])

theorem itemsOf_cons_of_ne {k k' : κ} {x : α} (h : key x = .ok k') (hne : k ≠ k') (l : List α) :
    itemsOf key k (x :: l) = itemsOf key k l :=
  List.filter_cons_of_neg (by simp [h, Except.toOption, hne.symm])

theorem mem_itemsOf {k : κ} {l : List α} {x : α} : x ∈ itemsOf key k l ↔ x ∈ l ∧ key x = .ok k := by
  rw [itemsOf, List.mem_filter, decide_eq_true_eq]
  refine and_congr_right fun _ => ?_
  cases key x with
  | error e => exact ⟨nofun, nofun⟩
  | ok k' => exact ⟨fun h => congrArg _ (Option.some.inj h), fun h => congrArg _ (Except.ok.inj h)⟩

theorem foldlM_some_cons {g : Option ν → α → Except ε ν} (x : α) (l : List α) (o o' : Option ν) :
    (x :: l).foldlM (fun o x => some <$> g o x) o = .ok o' ↔
      ∃ v, g o x = .ok v ∧ l.foldlM (fun o x => some <$> g o x) (some v) = .ok o' := by
  rw [List.foldlM_cons]
  cases hg : g o x with
  | error e => exact ⟨nofun, fun ⟨_, hv, _⟩ => nomatch hv⟩
  | ok v =>
      constructor
      · intro hrest
        exact ⟨v, rfl, hrest⟩
      · rintro ⟨_, hv, hrest⟩
        cases hv
        exact hrest

theorem gathered_cons {k : κ} {x : α} (h : key x = .ok k) (l : List α) (o o' : Option ν) :
    gathered key f k (x :: l) o = .ok o'
    ↔ ∃ v, f k o x = .ok v ∧ gathered key f k l (some v) = .ok o' := by
  rw [gathered, itemsOf_cons_self h, foldlM_some_cons]
  rfl

/-- **At each key the loop is the loop over the items of the key.** -/
theorem gather {l : List α} : ∀ {m m' : SortedMap κ ν}, l.foldlM (turn key f) m = .ok m' ↔
    (∀ x ∈ l, ∃ k, key x = .ok k) ∧ ∀ k, gathered key f k l (m.get? k) = .ok (m'.get? k) := by
  induction l with
  | nil =>
      intro m m'
      refine ⟨fun h => ?_, fun h => congrArg Except.ok (ext fun k => Except.ok.inj (h.2 k))⟩
      cases h
      exact ⟨fun x hx => absurd hx List.not_mem_nil, fun k => rfl⟩
  | cons x l ih =>
      intro m m'
      rw [List.foldlM_cons, List.forall_mem_cons]
      cases hkey : key x with
      | error e =>
          rw [turn, hkey]
          exact ⟨nofun, fun h => by obtain ⟨k, hk⟩ := h.1.1; cases hk⟩
      | ok a =>
          have hothers : ∀ v k, k ≠ a → (gathered key f k (x :: l) (m.get? k) = .ok (m'.get? k)
              ↔ gathered key f k l ((m.insert a v).get? k) = .ok (m'.get? k)) := by
            intro v k hk
            rw [get?_insert_of_ne _ hk, gathered, gathered, itemsOf_cons_of_ne hkey hk]
          cases hf : f a (m.get? a) x with
          | error e =>
              rw [turn, hkey]
              simp only [Except.bind, bind, hf]
              refine ⟨nofun, fun h => ?_⟩
              obtain ⟨v, hv, -⟩ := (gathered_cons hkey l _ _).mp (h.2 a)
              rw [hf] at hv
              cases hv
          | ok v =>
              rw [turn, hkey]
              simp only [Except.bind, bind, hf, pure, Except.pure]
              rw [ih]
              constructor
              · rintro ⟨hkeys, hall⟩
                refine ⟨⟨⟨a, rfl⟩, hkeys⟩, fun k => ?_⟩
                rcases eq_or_ne k a with rfl | hk
                · rw [gathered_cons hkey]
                  refine ⟨v, hf, ?_⟩
                  rw [← get?_insert_self m k v]
                  exact hall k
                · exact (hothers v k hk).mpr (hall k)
              · rintro ⟨⟨-, hkeys⟩, hall⟩
                refine ⟨hkeys, fun k => ?_⟩
                rcases eq_or_ne k a with rfl | hk
                · obtain ⟨v', hv', hrest⟩ := (gathered_cons hkey l _ _).mp (hall k)
                  rw [hf] at hv'
                  cases hv'
                  rw [get?_insert_self]
                  exact hrest
                · exact (hothers v k hk).mp (hall k)

theorem exists_gather {l : List α} (hkeys : ∀ x ∈ l, ∃ k, key x = .ok k) : ∀ {m : SortedMap κ ν},
    (∀ k, ∃ o, gathered key f k l (m.get? k) = .ok o) → ∃ m', l.foldlM (turn key f) m = .ok m' := by
  induction l with
  | nil => exact fun {m} _ => ⟨m, rfl⟩
  | cons x l ih =>
      intro m h
      obtain ⟨a, ha⟩ := hkeys x List.mem_cons_self
      obtain ⟨o, ho⟩ := h a
      obtain ⟨v, hv, hrest⟩ := (gathered_cons ha l _ _).mp ho
      have hothers : ∀ k, ∃ o, gathered key f k l ((m.insert a v).get? k) = .ok o := by
        intro k
        rcases eq_or_ne k a with rfl | hk
        · rw [get?_insert_self]
          exact ⟨o, hrest⟩
        · obtain ⟨o', ho'⟩ := h k
          rw [gathered, itemsOf_cons_of_ne ha hk] at ho'
          rw [get?_insert_of_ne _ hk]
          exact ⟨o', ho'⟩
      obtain ⟨m', hm'⟩ := ih (fun y hy => hkeys y (List.mem_cons_of_mem x hy)) hothers
      refine ⟨m', ?_⟩
      rw [List.foldlM_cons, turn, ha]
      simp only [Except.bind, bind, hv, pure, Except.pure]
      exact hm'

/-- **A loop over changed items makes the changed map**, if each turn does. -/
theorem foldlM_turn_map {g : κ → ν → ν} {c : α → α} (hkey : ∀ x, key (c x) = key x)
    (hf : ∀ {x k o v}, key x = .ok k → f k o x = .ok v → f k (o.map (g k)) (c x) = .ok (g k v))
    {l : List α} : ∀ {m m' : SortedMap κ ν}, l.foldlM (turn key f) m = .ok m' →
      (l.map c).foldlM (turn key f) (m.mapValues g) = .ok (m'.mapValues g) := by
  induction l with
  | nil =>
      intro m m' h
      cases h
      rfl
  | cons x l ih =>
      intro m m' h
      rw [List.foldlM_cons, turn] at h
      rw [List.map_cons, List.foldlM_cons, turn, hkey]
      cases ha : key x with
      | error e =>
          rw [ha] at h
          cases h
      | ok a =>
          rw [ha] at h
          simp only [Except.bind, bind, pure, Except.pure] at h ⊢
          cases hv : f a (m.get? a) x with
          | error e =>
              rw [hv] at h
              cases h
          | ok v =>
              rw [hv] at h
              rw [get?_mapValues, hf ha hv]
              have hrest := ih h
              rw [mapValues_insert] at hrest
              exact hrest

theorem itemsOf_perm (k : κ) {l l' : List α} (h : l.Perm l') :
    (itemsOf key k l).Perm (itemsOf key k l') :=
  h.filter _

/-- A loop whose turn does not tell its items apart does not see their order. -/
theorem foldlM_perm {σ : Type} {g : σ → α → Except ε σ} {l l' : List α} (h : l.Perm l') :
    (∀ x ∈ l, ∀ y ∈ l, ∀ o, g o x = g o y) → ∀ o, l.foldlM g o = l'.foldlM g o := by
  induction h with
  | nil => exact fun _ _ => rfl
  | cons x _ ih =>
      intro hg o
      rw [List.foldlM_cons, List.foldlM_cons]
      refine bind_congr fun o' => ih (fun a ha b hb => ?_) o'
      exact hg a (List.mem_cons_of_mem x ha) b (List.mem_cons_of_mem x hb)
  | swap x y l =>
      intro hg o
      have hsame : ∀ o', g o' x = g o' y :=
        hg x (List.mem_cons_of_mem y List.mem_cons_self) y List.mem_cons_self
      simp only [List.foldlM_cons, hsame]
  | trans h₁ _ ih₁ ih₂ =>
      intro hg o
      rw [ih₁ hg o]
      exact ih₂ (fun a ha b hb => hg a (h₁.mem_iff.mpr ha) b (h₁.mem_iff.mpr hb)) o

/-- **A loop that agrees at every key with another order of its items is that other loop.** -/
theorem gather_perm {l l' : List α} (h : l.Perm l')
    (hk : ∀ k o o', gathered key f k l o = .ok o' ↔ gathered key f k l' o = .ok o')
    {m m' : SortedMap κ ν} : l.foldlM (turn key f) m = .ok m'
    ↔ l'.foldlM (turn key f) m = .ok m' := by
  rw [gather, gather]
  refine and_congr ⟨fun hl x hx => hl x (h.mem_iff.mpr hx),
    fun hl x hx => hl x (h.mem_iff.mp hx)⟩ ?_
  exact forall_congr' fun k => hk k _ _

theorem gather_perm_of_alike {l l' : List α} (h : l.Perm l')
    (hf : ∀ x ∈ l, ∀ y ∈ l, key x = key y → ∀ k o, f k o x = f k o y)
    {m m' : SortedMap κ ν} : l.foldlM (turn key f) m = .ok m'
    ↔ l'.foldlM (turn key f) m = .ok m' := by
  refine gather_perm h fun k o o' => ?_
  have hloop : gathered key f k l o = gathered key f k l' o := by
    refine foldlM_perm (itemsOf_perm k h) (fun x hx y hy o => ?_) o
    obtain ⟨hxl, hxk⟩ := mem_itemsOf.mp hx
    obtain ⟨hyl, hyk⟩ := mem_itemsOf.mp hy
    rw [hf x hxl y hyl (hxk.trans hyk.symm)]
  rw [hloop]

end

end SortedMap
