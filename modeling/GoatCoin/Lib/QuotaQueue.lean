/-
# `GoatCoin.Lib.QuotaQueue` — a bounded queue shared by owners with a quota

Entries `(key, owner)` wait in one queue of at most `N`.  An owner below its
quota `cap` joins at the back, and the front leaves if the queue is full; an
owner at its quota overwrites the key of its *first* entry in queue order and
moves nothing:

    held q o < cap    enqueue q k o  =  push N q (k, o)
    cap ≤ held q o    enqueue q k o  =  recycle q k o

The first entry in queue order is the owner's oldest *slot*.  It is not the slot
of its oldest *key*: a key put there by `recycle` is the owner's youngest and is
the next to be overwritten.  Hence the window below is stated for keys that
joined at the back (`window`), and it fails for recycled ones.

An owner that floods the queue takes from the others no more than it gains itself
(`others_foldl_enqueue`), and that is bounded by its quota (`held_enqueue_le`).
-/
import Mathlib.Data.Finset.Card
import Mathlib.Data.List.Nodup
import GoatCoin.Lib.Ring

namespace QuotaQueue

open Ring (push)

variable {κ ω : Type} [DecidableEq ω]

/-- The keys of a queue. -/
def keys (q : List (κ × ω)) : List κ := q.map Prod.fst

/-- How many entries an owner has. -/
def held (q : List (κ × ω)) (o : ω) : Nat := q.countP (fun e => e.2 = o)

/-- Overwrite the key of the owner's first entry. -/
def recycle (k : κ) (o : ω) : List (κ × ω) → List (κ × ω)
  | [] => []
  | e :: q => if e.2 = o then (k, o) :: q else e :: recycle k o q

def enqueue (N cap : Nat) (q : List (κ × ω)) (e : κ × ω) : List (κ × ω) :=
  if cap ≤ held q e.2 then recycle e.1 e.2 q else push N q e

theorem mem_keys_recycle {k x : κ} {o : ω} {q : List (κ × ω)}
    (h : x ∈ keys (recycle k o q)) : x = k ∨ x ∈ keys q := by
  induction q with
  | nil => cases h
  | cons e q ih =>
      rw [recycle] at h
      split at h
      · rcases List.mem_cons.mp h with rfl | h
        · exact .inl rfl
        · exact .inr (List.mem_cons_of_mem _ h)
      · rcases List.mem_cons.mp h with rfl | h
        · exact .inr List.mem_cons_self
        · exact (ih h).imp_right (List.mem_cons_of_mem _)

@[simp] theorem length_recycle (k : κ) (o : ω) (q : List (κ × ω)) :
    (recycle k o q).length = q.length := by
  induction q with
  | nil => rfl
  | cons e q ih => rw [recycle]; split <;> simp [ih]

theorem recycle_zip {k : κ} {o : ω} : ∀ {ks : List κ} {os : List ω} {i : Nat},
    ks.length = os.length → os[i]? = some o → (∀ j, j < i → os[j]? ≠ some o) →
    recycle k o (ks.zip os) = (ks.set i k).zip os := by
  intro ks
  induction ks with
  | nil =>
      intro os i hlen hi _
      cases os with
      | nil => cases hi
      | cons b os => cases hlen
  | cons a ks ih =>
      intro os i hlen hi hmin
      cases os with
      | nil => cases hlen
      | cons b os =>
          cases i with
          | zero =>
              cases hi
              exact if_pos rfl
          | succ i =>
              have hb : b ≠ o := fun h => hmin 0 (Nat.succ_pos i) (h ▸ rfl)
              have hrest := ih (Nat.succ.inj hlen) hi fun j hj => hmin (j + 1) (Nat.succ_lt_succ hj)
              rw [List.zip_cons_cons, recycle, if_neg hb, hrest]
              rfl

theorem nodup_recycle {k : κ} {o : ω} {q : List (κ × ω)} (hq : (keys q).Nodup)
    (hk : k ∉ keys q) : (keys (recycle k o q)).Nodup := by
  induction q with
  | nil => exact hq
  | cons e q ih =>
      obtain ⟨he, hq⟩ := List.nodup_cons.mp hq
      have hkq : k ∉ keys q := fun h => hk (List.mem_cons_of_mem _ h)
      rw [recycle]
      split
      · exact List.nodup_cons.mpr ⟨hkq, hq⟩
      · refine List.nodup_cons.mpr ⟨?_, ih hq hkq⟩
        intro h
        rcases mem_keys_recycle h with h | h
        · exact hk (h ▸ List.mem_cons_self)
        · exact he h

theorem mem_keys_of_held {k : κ} {o : ω} {q : List (κ × ω)} (h : 0 < held q o) :
    k ∈ keys (recycle k o q) := by
  induction q with
  | nil => simp [held] at h
  | cons e q ih =>
      rw [recycle]
      by_cases he : e.2 = o
      · rw [if_pos he]
        exact List.mem_cons_self
      · rw [if_neg he]
        refine List.mem_cons_of_mem _ (ih ?_)
        simpa [held, he] using h

/-! ## Invariants of one admission -/

section
variable {N cap : Nat} {q : List (κ × ω)} {e : κ × ω}

theorem length_enqueue_le (hq : q.length ≤ N) : (enqueue N cap q e).length ≤ N := by
  unfold enqueue
  split
  · rw [length_recycle]
    exact hq
  · exact Ring.length_push_le

theorem nodup_enqueue (hq : (keys q).Nodup) (he : e.1 ∉ keys q) :
    (keys (enqueue N cap q e)).Nodup := by
  unfold enqueue
  split
  · exact nodup_recycle hq he
  · have hsub : (keys (push N q e)).Sublist (keys (q ++ [e])) := Ring.push_sublist.map _
    refine hsub.nodup ?_
    rw [keys, List.map_append, List.nodup_append]
    refine ⟨hq, List.nodup_singleton _, ?_⟩
    intro a ha b hb hab
    rw [List.map_singleton, List.mem_singleton] at hb
    exact he (hb ▸ hab ▸ ha)

theorem mem_keys_enqueue (hN : 0 < N) (hcap : 0 < cap) : e.1 ∈ keys (enqueue N cap q e) := by
  unfold enqueue
  split
  · rename_i h
    exact mem_keys_of_held (Nat.lt_of_lt_of_le hcap h)
  · obtain ⟨q', hq', -⟩ := Ring.push_eq_append hN (q := q) (x := e)
    rw [hq', keys, List.map_append]
    exact List.mem_append_right _ (List.mem_singleton.mpr rfl)

end

/-! ## The window -/

/-- Recycling, seen from an entry: either the entry survives, with at most its
younger part changed, or it is its owner's first and is overwritten. -/
theorem recycle_split (d k : κ) (x o : ω) (younger : List (κ × ω)) :
    ∀ older : List (κ × ω),
      (∃ older' younger', recycle k o (older ++ (d, x) :: younger) = older' ++ (d, x) :: younger'
        ∧ ∀ e ∈ younger', e ∈ younger ∨ e.1 = k) ∨
      (held (older ++ (d, x) :: younger) o ≤ younger.length + 1) := by
  intro older
  induction older with
  | nil =>
      by_cases hx : x = o
      · right
        have := List.countP_le_length (p := fun e : κ × ω => decide (e.2 = o))
          (l := (d, x) :: younger)
        simpa [held] using this
      · left
        refine ⟨[], recycle k o younger, ?_, ?_⟩
        · rw [List.nil_append, recycle, if_neg hx]
          rfl
        · intro e he
          induction younger with
          | nil => cases he
          | cons f younger ih =>
              rw [recycle] at he
              split at he
              · rcases List.mem_cons.mp he with rfl | he
                · exact .inr rfl
                · exact .inl (List.mem_cons_of_mem _ he)
              · rcases List.mem_cons.mp he with rfl | he
                · exact .inl List.mem_cons_self
                · exact (ih he).imp_left (List.mem_cons_of_mem _)
  | cons f older ih =>
      by_cases hf : f.2 = o
      · left
        exact ⟨(k, o) :: older, younger, by simp [recycle, hf], fun e he => .inl he⟩
      · rcases ih with ⟨older', younger', h, hy⟩ | h
        · left
          exact ⟨f :: older', younger', by simp [recycle, hf, h], hy⟩
        · right
          simpa [held, hf] using h

/-- **One admission, seen from an entry.**  Either the entry survives and its
younger part gains at most the admitted key, or there are already `cap - 1`
younger entries. -/
theorem enqueue_split {N cap : Nat} (hcap : cap ≤ N) {older younger : List (κ × ω)} {d : κ} {x : ω}
    {e : κ × ω} (hlen : (older ++ (d, x) :: younger).length ≤ N) :
    (∃ older' younger', enqueue N cap (older ++ (d, x) :: younger) e = older' ++ (d, x) :: younger'
      ∧ ∀ f ∈ younger', f ∈ younger ∨ f.1 = e.1) ∨
    cap ≤ younger.length + 1 := by
  unfold enqueue
  split
  · rename_i hheld
    rcases recycle_split d e.1 x e.2 younger older with h | h
    · exact .inl h
    · exact .inr (Nat.le_trans hheld h)
  · by_cases hy : younger.length + 1 < N
    · obtain ⟨older', h, -⟩ := Ring.push_split (y := e) hlen hy
      refine .inl ⟨older', younger ++ [e], h, ?_⟩
      intro f hf
      rcases List.mem_append.mp hf with hf | hf
      · exact .inl hf
      · exact .inr (by rw [List.mem_singleton.mp hf])
    · exact .inr (by omega)

/-- Every key of the run was absent from the queue when it was admitted. -/
def Fresh (N cap : Nat) : List (κ × ω) → List (κ × ω) → Prop
  | _, [] => True
  | q, e :: es => e.1 ∉ keys q ∧ Fresh N cap (enqueue N cap q e) es

section
variable [DecidableEq κ]

/-- The invariant of the window, as long as `d` has not been evicted: the entries
younger than `d` carry keys admitted since, collected in `since`. -/
theorem evicted_card {N cap : Nat} (hcap : cap ≤ N) {d : κ} {x : ω} :
    ∀ (es : List (κ × ω)) {older younger : List (κ × ω)} (since : Finset κ),
      (older ++ (d, x) :: younger).length ≤ N → (keys (older ++ (d, x) :: younger)).Nodup →
      (∀ e ∈ younger, e.1 ∈ since) →
      Fresh N cap (older ++ (d, x) :: younger) es →
      d ∉ keys (es.foldl (enqueue N cap) (older ++ (d, x) :: younger)) →
      cap ≤ ((since ∪ (keys es).toFinset).erase d).card := by
  intro es
  induction es with
  | nil =>
      intro older younger since _ _ _ _ hgone
      exact absurd (by simp [keys]) hgone
  | cons e es ih =>
      intro older younger since hlen hnd hsince hf hgone
      obtain ⟨hfresh, hf⟩ := hf
      rcases enqueue_split (e := e) hcap hlen with ⟨older', younger', h, hy⟩ | h
      · have hlen' : (enqueue N cap _ e).length ≤ N := length_enqueue_le hlen
        have hnd' : (keys (enqueue N cap _ e)).Nodup := nodup_enqueue hnd hfresh
        rw [List.foldl_cons] at hgone
        rw [h] at hlen' hnd' hf hgone
        have hsince' : ∀ f ∈ younger', f.1 ∈ since ∪ {e.1} := by
          intro f hf'
          rcases hy f hf' with hf' | hf'
          · exact Finset.mem_union_left _ (hsince f hf')
          · rw [hf']
            exact Finset.mem_union_right _ (Finset.mem_singleton_self _)
        have hkeys : (keys (e :: es)).toFinset = {e.1} ∪ (keys es).toFinset := by
          rw [keys, List.map_cons, List.toFinset_cons, Finset.insert_eq]
          rfl
        rw [hkeys, ← Finset.union_assoc]
        exact ih _ hlen' hnd' hsince' hf hgone
      · -- the keys younger than `d`, with the new one, are already `cap` many
        have hkeys : (keys (older ++ (d, x) :: younger)) = keys older ++ d :: keys younger := by
          simp [keys]
        rw [hkeys] at hnd hfresh
        have hyd : (d :: keys younger).Nodup := (List.nodup_append.mp hnd).2.1
        obtain ⟨hdy, hynd⟩ := List.nodup_cons.mp hyd
        have hed : e.1 ≠ d := fun h => hfresh (by simp [h])
        have hey : e.1 ∉ keys younger := fun h => hfresh (by simp [h])
        have hcard : (insert e.1 (keys younger).toFinset).card = younger.length + 1 := by
          rw [Finset.card_insert_of_notMem (by simpa using hey), List.toFinset_card_of_nodup hynd]
          simp [keys]
        have hsub : insert e.1 (keys younger).toFinset
            ⊆ (since ∪ (keys (e :: es)).toFinset).erase d := by
          intro k hk
          rw [Finset.mem_erase]
          rcases Finset.mem_insert.mp hk with rfl | hk
          · exact ⟨hed, Finset.mem_union_right _ (by simp [keys])⟩
          · have hk' := List.mem_toFinset.mp hk
            refine ⟨fun h => hdy (h ▸ hk'), Finset.mem_union_left _ ?_⟩
            obtain ⟨f, hf', rfl⟩ := List.mem_map.mp hk'
            exact hsince f hf'
        have := Finset.card_le_card hsub
        omega

/-- **The window of a shared queue.**  A key that joined at the back, its owner
being below the quota, is evicted only after `cap` distinct other keys. -/
theorem window {N cap : Nat} (hN : 0 < N) (hcap : cap ≤ N) {q es : List (κ × ω)} {e : κ × ω}
    (hlen : q.length ≤ N) (hnd : (keys q).Nodup) (he : e.1 ∉ keys q) (hbelow : held q e.2 < cap)
    (hf : Fresh N cap (enqueue N cap q e) es)
    (hgone : e.1 ∉ keys (es.foldl (enqueue N cap) (enqueue N cap q e))) :
    cap ≤ ((keys es).toFinset.erase e.1).card := by
  have hnd' : (keys (enqueue N cap q e)).Nodup := nodup_enqueue hnd he
  have hlen' : (enqueue N cap q e).length ≤ N := length_enqueue_le hlen
  have hpush : enqueue N cap q e = push N q e := if_neg (Nat.not_le.mpr hbelow)
  obtain ⟨older, h, -⟩ := Ring.push_eq_append hN (q := q) (x := e)
  rw [hpush, h] at hnd' hlen' hf hgone
  have := evicted_card hcap es ∅ hlen' hnd' (by simp) hf hgone
  simpa using this

theorem window_one {N cap : Nat} {q es : List (κ × ω)} {d : κ} (hd : d ∈ keys q)
    (hf : Fresh N cap q es) (hgone : d ∉ keys (es.foldl (enqueue N cap) q)) :
    1 ≤ ((keys es).toFinset.erase d).card := by
  cases es with
  | nil => exact absurd hd hgone
  | cons e es =>
      have hed : e.1 ≠ d := fun h => hf.1 (h ▸ hd)
      refine Finset.card_pos.mpr ⟨e.1, ?_⟩
      rw [Finset.mem_erase]
      exact ⟨hed, by simp [keys]⟩

end

/-! ## Confinement -/

/-- The entries that are not the owner's. -/
def others (q : List (κ × ω)) (o : ω) : List (κ × ω) := q.filter (fun e => e.2 ≠ o)

@[simp] theorem held_recycle (k : κ) (o p : ω) (q : List (κ × ω)) :
    held (recycle k o q) p = held q p := by
  induction q with
  | nil => rfl
  | cons e q ih =>
      rw [recycle]
      split
      · rename_i he
        simp only [held, List.countP_cons, he]
      · simp only [held, List.countP_cons] at ih ⊢
        rw [ih]

@[simp] theorem others_recycle (k : κ) (o : ω) (q : List (κ × ω)) :
    others (recycle k o q) o = others q o := by
  induction q with
  | nil => rfl
  | cons e q ih =>
      rw [recycle]
      split
      · rename_i he
        rw [others, others, List.filter_cons_of_neg (by simp),
          List.filter_cons_of_neg (by simp [he])]
      · rename_i he
        rw [others, others, List.filter_cons_of_pos (by simpa using he),
          List.filter_cons_of_pos (by simpa using he)]
        exact congrArg (e :: ·) ih

theorem held_append (q r : List (κ × ω)) (o : ω) : held (q ++ r) o = held q o + held r o :=
  List.countP_append

theorem held_singleton (e : κ × ω) (o : ω) : held [e] o = if e.2 = o then 1 else 0 := by
  rw [held, List.countP_singleton]
  simp only [decide_eq_true_eq]

/-- What a push does to the numbers: the new entry counts, the front may leave. -/
theorem held_push_le (N : Nat) (q : List (κ × ω)) (e : κ × ω) (o : ω) :
    held (push N q e) o ≤ held q o + if e.2 = o then 1 else 0 := by
  have hle : held (push N q e) o ≤ held (q ++ [e]) o := Ring.push_sublist.countP_le
  rwa [held_append, held_singleton] at hle

/-- **No owner is ever above its quota.** -/
theorem held_enqueue_le {N cap : Nat} {q : List (κ × ω)} {e : κ × ω}
    (hq : ∀ o, held q o ≤ cap) (o : ω) : held (enqueue N cap q e) o ≤ cap := by
  unfold enqueue
  split
  · rw [held_recycle]
    exact hq o
  · rename_i hbelow
    have hpush := held_push_le N q e o
    have hqo := hq o
    split at hpush
    · rename_i heq
      rw [heq] at hbelow
      omega
    · omega

/-- **One admission, seen from the others.**  They lose at most their front, and only if
the owner gains an entry by it. -/
theorem others_enqueue {N : Nat} (cap : Nat) (hN : 0 < N) {q : List (κ × ω)} (hlen : q.length ≤ N)
    (e : κ × ω) :
    ∃ m, m + held q e.2 ≤ held (enqueue N cap q e) e.2 ∧
      others (enqueue N cap q e) e.2 = (others q e.2).drop m := by
  have hnew : others [e] e.2 = [] := List.filter_cons_of_neg (by simp)
  have happ : ∀ r : List (κ × ω), others (r ++ [e]) e.2 = others r e.2 := by
    intro r
    rw [others, List.filter_append]
    exact (congrArg _ hnew).trans (List.append_nil _)
  have hone : ∀ r : List (κ × ω), held (r ++ [e]) e.2 = held r e.2 + 1 := by
    intro r
    rw [held_append, held_singleton, if_pos rfl]
  unfold enqueue
  split
  · exact ⟨0, by rw [held_recycle, Nat.zero_add], by rw [others_recycle, List.drop_zero]⟩
  · rcases Nat.lt_or_eq_of_le hlen with hlt | hfull
    · rw [Ring.push_of_lt hlt]
      exact ⟨0, by rw [hone]; omega, by rw [happ, List.drop_zero]⟩
    · cases q with
      | nil =>
          have hzero : N = 0 := hfull.symm
          omega
      | cons a q =>
          rw [Ring.push_of_full hfull, happ, hone]
          by_cases ha : a.2 = e.2
          · refine ⟨0, ?_, ?_⟩
            · simp only [held, List.countP_cons, ha, decide_true, if_true]
              omega
            · rw [List.drop_zero, others, others, List.filter_cons_of_neg (by simpa using ha)]
          · refine ⟨1, ?_, ?_⟩
            · simp only [held, List.countP_cons, ha, decide_false, Bool.false_eq_true, if_false]
              omega
            · rw [others, others, List.filter_cons_of_pos (by simpa using ha)]
              rfl

/-- **Confinement.**  However many entries one owner admits, the others lose no more of
theirs than the owner gains. -/
theorem others_foldl_enqueue {N cap : Nat} (hN : 0 < N) {o : ω} (es : List (κ × ω)) :
    ∀ {q : List (κ × ω)}, q.length ≤ N → (∀ e ∈ es, e.2 = o) →
      ∃ m, m + held q o ≤ held (es.foldl (enqueue N cap) q) o ∧
        others (es.foldl (enqueue N cap) q) o = (others q o).drop m := by
  induction es with
  | nil =>
      intro q _ _
      exact ⟨0, by rw [Nat.zero_add]; exact Nat.le_refl _, by rw [List.drop_zero]; rfl⟩
  | cons e es ih =>
      intro q hlen hown
      have he : e.2 = o := hown e List.mem_cons_self
      obtain ⟨m, hm, hothers⟩ := others_enqueue cap hN hlen e
      obtain ⟨m', hm', hothers'⟩ := ih (q := enqueue N cap q e) (length_enqueue_le hlen)
        fun f hf => hown f (List.mem_cons_of_mem _ hf)
      rw [he] at hm hothers
      refine ⟨m + m', ?_, ?_⟩
      · rw [List.foldl_cons]
        omega
      · rw [List.foldl_cons, hothers', hothers, List.drop_drop]

end QuotaQueue
