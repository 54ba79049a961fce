/-
# `GoatCoin.Lib.Ring` — a fixed ring of slots, read as a queue

A ring of `N` slots with a write cursor `next` and an occupancy `filled` is an
implementation of a bounded queue.  `Cursor.view` reads the occupied slots in
age order, oldest first:

    filled < N     slots[0], …, slots[filled - 1]            (not yet wrapped)
    filled = N     slots[next], slots[next + 1], … (mod N)   (wrapped)

and the two ways a program touches such a ring become list operations:

    write at `next` and advance     ⟿   append, dropping the head if full   (`view_step`)
    overwrite the k-th oldest slot  ⟿   `List.set k`                        (`view_set_slot`)

so that whatever is to be said about histories of the ring is said about lists.
The one fact about histories that lives here is the window of a queue that
refuses what it already holds: `Fresh.window`.
-/
import Mathlib.Data.List.OfFn
import Mathlib.Data.List.Nodup
import Mathlib.Data.List.Rotate
import Mathlib.Data.Nat.ModEq
import Mathlib.Data.Vector.Basic

namespace Ring

/-! ## The bounded queue -/

section
variable {α : Type}

/-- Append to a queue of at most `N` elements; the oldest goes first. -/
def push (N : Nat) (q : List α) (x : α) : List α :=
  (q ++ [x]).drop (q.length + 1 - N)

theorem push_of_lt {N : Nat} {q : List α} {x : α} (h : q.length < N) :
    push N q x = q ++ [x] := by
  simp [push, Nat.sub_eq_zero_of_le h]

theorem push_of_full {N : Nat} {a x : α} {q : List α} (h : (a :: q).length = N) :
    push N (a :: q) x = q ++ [x] := by
  have h1 : (a :: q).length + 1 - N = 1 := by omega
  rw [push, h1]
  rfl

theorem length_push_le {N : Nat} {q : List α} {x : α} : (push N q x).length ≤ N := by
  simp only [push, List.length_drop, List.length_append, List.length_cons, List.length_nil]
  omega

theorem push_zip {β : Type} {N : Nat} {q : List α} {r : List β} (h : q.length = r.length) (x : α)
    (y : β) : push N (q.zip r) (x, y) = (push N q x).zip (push N r y) := by
  have hzip : (q ++ [x]).zip (r ++ [y]) = q.zip r ++ [(x, y)] := List.zip_append h
  rw [push, push, push, ← hzip, List.length_zip, ← h, Nat.min_self]
  exact List.drop_zipWith

theorem push_sublist {N : Nat} {q : List α} {x : α} : (push N q x).Sublist (q ++ [x]) :=
  List.drop_sublist _ _

theorem push_eq_append {N : Nat} (hN : 0 < N) {q : List α} {x : α} :
    ∃ q', push N q x = q' ++ [x] ∧ q'.Sublist q := by
  refine ⟨q.drop (q.length + 1 - N), ?_, List.drop_sublist _ _⟩
  rw [push, List.drop_append_of_le_length (by omega)]

/-- **One push, seen from an element of the queue.**  An element with fewer than
`N - 1` younger ones survives, and the new element joins the younger ones. -/
theorem push_split {N : Nat} {older younger : List α} {x y : α}
    (hlen : (older ++ x :: younger).length ≤ N) (hy : younger.length + 1 < N) :
    ∃ older', push N (older ++ x :: younger) y = older' ++ x :: (younger ++ [y])
      ∧ older'.Sublist older := by
  rcases Nat.lt_or_eq_of_le hlen with hlt | hfull
  · exact ⟨older, by rw [push_of_lt hlt]; simp, List.Sublist.refl _⟩
  · cases older with
    | nil => simp only [List.nil_append, List.length_cons] at hfull; omega
    | cons a older =>
        refine ⟨older, ?_, List.sublist_cons_self a older⟩
        rw [List.cons_append, push_of_full (by simpa using hfull)]
        simp

/-! ## Queues that refuse what they hold -/

/-- Every element of the run was absent from the queue when it was pushed. -/
def Fresh (N : Nat) : List α → List α → Prop
  | _, [] => True
  | q, y :: ys => y ∉ q ∧ Fresh N (push N q y) ys

theorem nodup_push {N : Nat} {q : List α} {x : α} (hq : q.Nodup) (hx : x ∉ q) :
    (push N q x).Nodup := by
  refine push_sublist.nodup ?_
  rw [List.nodup_append]
  exact ⟨hq, List.nodup_singleton x, fun a ha b hb => by
    rw [List.mem_singleton] at hb
    exact fun hab => hx (hb ▸ hab ▸ ha)⟩

/-- While fewer than `N` elements have been pushed after `x`, the queue still
ends in `x` followed by exactly those. -/
theorem foldl_push_split {N : Nat} {x : α} :
    ∀ (ys : List α) {older younger : List α}, (older ++ x :: younger).length ≤ N →
      younger.length + ys.length < N →
      ∃ older', ys.foldl (push N) (older ++ x :: younger) = older' ++ x :: (younger ++ ys)
  | [], older, younger, _, _ => ⟨older, by simp⟩
  | y :: ys, older, younger, hlen, hys => by
      simp only [List.length_cons] at hys
      obtain ⟨older', he, -⟩ := push_split (y := y) hlen (by omega)
      have hlen' : (older' ++ x :: (younger ++ [y])).length ≤ N := he ▸ length_push_le
      have hys' : (younger ++ [y]).length + ys.length < N := by
        simp only [List.length_append, List.length_cons, List.length_nil]
        omega
      obtain ⟨o, ho⟩ := foldl_push_split ys hlen' hys'
      exact ⟨o, by rw [List.foldl_cons, he, ho]; simp⟩

theorem Fresh.nodup_foldl {N : Nat} (ys : List α) :
    ∀ {q : List α}, q.Nodup → Fresh N q ys → (ys.foldl (push N) q).Nodup := by
  induction ys with
  | nil => intro q hq _; exact hq
  | cons y ys ih => intro q hq hf; exact ih (nodup_push hq hf.1) hf.2

theorem Fresh.append {N : Nat} (ys : List α) {zs : List α} :
    ∀ {q : List α}, Fresh N q (ys ++ zs) → Fresh N q ys ∧ Fresh N (ys.foldl (push N) q) zs := by
  induction ys with
  | nil => intro q h; exact ⟨trivial, h⟩
  | cons y ys ih =>
      intro q h
      obtain ⟨h1, h2⟩ := ih h.2
      exact ⟨⟨h.1, h1⟩, h2⟩

/-- **The window of a deduplicating queue.**  If `x` was pushed and is gone after
the run `ys`, then `ys` begins with `N` pairwise distinct elements other than `x`. -/
theorem Fresh.window {N : Nat} (hN : 0 < N) {q ys : List α} {x : α} (hlen : q.length ≤ N)
    (hnd : q.Nodup) (hx : x ∉ q) (hf : Fresh N (push N q x) ys)
    (hgone : x ∉ ys.foldl (push N) (push N q x)) :
    N ≤ ys.length ∧ (x :: ys.take N).Nodup := by
  obtain ⟨older, he, -⟩ := push_eq_append hN (q := q) (x := x)
  have hnd' : (push N q x).Nodup := nodup_push hnd hx
  have hlen' : (push N q x).length ≤ N := length_push_le
  rw [he] at hf hgone hnd' hlen'
  have hN_le : N ≤ ys.length := by
    by_contra hlt
    obtain ⟨o, ho⟩ := foldl_push_split ys hlen' (by simp only [List.length_nil]; omega)
    exact hgone (by rw [ho]; simp)
  refine ⟨hN_le, ?_⟩
  -- the first `N - 1` are all in the queue together with `x`; the `N`-th is refused otherwise
  obtain ⟨n, rfl⟩ : ∃ n, N = n + 1 := ⟨N - 1, by omega⟩
  have hn : n < ys.length := hN_le
  have hsplit : ys = ys.take n ++ ys[n] :: ys.drop (n + 1) := by simp
  have htake : ys.take (n + 1) = ys.take n ++ [ys[n]] := by simp
  rw [hsplit] at hf
  obtain ⟨hf1, hf2⟩ := Fresh.append (ys.take n) hf
  obtain ⟨o, ho⟩ := foldl_push_split (ys.take n) hlen' (by
    simp only [List.length_nil, List.length_take]; omega)
  have hq := Fresh.nodup_foldl (ys.take n) hnd' hf1
  rw [ho] at hq hf2
  have hx1 : (x :: ys.take n).Nodup := (List.nodup_append.mp hq).2.1
  have hnew : ys[n] ∉ x :: ys.take n :=
    fun hm => hf2.1 (List.mem_append_right _ (by simpa using hm))
  rw [htake, ← List.cons_append, List.nodup_append]
  refine ⟨hx1, List.nodup_singleton _, fun a ha b hb => ?_⟩
  rw [List.mem_singleton] at hb
  exact fun hab => hnew (hb ▸ hab ▸ ha)

end

/-! ## The cursor -/

/-- The write position and occupancy of a ring of `N` slots.  Until the ring has
wrapped the two agree. -/
structure Cursor (N : Nat) where
  next : Nat
  filled : Nat
  filled_le : filled ≤ N
  next_lt : 0 < N → next < N
  next_eq : filled < N → next = filled

namespace Cursor
variable {N : Nat}

def zero : Cursor N := ⟨0, 0, Nat.zero_le N, id, fun _ => rfl⟩

/-- `next = (next + 1) % N; if filled < N { filled += 1 }`. -/
def step (c : Cursor N) : Cursor N where
  next := (c.next + 1) % N
  filled := if c.filled < N then c.filled + 1 else c.filled
  filled_le := by have := c.filled_le; split <;> omega
  next_lt h := Nat.mod_lt _ h
  next_eq h := by
    have hle := c.filled_le
    split at h
    · rename_i hlt
      rw [if_pos hlt, c.next_eq hlt, Nat.mod_eq_of_lt h]
    · omega

/-- Where the oldest occupied slot is. -/
def start (c : Cursor N) : Nat := if c.filled < N then 0 else c.next

/-- The slot of the `k`-th oldest element. -/
def slot (c : Cursor N) (k : Nat) : Nat := (c.start + k) % N

theorem slot_lt (c : Cursor N) {k : Nat} (hk : k < c.filled) : c.slot k < N :=
  Nat.mod_lt _ (Nat.lt_of_lt_of_le (Nat.zero_lt_of_lt hk) c.filled_le)

theorem slot_eq_self (c : Cursor N) (h : c.filled < N) {k : Nat} (hk : k < c.filled) :
    c.slot k = k := by
  simp only [slot, start, if_pos h, Nat.zero_add]
  exact Nat.mod_eq_of_lt (by omega)

theorem slot_inj (c : Cursor N) {j k : Nat} (hj : j < c.filled) (hk : k < c.filled)
    (h : c.slot j = c.slot k) : j = k := by
  have hle := c.filled_le
  have hj' : j % N = j := Nat.mod_eq_of_lt (by omega)
  have hk' : k % N = k := Nat.mod_eq_of_lt (by omega)
  have hmod : Nat.ModEq N j k := Nat.ModEq.add_left_cancel' c.start h
  rw [← hj', ← hk']
  exact hmod

variable {α : Type}

/-- The occupied slots, oldest first. -/
def view (c : Cursor N) (slots : Vector α N) : List α :=
  List.ofFn fun k : Fin c.filled => slots.get ⟨c.slot k, c.slot_lt k.isLt⟩

@[simp] theorem length_view (c : Cursor N) (slots : Vector α N) :
    (c.view slots).length = c.filled := by
  simp [view]

theorem getElem?_view (c : Cursor N) (slots : Vector α N) {k : Nat} (hk : k < c.filled) :
    (c.view slots)[k]? = slots[c.slot k]? := by
  have hs := c.slot_lt hk
  rw [Vector.getElem?_eq_getElem hs]
  simp only [view, List.getElem?_ofFn, dif_pos hk]
  rfl

theorem view_set_slot (c : Cursor N) (slots : Vector α N) (x : α) {k : Nat}
    (hk : k < c.filled) :
    c.view (slots.set (c.slot k) x (c.slot_lt hk)) = (c.view slots).set k x := by
  apply List.ext_getElem?
  intro j
  by_cases hj : j < c.filled
  · rw [getElem?_view c _ hj, Vector.getElem?_set, List.getElem?_set, length_view]
    by_cases hkj : k = j
    · subst hkj
      rw [if_pos rfl, if_pos rfl, if_pos hk]
    · have hslot : c.slot k ≠ c.slot j := fun h => hkj (c.slot_inj hk hj h)
      rw [if_neg hkj, if_neg hslot, getElem?_view c _ hj]
  · have h1 : (c.view (slots.set (c.slot k) x (c.slot_lt hk))).length ≤ j := by simpa using hj
    have h2 : ((c.view slots).set k x).length ≤ j := by simpa using hj
    rw [List.getElem?_eq_none h1, List.getElem?_eq_none h2]

theorem view_step_of_lt (c : Cursor N) (hlt : c.filled < N) (slots : Vector α N) (x : α)
    (hnext : c.next < N) :
    c.step.view (slots.set c.next x hnext) = c.view slots ++ [x] := by
  have hstep : c.step.filled = c.filled + 1 := by simp [step, hlt]
  have hstart : c.step.start = 0 := by
    by_cases hwrap : c.filled + 1 < N
    · simp [start, hstep, hwrap]
    · have hn : c.next + 1 = N := by rw [c.next_eq hlt]; omega
      simp only [start, hstep, if_neg hwrap]
      simp [step, hn]
  have hslot : ∀ k, k < c.filled + 1 → c.step.slot k = k := by
    intro k hk
    rw [slot, hstart, Nat.zero_add, Nat.mod_eq_of_lt (by omega)]
  apply List.ext_getElem?
  intro j
  rcases Nat.lt_trichotomy j c.filled with hj | rfl | hj
  · rw [getElem?_view c.step _ (by omega), hslot j (by omega), Vector.getElem?_set,
      if_neg (by rw [c.next_eq hlt]; omega), List.getElem?_append_left (by simpa using hj),
      getElem?_view c _ hj, c.slot_eq_self hlt hj]
  · rw [getElem?_view c.step _ (by omega), hslot c.filled (by omega), Vector.getElem?_set,
      if_pos (c.next_eq hlt)]
    simp
  · rw [List.getElem?_eq_none (by rw [length_view]; omega),
      List.getElem?_eq_none
        (by simp only [List.length_append, length_view, List.length_singleton]; omega)]

theorem view_step_of_full (c : Cursor N) (hfull : c.filled = N) (slots : Vector α N) (x : α)
    (hnext : c.next < N) :
    c.step.view (slots.set c.next x hnext) = (c.view slots ++ [x]).drop 1 := by
  have hstep : c.step.filled = N := by simp [step, hfull]
  have hslot : ∀ k, c.slot k = (c.next + k) % N := by
    intro k; simp [slot, start, hfull]
  have hslot' : ∀ k, c.step.slot k = (c.next + (k + 1)) % N := by
    intro k
    simp only [slot, start, hstep, lt_irrefl, if_false]
    simp only [step, Nat.mod_add_mod]
    congr 1
    omega
  apply List.ext_getElem?
  intro j
  by_cases hj : j < N
  · rw [getElem?_view c.step _ (by omega), hslot', Vector.getElem?_set, List.getElem?_drop,
      Nat.add_comm 1 j]
    by_cases hlast : j + 1 = N
    · rw [if_pos (by rw [hlast, Nat.add_mod_right, Nat.mod_eq_of_lt hnext]),
        List.getElem?_append_right (by simp [hfull, hlast])]
      simp [hfull, hlast]
    · have hj1 : j + 1 < c.filled := by omega
      have hne : c.next ≠ (c.next + (j + 1)) % N := by
        intro h
        have h0 : c.slot 0 = c.slot (j + 1) := by
          rw [hslot, hslot, Nat.add_zero, Nat.mod_eq_of_lt hnext]
          exact h
        have := c.slot_inj (by omega) hj1 h0
        omega
      rw [if_neg hne, List.getElem?_append_left (by simpa using hj1),
        getElem?_view c _ hj1, hslot]
  · rw [List.getElem?_eq_none (by rw [length_view]; omega),
      List.getElem?_eq_none (by simp only [List.length_drop, List.length_append, length_view,
        List.length_singleton]; omega)]

theorem view_step (c : Cursor N) (slots : Vector α N) (x : α) (hnext : c.next < N) :
    c.step.view (slots.set c.next x hnext) = push N (c.view slots) x := by
  have hle := c.filled_le
  by_cases hlt : c.filled < N
  · rw [view_step_of_lt c hlt, push_of_lt (by simpa using hlt)]
  · have hfull : c.filled = N := by omega
    rw [view_step_of_full c hfull, push, length_view, hfull, Nat.add_sub_cancel_left]

theorem view_perm (c : Cursor N) (slots : Vector α N) :
    (c.view slots).Perm (slots.toList.take c.filled) := by
  have hle := c.filled_le
  by_cases hlt : c.filled < N
  · apply List.Perm.of_eq
    apply List.ext_getElem?
    intro j
    by_cases hj : j < c.filled
    · rw [getElem?_view c _ hj, c.slot_eq_self hlt hj, List.getElem?_take_of_lt hj]
      simp
    · rw [List.getElem?_eq_none (by simpa using hj),
        List.getElem?_eq_none (by simp only [List.length_take]; omega)]
  · have hfull : c.filled = N := by omega
    have hrot : c.view slots = slots.toList.rotate c.next := by
      apply List.ext_getElem?
      intro j
      by_cases hj : j < N
      · rw [getElem?_view c _ (by omega), List.getElem?_rotate (by simpa using hj)]
        simp [slot, start, hfull, Nat.add_comm]
      · rw [List.getElem?_eq_none (by rw [length_view]; omega),
          List.getElem?_eq_none (by simpa using hj)]
    rw [hrot, hfull, List.take_of_length_le (by simp)]
    exact List.rotate_perm _ _

@[simp] theorem view_zero (slots : Vector α N) : (zero : Cursor N).view slots = [] := rfl

end Cursor

end Ring
