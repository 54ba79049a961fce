/-
# `GoatCoin.Lib.Ranking` — the first `D` of a ranking, and ties at the cut

Positions `0 … n-1` are ranked by a score, larger first, and by position among
equal scores.  The first `D` win.  A position wins iff fewer than `D` come before
it:

    rank i  =  #{ j | score i < score j }  +  #{ j < i | score j = score i }

The first summand does not depend on the order in which the positions were
numbered, the second does.  So the winners depend on the order only if a score
is *cut*: fewer than `D` are above it and more than `D` are at or above it
(`rank_lt_iff` for a ranking without a cut score, `exists_cut_loser` for one with).

The middle of a sorted list is where more than half of it lies
(`middle_of_majority`).
-/
import Mathlib.Data.List.Nodup
import Mathlib.Data.List.Induction
import Mathlib.Order.Lattice

namespace Ranking

/-- Position `a` is not after position `b`. -/
def notAfter (score : Nat → Nat) (a b : Nat) : Bool :=
  score b < score a || (score b == score a && a ≤ b)

/-- The first `D` of the ranking of `n` positions. -/
def winners (score : Nat → Nat) (n D : Nat) : List Nat :=
  ((List.range n).mergeSort (notAfter score)).take D

section
variable {score : Nat → Nat}

theorem notAfter_iff {a b : Nat} :
    notAfter score a b = true ↔ score b < score a ∨ (score b = score a ∧ a ≤ b) := by
  simp [notAfter]

theorem notAfter_trans {a b c : Nat} (hab : notAfter score a b = true)
    (hbc : notAfter score b c = true) : notAfter score a c = true := by
  rw [notAfter_iff] at *
  omega

theorem notAfter_total (a b : Nat) : (notAfter score a b || notAfter score b a) = true := by
  rw [Bool.or_eq_true, notAfter_iff, notAfter_iff]
  omega

theorem mem_take_iff {α : Type} {lt : α → α → Bool} {D : Nat} {x : α} :
    ∀ {l : List α}, l.Pairwise (fun a b => lt a b = true ∧ lt b a = false ∧ a ≠ b) →
      (∀ a, lt a a = false) → x ∈ l → (x ∈ l.take D ↔ l.countP (lt · x) < D) := by
  intro l
  induction l generalizing D with
  | nil => intro _ _ hx; cases hx
  | cons a l ih =>
      intro hp hirr hx
      obtain ⟨ha, hp⟩ := List.pairwise_cons.mp hp
      cases D with
      | zero => exact ⟨nofun, nofun⟩
      | succ D =>
          rw [List.take_succ_cons, List.mem_cons]
          by_cases hxa : x = a
          · subst hxa
            have hzero : l.countP (lt · x) = 0 := by
              rw [List.countP_eq_zero]
              intro b hb
              rw [(ha b hb).2.1]
              exact Bool.false_ne_true
            rw [List.countP_cons_of_neg (by rw [hirr]; exact Bool.false_ne_true), hzero]
            exact ⟨fun _ => Nat.succ_pos D, fun _ => .inl rfl⟩
          · have hxl : x ∈ l := (List.mem_cons.mp hx).resolve_left hxa
            have hcount : (a :: l).countP (lt · x) = l.countP (lt · x) + 1 :=
              List.countP_cons_of_pos (p := (lt · x)) (ha x hxl).1
            rw [hcount, Nat.succ_lt_succ_iff, ← ih hp hirr hxl]
            exact ⟨fun h => h.resolve_left hxa, .inr⟩

theorem length_ranked (n : Nat) : ((List.range n).mergeSort (notAfter score)).length = n := by
  rw [List.length_mergeSort, List.length_range]

theorem winners_min (n D : Nat) : winners score n (min D n) = winners score n D := by
  have h := List.take_eq_take_min (l := (List.range n).mergeSort (notAfter score)) (i := D)
  rw [length_ranked] at h
  exact h.symm

theorem nodup_winners (n D : Nat) : (winners score n D).Nodup := by
  have hperm : ((List.range n).mergeSort (notAfter score)).Perm (List.range n) :=
    List.mergeSort_perm _ _
  exact (hperm.nodup_iff.mpr List.nodup_range).sublist (List.take_sublist _ _)

/-- Position `a` is strictly before position `b`. -/
def before (score : Nat → Nat) (a b : Nat) : Bool :=
  score b < score a || (score b == score a && a < b)

theorem before_iff {a b : Nat} :
    before score a b = true ↔ score b < score a ∨ (score b = score a ∧ a < b) := by
  simp [before]

theorem countP_before (i m : Nat) :
    (List.range m).countP (before score · i)
      = (List.range m).countP (fun j => score i < score j)
        + (List.range (min i m)).countP (fun j => score j = score i) := by
  induction m with
  | zero => simp
  | succ m ih =>
      rw [List.range_succ, List.countP_append, List.countP_append, ih]
      simp only [List.countP_singleton, before_iff, decide_eq_true_eq]
      by_cases hm : i ≤ m
      · rw [Nat.min_eq_left hm, Nat.min_eq_left (Nat.le_succ_of_le hm)]
        split_ifs <;> omega
      · have hlt : m < i := Nat.lt_of_not_le hm
        rw [Nat.min_eq_right (Nat.le_of_lt hlt), Nat.min_eq_right hlt, List.range_succ,
          List.countP_append]
        simp only [List.countP_singleton, decide_eq_true_eq]
        split_ifs <;> omega

theorem mem_winners_iff {n D i : Nat} (hi : i < n) :
    i ∈ winners score n D ↔
      (List.range n).countP (fun j => score i < score j)
        + (List.range i).countP (fun j => score j = score i) < D := by
  have hperm : ((List.range n).mergeSort (notAfter score)).Perm (List.range n) :=
    List.mergeSort_perm _ _
  have hsorted : ((List.range n).mergeSort (notAfter score)).Pairwise
      (fun a b => before score a b = true ∧ before score b a = false ∧ a ≠ b) := by
    have hle := @List.pairwise_mergeSort _ (notAfter score) (fun _ _ _ => notAfter_trans)
      notAfter_total (List.range n)
    have hne : ((List.range n).mergeSort (notAfter score)).Nodup :=
      hperm.nodup_iff.mpr List.nodup_range
    refine (hle.and hne).imp ?_
    rintro a b ⟨hab, hne⟩
    rw [notAfter_iff] at hab
    rw [← Bool.not_eq_true, before_iff, before_iff]
    omega
  have hirr : ∀ a, before score a a = false := by
    intro a
    rw [← Bool.not_eq_true, before_iff]
    omega
  have hmem : i ∈ (List.range n).mergeSort (notAfter score) :=
    hperm.mem_iff.mpr (List.mem_range.mpr hi)
  rw [winners, mem_take_iff hsorted hirr hmem, hperm.countP_eq, countP_before,
    Nat.min_eq_left (Nat.le_of_lt hi)]

end

/-! ## Scored lists -/

section
variable {α : Type} (f : α → Nat)

/-- No score is cut: with fewer than `D` above it and more than `D` at or above it. -/
def Uncut (cs : List α) (D : Nat) : Prop :=
  ∀ r, ¬ (cs.countP (fun c => r < f c) < D ∧ D < cs.countP (fun c => r ≤ f c))

variable {f}

theorem Uncut.of_perm {cs cs' : List α} {D : Nat} (h : Uncut f cs D) (hp : cs.Perm cs') :
    Uncut f cs' D := by
  intro r
  rw [← hp.countP_eq, ← hp.countP_eq]
  exact h r

theorem countP_le_eq (cs : List α) (r : Nat) :
    cs.countP (fun c => r ≤ f c) = cs.countP (fun c => r < f c) + cs.countP (fun c => f c = r) := by
  induction cs with
  | nil => rfl
  | cons c cs ih =>
      simp only [List.countP_cons, ih, decide_eq_true_eq]
      split_ifs <;> omega

theorem countP_range_getD (l : List Nat) (p : Nat → Bool) {i : Nat} (hi : i ≤ l.length) :
    (List.range i).countP (fun j => p (l.getD j 0)) = (l.take i).countP p := by
  have hmap : (List.range i).map (fun j => l.getD j 0) = l.take i := by
    apply List.ext_getElem
    · rw [List.length_map, List.length_range, List.length_take, Nat.min_eq_left hi]
    · intro j hj _
      have hj : j < i := by simpa using hj
      simp [List.getElem?_eq_getElem (Nat.lt_of_lt_of_le hj hi)]
  rw [← hmap, List.countP_map]
  rfl

theorem mem_winners_append {pre post : List α} {c : α} {D : Nat} :
    pre.length ∈ winners (((pre ++ c :: post).map f).getD · 0) (pre ++ c :: post).length D ↔
      (pre ++ c :: post).countP (fun d => f c < f d) + pre.countP (fun d => f d = f c) < D := by
  have hi : pre.length < (pre ++ c :: post).length := by simp
  have hle : pre.length ≤ ((pre ++ c :: post).map f).length := by simp
  have hat : ((pre ++ c :: post).map f).getD pre.length 0 = f c := by simp
  rw [mem_winners_iff hi]
  simp only [hat]
  have h1 := countP_range_getD ((pre ++ c :: post).map f) (fun s => f c < s)
    (i := (pre ++ c :: post).length) (by simp)
  have h2 := countP_range_getD ((pre ++ c :: post).map f) (fun s => s = f c) hle
  rw [h1, h2, List.take_of_length_le (by simp), List.countP_map, ← List.map_take,
    List.take_left, List.countP_map]
  rfl

theorem rank_lt_iff {pre post : List α} {c : α} {D : Nat} (h : Uncut f (pre ++ c :: post) D) :
    (pre ++ c :: post).countP (fun d => f c < f d) + pre.countP (fun d => f d = f c) < D
      ↔ (pre ++ c :: post).countP (fun d => f c < f d) < D := by
  have heq : pre.countP (fun d => f d = f c) + 1
      ≤ (pre ++ c :: post).countP (fun d => f d = f c) := by
    rw [List.countP_append, List.countP_cons_of_pos (by simp)]
    omega
  have hle := countP_le_eq (f := f) (pre ++ c :: post) (f c)
  have hcut := h (f c)
  omega

theorem exists_cut_loser {cs : List α} {D : Nat} (h : ¬ Uncut f cs D) :
    ∃ pre c post, cs = pre ++ c :: post ∧ cs.countP (fun d => f c < f d) < D
      ∧ D ≤ cs.countP (fun d => f c < f d) + pre.countP (fun d => f d = f c) := by
  obtain ⟨r, hr⟩ := not_forall.mp h
  obtain ⟨habove, hat⟩ := not_not.mp hr
  have hle := countP_le_eq (f := f) cs r
  have hlast : ∀ cs : List α, 0 < cs.countP (fun c => f c = r) →
      ∃ pre c post, cs = pre ++ c :: post ∧ f c = r
        ∧ cs.countP (fun d => f d = r) = pre.countP (fun d => f d = r) + 1 := by
    intro cs
    induction cs using List.reverseRecOn with
    | nil => intro h; cases h
    | append_singleton cs x ih =>
        intro hpos
        by_cases hx : f x = r
        · refine ⟨cs, x, [], rfl, hx, ?_⟩
          rw [List.countP_append, List.countP_singleton, if_pos (decide_eq_true hx)]
        · have hnone : List.countP (fun d => decide (f d = r)) [x] = 0 := by
            rw [List.countP_singleton, if_neg (by simpa using hx)]
          rw [List.countP_append, hnone, Nat.add_zero] at hpos ⊢
          obtain ⟨pre, c, post, rfl, hc, hcount⟩ := ih hpos
          exact ⟨pre, c, post ++ [x], by simp, hc, hcount⟩
  obtain ⟨pre, c, post, hcs, hc, hcount⟩ := hlast cs (by omega)
  refine ⟨pre, c, post, hcs, ?_, ?_⟩
  · rw [hc]
    exact habove
  · rw [hc]
    omega

end

/-! ## The middle of a sorted list -/

section
variable {α : Type} [LinearOrder α] {l : List α}

theorem le_of_mem_take (hl : l.Pairwise (· ≤ ·)) {k : Nat} (hk : k < l.length) {x : α}
    (hx : x ∈ l.take (k + 1)) : x ≤ l[k] := by
  obtain ⟨i, hi, rfl⟩ := List.mem_iff_getElem.mp hx
  rw [List.length_take] at hi
  rw [List.getElem_take]
  rcases Nat.lt_or_ge i k with hlt | hge
  · exact List.pairwise_iff_getElem.mp hl i k (by omega) hk hlt
  · have hik : i = k := by omega
    subst hik
    exact le_refl _

theorem le_of_mem_drop (hl : l.Pairwise (· ≤ ·)) {k : Nat} (hk : k < l.length) {x : α}
    (hx : x ∈ l.drop k) : l[k] ≤ x := by
  obtain ⟨i, hi, rfl⟩ := List.mem_iff_getElem.mp hx
  rw [List.length_drop] at hi
  rw [List.getElem_drop]
  rcases Nat.eq_zero_or_pos i with rfl | hpos
  · exact le_refl _
  · exact List.pairwise_iff_getElem.mp hl k (k + i) hk (by omega) (by omega)

/-- **A strict majority holds the middle**, wherever the rest may lie. -/
theorem middle_of_majority (hl : l.Pairwise (· ≤ ·)) {a b : α}
    (hmaj : l.length < 2 * l.countP (fun x => a ≤ x ∧ x ≤ b)) (hk : l.length / 2 < l.length) :
    a ≤ l[l.length / 2] ∧ l[l.length / 2] ≤ b := by
  constructor
  · -- otherwise the majority lies behind the middle, where there is no room for it
    by_contra hlow
    have hnone : (l.take (l.length / 2 + 1)).countP (fun x => a ≤ x ∧ x ≤ b) = 0 := by
      rw [List.countP_eq_zero]
      intro x hx hin
      have hle := le_of_mem_take hl hk hx
      exact hlow (le_trans (of_decide_eq_true hin).1 hle)
    have hsplit : l.countP (fun x => a ≤ x ∧ x ≤ b)
        = (l.drop (l.length / 2 + 1)).countP (fun x => a ≤ x ∧ x ≤ b) := by
      conv_lhs => rw [← List.take_append_drop (l.length / 2 + 1) l]
      rw [List.countP_append, hnone, Nat.zero_add]
    have hroom := List.countP_le_length (p := fun x => decide (a ≤ x ∧ x ≤ b))
      (l := l.drop (l.length / 2 + 1))
    rw [List.length_drop] at hroom
    omega
  · by_contra hhigh
    have hnone : (l.drop (l.length / 2)).countP (fun x => a ≤ x ∧ x ≤ b) = 0 := by
      rw [List.countP_eq_zero]
      intro x hx hin
      have hle := le_of_mem_drop hl hk hx
      exact hhigh (le_trans hle (of_decide_eq_true hin).2)
    have hsplit : l.countP (fun x => a ≤ x ∧ x ≤ b)
        = (l.take (l.length / 2)).countP (fun x => a ≤ x ∧ x ≤ b) := by
      conv_lhs => rw [← List.take_append_drop (l.length / 2) l]
      rw [List.countP_append, hnone, Nat.add_zero]
    have hroom := List.countP_le_length (p := fun x => decide (a ≤ x ∧ x ≤ b))
      (l := l.take (l.length / 2))
    rw [List.length_take] at hroom
    omega

end

end Ranking
