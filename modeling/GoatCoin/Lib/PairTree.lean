/-
# `GoatCoin.Lib.PairTree` — Merkle trees that hash their nodes in pairs

A layer is folded up by combining its nodes two by two, and a node that is left over is carried up
as it is, until one is left:

    l  ↦  up l  ↦  up (up l)  ↦  …  ↦  [root]

The proof of a node is the list of its siblings from the bottom up, without a side, so combining has
to be commutative; where a node was carried up it has no sibling and the proof is shorter.
-/
import Mathlib.Data.List.Induction
import Mathlib.Data.Nat.Bitwise
import Mathlib.Logic.Function.Iterate

namespace PairTree

variable {α : Type} (pair : α → α → α)

/-! ## Layers -/

/-- The nodes that are combined. -/
def couples : List α → List (α × α)
  | a :: b :: rest => (a, b) :: couples rest
  | _ => []

def up : List α → List α
  | a :: b :: rest => pair a b :: up rest
  | rest => rest

/-- A layer and the ones above it; the fuel is a bound on its length. -/
def layers : Nat → List α → List (List α)
  | 0, l => [l]
  | fuel + 1, l => if 1 < l.length then l :: layers fuel (up pair l) else [l]

def siblings : List (List α) → Nat → List α
  | layer :: next :: rest, i => layer[i ^^^ 1]?.toList ++ siblings (next :: rest) (i / 2)
  | _, _ => []

/-- What a proof leads to. -/
def climb (node : α) (proof : List α) : α := proof.foldl pair node

theorem length_up (l : List α) : (up pair l).length = (l.length + 1) / 2 := by
  fun_induction up pair l with
  | case1 a b rest ih =>
      rw [List.length_cons, ih, List.length_cons, List.length_cons]
      omega
  | case2 rest hrest =>
      match rest, hrest with
      | [], _ => simp
      | [a], _ => simp
      | a :: b :: rest, hrest => exact absurd rfl (hrest a b rest)

theorem mem_up {l : List α} {x : α} (h : x ∈ up pair l) :
    x ∈ l ∨ ∃ c ∈ couples l, x = pair c.1 c.2 := by
  fun_induction up pair l with
  | case1 a b rest ih =>
      rcases List.mem_cons.mp h with rfl | h
      · exact .inr ⟨(a, b), List.mem_cons_self, rfl⟩
      · rcases ih h with h | ⟨c, hc, hx⟩
        · exact .inl (List.mem_cons_of_mem a (List.mem_cons_of_mem b h))
        · exact .inr ⟨c, List.mem_cons_of_mem (a, b) hc, hx⟩
  | case2 rest hrest => exact .inl h

theorem mem_of_couples {l : List α} {c : α × α} (h : c ∈ couples l) : c.1 ∈ l ∧ c.2 ∈ l := by
  fun_induction couples l with
  | case1 a b rest ih =>
      rcases List.mem_cons.mp h with rfl | h
      · exact ⟨List.mem_cons_self, List.mem_cons_of_mem a List.mem_cons_self⟩
      · obtain ⟨h₁, h₂⟩ := ih h
        exact ⟨List.mem_cons_of_mem a (List.mem_cons_of_mem b h₁),
          List.mem_cons_of_mem a (List.mem_cons_of_mem b h₂)⟩
  | case2 rest hrest => cases h

theorem layers_ne_nil (fuel : Nat) (l : List α) : layers pair fuel l ≠ [] := by
  cases fuel with
  | zero => exact List.cons_ne_nil _ _
  | succ fuel =>
      rw [layers]
      split
      · exact List.cons_ne_nil _ _
      · exact List.cons_ne_nil _ _

theorem exists_iterate {fuel : Nat} {l m : List α} (h : m ∈ layers pair fuel l) :
    ∃ n, m = (up pair)^[n] l := by
  induction fuel generalizing l with
  | zero => exact ⟨0, List.mem_singleton.mp h⟩
  | succ fuel ih =>
      rw [layers] at h
      split at h
      · rcases List.mem_cons.mp h with rfl | h
        · exact ⟨0, rfl⟩
        · obtain ⟨n, hn⟩ := ih h
          exact ⟨n + 1, hn⟩
      · exact ⟨0, List.mem_singleton.mp h⟩

theorem length_getLast {fuel : Nat} {l : List α} (hl : l ≠ []) (hfuel : l.length ≤ fuel) :
    ((layers pair fuel l).getLast (layers_ne_nil pair fuel l)).length = 1 := by
  have hpos := List.length_pos_iff.mpr hl
  induction fuel generalizing l with
  | zero => omega
  | succ fuel ih =>
      have hup := length_up pair l
      by_cases hlen : 1 < l.length
      · have hne : up pair l ≠ [] := List.length_pos_iff.mp (by omega)
        simp only [layers, if_pos hlen]
        rw [List.getLast_cons (layers_ne_nil pair fuel (up pair l))]
        exact ih hne (by omega) (by omega)
      · simp only [layers, if_neg hlen, List.getLast_singleton]
        omega

/-! ## A proof leads to the root -/

theorem xor_one_add_two (i : Nat) : (i + 2) ^^^ 1 = (i ^^^ 1) + 2 := by
  have htwo : Even 2 := by decide
  rcases Nat.even_or_odd i with hi | hi
  · rw [Nat.xor_one_of_even hi, Nat.xor_one_of_even (hi.add htwo)]
  · have hodd := Nat.odd_iff.mp hi
    rw [Nat.xor_one_of_odd hi, Nat.xor_one_of_odd (hi.add_even htwo)]
    omega

section
variable (hcomm : ∀ a b, pair a b = pair b a)
include hcomm

theorem climb_sibling {l : List α} {i : Nat} {x : α} (h : l[i]? = some x) :
    (up pair l)[i / 2]? = some (climb pair x l[i ^^^ 1]?.toList) := by
  fun_induction up pair l generalizing i with
  | case1 a b rest ih =>
      match i, h with
      | 0, h =>
          cases h
          rfl
      | 1, h =>
          cases h
          show some (pair a x) = some (pair x a)
          rw [hcomm]
      | i + 2, h =>
          rw [xor_one_add_two]
          have hhalf : (i + 2) / 2 = i / 2 + 1 := by omega
          rw [hhalf]
          exact ih h
  | case2 rest hrest =>
      match rest, hrest with
      | [], _ => cases h
      | [a], _ =>
          match i, h with
          | 0, h => exact h
      | a :: b :: rest, hrest => exact absurd rfl (hrest a b rest)

/-- **The proof of a node leads to the root.** -/
theorem climb_siblings {fuel : Nat} {l : List α} {i : Nat} {x : α} (hfuel : l.length ≤ fuel)
    (h : l[i]? = some x) :
    ((layers pair fuel l).getLast (layers_ne_nil pair fuel l)).head?
      = some (climb pair x (siblings (layers pair fuel l) i)) := by
  induction fuel generalizing l i x with
  | zero =>
      rw [List.length_eq_zero_iff.mp (Nat.le_zero.mp hfuel)] at h
      cases h
  | succ fuel ih =>
      have hi := (List.getElem?_eq_some_iff.mp h).1
      by_cases hlen : 1 < l.length
      · have hup := length_up pair l
        have hnext := ih (by omega) (climb_sibling pair hcomm h)
        simp only [layers, if_pos hlen]
        rw [List.getLast_cons (layers_ne_nil pair fuel (up pair l)), hnext]
        obtain ⟨next, rest, hrest⟩ :=
          List.exists_cons_of_ne_nil (layers_ne_nil pair fuel (up pair l))
        rw [hrest, siblings, climb, climb, climb, List.foldl_append]
      · match l, hi, h with
        | [a], hi, h =>
            have hzero : i = 0 := by
              rw [List.length_singleton] at hi
              omega
            subst hzero
            cases h
            rfl
        | a :: b :: rest, _, _ =>
            refine absurd ?_ hlen
            rw [List.length_cons, List.length_cons]
            omega

end

/-! ## Only a leaf leads to the root -/

/-- The nodes that are combined on the way up, the sibling second. -/
def steps (node : α) : List α → List (α × α)
  | [] => []
  | s :: proof => (node, s) :: steps (pair node s) proof

theorem climb_concat (node : α) (proof : List α) (s : α) :
    climb pair node (proof ++ [s]) = pair (climb pair node proof) s := List.foldl_append

theorem steps_concat (node : α) (proof : List α) (s : α) :
    steps pair node (proof ++ [s]) = steps pair node proof ++ [(climb pair node proof, s)] := by
  induction proof generalizing node with
  | nil => rfl
  | cons s' proof ih =>
      rw [List.cons_append, steps, steps, ih (pair node s')]
      rfl

/-- **What leads to a node above some leaves is one of the leaves**, if the combinations that are
made on the way up and in the tree are told apart, and leaves are told apart from combinations. -/
theorem mem_of_climb {l : List α} {node : α} (n : Nat) (proof : List α)
    (htree : ∀ m c, c ∈ couples ((up pair)^[m] l) → ∀ s ∈ steps pair node proof,
      pair c.1 c.2 = pair s.1 s.2 → s.1 = c.1 ∨ s.1 = c.2)
    (hleaf : ∀ x ∈ l, ∀ s ∈ steps pair node proof, x ≠ pair s.1 s.2)
    (hnode : ∀ m c, c ∈ couples ((up pair)^[m] l) → node ≠ pair c.1 c.2)
    (h : climb pair node proof ∈ (up pair)^[n] l) : node ∈ l := by
  -- down from the root: a node was carried up, or the last step of the proof made it
  induction n generalizing proof with
  | zero =>
      induction proof using List.reverseRecOn with
      | nil => exact h
      | append_singleton proof s _ =>
          rw [climb_concat] at h
          rw [steps_concat] at hleaf
          exact absurd rfl (hleaf _ h _ (List.mem_append_right _ List.mem_cons_self))
  | succ n ih =>
      rw [Function.iterate_succ_apply'] at h
      rcases mem_up pair h with h | ⟨c, hc, heq⟩
      · exact ih proof htree hleaf h
      · induction proof using List.reverseRecOn with
        | nil => exact absurd heq (hnode n c hc)
        | append_singleton proof s _ =>
            rw [climb_concat] at heq
            rw [steps_concat] at htree hleaf
            have hlast := htree n c hc _ (List.mem_append_right _ List.mem_cons_self) heq.symm
            have hbelow : climb pair node proof ∈ (up pair)^[n] l := by
              obtain ⟨h₁, h₂⟩ := mem_of_couples hc
              rcases hlast with hlast | hlast
              · rw [← hlast] at h₁
                exact h₁
              · rw [← hlast] at h₂
                exact h₂
            exact ih proof (fun m c hc t ht => htree m c hc t (List.mem_append_left _ ht))
              (fun x hx t ht => hleaf x hx t (List.mem_append_left _ ht)) hbelow

end PairTree
