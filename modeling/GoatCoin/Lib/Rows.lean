/-
# `GoatCoin.Lib.Rows` — tables as lists of rows

A statement of a transaction is a function of the rows of a table:

    setWhere p f      UPDATE … SET f WHERE p
    affected p        how many rows such a statement touches
    insertOrIgnore    INSERT OR IGNORE, for a row that may clash with those that are there

A column that no statement sets is read off any later state of the table: that is `map_setWhere`.
-/
import Mathlib.Data.List.Basic
import Mathlib.Data.List.Forall2
import Mathlib.Data.List.Nodup

namespace Rows

variable {α κ : Type}

/-- The rows that satisfy `p` are changed by `f`. -/
def setWhere (p : α → Prop) [DecidablePred p] (f : α → α) (rows : List α) : List α :=
  rows.map fun a => if p a then f a else a

/-- `rows_affected`. -/
def affected (p : α → Prop) [DecidablePred p] (rows : List α) : Nat := rows.countP p

/-- The row, unless it clashes with one that is there. -/
def insertOrIgnore (clash : α → α → Prop) [DecidableRel clash] (row : α) (rows : List α) :
    Option (List α) :=
  if ∃ a ∈ rows, clash a row then none else some (rows ++ [row])

section
variable {p : α → Prop} [DecidablePred p] {f : α → α} {rows : List α}

theorem mem_setWhere {b : α} :
    b ∈ setWhere p f rows ↔ ∃ a ∈ rows, b = if p a then f a else a := by
  simp only [setWhere, List.mem_map, eq_comm]

theorem map_setWhere_of (key : α → κ) (hkey : ∀ a, p a → key (f a) = key a) :
    (setWhere p f rows).map key = rows.map key := by
  rw [setWhere, List.map_map]
  refine List.map_congr_left fun a _ => ?_
  show key (if p a then f a else a) = key a
  by_cases h : p a
  · rw [if_pos h, hkey a h]
  · rw [if_neg h]

theorem map_setWhere (key : α → κ) (hkey : ∀ a, key (f a) = key a) :
    (setWhere p f rows).map key = rows.map key :=
  map_setWhere_of key fun a _ => hkey a

theorem affected_setWhere {q : α → Prop} [DecidablePred q] (hq : ∀ a, p a → ¬ q a ∧ ¬ q (f a)) :
    affected q (setWhere p f rows) = affected q rows := by
  rw [affected, affected, setWhere, List.countP_map]
  refine List.countP_congr fun a _ => ?_
  simp only [Function.comp_apply, decide_eq_true_eq]
  by_cases h : p a
  · rw [if_pos h]
    exact iff_of_false (hq a h).2 (hq a h).1
  · rw [if_neg h]

theorem mem_of_affected (h : affected p rows = 1) : ∃ a ∈ rows, p a := by
  have hpos : 0 < rows.countP p := by
    rw [affected] at h
    omega
  obtain ⟨a, ha, hp⟩ := List.countP_pos_iff.mp hpos
  exact ⟨a, ha, of_decide_eq_true hp⟩

theorem affected_of_key {key : α → κ} (hnodup : (rows.map key).Nodup) {a : α}
    (ha : a ∈ rows) (hp : p a) (honly : ∀ b ∈ rows, p b → key b = key a) : affected p rows = 1 := by
  rw [affected, List.countP_eq_length_filter]
  have hall : ∀ b ∈ rows.filter p, b = a := by
    intro b hb
    obtain ⟨hmem, hpb⟩ := List.mem_filter.mp hb
    exact List.inj_on_of_nodup_map hnodup hmem ha (honly b hmem (of_decide_eq_true hpb))
  have hin : a ∈ rows.filter p := List.mem_filter.mpr ⟨ha, decide_eq_true hp⟩
  have hone : (rows.filter p).Nodup := (hnodup.of_map).filter _
  match hlist : rows.filter p with
  | [] =>
      rw [hlist] at hin
      cases hin
  | [b] =>
      rw [hlist]
      rfl
  | b :: c :: rest =>
      rw [hlist] at hall hone
      have hb := hall b List.mem_cons_self
      have hc := hall c (List.mem_cons_of_mem b List.mem_cons_self)
      exact absurd (List.mem_cons.mpr (.inl (hb.trans hc.symm))) (List.nodup_cons.mp hone).1

end

/-! ### Rows before and after -/

theorem forall₂_mem_right {β : Type} {R : α → β → Prop} {rows : List α} {rows' : List β}
    (h : List.Forall₂ R rows rows') {b : β} (hb : b ∈ rows') : ∃ a ∈ rows, R a b := by
  induction h with
  | nil => cases hb
  | cons hfirst _ ih =>
      rcases List.mem_cons.mp hb with rfl | hrest
      · exact ⟨_, List.mem_cons_self, hfirst⟩
      · obtain ⟨a, ha, hab⟩ := ih hrest
        exact ⟨a, List.mem_cons_of_mem _ ha, hab⟩

section
variable {R : α → α → Prop} {rows rows' : List α}

theorem forall₂_setWhere {p : α → Prop} [DecidablePred p] {f : α → α} (hrefl : ∀ a, R a a)
    (hset : ∀ a ∈ rows, p a → R a (f a)) : List.Forall₂ R rows (setWhere p f rows) := by
  unfold setWhere
  refine List.forall₂_map_right_iff.mpr (List.forall₂_same.mpr fun a ha => ?_)
  by_cases hp : p a
  · rw [if_pos hp]
    exact hset a ha hp
  · rw [if_neg hp]
    exact hrefl a

theorem forall₂_trans (htrans : ∀ {a b c}, R a b → R b c → R a c) {rows'' : List α}
    (h : List.Forall₂ R rows rows')
    (h' : List.Forall₂ R rows' rows'') : List.Forall₂ R rows rows'' := by
  induction h generalizing rows'' with
  | nil => exact h'
  | cons hfirst _ ih =>
      cases h' with
      | cons hfirst' hrest => exact .cons (htrans hfirst hfirst') (ih hrest)

theorem forall₂_map {key : α → κ} (hkey : ∀ {a b}, R a b → key b = key a)
    (h : List.Forall₂ R rows rows') : rows'.map key = rows.map key := by
  induction h with
  | nil => rfl
  | cons hfirst _ ih => rw [List.map_cons, List.map_cons, ih, hkey hfirst]

end

theorem find?_setWhere [DecidableEq κ] (key : α → κ) {x : κ} {f : α → α} {rows : List α}
    (hf : ∀ a, key a = x → key (f a) = x) (y : κ) :
    (setWhere (fun a => key a = x) f rows).find? (fun a => key a = y)
      = if y = x then (rows.find? fun a => key a = x).map f else rows.find? fun a => key a = y := by
  induction rows with
  | nil =>
      split
      · rfl
      · rfl
  | cons a rest ih =>
      show List.find? _ ((if key a = x then f a else a) :: setWhere (fun a => key a = x) f rest) = _
      by_cases ha : key a = x
      · rw [if_pos ha]
        by_cases hy : y = x
        · subst hy
          rw [if_pos rfl, List.find?_cons_of_pos (by simpa using hf a ha),
            List.find?_cons_of_pos (by simpa using ha)]
          rfl
        · rw [if_neg hy] at ih ⊢
          have hne : ¬ x = y := fun h => hy h.symm
          rw [List.find?_cons_of_neg, List.find?_cons_of_neg, ih]
          · simpa [ha] using hne
          · simpa [hf a ha] using hne
      · rw [if_neg ha]
        by_cases hy : y = x
        · subst hy
          rw [if_pos rfl] at ih ⊢
          rw [List.find?_cons_of_neg (by simpa using ha),
            List.find?_cons_of_neg (by simpa using ha), ih]
        · rw [if_neg hy] at ih ⊢
          by_cases hay : key a = y
          · rw [List.find?_cons_of_pos (by simpa using hay),
              List.find?_cons_of_pos (by simpa using hay)]
          · rw [List.find?_cons_of_neg (by simpa using hay),
              List.find?_cons_of_neg (by simpa using hay), ih]

theorem find?_of_mem [DecidableEq κ] (key : α → κ) {rows : List α}
    (hnodup : (rows.map key).Nodup) {a : α}
    (ha : a ∈ rows) : rows.find? (fun b => key b = key a) = some a := by
  cases hfind : rows.find? fun b => key b = key a with
  | none => exact absurd (decide_eq_true rfl) (List.find?_eq_none.mp hfind a ha)
  | some b =>
      have hfound := List.find?_some hfind
      have hkey : key b = key a := of_decide_eq_true hfound
      exact congrArg some
        (List.inj_on_of_nodup_map hnodup (List.mem_of_find?_eq_some hfind) ha hkey)

theorem insertOrIgnore_some {clash : α → α → Prop} [DecidableRel clash] {row : α}
    {rows rows' : List α} :
    insertOrIgnore clash row rows = some rows' ↔
      (∀ a ∈ rows, ¬ clash a row) ∧ rows' = rows ++ [row] := by
  unfold insertOrIgnore
  by_cases h : ∃ a ∈ rows, clash a row
  · rw [if_pos h]
    obtain ⟨a, ha, hclash⟩ := h
    exact ⟨nofun, fun hall => absurd hclash (hall.1 a ha)⟩
  · rw [if_neg h]
    have hall : ∀ a ∈ rows, ¬ clash a row := fun a ha hclash => h ⟨a, ha, hclash⟩
    exact ⟨fun heq => ⟨hall, (Option.some.inj heq).symm⟩, fun heq => congrArg some heq.2.symm⟩

end Rows
