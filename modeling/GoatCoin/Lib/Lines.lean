/-
# `GoatCoin.Lib.Lines` — texts that are kept apart by a mark

A text that is written field by field can be read back where no field holds the mark that ends it.
A text of lines is read from both ends: one line in the middle may hold anything, newlines too, when
the others do not and their number is known.

    field mark field mark …            from the front
    line ⏎ … ⏎ free text ⏎ … ⏎ line    from the front and from the back
-/
import GoatCoin.Lib.Text
import GoatCoin.Lib.Hex

namespace Text

/-! ## A mark -/

theorem marked_inj {c : Char} : ∀ {a b s t : Text}, c ∉ a → c ∉ b → a ++ c :: s = b ++ c :: t →
    a = b ∧ s = t
  | [], [], s, t, _, _, h => ⟨rfl, (List.cons.inj h).2⟩
  | [], d :: b, s, t, _, hb, h => by
      have hd := (List.cons.inj h).1
      exact absurd (hd ▸ List.mem_cons_self) hb
  | d :: a, [], s, t, ha, _, h => by
      have hd := (List.cons.inj h).1
      exact absurd (hd ▸ List.mem_cons_self) ha
  | d :: a, e :: b, s, t, ha, hb, h => by
      obtain ⟨hde, htail⟩ := List.cons.inj h
      obtain ⟨hab, hst⟩ := marked_inj (fun hc => ha (List.mem_cons_of_mem _ hc))
        (fun hc => hb (List.mem_cons_of_mem _ hc)) htail
      exact ⟨by rw [hde, hab], hst⟩

theorem rmarked_inj {c : Char} {a b s t : Text} (ha : c ∉ a) (hb : c ∉ b)
    (h : s ++ c :: a = t ++ c :: b) : s = t ∧ a = b := by
  have hrev := congrArg List.reverse h
  simp only [List.reverse_append, List.reverse_cons, List.append_assoc, List.cons_append,
    List.nil_append] at hrev
  obtain ⟨hab, hst⟩ :=
    marked_inj (fun hc => ha (List.mem_reverse.mp hc)) (fun hc => hb (List.mem_reverse.mp hc)) hrev
  exact ⟨List.reverse_injective hst, List.reverse_injective hab⟩

/-! ## Lines -/

/-- `join("\n")`. -/
def joinLines : List Text → Text
  | [] => []
  | [line] => line
  | line :: rest => line ++ '\n' :: joinLines rest

theorem joinLines_cons (line : Text) {rest : List Text} (h : rest ≠ []) :
    joinLines (line :: rest) = line ++ '\n' :: joinLines rest := by
  cases rest with
  | nil => exact absurd rfl h
  | cons l rest => rfl

theorem joinLines_snoc (line : Text) : ∀ {before : List Text}, before ≠ [] →
    joinLines (before ++ [line]) = joinLines before ++ '\n' :: line
  | [], h => absurd rfl h
  | [l], _ => rfl
  | l :: m :: before, _ => by
      rw [List.cons_append,
        joinLines_cons l (List.append_ne_nil_of_left_ne_nil (List.cons_ne_nil m before) _),
        joinLines_snoc line (List.cons_ne_nil m before),
        joinLines_cons l (List.cons_ne_nil m before), List.append_assoc, List.cons_append]

theorem joinLines_front : ∀ {front front' rest rest' : List Text}, front.length = front'.length →
    rest ≠ [] → rest' ≠ [] → (∀ l ∈ front, '\n' ∉ l) → (∀ l ∈ front', '\n' ∉ l) →
    joinLines (front ++ rest) = joinLines (front' ++ rest') → front = front'
    ∧ joinLines rest = joinLines rest'
  | [], [], _, _, _, _, _, _, _, h => ⟨rfl, h⟩
  | l :: front, m :: front', rest, rest', hlen, hrest, hrest', hf, hf', h => by
      rw [List.cons_append, List.cons_append,
        joinLines_cons l (List.append_ne_nil_of_right_ne_nil _ hrest),
        joinLines_cons m (List.append_ne_nil_of_right_ne_nil _ hrest')] at h
      obtain ⟨hlm, htail⟩ := marked_inj (hf l List.mem_cons_self) (hf' m List.mem_cons_self) h
      obtain ⟨hfront, hjoin⟩ := joinLines_front (Nat.succ.inj hlen) hrest hrest'
        (fun x hx => hf x (List.mem_cons_of_mem _ hx))
          (fun x hx => hf' x (List.mem_cons_of_mem _ hx)) htail
      exact ⟨by rw [hlm, hfront], hjoin⟩

theorem joinLines_back {free free' : Text} {back back' : List Text}
    (hlen : back.length = back'.length) (hb : ∀ l ∈ back, '\n' ∉ l) (hb' : ∀ l ∈ back', '\n' ∉ l)
    (h : joinLines (free :: back) = joinLines (free' :: back')) : free = free' ∧ back = back' := by
  induction back using List.reverseRecOn generalizing back' with
  | nil =>
      have hnil : back' = [] := List.eq_nil_of_length_eq_zero hlen.symm
      subst hnil
      exact ⟨h, rfl⟩
  | append_singleton back l ih =>
      rcases List.eq_nil_or_concat back' with rfl | ⟨back'', m, rfl⟩
      · rw [List.length_append] at hlen
        exact absurd hlen (Nat.succ_ne_zero _)
      · rw [List.concat_eq_append] at hlen hb' h ⊢
        rw [← List.cons_append, ← List.cons_append, joinLines_snoc l (List.cons_ne_nil _ _),
          joinLines_snoc m (List.cons_ne_nil _ _)] at h
        obtain ⟨hinit, hlm⟩ := rmarked_inj (hb l (List.mem_append_right _ List.mem_cons_self))
          (hb' m (List.mem_append_right _ List.mem_cons_self)) h
        rw [List.length_append, List.length_append] at hlen
        obtain ⟨hfree, hback⟩ :=
          ih (Nat.add_right_cancel hlen) (fun x hx => hb x (List.mem_append_left _ hx))
          (fun x hx => hb' x (List.mem_append_left _ hx)) hinit
        exact ⟨hfree, by rw [hback, hlm]⟩

/-! ## Numbers and bytes in a text -/

/-- Base ten, without padding. -/
def decimal (n : Nat) : Text := Nat.toDigits 10 n

theorem decimal_injective : Function.Injective decimal := by
  intro m n h
  have hm := Nat.ofDigitChars_ten_toDigits (n := m)
  rw [show Nat.toDigits 10 m = Nat.toDigits 10 n from h, Nat.ofDigitChars_ten_toDigits] at hm
  exact hm.symm

theorem not_mem_decimal {c : Char} (h : c.isDigit = false) (n : Nat) : c ∉ decimal n := by
  intro hc
  have hdigit := Nat.isDigit_of_mem_toDigits (by decide) (by decide) hc
  rw [h] at hdigit
  cases hdigit

theorem newline_not_mem_hex (bs : List UInt8) : '\n' ∉ Hex.encode bs := by
  intro h
  obtain ⟨b, -, hb⟩ := List.mem_flatMap.mp h
  have hdigit : ∀ n, n < 16 → '\n' ≠ Hex.digit n := by decide
  have hlt := b.toNat_lt
  rcases List.mem_cons.mp hb with hhigh | hlow
  · exact hdigit _ (by omega) hhigh
  · exact hdigit _ (Nat.mod_lt _ (by decide)) (List.mem_singleton.mp hlow)

end Text
