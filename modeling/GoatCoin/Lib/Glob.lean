/-
# `GoatCoin.Lib.Glob` — patterns whose pieces are taken where they first occur

A pattern is a word in which one letter, the star, stands for any run of letters.  Cut at its stars
it is a list of pieces, and a word is matched up to some point if the first piece starts it and the
others occur after that, in order and apart:

    p = s₀ * s₁ * … * sₖ          w = s₀ ⬝ g₁ s₁ ⬝ … ⬝ gₖ sₖ ⬝ rest

`Occurs [s₁, …, sₖ] w rest` is the part after `s₀`.  Taking each piece at its first occurrence
leaves the longest rest there is (`Occurs.extend`), so it decides whether some rest is left, and not
whether the empty one is.
-/
import Mathlib.Data.List.Infix

namespace Glob

variable {α : Type}

/-- The word is the pattern with a run of letters for each star. -/
inductive Matches (star : α) : List α → List α → Prop
  | nil : Matches star [] []
  | run {pattern word : List α} (letters : List α) :
      Matches star pattern word → Matches star (star :: pattern) (letters ++ word)
  | letter {pattern word : List α} {c : α} :
      c ≠ star → Matches star pattern word → Matches star (c :: pattern) (c :: word)

/-- The pieces occur one after the other, and `rest` is what is left. -/
def Occurs : List (List α) → (word rest : List α) → Prop
  | [], word, rest => rest = word
  | piece :: pieces, word, rest => ∃ gap after, word = gap ++ (piece ++ after)
    ∧ Occurs pieces after rest

/-- **A longer word leaves as long a rest.** -/
theorem Occurs.extend {pieces : List (List α)} {word longer rest : List α}
    (h : Occurs pieces word rest)
    (hlonger : word <:+ longer) : ∃ rest', Occurs pieces longer rest'
    ∧ rest.length ≤ rest'.length := by
  cases pieces with
  | nil =>
      obtain rfl : rest = word := h
      exact ⟨longer, rfl, hlonger.length_le⟩
  | cons piece pieces =>
      obtain ⟨gap, after, rfl, hafter⟩ := h
      obtain ⟨before, rfl⟩ := hlonger
      exact ⟨rest, ⟨before ++ gap, after, (List.append_assoc _ _ _).symm, hafter⟩, le_rfl⟩

variable [DecidableEq α]

/-- **A pattern and its pieces.** -/
theorem matches_iff_occurs {star : α} {pattern : List α} :
    ∀ {first : List α} {pieces : List (List α)},
    pattern.splitOn star = first :: pieces → ∀ {word rest : List α},
      (∃ front, word = front ++ rest ∧ Matches star pattern front)
        ↔ ∃ after, word = first ++ after ∧ Occurs pieces after rest := by
  induction pattern with
  | nil =>
      intro first pieces hsplit word rest
      obtain ⟨rfl, rfl⟩ := List.cons.inj (List.splitOn_nil star ▸ hsplit)
      constructor
      · rintro ⟨front, rfl, h⟩
        cases h
        exact ⟨rest, rfl, rfl⟩
      · rintro ⟨after, rfl, rfl⟩
        exact ⟨[], rfl, .nil⟩
  | cons c pattern ih =>
      intro first pieces hsplit word rest
      obtain ⟨second, others, hrest⟩ :=
        List.exists_cons_of_ne_nil (List.splitOn_ne_nil star pattern)
      rw [List.splitOn_cons_eq_if_modifyHead, hrest] at hsplit
      by_cases hstar : c = star
      · rw [if_pos (beq_iff_eq.mpr hstar)] at hsplit
        obtain ⟨rfl, rfl⟩ := List.cons.inj hsplit
        subst hstar
        constructor
        · rintro ⟨front, rfl, h⟩
          cases h with
          | letter hne _ => exact absurd rfl hne
          | @run _ tail letters h =>
              obtain ⟨after, htail, hafter⟩ := (ih hrest).mp ⟨tail, rfl, h⟩
              exact ⟨letters ++ tail ++ rest, rfl, letters,
                after, by rw [List.append_assoc, htail], hafter⟩
        · rintro ⟨after, rfl, gap, tail, rfl, h⟩
          obtain ⟨front, hfront, hmatch⟩ := (ih hrest).mpr ⟨tail, rfl, h⟩
          exact ⟨gap ++ front, by rw [List.append_assoc, ← hfront], .run gap hmatch⟩
      · rw [if_neg (by simpa using hstar)] at hsplit
        obtain ⟨rfl, rfl⟩ := List.cons.inj hsplit
        constructor
        · rintro ⟨front, rfl, h⟩
          cases h with
          | run letters _ => exact absurd rfl hstar
          | @letter _ tail _ _ h =>
              obtain ⟨after, htail, hafter⟩ := (ih hrest).mp ⟨tail, rfl, h⟩
              exact ⟨after, congrArg (c :: ·) htail, hafter⟩
        · rintro ⟨after, rfl, h⟩
          obtain ⟨front, hfront, hmatch⟩ := (ih hrest).mpr ⟨after, rfl, h⟩
          exact ⟨c :: front, congrArg (c :: ·) hfront, .letter hstar hmatch⟩

end Glob
