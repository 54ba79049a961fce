/-
# `GoatCoin.Lib.Turns` — windows that follow one another

Things with a window `[start, stop)` are taken in turn: each begins no earlier than the last one has
ended.

    ───[ a )────[ b )[ c )──────▶       ws = [a, b, c]

A list in turn grows at its end, and to know that a new window is clear of all the others it is
enough to look at the last.  The times at which the windows were cut need not grow, and nothing is
said about who has cut them.
-/
import Mathlib.Data.List.Pairwise
import Mathlib.Order.Lattice

namespace Turns

variable {α τ : Type} [LinearOrder τ]

/-- Every window is open for a moment, and ends before the next ones begin. -/
structure InTurn (start stop : α → τ) (ws : List α) : Prop where
  opens : ∀ w ∈ ws, start w < stop w
  order : ws.Pairwise fun a b => stop a ≤ start b

variable {start stop : α → τ} {ws : List α}

theorem inTurn_nil : InTurn start stop [] :=
  ⟨fun _ hw => absurd hw List.not_mem_nil, List.Pairwise.nil⟩

/-- **No window ends after the last.** -/
theorem InTurn.stop_le_last (h : InTurn start stop ws) {last : α}
    (hlast : ws.getLast? = some last) {w : α} (hw : w ∈ ws) : stop w ≤ stop last := by
  obtain ⟨before, rfl⟩ := List.getLast?_eq_some_iff.mp hlast
  rcases List.mem_append.mp hw with hbefore | hlast
  · have horder := (List.pairwise_append.mp h.order).2.2 w hbefore last List.mem_cons_self
    exact horder.trans (h.opens last (List.mem_append_right before List.mem_cons_self)).le
  · rw [List.mem_singleton.mp hlast]

/-- **The next window**: it begins when the last one has ended. -/
theorem InTurn.snoc (h : InTurn start stop ws) {next : α} (hopen : start next < stop next)
    (hafter : ∀ last ∈ ws.getLast?, stop last ≤ start next) : InTurn start stop (ws ++ [next]) := by
  refine ⟨?_, ?_⟩
  · intro w hw
    rcases List.mem_append.mp hw with hold | hnew
    · exact h.opens w hold
    · rw [List.mem_singleton.mp hnew]
      exact hopen
  · refine List.pairwise_append.mpr ⟨h.order, List.pairwise_singleton _ _, ?_⟩
    intro w hw b hb
    rw [List.mem_singleton.mp hb]
    cases hlast : ws.getLast? with
    | none =>
        rw [List.getLast?_eq_none_iff.mp hlast] at hw
        cases hw
    | some last => exact (h.stop_le_last hlast hw).trans (hafter last hlast)

/-- **Two windows of the list are one, or apart.** -/
theorem InTurn.apart (h : InTurn start stop ws) {a b : α} (ha : a ∈ ws) (hb : b ∈ ws) :
    a = b ∨ stop a ≤ start b ∨ stop b ≤ start a := by
  obtain ⟨i, hi, rfl⟩ := List.mem_iff_getElem.mp ha
  obtain ⟨j, hj, rfl⟩ := List.mem_iff_getElem.mp hb
  have horder := List.pairwise_iff_getElem.mp h.order
  rcases Nat.lt_trichotomy i j with hlt | heq | hgt
  · exact .inr (.inl (horder i j hi hj hlt))
  · subst heq
    exact .inl rfl
  · exact .inr (.inr (horder j i hj hi hgt))

end Turns
