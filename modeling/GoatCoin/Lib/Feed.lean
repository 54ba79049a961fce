/-
# `GoatCoin.Lib.Feed` — machines that feed a deduplicating queue

A machine takes one input at a time and may emit one value at each:

    step : S → K → S          out : S → K → Option α

`Feeds` says that a reading `q` of its state is a bounded queue of the values it
has emitted, each of them absent when it was emitted.  A run of any length then
pushes its emissions, in order (`Feeds.run`), and the window of the queue is a
window of the machine: a value is emitted twice only if `N` distinct others were
emitted in between (`Feeds.window`).
-/
import Mathlib.Data.Finset.Card
import GoatCoin.Lib.Ring

namespace Feed

section
variable {S K α : Type} (step : S → K → S) (out : S → K → Option α)

/-- What a run emits, in order. -/
def emitted : S → List K → List α
  | _, [] => []
  | s, k :: ks =>
      match out s k with
      | none => emitted (step s k) ks
      | some x => x :: emitted (step s k) ks

/-- Every input either leaves the queue alone or pushes a value it did not hold. -/
def Feeds (N : Nat) (q : S → List α) : Prop :=
  ∀ s k, (out s k = none ∧ q (step s k) = q s) ∨
    ∃ x, out s k = some x ∧ x ∉ q s ∧ q (step s k) = Ring.push N (q s) x

variable {step out} {N : Nat} {q : S → List α}

theorem emitted_of_none {s : S} {k : K} {ks : List K} (h : out s k = none) :
    emitted step out s (k :: ks) = emitted step out (step s k) ks := by
  rw [emitted, h]

theorem emitted_of_some {s : S} {k : K} {ks : List K} {x : α} (h : out s k = some x) :
    emitted step out s (k :: ks) = x :: emitted step out (step s k) ks := by
  rw [emitted, h]

theorem Feeds.of_some (hf : Feeds step out N q) {s : S} {k : K} {x : α} (h : out s k = some x) :
    x ∉ q s ∧ q (step s k) = Ring.push N (q s) x := by
  rcases hf s k with ⟨hnone, -⟩ | ⟨y, hy, hnew, hpush⟩
  · rw [h] at hnone
    cases hnone
  · rw [h] at hy
    cases hy
    exact ⟨hnew, hpush⟩

/-- **A run pushes its emissions**, each of them fresh. -/
theorem Feeds.run (hf : Feeds step out N q) (ks : List K) :
    ∀ s, q (ks.foldl step s) = (emitted step out s ks).foldl (Ring.push N) (q s)
      ∧ Ring.Fresh N (q s) (emitted step out s ks) := by
  induction ks with
  | nil => intro s; exact ⟨rfl, trivial⟩
  | cons k ks ih =>
      intro s
      obtain ⟨hqueue, hfresh⟩ := ih (step s k)
      rcases hf s k with ⟨hnone, hq⟩ | ⟨x, hx, hnew, hq⟩
      · rw [hq] at hqueue hfresh
        rw [emitted_of_none hnone]
        exact ⟨hqueue, hfresh⟩
      · rw [hq] at hqueue hfresh
        rw [emitted_of_some hx]
        exact ⟨hqueue, hnew, hfresh⟩

theorem Feeds.nodup_run (hf : Feeds step out N q) {s : S} (hs : (q s).Nodup) (ks : List K) :
    (q (ks.foldl step s)).Nodup := by
  obtain ⟨hqueue, hfresh⟩ := hf.run ks s
  rw [hqueue]
  exact Ring.Fresh.nodup_foldl _ hs hfresh

/-- **The window.**  Between two emissions of one value lie `N` distinct others. -/
theorem Feeds.window [DecidableEq α] (hf : Feeds step out N q) (hN : 0 < N) {s : S}
    (hnd : (q s).Nodup) (hlen : (q s).length ≤ N) {first again : K} {mid : List K} {x : α}
    (hfirst : out s first = some x) (hagain : out (mid.foldl step (step s first)) again = some x) :
    N ≤ ((emitted step out (step s first) mid).toFinset.erase x).card := by
  obtain ⟨hnew, hpush⟩ := hf.of_some hfirst
  obtain ⟨hgone, -⟩ := hf.of_some hagain
  obtain ⟨hqueue, hfresh⟩ := hf.run mid (step s first)
  rw [hqueue] at hgone
  rw [hpush] at hfresh hgone
  obtain ⟨hle, hxs⟩ := hfresh.window hN hlen hnd hnew hgone
  generalize emitted step out (step s first) mid = ys at hle hxs ⊢
  rw [List.nodup_cons] at hxs
  calc N = (ys.take N).toFinset.card := by
        rw [List.toFinset_card_of_nodup hxs.2, List.length_take, Nat.min_eq_left hle]
    _ ≤ (ys.toFinset.erase x).card := by
        refine Finset.card_le_card fun y hy => ?_
        rw [List.mem_toFinset] at hy
        rw [Finset.mem_erase, List.mem_toFinset]
        exact ⟨fun h => hxs.1 (h ▸ hy), List.mem_of_mem_take hy⟩

end

end Feed
