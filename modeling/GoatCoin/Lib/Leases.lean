/-
# `GoatCoin.Lib.Leases` — things that are claimed, and spent or given back

Parties `ι` claim things of type `κ` out of a shared pool.  What a party holds it may spend, once,
or give back to the pool; what is spent stays out of the pool for good:

    claim   a free thing, by a party that holds nothing
    spend   the thing is spent, and its party holds nothing
    give    its party holds nothing, and the thing may be free again

A pool is exclusive if a thing is held by one party at most, spent once at most, and never both.
Every step keeps that.
-/
import Mathlib.Logic.Function.Basic
import Mathlib.Data.List.Nodup

namespace Leases

open Function (update update_self update_of_ne)

/-- What is out of the pool, who holds what, and what has been spent. -/
structure Pool (ι κ : Type) where
  taken : κ → Prop
  holds : ι → Option κ
  spent : List κ

variable {ι κ : Type}

/-- **One step of the parties.** -/
inductive Step [DecidableEq ι] (s s' : Pool ι κ) : Prop where
  | keep (taken : ∀ k, s'.taken k ↔ s.taken k) (holds : s'.holds = s.holds)
    (spent : s'.spent = s.spent)
  | claim (i : ι) (k : κ) (free : ¬ s.taken k) (idle : s.holds i = none)
      (taken : s'.taken k) (others : ∀ l, l ≠ k → (s'.taken l ↔ s.taken l))
      (holds : s'.holds = update s.holds i (some k)) (spent : s'.spent = s.spent)
  | spend (i : ι) (k : κ) (held : s.holds i = some k) (taken : ∀ l, s'.taken l ↔ s.taken l)
      (holds : s'.holds = update s.holds i none) (spent : s'.spent = s.spent ++ [k])
  | give (i : ι) (k : κ) (held : s.holds i = some k) (others : ∀ l, l ≠ k →
    (s'.taken l ↔ s.taken l))
      (holds : s'.holds = update s.holds i none) (spent : s'.spent = s.spent)

/-- A thing is in one place at most. -/
structure Exclusive (s : Pool ι κ) : Prop where
  held : ∀ i k, s.holds i = some k → s.taken k
  apart : ∀ i j k, s.holds i = some k → s.holds j = some k → i = j
  out : ∀ k ∈ s.spent, s.taken k ∧ ∀ i, s.holds i ≠ some k
  once : s.spent.Nodup

variable [DecidableEq ι]

theorem holds_update_none {s : Pool ι κ} {i j : ι} {k : κ}
    (h : update s.holds i none j = some k) : j ≠ i ∧ s.holds j = some k := by
  by_cases hij : j = i
  · rw [hij, update_self] at h
    cases h
  · rw [update_of_ne hij] at h
    exact ⟨hij, h⟩

theorem holds_update_some {s : Pool ι κ} {i j : ι} {k l : κ}
    (h : update s.holds i (some k) j = some l) : (j = i ∧ l = k) ∨ s.holds j = some l := by
  by_cases hij : j = i
  · rw [hij, update_self] at h
    exact .inl ⟨hij, (Option.some.inj h).symm⟩
  · rw [update_of_ne hij] at h
    exact .inr h

/-- **Every step keeps a pool exclusive.** -/
theorem Exclusive.step {s s' : Pool ι κ} (hs : Exclusive s) (h : Step s s') : Exclusive s' := by
  cases h with
  | keep taken holds spent =>
      refine ⟨fun i k hi => ?_, fun i j k hi hj => ?_, fun k hk => ?_, ?_⟩
      · rw [holds] at hi
        exact (taken k).mpr (hs.held i k hi)
      · rw [holds] at hi hj
        exact hs.apart i j k hi hj
      · rw [spent] at hk
        rw [holds]
        exact ⟨(taken k).mpr (hs.out k hk).1, (hs.out k hk).2⟩
      · rw [spent]
        exact hs.once
  | claim i k free idle taken others holds spent =>
      -- what is taken in `s` is not the thing that is claimed
      have hne : ∀ l, s.taken l → l ≠ k := fun l hl heq => free (heq ▸ hl)
      refine ⟨fun j l hj => ?_, fun j j' l hj hj' => ?_, fun l hl => ?_, ?_⟩
      · rw [holds] at hj
        rcases holds_update_some hj with ⟨-, rfl⟩ | hj
        · exact taken
        · have hl := hs.held j l hj
          exact (others l (hne l hl)).mpr hl
      · rw [holds] at hj hj'
        rcases holds_update_some hj with ⟨rfl, rfl⟩ | hold
        · rcases holds_update_some hj' with ⟨rfl, -⟩ | hold'
          · rfl
          · exact absurd (hs.held j' l hold') free
        · rcases holds_update_some hj' with ⟨-, rfl⟩ | hold'
          · exact absurd (hs.held j l hold) free
          · exact hs.apart j j' l hold hold'
      · rw [spent] at hl
        obtain ⟨htaken, hout⟩ := hs.out l hl
        refine ⟨(others l (hne l htaken)).mpr htaken, fun j hj => ?_⟩
        rw [holds] at hj
        rcases holds_update_some hj with ⟨-, rfl⟩ | hj
        · exact free htaken
        · exact hout j hj
      · rw [spent]
        exact hs.once
  | spend i k held taken holds spent =>
      refine ⟨fun j l hj => ?_, fun j j' l hj hj' => ?_, fun l hl => ?_, ?_⟩
      · rw [holds] at hj
        exact (taken l).mpr (hs.held j l (holds_update_none hj).2)
      · rw [holds] at hj hj'
        exact hs.apart j j' l (holds_update_none hj).2 (holds_update_none hj').2
      · rw [spent, List.mem_append, List.mem_singleton] at hl
        rcases hl with hl | rfl
        · obtain ⟨htaken, hout⟩ := hs.out l hl
          refine ⟨(taken l).mpr htaken, fun j hj => ?_⟩
          rw [holds] at hj
          exact hout j (holds_update_none hj).2
        · refine ⟨(taken l).mpr (hs.held i l held), fun j hj => ?_⟩
          rw [holds] at hj
          obtain ⟨hne, hj⟩ := holds_update_none hj
          exact hne (hs.apart j i l hj held)
      · rw [spent, List.nodup_append]
        refine ⟨hs.once, List.nodup_singleton k, fun a ha b hb heq => ?_⟩
        rw [heq, List.mem_singleton.mp hb] at ha
        exact (hs.out k ha).2 i held
  | give i k held others holds spent =>
      -- what another party holds, or what is spent, is not the thing that is given back
      refine ⟨fun j l hj => ?_, fun j j' l hj hj' => ?_, fun l hl => ?_, ?_⟩
      · rw [holds] at hj
        obtain ⟨hne, hj⟩ := holds_update_none hj
        have hlk : l ≠ k := fun heq => hne (hs.apart j i l hj (heq ▸ held))
        exact (others l hlk).mpr (hs.held j l hj)
      · rw [holds] at hj hj'
        exact hs.apart j j' l (holds_update_none hj).2 (holds_update_none hj').2
      · rw [spent] at hl
        obtain ⟨htaken, hout⟩ := hs.out l hl
        have hlk : l ≠ k := fun heq => hout i (heq ▸ held)
        refine ⟨(others l hlk).mpr htaken, fun j hj => ?_⟩
        rw [holds] at hj
        exact hout j (holds_update_none hj).2
      · rw [spent]
        exact hs.once

end Leases
