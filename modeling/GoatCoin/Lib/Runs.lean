/-
# `GoatCoin.Lib.Runs` — invariants along the runs of a machine

A machine is a step function `step : S → K → S` and a run of it is a fold.  Three
rules carry what one step does to what every run does:

    invariant    I s → I (step s k)                    I in every state of every run
    throughout   I s → Ok s k → I (step s k)           I all along a run if Ok all along it
    guarded_iff  I s → (I (step s k) ↔ Ok s k)         I all along a run iff Ok all along it

The last two are about a law that a machine does not always keep: the law holds in
every state of a run if (or exactly when) every step of the run met its guard.
-/
import Mathlib.Data.List.Infix

namespace Runs

section
variable {S K : Type} {step : S → K → S} {I : S → Prop}

/-- **The invariant rule.** -/
theorem invariant (hstep : ∀ s k, I s → I (step s k)) (ks : List K) :
    ∀ s, I s → I (ks.foldl step s) := by
  induction ks with
  | nil => intro s hs; exact hs
  | cons k ks ih => intro s hs; exact ih (step s k) (hstep s k hs)

/-- A law holds in every state that a run passes through. -/
def Throughout (step : S → K → S) (I : S → Prop) (s : S) (ks : List K) : Prop :=
  ∀ before, before <+: ks → I (before.foldl step s)

/-- A guard is met by every step of a run, in the state before the step. -/
def Guarded (step : S → K → S) (Ok : S → K → Prop) (s : S) (ks : List K) : Prop :=
  ∀ before k, before ++ [k] <+: ks → Ok (before.foldl step s) k

theorem foldl_snoc (before : List K) (k : K) (s : S) :
    (before ++ [k]).foldl step s = step (before.foldl step s) k := by
  rw [List.foldl_append]
  rfl

theorem guarded_nil {Ok : S → K → Prop} {s : S} : Guarded step Ok s [] := by
  intro before k hk
  have hnil := List.prefix_nil.mp hk
  exact absurd hnil (List.append_ne_nil_of_right_ne_nil before (List.cons_ne_nil k []))

theorem guarded_snoc {Ok : S → K → Prop} {s : S} {ks : List K} {k : K} :
    Guarded step Ok s (ks ++ [k]) ↔ Guarded step Ok s ks ∧ Ok (ks.foldl step s) k := by
  constructor
  · intro h
    exact ⟨fun before k' hk' => h before k' (hk'.trans (List.prefix_append _ _)),
      h ks k (List.prefix_refl _)⟩
  · rintro ⟨h, hlast⟩ before k' hk'
    rcases List.prefix_concat_iff.mp hk' with heq | hbefore
    · obtain ⟨rfl, hk⟩ := List.append_inj' heq rfl
      cases hk
      exact hlast
    · exact h before k' hbefore

theorem guarded_append {Ok : S → K → Prop} {s : S} {ks ls : List K} (hks : Guarded step Ok s ks)
    (hls : Guarded step Ok (ks.foldl step s) ls) : Guarded step Ok s (ks ++ ls) := by
  induction ls using List.reverseRecOn with
  | nil =>
      rw [List.append_nil]
      exact hks
  | append_singleton ls k ih =>
      obtain ⟨hbefore, hlast⟩ := guarded_snoc.mp hls
      rw [← List.append_assoc, guarded_snoc, List.foldl_append]
      exact ⟨ih hbefore, hlast⟩

theorem guarded_cons {Ok : S → K → Prop} {s : S} {k : K} {ks : List K} (hk : Ok s k)
    (hks : Guarded step Ok (step s k) ks) : Guarded step Ok s (k :: ks) := by
  have hone : Guarded step Ok s ([] ++ [k]) := guarded_snoc.mpr ⟨guarded_nil, hk⟩
  exact guarded_append hone hks

theorem Guarded.before {Ok : S → K → Prop} {s : S} {ks before : List K} (h : Guarded step Ok s ks)
    (hbefore : before <+: ks) : Guarded step Ok s before :=
  fun ls k hk => h ls k (hk.trans hbefore)

/-- A law holds all along a run whose steps all meet its guard. -/
theorem throughout_of_guarded {Ok : S → K → Prop}
    (hstep : ∀ s k, I s → Ok s k → I (step s k)) {s : S}
    (hs : I s) {ks : List K} (h : Guarded step Ok s ks) : Throughout step I s ks := by
  intro before hbefore
  induction before using List.reverseRecOn with
  | nil => exact hs
  | append_singleton before k ih =>
      have hlaw := ih ((List.prefix_append before [k]).trans hbefore)
      rw [foldl_snoc]
      exact hstep _ k hlaw (h before k hbefore)

/-- **The guard rule**, for a law that is read beside an invariant `J` of every run. -/
theorem guarded_iff_under {J : S → Prop} {Ok : S → K → Prop} (hJ : ∀ s k, J s → J (step s k))
    (hstep : ∀ s k, J s → I s → (I (step s k) ↔ Ok s k)) {s : S} (hJs : J s)
    (hs : I s) (ks : List K) : Throughout step I s ks ↔ Guarded step Ok s ks := by
  have hinv : ∀ before : List K, J (before.foldl step s) := fun before => invariant hJ before s hJs
  constructor
  · intro h before k hk
    have hbefore : before <+: ks := (List.prefix_append before [k]).trans hk
    have hafter := h _ hk
    rw [foldl_snoc] at hafter
    exact (hstep _ k (hinv before) (h before hbefore)).mp hafter
  · intro h before hbefore
    have hboth : Throughout step (fun s => J s ∧ I s) s ks :=
      throughout_of_guarded (fun s k hlaw hk => ⟨hJ s k hlaw.1, (hstep s k hlaw.1 hlaw.2).mpr hk⟩)
        ⟨hJs, hs⟩ h
    exact (hboth before hbefore).2

/-- **The guard rule.** -/
theorem guarded_iff {Ok : S → K → Prop} (hstep : ∀ s k, I s → (I (step s k) ↔ Ok s k)) {s : S}
    (hs : I s) (ks : List K) : Throughout step I s ks ↔ Guarded step Ok s ks :=
  guarded_iff_under (J := fun _ => True) (fun _ _ _ => trivial)
    (fun s k _ h => hstep s k h) trivial hs ks

end

end Runs
