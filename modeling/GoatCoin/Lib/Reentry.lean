/-
# `GoatCoin.Lib.Reentry` — calls that hand control over before they return

A call does its own part in one step and may then hand control to someone else,
who makes further calls before it returns:

    call k         the one in control calls; if the call hands over, it stays open
    enter          someone else's code is entered
    leave true     the innermost open call returns
    leave false    it fails: everything since it was opened is undone

An execution is any list of these events, so calls nest as deep as they like, on
whatever they like.  It keeps the calls in effect, those that were made and not
undone.  The rule `invariant` needs one look at a single call: what every call that
succeeds preserves, holds at every moment of every execution, of the state and of the
calls in effect, in the open calls too.
-/
import Mathlib.Data.List.Infix

namespace Reentry

inductive Event (K : Type) where
  | call (k : K)
  | enter
  | leave (ok : Bool)

/-- A state, the calls in effect, and for every open call what it goes back to. -/
structure Exec (S K : Type) where
  state : S
  history : List K
  frames : List (S × List K)

section
variable {S K H ε : Type} (step : S → K → Except ε (S × H)) (yields : H → Bool)

def start (s : S) : Exec S K := ⟨s, [], []⟩

/-- Open a call in the present state. -/
def Exec.open (x : Exec S K) : List (S × List K) := (x.state, x.history) :: x.frames

def next (x : Exec S K) : Event K → Exec S K
  | .call k =>
      match step x.state k with
      | .error _ => x
      | .ok (s, h) =>
          { state := s
            history := x.history ++ [k]
            frames := if yields h then x.open else x.frames }
  | .enter => { x with frames := x.open }
  | .leave true => { x with frames := x.frames.tail }
  | .leave false =>
      match x.frames with
      | [] => x
      | (s, ks) :: frames => ⟨s, ks, frames⟩

section
variable {step} {yields} {x : Exec S K}

theorem next_error {k : K} {e : ε} (h : step x.state k = .error e) :
    next step yields x (.call k) = x := by
  simp only [next, h]

theorem next_ok {k : K} {r : S × H} (h : step x.state k = .ok r) :
    next step yields x (.call k)
      = ⟨r.1, x.history ++ [k], if yields r.2 then x.open else x.frames⟩ := by
  simp only [next, h]

theorem next_fail_nil (h : x.frames = []) : next step yields x (.leave false) = x := by
  simp only [next, h]

theorem next_fail_cons {f : S × List K} {frames : List (S × List K)} (h : x.frames = f :: frames) :
    next step yields x (.leave false) = ⟨f.1, f.2, frames⟩ := by
  simp only [next, h]

end

def exec (s : S) (events : List (Event K)) : Exec S K := events.foldl (next step yields) (start s)

/-! ## What every call preserves -/

/-- The state and the calls in effect, now and in every open call. -/
def Exec.Holds (P : List K → S → Prop) (x : Exec S K) : Prop :=
  P x.history x.state ∧ ∀ f ∈ x.frames, P f.2 f.1

theorem Exec.Holds.open {P : List K → S → Prop} {x : Exec S K} (hx : x.Holds P) :
    ∀ f ∈ x.open, P f.2 f.1 := by
  intro f hf
  rcases List.mem_cons.mp hf with rfl | hf
  · exact hx.1
  · exact hx.2 f hf

variable {step yields}

theorem next_holds {P : List K → S → Prop}
    (hstep : ∀ ks s k s' h, P ks s → step s k = .ok (s', h) → P (ks ++ [k]) s') {x : Exec S K}
    (hx : x.Holds P) (event : Event K) : (next step yields x event).Holds P := by
  cases event with
  | call k =>
      cases hs : step x.state k with
      | error e =>
          rw [next_error hs]
          exact hx
      | ok r =>
          rw [next_ok hs]
          refine ⟨hstep _ _ k r.1 r.2 hx.1 hs, ?_⟩
          show ∀ f ∈ (if yields r.2 then x.open else x.frames), P f.2 f.1
          split
          · exact hx.open
          · exact hx.2
  | enter => exact ⟨hx.1, hx.open⟩
  | leave ok =>
      cases ok with
      | true => exact ⟨hx.1, fun f hf => hx.2 f (List.mem_of_mem_tail hf)⟩
      | false =>
          cases hframes : x.frames with
          | nil =>
              rw [next_fail_nil hframes]
              exact hx
          | cons f frames =>
              rw [Exec.Holds, hframes] at hx
              rw [next_fail_cons hframes]
              exact ⟨hx.2 f List.mem_cons_self, fun f' hf => hx.2 f' (List.mem_cons_of_mem _ hf)⟩

/-- **The invariant rule.** -/
theorem invariant {P : List K → S → Prop} {s : S} (hstart : P [] s)
    (hstep : ∀ ks s k s' h, P ks s → step s k = .ok (s', h) → P (ks ++ [k]) s')
    (events : List (Event K)) : (exec step yields s events).Holds P := by
  induction events using List.reverseRecOn with
  | nil => exact ⟨hstart, nofun⟩
  | append_singleton events event ih =>
      rw [exec, List.foldl_append]
      exact next_holds hstep ih event

/-! ## A call that fails -/

theorem frames_kept {x : Exec S K} {outer : List (S × List K)} :
    ∀ inner : List (Event K), (∃ opened, x.frames = opened ++ outer) →
      (∀ before, before <+: inner →
        outer.length ≤ (before.foldl (next step yields) x).frames.length) →
      ∃ opened, (inner.foldl (next step yields) x).frames = opened ++ outer := by
  intro inner
  induction inner using List.reverseRecOn with
  | nil => intro h _; exact h
  | append_singleton inner event ih =>
      intro h hdepth
      obtain ⟨opened, hopened⟩ :=
        ih h fun before hb => hdepth before (hb.trans (List.prefix_append ..))
      have hlast := hdepth (inner ++ [event]) (List.prefix_refl _)
      rw [List.foldl_append] at hlast ⊢
      generalize inner.foldl (next step yields) x = y at hopened hlast ⊢
      change outer.length ≤ (next step yields y event).frames.length at hlast
      show ∃ opened, (next step yields y event).frames = opened ++ outer
      have hpush : ∃ opened, y.open = opened ++ outer :=
        ⟨(y.state, y.history) :: opened, congrArg (List.cons _) hopened⟩
      -- closing the last of the opened calls is the only way to reach the outer ones
      have hpop : ∀ tail : List (S × List K), y.frames.tail = tail → outer.length ≤ tail.length →
          ∃ opened, tail = opened ++ outer := by
        intro tail htail hlen
        rw [hopened] at htail
        cases opened with
        | cons f opened => exact ⟨opened, htail.symm⟩
        | nil =>
            cases outer with
            | nil => exact ⟨tail, (List.append_nil tail).symm⟩
            | cons g outer =>
                rw [← htail] at hlen
                exact absurd hlen (Nat.not_succ_le_self _)
      cases event with
      | call k =>
          cases hs : step y.state k with
          | error e =>
              rw [next_error hs]
              exact ⟨opened, hopened⟩
          | ok r =>
              rw [next_ok hs]
              show ∃ opened, (if yields r.2 then y.open else y.frames) = opened ++ outer
              split
              · exact hpush
              · exact ⟨opened, hopened⟩
      | enter => exact hpush
      | leave ok =>
          cases ok with
          | true => exact hpop _ rfl hlast
          | false =>
              cases hframes : y.frames with
              | nil =>
                  rw [next_fail_nil hframes]
                  exact ⟨opened, hopened⟩
              | cons f frames =>
                  rw [next_fail_cons hframes] at hlast ⊢
                  exact hpop _ (congrArg List.tail hframes) hlast

/-- **A call that handed over and then fails leaves everything as it was before it**,
whatever was done while it was open. -/
theorem failed_call {x : Exec S K} {k : K} {s : S} {h : H} {inner : List (Event K)}
    (hcall : step x.state k = .ok (s, h)) (hyields : yields h = true)
    (hopen : ∀ before, before <+: inner →
      x.frames.length
      < (before.foldl (next step yields) (next step yields x (.call k))).frames.length)
    (hclosed : (inner.foldl (next step yields) (next step yields x (.call k))).frames.length
      = x.frames.length + 1) :
    next step yields (inner.foldl (next step yields) (next step yields x (.call k))) (.leave false)
      = x := by
  have hopened : (next step yields x (.call k)).frames = x.open := by
    rw [next_ok hcall]
    exact if_pos hyields
  obtain ⟨opened, hframes⟩ := frames_kept inner ⟨[], hopened⟩ hopen
  have hnone : opened = [] := by
    rw [hframes, List.length_append, List.length_cons] at hclosed
    exact List.length_eq_zero_iff.mp (by omega)
  rw [hnone, List.nil_append] at hframes
  generalize inner.foldl (next step yields) (next step yields x (.call k)) = y at hframes ⊢
  exact next_fail_cons hframes

end

end Reentry
