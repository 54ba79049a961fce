/-
# `GoatCoin.Lib.Evm` — fallible steps, checked words and sums over mappings

A call either succeeds with a new state or reverts and leaves the old one, so a
call is a function into `Except`, and what a caller sees of it is

    attempt step s k   =   the state after the call, or `s` if it reverts

Words are natural numbers; arithmetic that must not leave its width is checked:

    require c e              revert with `e` unless `c`
    checked w n e            `n`, or revert if it needs more than `w` bits
    checkedSub a b e         `a - b`, or revert if it is negative

Each comes with the equivalence that inverts a successful call; together with
`bind_ok` they turn a call that returned into the list of what it checked.  Two calls
that read the same go `Together`: they fail alike or succeed with related results.  A
mapping over a finite type of keys has a total, and writing one key changes the
total by what was written (`sum_update`).
-/
import Mathlib.Algebra.BigOperators.Group.Finset.Basic
import Mathlib.Algebra.BigOperators.Group.Finset.Piecewise
import Mathlib.Algebra.Order.BigOperators.Group.Finset
import Mathlib.Data.ZMod.Defs

namespace Evm

open Function (update update_self update_of_ne)

/-- An unsigned word of `w` bits. -/
abbrev Word (w : Nat) := Fin (2 ^ w)

abbrev Uint256 := Word 256
abbrev Bytes32 := Word 256
abbrev Address := Word 160

-- A numeral of a word asks for these, and a set of words for the last two.
instance ne_zero_word8 : NeZero (2 ^ 8) := ⟨by decide⟩
instance ne_zero_word16 : NeZero (2 ^ 16) := ⟨by decide⟩
instance ne_zero_word32 : NeZero (2 ^ 32) := ⟨by decide⟩
instance ne_zero_word48 : NeZero (2 ^ 48) := ⟨by decide⟩
instance ne_zero_word64 : NeZero (2 ^ 64) := ⟨by decide⟩
instance ne_zero_word128 : NeZero (2 ^ 128) := ⟨by decide⟩
instance ne_zero_word160 : NeZero (2 ^ 160) := ⟨by decide⟩
instance ne_zero_word256 : NeZero (2 ^ 256) := ⟨by decide⟩
instance lawful_word64 : LawfulBEq (Word 64) := inferInstance
instance lawful_bytes32 : LawfulBEq Bytes32 := inferInstance

/-- `type(uint256).max`. -/
def maxUint256 : Nat := 2 ^ 256 - 1

/-! ## Calls that may revert -/

section
variable {ε α β : Type}

def require (c : Prop) [Decidable c] (e : ε) : Except ε Unit := if c then .ok () else .error e

def checked (w n : Nat) (e : ε) : Except ε Nat := if n < 2 ^ w then .ok n else .error e

def checkedSub (a b : Nat) (e : ε) : Except ε Nat := if b ≤ a then .ok (a - b) else .error e

theorem bind_ok {x : Except ε α} {f : α → Except ε β} {b : β} :
    (x >>= f) = .ok b ↔ ∃ a, x = .ok a ∧ f a = .ok b := by
  cases x with
  | error e => exact ⟨nofun, fun ⟨_, h, _⟩ => nomatch h⟩
  | ok a => exact ⟨fun h => ⟨a, rfl, h⟩, fun ⟨_, h, hf⟩ => by cases h; exact hf⟩

theorem bind_error {x : Except ε α} {f : α → Except ε β} {e : ε} :
    (x >>= f) = .error e ↔ x = .error e ∨ ∃ a, x = .ok a ∧ f a = .error e := by
  cases x with
  | error e' =>
      constructor
      · intro h
        cases h
        exact .inl rfl
      · rintro (h | ⟨_, h, _⟩)
        · cases h
          rfl
        · cases h
  | ok a =>
      refine ⟨fun h => .inr ⟨a, rfl, h⟩, fun h => h.elim nofun ?_⟩
      rintro ⟨_, h, hf⟩
      cases h
      exact hf

theorem require_ok {c : Prop} [Decidable c] {e : ε} {u : Unit} : require c e = .ok u ↔ c := by
  unfold require
  split
  · rename_i h
    exact ⟨fun _ => h, fun _ => rfl⟩
  · rename_i h
    exact ⟨nofun, fun hc => absurd hc h⟩

theorem require_of {c : Prop} [Decidable c] {e : ε} (h : c) : require c e = .ok () := if_pos h

theorem require_error {c : Prop} [Decidable c] {e e' : ε} :
    require c e = .error e' ↔ ¬ c ∧ e = e' := by
  unfold require
  split
  · rename_i h
    exact ⟨nofun, fun hc => absurd h hc.1⟩
  · rename_i h
    exact ⟨fun he => ⟨h, Except.error.inj he⟩, fun he => congrArg _ he.2⟩

theorem checked_ok {w n m : Nat} {e : ε} : checked w n e = .ok m ↔ n < 2 ^ w ∧ n = m := by
  unfold checked
  split
  · rename_i h
    exact ⟨fun hm => ⟨h, Except.ok.inj hm⟩, fun hm => congrArg _ hm.2⟩
  · rename_i h
    exact ⟨nofun, fun hm => absurd hm.1 h⟩

theorem checked_error {w n : Nat} {e e' : ε} : checked w n e = .error e' → e = e' := by
  unfold checked
  split
  · exact nofun
  · exact Except.error.inj

theorem checkedSub_ok {a b m : Nat} {e : ε} :
    checkedSub a b e = .ok m ↔ b ≤ a ∧ a - b = m := by
  unfold checkedSub
  split
  · rename_i h
    exact ⟨fun hm => ⟨h, Except.ok.inj hm⟩, fun hm => congrArg _ hm.2⟩
  · rename_i h
    exact ⟨nofun, fun hm => absurd hm.1 h⟩

theorem checkedSub_error {a b : Nat} {e e' : ε} : checkedSub a b e = .error e' → e = e' := by
  unfold checkedSub
  split
  · exact nofun
  · exact Except.error.inj

/-! ### Several steps in a row -/

theorem bind_ok₂ {α₁ α₂ : Type} {x₁ : Except ε α₁} {x₂ : α₁ → Except ε α₂}
    {f : α₁ → α₂ → Except ε β} {b : β} :
    (x₁ >>= fun a₁ => x₂ a₁ >>= f a₁) = .ok b
      ↔ ∃ a₁, x₁ = .ok a₁ ∧ ∃ a₂, x₂ a₁ = .ok a₂ ∧ f a₁ a₂ = .ok b :=
  bind_ok.trans (exists_congr fun _ => and_congr_right fun _ => bind_ok)

theorem bind_ok₃ {α₁ α₂ α₃ : Type} {x₁ : Except ε α₁} {x₂ : α₁ → Except ε α₂}
    {x₃ : α₁ → α₂ → Except ε α₃} {f : α₁ → α₂ → α₃ → Except ε β} {b : β} :
    (x₁ >>= fun a₁ => x₂ a₁ >>= fun a₂ => x₃ a₁ a₂ >>= f a₁ a₂) = .ok b
      ↔ ∃ a₁, x₁ = .ok a₁ ∧ ∃ a₂, x₂ a₁ = .ok a₂ ∧ ∃ a₃, x₃ a₁ a₂ = .ok a₃ ∧ f a₁ a₂ a₃ = .ok b :=
  bind_ok.trans (exists_congr fun _ => and_congr_right fun _ => bind_ok₂)

theorem bind_ok₄ {α₁ α₂ α₃ α₄ : Type} {x₁ : Except ε α₁} {x₂ : α₁ → Except ε α₂}
    {x₃ : α₁ → α₂ → Except ε α₃}
    {x₄ : α₁ → α₂ → α₃ → Except ε α₄} {f : α₁ → α₂ → α₃ → α₄ → Except ε β} {b : β} :
    (x₁ >>= fun a₁ => x₂ a₁ >>= fun a₂ => x₃ a₁ a₂ >>= fun a₃ => x₄ a₁ a₂ a₃ >>= f a₁ a₂ a₃) = .ok b
      ↔ ∃ a₁, x₁ = .ok a₁ ∧ ∃ a₂, x₂ a₁ = .ok a₂ ∧ ∃ a₃, x₃ a₁ a₂ = .ok a₃
      ∧ ∃ a₄, x₄ a₁ a₂ a₃ = .ok a₄
        ∧ f a₁ a₂ a₃ a₄ = .ok b :=
  bind_ok.trans (exists_congr fun _ => and_congr_right fun _ => bind_ok₃)

/-! ### Loops of calls -/

theorem forM_ok {f : α → Except ε Unit} {l : List α} :
    l.forM f = .ok () ↔ ∀ a ∈ l, f a = .ok () := by
  induction l with
  | nil => exact ⟨fun _ a ha => absurd ha List.not_mem_nil, fun _ => rfl⟩
  | cons a l ih =>
      show (do f a; l.forM f) = .ok () ↔ _
      rw [List.forall_mem_cons, ← ih]
      constructor
      · intro h
        obtain ⟨_, ha, hrest⟩ := bind_ok.mp h
        exact ⟨ha, hrest⟩
      · rintro ⟨ha, hrest⟩
        exact bind_ok.mpr ⟨(), ha, hrest⟩

theorem mapM_ok {f : α → Except ε β} {l : List α} : ∀ {bs : List β},
    l.mapM f = .ok bs ↔ List.Forall₂ (fun a b => f a = .ok b) l bs := by
  induction l with
  | nil =>
      intro bs
      constructor
      · intro h
        cases h
        exact .nil
      · intro h
        cases h
        rfl
  | cons a l ih =>
      intro bs
      rw [List.mapM_cons]
      constructor
      · intro h
        obtain ⟨b, hb, rest, hrest, h⟩ := bind_ok₂.mp h
        cases h
        exact .cons hb (ih.mp hrest)
      · intro h
        cases h with
        | cons hb hrest => exact bind_ok₂.mpr ⟨_, hb, _, ih.mpr hrest, rfl⟩

theorem exists_mapM {f : α → Except ε β} {l : List α} (h : ∀ a ∈ l, ∃ b, f a = .ok b) :
    ∃ bs, l.mapM f = .ok bs := by
  induction l with
  | nil => exact ⟨[], rfl⟩
  | cons a l ih =>
      obtain ⟨b, hb⟩ := h a List.mem_cons_self
      obtain ⟨bs, hbs⟩ := ih fun x hx => h x (List.mem_cons_of_mem a hx)
      exact ⟨b :: bs, mapM_ok.mpr (.cons hb (mapM_ok.mp hbs))⟩

theorem exists_of_forall₂ {R : α → β → Prop} {l : List α} {m : List β}
    (h : List.Forall₂ R l m) : ∀ b ∈ m, ∃ a ∈ l, R a b := by
  induction h with
  | nil => exact fun b hb => absurd hb List.not_mem_nil
  | cons hab _ ih =>
      intro b hb
      rcases List.mem_cons.mp hb with rfl | hb
      · exact ⟨_, List.mem_cons_self, hab⟩
      · obtain ⟨a, ha, hr⟩ := ih b hb
        exact ⟨a, List.mem_cons_of_mem _ ha, hr⟩

end

section
variable {S K ε : Type} (step : S → K → Except ε S)

/-- The state after a call that may revert. -/
def attempt (s : S) (k : K) : S :=
  match step s k with
  | .ok s' => s'
  | .error _ => s

variable {step} in
theorem attempt_of_ok {s s' : S} {k : K} (h : step s k = .ok s') : attempt step s k = s' := by
  rw [attempt, h]

theorem exists_of_isOk {ε α : Type} {x : Except ε α} (h : x.isOk = true) : ∃ a, x = .ok a := by
  cases x with
  | error e => cases h
  | ok a => exact ⟨a, rfl⟩

theorem ok_of_isOk {s : S} {k : K} (h : (step s k).isOk = true) :
    step s k = .ok (attempt step s k) := by
  unfold attempt
  cases hstep : step s k with
  | error e =>
      rw [hstep] at h
      cases h
  | ok s' => rfl

/-- An attempt changes nothing, or is a call that succeeded. -/
theorem attempt_cases (s : S) (k : K) :
    (attempt step s k = s ∧ ∃ e, step s k = .error e) ∨ step s k = .ok (attempt step s k) := by
  unfold attempt
  cases h : step s k with
  | error e => exact .inl ⟨rfl, e, rfl⟩
  | ok s' => exact .inr rfl

variable {step} in
theorem attempt_preserves {I : S → Prop} (hstep : ∀ s k s', I s → step s k = .ok s' → I s')
    (s : S) (k : K) (hs : I s) : I (attempt step s k) := by
  rcases attempt_cases step s k with ⟨h, -⟩ | h
  · rw [h]
    exact hs
  · exact hstep s k _ hs h

end

/-! ## Two calls side by side -/

/-- Two calls revert with the same error, or both return, with related results. -/
inductive Together {ε α β : Type} (R : α → β → Prop) : Except ε α → Except ε β → Prop
  | ok {a : α} {b : β} : R a b → Together R (.ok a) (.ok b)
  | error (e : ε) : Together R (.error e) (.error e)

section
variable {ε α β α' β' : Type} {R : α → β → Prop} {Q : α' → β' → Prop}

theorem Together.bind {x : Except ε α} {y : Except ε β} {f : α → Except ε α'} {g : β → Except ε β'}
    (h : Together R x y) (hf : ∀ a b, R a b → Together Q (f a) (g b)) :
    Together Q (x >>= f) (y >>= g) := by
  cases h with
  | ok hR => exact hf _ _ hR
  | error e => exact .error e

theorem Together.same (x : Except ε α) : Together (· = ·) x x := by
  cases x with
  | error e => exact .error e
  | ok a => exact .ok rfl

theorem Together.first (x : Except ε α) {f : α → Except ε α'} {g : α → Except ε β'}
    (hf : ∀ a, Together Q (f a) (g a)) : Together Q (x >>= f) (x >>= g) :=
  (Together.same x).bind fun a _ h => h ▸ hf a

theorem Together.attempt {S S' K : Type} {R : S → S' → Prop} {step : S → K → Except ε S}
    {step' : S' → K → Except ε S'} {s : S} {s' : S'} {k : K}
    (h : Together R (step s k) (step' s' k))
    (hs : R s s') : R (attempt step s k) (attempt step' s' k) := by
  unfold Evm.attempt
  generalize step s k = x at h ⊢
  generalize step' s' k = y at h ⊢
  cases h with
  | ok hR => exact hR
  | error e => exact hs

end

/-! ## Totals of mappings -/

section
variable {ι τ : Type} [Fintype ι] [DecidableEq ι]

theorem sum_update (v : τ → Nat) (f : ι → τ) (i : ι) (x : τ) :
    ∑ j, v (update f i x j) + v (f i) = ∑ j, v (f j) + v x := by
  have hnew := Finset.add_sum_erase Finset.univ (fun j => v (update f i x j))
    (Finset.mem_univ i)
  have hold := Finset.add_sum_erase Finset.univ (fun j => v (f j)) (Finset.mem_univ i)
  have hrest : ∑ j ∈ Finset.univ.erase i, v (update f i x j)
      = ∑ j ∈ Finset.univ.erase i, v (f j) := by
    refine Finset.sum_congr rfl fun j hj => ?_
    rw [update_of_ne (Finset.ne_of_mem_erase hj)]
  rw [update_self] at hnew
  omega

theorem sum_change {f f' : ι → Nat} {i : ι} (h : ∀ j, j ≠ i → f' j = f j) :
    ∑ j, f' j + f i = ∑ j, f j + f' i := by
  have hupdate : f' = update f i (f' i) := by
    funext j
    rcases eq_or_ne j i with rfl | hj
    · rw [update_self]
    · rw [update_of_ne hj, h j hj]
  have hsum := sum_update id f i (f' i)
  rw [← hupdate] at hsum
  exact hsum

omit [Fintype ι] in
theorem sum_update_on (s : Finset ι) (f : ι → Nat) (i : ι) (x : Nat) :
    ∑ j ∈ s, update f i x j + (if i ∈ s then f i else 0)
      = ∑ j ∈ s, f j + (if i ∈ s then x else 0) := by
  by_cases hi : i ∈ s
  · have hold := Finset.sum_eq_add_sum_sdiff_singleton_of_mem hi f
    rw [Finset.sum_update_of_mem hi, if_pos hi, if_pos hi, hold]
    omega
  · rw [Finset.sum_update_of_notMem hi, if_neg hi, if_neg hi]

theorem sum_single (i : ι) (n : Nat) : ∑ j, update (fun _ : ι => 0) i n j = n := by
  rw [Finset.sum_update_of_mem (Finset.mem_univ i), Finset.sum_const_zero, Nat.add_zero]

omit [DecidableEq ι] in
theorem le_sum (v : ι → Nat) (i : ι) : v i ≤ ∑ j, v j :=
  Finset.single_le_sum (fun _ _ => Nat.zero_le _) (Finset.mem_univ i)

end

end Evm
