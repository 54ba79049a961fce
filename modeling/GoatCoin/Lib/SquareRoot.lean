/-
# `GoatCoin.Lib.SquareRoot` — the square root, two bits at a time

The method keeps the root so far in the top digits and takes one binary digit a turn.  With `k`
digits to come and the root so far `q`, read at the place it will have in the end,

    res = q · 4 ^ k        rem = n - (2 ^ k · q) ^ 2        n < (2 ^ k · (q + 1)) ^ 2

and a turn compares `rem` with `res + 4 ^ (k - 1)`.  The invariant has no division in it, and at `k
= 0` it says that `res` is the root.
-/
import Mathlib.Data.Nat.Sqrt
import Mathlib.Tactic.Ring

namespace SquareRoot

/-- The state with `k` digits to come: the root so far is `q`. -/
structure Digits (n k q rem res : Nat) : Prop where
  res_eq : res = q * 4 ^ k
  rem_eq : rem + (2 ^ k * q) ^ 2 = n
  lt : n < (2 ^ k * (q + 1)) ^ 2

variable {n k q rem res : Nat}

theorem four_pow (k : Nat) : 4 ^ k = (2 ^ k) ^ 2 := by
  rw [← pow_mul, Nat.mul_comm, pow_mul]
  rfl

theorem Digits.one (h : Digits n (k + 1) q rem res) (hle : res + 4 ^ k ≤ rem) :
    Digits n k (2 * q + 1) (rem - (res + 4 ^ k)) (res / 2 + 4 ^ k) := by
  obtain ⟨t, rfl⟩ := Nat.exists_eq_add_of_le hle
  have hres : res = 2 * (2 * q * 4 ^ k) := by
    rw [h.res_eq, pow_succ]
    ring
  have hhalf : res / 2 = 2 * q * 4 ^ k := by
    rw [hres, Nat.mul_div_cancel_left _ (by decide)]
  refine ⟨?_, ?_, ?_⟩
  · rw [hhalf]
    ring
  · rw [Nat.add_sub_cancel_left, ← h.rem_eq, hres, four_pow, pow_succ]
    ring
  · refine lt_of_lt_of_eq h.lt ?_
    rw [pow_succ]
    ring

theorem Digits.zero (h : Digits n (k + 1) q rem res) (hlt : rem < res + 4 ^ k) :
    Digits n k (2 * q) rem (res / 2) := by
  have hres : res = 2 * (2 * q * 4 ^ k) := by
    rw [h.res_eq, pow_succ]
    ring
  refine ⟨?_, ?_, ?_⟩
  · rw [hres, Nat.mul_div_cancel_left _ (by decide)]
  · rw [← h.rem_eq, pow_succ]
    ring
  · calc n = rem + (2 ^ (k + 1) * q) ^ 2 := h.rem_eq.symm
      _ < res + 4 ^ k + (2 ^ (k + 1) * q) ^ 2 := Nat.add_lt_add_right hlt _
      _ = (2 ^ k * (2 * q + 1)) ^ 2 := by
        rw [hres, four_pow, pow_succ]
        ring

/-- **No digit is left**: the root. -/
theorem Digits.sqrt (h : Digits n 0 q rem res) : res = n.sqrt := by
  have hres : res = q := by rw [h.res_eq, pow_zero, Nat.mul_one]
  have hle : q * q ≤ n := by
    have hrem := h.rem_eq
    rw [pow_zero, Nat.one_mul, pow_two] at hrem
    omega
  have hlt : n < (q + 1) * (q + 1) := by
    have hbound := h.lt
    rwa [pow_zero, Nat.one_mul, pow_two] at hbound
  rw [hres]
  exact Nat.le_antisymm (Nat.le_sqrt.mpr hle) (Nat.lt_succ_iff.mp (Nat.sqrt_lt.mpr hlt))

end SquareRoot
