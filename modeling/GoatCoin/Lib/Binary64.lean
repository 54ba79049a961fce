/-
# `GoatCoin.Lib.Binary64` — rationals rounded to 53 bits

A double is a multiple of `2 ^ scale`, and a rational is rounded to the nearest one, ties to the
even multiple:

    scale x     = max (⌊log₂ |x|⌋ - 52) (-1074)
    |round x - x| ≤ 2 ^ scale x / 2

Integers below `2 ^ 53` are doubles, and rounding does not carry a number across a double on its
grid.  A number of `2 ^ 1024` or more is outside the format.
-/
import Mathlib.Data.Int.Log
import Mathlib.Data.Rat.Floor
import Mathlib.Tactic.Linarith
import Mathlib.Tactic.NormNum
import Mathlib.Tactic.Ring

namespace Binary64

/-! ## To an integer -/

/-- The nearest integer, of two the even one. -/
def roundEven (x : ℚ) : ℤ :=
  let n := ⌊x⌋
  if x - n < 1 / 2 then n
  else if 1 / 2 < x - n then n + 1
  else if n % 2 = 0 then n
  else n + 1

theorem roundEven_cases (x : ℚ) : (roundEven x = ⌊x⌋ ∧ x - ⌊x⌋ ≤ 1 / 2)
    ∨ (roundEven x = ⌊x⌋ + 1 ∧ 1 / 2 ≤ x - ⌊x⌋) := by
  unfold roundEven
  dsimp only
  split_ifs with hlow hhigh heven
  · exact .inl ⟨rfl, hlow.le⟩
  · exact .inr ⟨rfl, hhigh.le⟩
  · exact .inl ⟨rfl, not_lt.mp hhigh⟩
  · exact .inr ⟨rfl, not_lt.mp hlow⟩

theorem abs_roundEven_sub_le (x : ℚ) : |(roundEven x : ℚ) - x| ≤ 1 / 2 := by
  have hfloor := Int.floor_le x
  have hceil := Int.lt_floor_add_one x
  rw [abs_le]
  obtain ⟨heq, hhalf⟩ | ⟨heq, hhalf⟩ := roundEven_cases x
  · rw [heq]
    exact ⟨by linarith, by linarith⟩
  · rw [heq]
    push_cast
    exact ⟨by linarith, by linarith⟩

theorem le_roundEven {n : ℤ} {x : ℚ} (h : (n : ℚ) ≤ x) : n ≤ roundEven x := by
  have hfloor : n ≤ ⌊x⌋ := Int.le_floor.mpr h
  obtain ⟨heq, -⟩ | ⟨heq, -⟩ := roundEven_cases x
  · rw [heq]
    exact hfloor
  · rw [heq]
    exact hfloor.trans (Int.lt_succ _).le

theorem roundEven_intCast (n : ℤ) : roundEven n = n := by
  have hclose := abs_roundEven_sub_le n
  have hlt : |roundEven n - n| < 1 := by
    have hcast : ((|roundEven n - n| : ℤ) : ℚ) < 1 := by
      push_cast
      linarith
    exact_mod_cast hcast
  exact sub_eq_zero.mp (Int.abs_lt_one_iff.mp hlt)

/-! ## To a double -/

/-- The exponent of the last bit. -/
def scale (x : ℚ) : ℤ := max (Int.log 2 |x| - 52) (-1074)

/-- The nearest double. -/
def round (x : ℚ) : ℚ := roundEven (x / 2 ^ scale x) * 2 ^ scale x

variable {x : ℚ}

theorem two_zpow_pos (e : ℤ) : (0 : ℚ) < 2 ^ e := zpow_pos two_pos e

theorem scale_le {j : ℤ} (hj : 1 ≤ j) (h : |x| < 2 ^ j) : scale x ≤ j - 53 := by
  unfold scale
  by_cases hx : x = 0
  · rw [hx, abs_zero, Int.log_zero_right]
    exact max_le (by omega) (by omega)
  · have hlog : Int.log 2 |x| < j :=
      (Int.lt_zpow_iff_log_lt Nat.one_lt_two (abs_pos.mpr hx)).mp (by exact_mod_cast h)
    exact max_le (by omega) (by omega)

/-- **The error** is half a unit in the last place. -/
theorem abs_round_sub_le (x : ℚ) : |round x - x| ≤ 2 ^ scale x / 2 := by
  have hpos := two_zpow_pos (scale x)
  have hsplit : round x - x = (roundEven (x / 2 ^ scale x) - x / 2 ^ scale x) * 2 ^ scale x := by
    rw [sub_mul, div_mul_cancel₀ _ hpos.ne']
    rfl
  calc |round x - x| = |(roundEven (x / 2 ^ scale x) : ℚ) - x / 2 ^ scale x| * 2 ^ scale x := by
        rw [hsplit, abs_mul, abs_of_pos hpos]
    _ ≤ 1 / 2 * 2 ^ scale x := mul_le_mul_of_nonneg_right (abs_roundEven_sub_le _) hpos.le
    _ = 2 ^ scale x / 2 := by ring

theorem mul_le_round {m : ℤ} (h : m * 2 ^ scale x ≤ x) : m * 2 ^ scale x ≤ round x := by
  have hpos := two_zpow_pos (scale x)
  have hm : m ≤ roundEven (x / 2 ^ scale x) := le_roundEven ((le_div_iff₀ hpos).mpr h)
  exact mul_le_mul_of_nonneg_right (by exact_mod_cast hm) hpos.le

theorem round_nonneg (h : 0 ≤ x) : 0 ≤ round x := by
  have hzero : ((0 : ℤ) : ℚ) * 2 ^ scale x ≤ x := by
    rw [Int.cast_zero, zero_mul]
    exact h
  have hle := mul_le_round hzero
  rw [Int.cast_zero, zero_mul] at hle
  exact hle

theorem intCast_eq_mul (n : ℤ) (h : scale x ≤ 0) :
    (n : ℚ) = ((n * 2 ^ (-scale x).toNat : ℤ) : ℚ) * 2 ^ scale x := by
  have hexp : ((-scale x).toNat : ℤ) = -scale x := Int.toNat_of_nonneg (by omega)
  push_cast
  rw [mul_assoc, ← zpow_natCast, hexp, ← zpow_add₀ two_ne_zero, neg_add_cancel, zpow_zero, mul_one]

theorem intCast_le_round {n : ℤ} (hscale : scale x ≤ 0) (h : (n : ℚ) ≤ x) : (n : ℚ) ≤ round x := by
  rw [intCast_eq_mul n hscale] at h ⊢
  exact mul_le_round h

theorem round_intCast {n : ℤ} (h : |n| < 2 ^ 53) : round n = n := by
  have hscale : scale (n : ℚ) ≤ 0 := by
    have hlt : |(n : ℚ)| < 2 ^ (53 : ℤ) := by exact_mod_cast h
    exact scale_le (by decide) hlt
  have hpos := two_zpow_pos (scale (n : ℚ))
  have hgrid : (n : ℚ) / 2 ^ scale (n : ℚ) = ((n * 2 ^ (-scale (n : ℚ)).toNat : ℤ) : ℚ) :=
    (div_eq_iff hpos.ne').mpr (intCast_eq_mul n hscale)
  unfold round
  rw [hgrid, roundEven_intCast, ← intCast_eq_mul n hscale]

theorem two_zpow_le_round {j : ℤ} (hj : -1022 ≤ j) (h : (2 : ℚ) ^ j ≤ x) :
    (2 : ℚ) ^ j ≤ round x := by
  have hx : 0 < x := (two_zpow_pos j).trans_le h
  have hlog : j ≤ Int.log 2 x := (Int.zpow_le_iff_le_log Nat.one_lt_two hx).mp (by exact_mod_cast h)
  have hscale : scale x = Int.log 2 x - 52 := by
    unfold scale
    rw [abs_of_pos hx]
    exact max_eq_left (by omega)
  have hgrid : ((2 ^ 52 : ℤ) : ℚ) * 2 ^ scale x = 2 ^ Int.log 2 x := by
    have hnat : ((2 ^ 52 : ℤ) : ℚ) = 2 ^ (52 : ℤ) := by norm_num
    rw [hnat, ← zpow_add₀ two_ne_zero, hscale, add_sub_cancel]
  have hself : ((2 ^ 52 : ℤ) : ℚ) * 2 ^ scale x ≤ x := by
    rw [hgrid]
    exact_mod_cast Int.zpow_log_le_self Nat.one_lt_two hx
  calc (2 : ℚ) ^ j ≤ 2 ^ Int.log 2 x := zpow_le_zpow_right₀ one_le_two hlog
    _ = ((2 ^ 52 : ℤ) : ℚ) * 2 ^ scale x := hgrid.symm
    _ ≤ round x := mul_le_round hself

/-! ## A tolerance -/

/-- **A comparison with slack.** An integer is within `k` and a small part exactly when it is within
`k`, however both sides are rounded. -/
theorem round_le_round_add_iff {d k : Nat} {ε : ℚ} (hk : k < 2 ^ 53) (hnonneg : 0 ≤ ε)
    (hsmall : ε < 1 / 2) : round d ≤ round (k + ε) ↔ d ≤ k := by
  have hscale : scale ((k : ℚ) + ε) ≤ 0 := by
    have hbound : (k : ℚ) + 1 ≤ 2 ^ (53 : ℤ) := by exact_mod_cast hk
    refine scale_le (j := 53) (by decide) ?_
    rw [abs_of_nonneg (by positivity)]
    linarith
  have habove : round ((k : ℚ) + ε) < k + 1 := by
    have herror := (abs_le.mp (abs_round_sub_le ((k : ℚ) + ε))).2
    have hone : (2 : ℚ) ^ scale ((k : ℚ) + ε) ≤ 1 := zpow_le_one_of_nonpos₀ one_le_two hscale
    linarith
  have hexact {n : Nat} (h : n < 2 ^ 53) : round (n : ℚ) = n := by
    have habs : |(n : ℤ)| < 2 ^ 53 := by
      rw [Nat.abs_cast]
      exact_mod_cast h
    exact_mod_cast round_intCast habs
  constructor
  · intro hle
    by_contra hgt
    by_cases hd : d < 2 ^ 53
    · rw [hexact hd] at hle
      have hnext : (k : ℚ) + 1 ≤ d := by exact_mod_cast not_le.mp hgt
      linarith
    · have hbig : (2 : ℚ) ^ (53 : ℤ) ≤ round d :=
        two_zpow_le_round (by decide) (by exact_mod_cast not_lt.mp hd)
      have hnext : (k : ℚ) + 1 ≤ 2 ^ (53 : ℤ) := by exact_mod_cast hk
      linarith
  · intro hle
    rw [hexact (hle.trans_lt hk)]
    have hself : (((k : ℤ) : ℚ)) ≤ round ((k : ℚ) + ε) := by
      refine intCast_le_round hscale ?_
      rw [Int.cast_natCast]
      linarith
    calc (d : ℚ) ≤ k := by exact_mod_cast hle
      _ = ((k : ℤ) : ℚ) := (Int.cast_natCast k).symm
      _ ≤ round (k + ε) := hself

/-! ## Data -/

/-- A finite double, an infinity, or no number. -/
inductive Double where
  | finite (x : ℚ)
  | infinite (negative : Bool)
  | nan
deriving DecidableEq

namespace Double

/-- The double nearest to a rational; past the largest one, an infinity. -/
def ofRat (x : ℚ) : Double :=
  if 2 ^ 1024 ≤ |round x| then .infinite (decide (x < 0)) else .finite (round x)

/-- A comparison with no number is false. -/
def le : Double → Double → Bool
  | .finite x, .finite y => decide (x ≤ y)
  | .infinite negative, .finite _ => negative
  | .finite _, .infinite negative => !negative
  | .infinite negative, .infinite negative' => negative || !negative'
  | .nan, _ => false
  | _, .nan => false

def mul : Double → Double → Double
  | .finite x, .finite y => ofRat (x * y)
  | .infinite negative, .finite y => if y = 0 then .nan else .infinite (negative != decide (y < 0))
  | .finite x, .infinite negative => if x = 0 then .nan else .infinite (negative != decide (x < 0))
  | .infinite negative, .infinite negative' => .infinite (negative != negative')
  | .nan, _ => .nan
  | _, .nan => .nan

/-- The nearest integer, of two the one farther from zero. -/
def roundAway : Double → Double
  | .finite x => .finite (if x < 0 then -(⌊-x + 1 / 2⌋ : ℤ) else (⌊x + 1 / 2⌋ : ℤ))
  | d => d

/-- A cast to an unsigned word saturates, and takes no number to zero. -/
def toWord (bits : Nat) : Double → Nat
  | .finite x => min ⌊x⌋.toNat (2 ^ bits - 1)
  | .infinite negative => if negative then 0 else 2 ^ bits - 1
  | .nan => 0

/-- The same cast to a signed word; the fraction is cut off. -/
def toSigned (bits : Nat) : Double → Int
  | .finite x => max (-2 ^ (bits - 1)) (min (if x < 0 then ⌈x⌉ else ⌊x⌋) (2 ^ (bits - 1) - 1))
  | .infinite negative => if negative then -2 ^ (bits - 1) else 2 ^ (bits - 1) - 1
  | .nan => 0

end Double

end Binary64
