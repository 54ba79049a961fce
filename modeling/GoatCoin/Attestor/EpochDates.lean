/-
# `GoatCoin.Attestor.EpochDates` — `civil_from_days` in its three copies, and the id of a day

The day number goes through signed and unsigned words of 64 bits and the year comes out in 32:

    z + 719468      i64          wraps past 2 ^ 63
    doe … doy       u64          below 146097
    year            i32          cut off past 2147483647

So the date is right up to the last day of the year 2147483647, which is day 784351576776, and the
next day is in a negative year.
-/
import GoatCoin.Lib.Calendar
import Mathlib.Data.Finset.Basic

namespace GoatCoin.Attestor

open Calendar

/-! ## The function -/

/-- `as i64`. -/
def wrapI64 (x : Int) : Int := x.bmod (2 ^ 64)

/-- `as i32`. -/
def asI32 (x : Int) : Int := x.bmod (2 ^ 32)

/-- `as u64`. -/
def asU64 (x : Int) : Nat := (x % 2 ^ 64).toNat

/-- The body of the three copies. -/
def civilFromDays64 (z : Int) : Int × Nat × Nat :=
  let z := wrapI64 (z + 719468)
  let era := Int.tdiv (if z ≥ 0 then z else wrapI64 (z - 146096)) 146097
  let doe := asU64 (z - era * 146097)
  let yoe := (doe - doe / 1460 + doe / 36524 - doe / 146096) / 365
  let y := (yoe : Int) + era * 400
  let doy := doe - (365 * yoe + yoe / 4 - yoe / 100)
  let mp := (5 * doy + 2) / 153
  let d := doy - (153 * mp + 2) / 5 + 1
  let m := if mp < 10 then mp + 3 else mp - 9
  let y := if m ≤ 2 then y + 1 else y
  (asI32 y, m, d)

/-- `proposer::civil_from_days`. -/
def proposerCivilFromDays (z : Int) : Int × Nat × Nat := civilFromDays64 z

/-- `relayer::civil_from_days`. -/
def relayerCivilFromDays (z : Int) : Int × Nat × Nat := civilFromDays64 z

/-- `gas_drips::civil_from_days`. -/
def gasDripsCivilFromDays (z : Int) : Int × Nat × Nat := civilFromDays64 z

/-- `daily_epoch_id`, with products and sums of `u64`. -/
def dailyEpochId (unixSecs : Nat) : Nat :=
  let days := wrapI64 (unixSecs / 86400 : Nat)
  let (y, m, d) := proposerCivilFromDays days
  ((asU64 y * 10000) % 2 ^ 64 + m * 100 + d) % 2 ^ 64

/-! ## Its dates -/

/-- The last day of the last year that an `i32` holds. -/
def lastDay : Nat := 784351576776

/-- The date so many days after the first of January 1970. -/
def dateAfter (days : Nat) : Date := Date.next^[days] ⟨1970, 1, 1⟩

theorem dateAfter_eq (days : Nat) : dateAfter days = ofOrdinal (719468 + days) := by
  rw [ofOrdinal_add]
  rfl

theorem dateAfter_succ (days : Nat) : dateAfter (days + 1) = (dateAfter days).next :=
  Function.iterate_succ_apply' _ _ _

theorem valid_dateAfter (days : Nat) : (dateAfter days).Valid := by
  rw [dateAfter_eq]
  exact (ofOrdinal_succ _).2

variable {n days : Nat}

theorem wrapI64_of_lt (h : n < 2 ^ 63) : wrapI64 n = n := by
  unfold wrapI64
  exact Int.bmod_eq_of_le (by omega) (by omega)

theorem asI32_of_lt (h : n < 2 ^ 31) : asI32 n = n := by
  unfold asI32
  exact Int.bmod_eq_of_le (by omega) (by omega)

theorem asU64_of_lt (h : n < 2 ^ 64) : asU64 n = n := by
  unfold asU64
  omega

structure CivilDate where
  year : Nat
  month : Nat
  day : Nat

/-- The same in naturals. -/
def civilFromDays (days : Nat) : CivilDate :=
  let z := days + 719468
  let era := z / 146097
  let doe := z - era * 146097
  let yoe := (doe - doe / 1460 + doe / 36524 - doe / 146096) / 365
  let y := yoe + era * 400
  let doy := doe - (365 * yoe + yoe / 4 - yoe / 100)
  let mp := (5 * doy + 2) / 153
  let d := doy - (153 * mp + 2) / 5 + 1
  let m := if mp < 10 then mp + 3 else mp - 9
  ⟨if m ≤ 2 then y + 1 else y, m, d⟩

/-- Where the day number does not wrap, the words hold what the naturals do. -/
theorem civilFromDays64_eq (h : days + 719468 < 2 ^ 63) :
    civilFromDays64 days = (asI32 (civilFromDays days).year, (civilFromDays days).month,
      (civilFromDays days).day) := by
  obtain ⟨z, hz⟩ : ∃ z, z = days + 719468 := ⟨_, rfl⟩
  have hword : wrapI64 ((days : Int) + 719468) = (z : Nat) := by
    rw [← wrapI64_of_lt (n := z) (by omega), hz]
    rfl
  have hera : Int.tdiv (if (z : Int) ≥ 0 then (z : Int) else wrapI64 (z - 146096)) 146097
    = (z / 146097 : Nat) := by
    rw [if_pos (Int.natCast_nonneg z)]
    rfl
  have hdoe : asU64 ((z : Int) - (z / 146097 : Nat) * 146097) = z - z / 146097 * 146097 := by
    have hcast :
      (z : Int) - (z / 146097 : Nat) * 146097 = ((z - z / 146097 * 146097 : Nat) : Int) := by omega
    rw [hcast]
    exact asU64_of_lt (by omega)
  unfold civilFromDays64 civilFromDays
  dsimp only
  rw [hword, hera, hdoe, ← hz]
  generalize z - z / 146097 * 146097 = doe
  generalize (doe - doe / 1460 + doe / 36524 - doe / 146096) / 365 = yoe
  generalize (5 * (doe - (365 * yoe + yoe / 4 - yoe / 100)) + 2) / 153 = mp
  generalize (if mp < 10 then mp + 3 else mp - 9) = m
  by_cases hm : m ≤ 2
  · rw [if_pos hm, if_pos hm]
    rfl
  · rw [if_neg hm, if_neg hm]
    rfl

theorem civilFromDays_eq (days : Nat) : civilFromDays days
    = ⟨(dateAfter days).year, (dateAfter days).month, (dateAfter days).day⟩ := by
  obtain ⟨z, hz⟩ : ∃ z, z = days + 719468 := ⟨_, rfl⟩
  obtain ⟨doe, hdoe⟩ : ∃ doe, doe = z - z / 146097 * 146097 := ⟨_, rfl⟩
  obtain ⟨-, hstart, hend⟩ := yearOfEra (by omega : doe < 146097)
  obtain ⟨hmp, -, -⟩ := monthOfYear (Nat.sub_lt_left_of_lt_add hstart hend)
  rw [dateAfter_eq, Nat.add_comm]
  unfold civilFromDays ofOrdinal
  dsimp only
  rw [← hz, ← hdoe]
  generalize hm : monthOf (doe - yearStart (yearOf doe)) = mp at hmp ⊢
  unfold monthOf yearStart yearOf at hm
  unfold ofParts yearStart monthStart yearOf
  rw [hm]
  dsimp only
  by_cases hlate : mp < 10
  · have hmonth : ¬ mp + 3 ≤ 2 := by omega
    rw [if_pos hlate, if_pos hlate, if_neg hmonth]
  · have hmonth : mp - 9 ≤ 2 := by omega
    rw [if_neg hlate, if_neg hlate, if_pos hmonth]

/-! ## The order of days -/

theorem year_le_next (date : Date) : date.year ≤ date.next.year := by
  unfold Date.next
  split_ifs
  · exact le_rfl
  · exact le_rfl
  · exact Nat.le_succ _

theorem year_le_last (h : days ≤ lastDay) : (dateAfter days).year ≤ 2147483647 := by
  have hmono : Monotone fun days => (dateAfter days).year := by
    refine monotone_nat_of_le_succ fun days => ?_
    rw [dateAfter_succ]
    exact year_le_next _
  have hlast : (dateAfter lastDay).year = 2147483647 := by
    rw [dateAfter_eq]
    decide
  exact (hmono h).trans_eq hlast

/-- **The date of a day**, up to the last. -/
theorem civilFromDays64_dateAfter (h : days ≤ lastDay) :
    civilFromDays64 days
    = (((dateAfter days).year : Int), (dateAfter days).month, (dateAfter days).day) := by
  have hlast : days ≤ 784351576776 := h
  have hyear := year_le_last h
  rw [civilFromDays64_eq (by omega), civilFromDays_eq]
  dsimp only
  rw [asI32_of_lt (by omega)]

/-- The id of a date. -/
def dateId (date : Date) : Nat := date.year * 10000 + date.month * 100 + date.day

theorem daysInMonth_le (year month : Nat) : daysInMonth year month ≤ 31 := by
  unfold daysInMonth
  split_ifs <;> decide

theorem dateId_lt_next {date : Date} (h : date.Valid) : dateId date < dateId date.next := by
  obtain ⟨-, hmonth, -, hday⟩ := h
  have hlong := daysInMonth_le date.year date.month
  unfold Date.next dateId
  split_ifs
  · dsimp only
    omega
  · dsimp only
    omega
  · dsimp only
    omega

theorem dailyEpochId_eq {unixSecs : Nat} (h : unixSecs / 86400 ≤ lastDay) :
    dailyEpochId unixSecs = dateId (dateAfter (unixSecs / 86400)) := by
  have hlast : unixSecs / 86400 ≤ 784351576776 := h
  have hyear := year_le_last h
  obtain ⟨-, hmonth, -, hday⟩ := valid_dateAfter (unixSecs / 86400)
  have hlong :=
    daysInMonth_le (dateAfter (unixSecs / 86400)).year (dateAfter (unixSecs / 86400)).month
  unfold dailyEpochId proposerCivilFromDays dateId
  dsimp only
  rw [wrapI64_of_lt (by omega), civilFromDays64_dateAfter h]
  dsimp only
  rw [asU64_of_lt (by omega)]
  omega

/-- **The dates of days and the ids of epochs**, up to the last day whose year an `i32` holds. -/
theorem epoch_dates :
    (∀ days ≤ lastDay, (dateAfter days).Valid
        ∧ proposerCivilFromDays days
          = (((dateAfter days).year : Int), (dateAfter days).month, (dateAfter days).day))
      ∧ (∀ z, relayerCivilFromDays z = proposerCivilFromDays z
        ∧ gasDripsCivilFromDays z = proposerCivilFromDays z)
      ∧ ∀ s s', s / 86400 < s' / 86400 → s' / 86400 ≤ lastDay →
      dailyEpochId s < dailyEpochId s' := by
  refine ⟨fun days h => ⟨valid_dateAfter days, civilFromDays64_dateAfter h⟩,
    fun z => ⟨rfl, rfl⟩, ?_⟩
  intro s s' hlt hlast
  have hmono : StrictMono fun days => dateId (dateAfter days) := by
    refine strictMono_nat_of_lt_succ fun days => ?_
    rw [dateAfter_succ]
    exact dateId_lt_next (valid_dateAfter days)
  rw [dailyEpochId_eq (hlt.le.trans hlast), dailyEpochId_eq hlast]
  exact hmono hlt

/-- The day after the last has a negative year. -/
theorem year_cut_off : proposerCivilFromDays (lastDay + 1) = (-2147483648, 1, 1)
    ∧ dateAfter (lastDay + 1) = ⟨2147483648, 1, 1⟩ := by
  refine ⟨by decide, ?_⟩
  rw [dateAfter_eq]
  decide

end GoatCoin.Attestor
