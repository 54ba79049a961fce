/-
# `GoatCoin.Lib.Calendar` — the proleptic Gregorian calendar, and dates from day numbers

The calendar is a rule for the day after a day.  The algorithm counts from the first of March of the
year zero, so that the leap day is the last of its year, and a day number is

    era · 146097  +  yearStart yoe  +  monthStart mp  +  (day - 1)

with the year of the era, `yearStart y = 365 y + y / 4 - y / 100`, and the month of the year,
`monthStart m = (153 m + 2) / 5`.  Each part is read off by a division that is exact only because
the year and the month it gives begin not after the day and end after it.  Those two facts
(`yearOfEra`, `monthOfYear`) make the number of a date and the date of a number inverse, and the
number of the next day is the next number.
-/
import Mathlib.Tactic.IntervalCases
import Mathlib.Tactic.SplitIfs
import Mathlib.Logic.Function.Iterate

namespace Calendar

/-! ## The rule -/

/-- A year, a month and a day. -/
structure Date where
  year : Nat
  month : Nat
  day : Nat
deriving DecidableEq

def isLeap (year : Nat) : Prop := year % 4 = 0 ∧ (year % 100 ≠ 0 ∨ year % 400 = 0)

instance (year : Nat) : Decidable (isLeap year) := inferInstanceAs (Decidable (_ ∧ _))

def daysInMonth (year month : Nat) : Nat :=
  if month = 2 then if isLeap year then 29 else 28
  else if month = 4 ∨ month = 6 ∨ month = 9 ∨ month = 11 then 30 else 31

structure Date.Valid (date : Date) : Prop where
  month_pos : 1 ≤ date.month
  month_le : date.month ≤ 12
  day_pos : 1 ≤ date.day
  day_le : date.day ≤ daysInMonth date.year date.month

/-- The day after. -/
def Date.next (date : Date) : Date :=
  if date.day < daysInMonth date.year date.month then { date with day := date.day + 1 }
  else if date.month < 12 then ⟨date.year, date.month + 1, 1⟩
  else ⟨date.year + 1, 1, 1⟩

/-! ## Years and months from March -/

/-- The days of an era before a year of it. -/
def yearStart (yoe : Nat) : Nat := 365 * yoe + yoe / 4 - yoe / 100

/-- The days of a year before a month of it. -/
def monthStart (mp : Nat) : Nat := (153 * mp + 2) / 5

/-- The days of a year from March on: the leap day is in the year after it. -/
def yearLength (yoe : Nat) : Nat := if isLeap (yoe + 1) then 366 else 365

/-- The year of a day of an era. -/
def yearOf (doe : Nat) : Nat := (doe - doe / 1460 + doe / 36524 - doe / 146096) / 365

variable {c k q r y mp doy yoe : Nat}

/-- A year of an era by its century, its place in fours there, and its place in the four. -/
theorem yearStart_eq (hq : q ≤ 24) (hr : r ≤ 3) :
    yearStart (100 * c + 4 * q + r) = 36524 * c + 1461 * q + 365 * r := by
  have hfour : (100 * c + 4 * q + r) / 4 = 25 * c + q := by omega
  have hhundred : (100 * c + 4 * q + r) / 100 = c := by omega
  unfold yearStart
  rw [hfour, hhundred]
  omega

theorem yearLength_eq (hc : c ≤ 3) (hq : q ≤ 24) (hr : r ≤ 3) :
    yearLength (100 * c + 4 * q + r) = if r = 3 ∧ (q < 24 ∨ c = 3) then 366 else 365 := by
  have hleap : isLeap (100 * c + 4 * q + r + 1) ↔ r = 3 ∧ (q < 24 ∨ c = 3) := by
    unfold isLeap
    omega
  unfold yearLength
  by_cases h : isLeap (100 * c + 4 * q + r + 1)
  · rw [if_pos h, if_pos (hleap.mp h)]
  · rw [if_neg h, if_neg (fun h' => h (hleap.mpr h'))]

/-- **The division that gives the year**, on a day of that year. -/
theorem yearOf_eq (hc : c ≤ 3) (hq : q ≤ 24) (hr : r ≤ 3)
    (hdoy : doy < yearLength (100 * c + 4 * q + r)) :
    yearOf (36524 * c + 1461 * q + 365 * r + doy) = 100 * c + 4 * q + r := by
  rw [yearLength_eq hc hq hr] at hdoy
  have hday : doy < 365 ∨ (doy = 365 ∧ r = 3 ∧ (q < 24 ∨ c = 3)) := by
    by_cases hleap : r = 3 ∧ (q < 24 ∨ c = 3)
    · rw [if_pos hleap] at hdoy
      omega
    · rw [if_neg hleap] at hdoy
      omega
  by_cases hlast : c = 3 ∧ q = 24 ∧ r = 3 ∧ doy = 365
  · obtain ⟨rfl, rfl, rfl, rfl⟩ := hlast
    rfl
  -- but for the last day of an era, what is taken off and put back depends on the fours alone
  obtain ⟨doe, hdoe⟩ : ∃ doe, doe = 36524 * c + 1461 * q + 365 * r + doy := ⟨_, rfl⟩
  obtain ⟨e, he⟩ : ∃ e, e = (24 * c + q + 365 * r + doy) / 1460 := ⟨_, rfl⟩
  have hcentury : doe / 36524 = c := by omega
  have hera : doe / 146096 = 0 := by omega
  have hfours : doe / 1460 = 25 * c + q + e := by omega
  have hcarry : e ≤ doy ∧ doy < 365 + e := by omega
  have hdays :
    doe - doe / 1460 + doe / 36524 - doe / 146096 = 365 * (100 * c + 4 * q + r) + (doy - e) := by
    rw [hcentury, hera, hfours]
    omega
  unfold yearOf
  rw [← hdoe, hdays, Nat.mul_add_div (by decide), Nat.div_eq_of_lt (by omega), Nat.add_zero]

theorem exists_year {doe : Nat} (h : doe < 146097) :
    ∃ c q r doy, c ≤ 3 ∧ q ≤ 24 ∧ r ≤ 3 ∧ doy < yearLength (100 * c + 4 * q + r)
      ∧ doe = 36524 * c + 1461 * q + 365 * r + doy := by
  obtain ⟨c, hc⟩ : ∃ c, c = min 3 (doe / 36524) := ⟨_, rfl⟩
  obtain ⟨q, hq⟩ : ∃ q, q = min 24 ((doe - 36524 * c) / 1461) := ⟨_, rfl⟩
  obtain ⟨r, hr⟩ : ∃ r, r = min 3 ((doe - 36524 * c - 1461 * q) / 365) := ⟨_, rfl⟩
  have hc3 : c ≤ 3 := by omega
  have hc0 : 36524 * c ≤ doe ∧ doe - 36524 * c ≤ 36524
    ∧ (c < 3 → doe - 36524 * c < 36524) := by omega
  obtain ⟨x, hx⟩ : ∃ x, x = doe - 36524 * c := ⟨_, rfl⟩
  rw [← hx] at hq hr hc0
  have hq0 : q ≤ 24 ∧ 1461 * q ≤ x ∧ x - 1461 * q ≤ 1460
    ∧ (q = 24 → c < 3 → x - 1461 * q < 1460) := by omega
  obtain ⟨y, hy⟩ : ∃ y, y = x - 1461 * q := ⟨_, rfl⟩
  rw [← hy] at hr hq0
  have hr0 : r ≤ 3 ∧ 365 * r ≤ y ∧ (r < 3 → y - 365 * r < 365) := by omega
  refine ⟨c, q, r, y - 365 * r, hc3, hq0.1, hr0.1, ?_, by omega⟩
  rw [yearLength_eq hc3 hq0.1 hr0.1]
  split_ifs with hleap
  · omega
  · omega

/-- **The year begins not after the day and ends after it.** -/
theorem yearOfEra {doe : Nat} (h : doe < 146097) :
    yearOf doe < 400 ∧ yearStart (yearOf doe) ≤ doe
    ∧ doe < yearStart (yearOf doe) + yearLength (yearOf doe) := by
  obtain ⟨c, q, r, doy, hc, hq, hr, hdoy, rfl⟩ := exists_year h
  rw [yearOf_eq hc hq hr hdoy, yearStart_eq hq hr]
  omega

theorem yearOf_yearStart (hyoe : yoe < 400) (hdoy : doy < yearLength yoe) :
    yearOf (yearStart yoe + doy) = yoe := by
  have hparts : yoe = 100 * (yoe / 100) + 4 * (yoe % 100 / 4) + yoe % 100 % 4 := by omega
  rw [hparts] at hdoy ⊢
  rw [yearStart_eq (by omega) (by omega), yearOf_eq (by omega) (by omega) (by omega) hdoy]

/-- Where a month of a year ends. -/
def monthEnd (yoe mp : Nat) : Nat := if mp = 11 then yearLength yoe else monthStart (mp + 1)

/-- The month of a day of a year. -/
def monthOf (doy : Nat) : Nat := (5 * doy + 2) / 153

theorem yearLength_cases (yoe : Nat) : yearLength yoe = 365 ∨ yearLength yoe = 366 := by
  unfold yearLength
  split_ifs
  · exact .inr rfl
  · exact .inl rfl

/-- **The month begins not after the day and ends after it.** -/
theorem monthOfYear (h : doy < yearLength yoe) :
    monthOf doy ≤ 11 ∧ monthStart (monthOf doy) ≤ doy ∧ doy < monthEnd yoe (monthOf doy) := by
  have hlength := yearLength_cases yoe
  obtain ⟨mp, hmp⟩ : ∃ mp, mp = (5 * doy + 2) / 153 := ⟨_, rfl⟩
  have hle : mp ≤ 11 := by omega
  unfold monthOf monthStart monthEnd
  rw [← hmp]
  refine ⟨hle, by omega, ?_⟩
  by_cases hlast : mp = 11
  · rw [if_pos hlast]
    exact h
  · rw [if_neg hlast]
    unfold monthStart
    omega

theorem monthOf_monthStart (hmp : mp ≤ 11) (h : monthStart mp + k < monthEnd yoe mp) :
    monthOf (monthStart mp + k) = mp := by
  have hlength := yearLength_cases yoe
  unfold monthEnd at h
  unfold monthOf monthStart at *
  by_cases hlast : mp = 11
  · subst hlast
    rw [if_pos rfl] at h
    omega
  · rw [if_neg hlast] at h
    interval_cases mp <;> omega

/-! ## Dates by their parts -/

/-- The date of a day of a month, counted from March of a year and from zero. -/
def ofParts (y mp k : Nat) : Date :=
  ⟨if mp < 10 then y else y + 1, if mp < 10 then mp + 3 else mp - 9, k + 1⟩

theorem isLeap_mod (y : Nat) : isLeap (y % 400 + 1) ↔ isLeap (y + 1) := by
  unfold isLeap
  omega

theorem monthStart_add_daysInMonth (y : Nat) (hmp : mp ≤ 11) (k : Nat) :
    monthStart mp + daysInMonth (ofParts y mp k).year (ofParts y mp k).month
    = monthEnd (y % 400) mp := by
  by_cases hlast : mp = 11
  · subst hlast
    show 337 + (if isLeap (y + 1) then 29 else 28) = if isLeap (y % 400 + 1) then 366 else 365
    by_cases hleap : isLeap (y + 1)
    · rw [if_pos hleap, if_pos ((isLeap_mod y).mpr hleap)]
    · rw [if_neg hleap, if_neg fun h => hleap ((isLeap_mod y).mp h)]
  · have hlt : mp ≤ 10 := by omega
    unfold monthEnd
    rw [if_neg hlast]
    interval_cases mp <;> rfl

theorem valid_ofParts (hmp : mp ≤ 11) (hk : monthStart mp + k < monthEnd (y % 400) mp) :
    (ofParts y mp k).Valid := by
  have hlength := monthStart_add_daysInMonth y hmp k
  refine ⟨?_, ?_, Nat.le_add_left _ _, ?_⟩
  · show 1 ≤ if mp < 10 then mp + 3 else mp - 9
    split_ifs <;> omega
  · show (if mp < 10 then mp + 3 else mp - 9) ≤ 12
    split_ifs <;> omega
  · show k + 1 ≤ daysInMonth (ofParts y mp k).year (ofParts y mp k).month
    omega

/-! ## Dates by their numbers -/

/-- The date of a day number. -/
def ofOrdinal (z : Nat) : Date :=
  let era := z / 146097
  let doe := z - era * 146097
  let yoe := yearOf doe
  let doy := doe - yearStart yoe
  let mp := monthOf doy
  ofParts (yoe + era * 400) mp (doy - monthStart mp)

/-- The number of the day with these parts. -/
def ordinal (y mp k : Nat) : Nat := y / 400 * 146097 + yearStart (y % 400) + monthStart mp + k

theorem monthEnd_le_yearLength (yoe : Nat) (hmp : mp ≤ 11) : monthEnd yoe mp ≤ yearLength yoe := by
  have hlength := yearLength_cases yoe
  unfold monthEnd monthStart
  split_ifs
  · exact le_rfl
  · omega

theorem yearStart_add_yearLength (h : yoe < 400) :
    yearStart yoe + yearLength yoe = if yoe = 399 then 146097 else yearStart (yoe + 1) := by
  by_cases hlast : yoe = 399
  · subst hlast
    rfl
  · rw [if_neg hlast]
    unfold yearStart yearLength
    by_cases hleap : isLeap (yoe + 1)
    · rw [if_pos hleap]
      unfold isLeap at hleap
      omega
    · rw [if_neg hleap]
      unfold isLeap at hleap
      omega

theorem dayOfEra_lt (hyoe : yoe < 400) (hdoy : doy < yearLength yoe) :
    yearStart yoe + doy < 146097 := by
  have hend := yearStart_add_yearLength hyoe
  split_ifs at hend with hlast
  · omega
  · have hnext : yearStart (yoe + 1) ≤ 146097 := by
      unfold yearStart
      omega
    omega

/-- **The date of the number of a date.** -/
theorem ofOrdinal_ordinal (hmp : mp ≤ 11) (hk : monthStart mp + k < monthEnd (y % 400) mp) :
    ofOrdinal (ordinal y mp k) = ofParts y mp k := by
  have hyoe : y % 400 < 400 := Nat.mod_lt _ (by decide)
  have hdoy := hk.trans_le (monthEnd_le_yearLength (y % 400) hmp)
  have hdoe := dayOfEra_lt hyoe hdoy
  have hera : ordinal y mp k / 146097 = y / 400 := by
    unfold ordinal
    omega
  have hday : ordinal y mp k - y / 400 * 146097 = yearStart (y % 400) + (monthStart mp + k) := by
    unfold ordinal
    omega
  unfold ofOrdinal
  dsimp only
  rw [hera, hday, yearOf_yearStart hyoe hdoy, Nat.add_sub_cancel_left, monthOf_monthStart hmp hk,
    Nat.add_sub_cancel_left, Nat.mul_comm, Nat.mod_add_div]

/-- **The parts of a day number.** -/
theorem ofOrdinal_parts (z : Nat) : ∃ y mp k, mp ≤ 11 ∧ monthStart mp + k < monthEnd (y % 400) mp
    ∧ z = ordinal y mp k ∧ ofOrdinal z = ofParts y mp k := by
  obtain ⟨doe, hdoe⟩ : ∃ doe, doe = z - z / 146097 * 146097 := ⟨_, rfl⟩
  have hlt : doe < 146097 := by omega
  obtain ⟨hyoe, hstart, hend⟩ := yearOfEra hlt
  obtain ⟨yoe, hyear⟩ : ∃ yoe, yoe = yearOf doe := ⟨_, rfl⟩
  rw [← hyear] at hyoe hstart hend
  obtain ⟨hmp, hmonth, hmonth'⟩ := monthOfYear (Nat.sub_lt_left_of_lt_add hstart hend)
  have hmod : (yoe + z / 146097 * 400) % 400 = yoe := by omega
  have hdiv : (yoe + z / 146097 * 400) / 400 = z / 146097 := by omega
  refine ⟨yoe + z / 146097 * 400, monthOf (doe - yearStart yoe),
    doe - yearStart yoe - monthStart (monthOf (doe - yearStart yoe)), hmp, ?_, ?_, ?_⟩
  · rw [hmod, Nat.add_sub_cancel' hmonth]
    exact hmonth'
  · unfold ordinal
    rw [hmod, hdiv, Nat.add_assoc, Nat.add_sub_cancel' hmonth]
    omega
  · unfold ofOrdinal
    dsimp only
    rw [← hdoe, ← hyear]

theorem daysInMonth_pos (year month : Nat) : 0 < daysInMonth year month := by
  unfold daysInMonth
  split_ifs <;> decide

/-- **The next day.** -/
theorem next_ofParts (hmp : mp ≤ 11) (hk : monthStart mp + k < monthEnd (y % 400) mp) :
    ∃ y' mp' k', mp' ≤ 11 ∧ monthStart mp' + k' < monthEnd (y' % 400) mp'
    ∧ (ofParts y mp k).next = ofParts y' mp' k'
      ∧ ordinal y' mp' k' = ordinal y mp k + 1 := by
  have hlength := monthStart_add_daysInMonth y hmp k
  have hstart : ∀ y mp, mp ≤ 11 → monthStart mp + 0 < monthEnd (y % 400) mp := by
    intro y mp hmp
    have hfirst := monthStart_add_daysInMonth y hmp 0
    have hpos := daysInMonth_pos (ofParts y mp 0).year (ofParts y mp 0).month
    omega
  by_cases hinside : monthStart mp + (k + 1) < monthEnd (y % 400) mp
  · refine ⟨y, mp, k + 1, hmp, hinside, ?_, (Nat.add_assoc _ _ _).symm⟩
    have hday :
      (ofParts y mp k).day < daysInMonth (ofParts y mp k).year (ofParts y mp k).month := by
      show k + 1 < _
      omega
    unfold Date.next
    rw [if_pos hday]
    rfl
  have hlast :
    ¬ (ofParts y mp k).day < daysInMonth (ofParts y mp k).year (ofParts y mp k).month := by
    show ¬ k + 1 < _
    omega
  have hend : monthStart mp + k + 1 = monthEnd (y % 400) mp := by omega
  unfold Date.next
  rw [if_neg hlast]
  by_cases hyear : mp = 11
  · -- the last day of February, and the next year by the March count
    subst hyear
    have hmarch := hstart (y + 1) 0 (Nat.zero_le _)
    refine ⟨y + 1, 0, 0, Nat.zero_le _, hmarch, ?_, ?_⟩
    · exact if_pos (by decide : 2 < 12)
    have hlong : monthEnd (y % 400) 11 = yearLength (y % 400) := rfl
    have hnext := yearStart_add_yearLength (Nat.mod_lt y (by decide : 0 < 400))
    have hzero : monthStart 0 = 0 := rfl
    have hfirst : yearStart 0 = 0 := rfl
    unfold ordinal
    split_ifs at hnext with hera
    · have hmod : (y + 1) % 400 = 0 := by omega
      have hdiv : (y + 1) / 400 = y / 400 + 1 := by omega
      rw [hmod, hdiv, hzero, hfirst]
      omega
    · have hmod : (y + 1) % 400 = y % 400 + 1 := by omega
      have hdiv : (y + 1) / 400 = y / 400 := by omega
      rw [hmod, hdiv, hzero]
      omega
  · have hnext : monthEnd (y % 400) mp = monthStart (mp + 1) := if_neg hyear
    refine ⟨y, mp + 1, 0, by omega, hstart y (mp + 1) (by omega), ?_, ?_⟩
    · have hlt : mp ≤ 10 := by omega
      interval_cases mp <;> rfl
    · unfold ordinal
      omega

/-- **The day after the day with a number has the next one**, and its date is a date. -/
theorem ofOrdinal_succ (z : Nat) : ofOrdinal (z + 1) = (ofOrdinal z).next
    ∧ (ofOrdinal z).Valid := by
  obtain ⟨y, mp, k, hmp, hk, hz, hdate⟩ := ofOrdinal_parts z
  obtain ⟨y', mp', k', hmp', hk', hnext, hordinal⟩ := next_ofParts hmp hk
  rw [hdate, hnext, hz, ← hordinal]
  exact ⟨ofOrdinal_ordinal hmp' hk', valid_ofParts hmp hk⟩

/-- **Dates by counting days**: the date of a number is so many days after the date of another. -/
theorem ofOrdinal_add (start days : Nat) :
    ofOrdinal (start + days) = Date.next^[days] (ofOrdinal start) := by
  induction days with
  | zero => rfl
  | succ days ih =>
      rw [Function.iterate_succ_apply', ← ih, ← Nat.add_assoc]
      exact (ofOrdinal_succ _).1

end Calendar
