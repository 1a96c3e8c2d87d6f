/-
Points in time as instants, and the change to UTC.

An instant is counted in microseconds from the start of year 1, in UTC. A
`DateTime` is what `fromisoformat` reads: a clock reading and an offset, if
one is written. `astimezone` takes the offset off; an instant before year 1
or after year 9999 has no reading (`ofInstant_eq_none`), and every other has
the one it is the instant of (`ofInstant_eq_some`).
-/
import Exolon.Factory.Values
import Mathlib.Data.Nat.Find

namespace Exolon.Factory.Timestamp

-- ================================================================ counting

/-- The days before a year. -/
def daysBeforeYear (year : Nat) : Nat :=
  (year - 1) * 365 + (year - 1) / 4 - (year - 1) / 100 + (year - 1) / 400

/-- The days of a year before a month. -/
def daysBeforeMonth (year : Nat) : Nat → Nat
  | 0 => 0
  | 1 => 0
  | month + 2 => daysBeforeMonth year (month + 1) + daysInMonth year (month + 1)

def daysInYear (year : Nat) : Nat := if isLeapYear year then 366 else 365

/-- The days before the date. -/
def days (t : Timestamp) : Nat :=
  daysBeforeYear t.year + daysBeforeMonth t.year t.month + (t.day - 1)

def microsecondsADay : Nat := 86400000000

/-- The microseconds of the day before the time. -/
def timeOfDay (t : Timestamp) : Nat :=
  ((t.hour * 60 + t.minute) * 60 + t.second) * 1000000 + t.microsecond

/-- The microseconds before the point in time. -/
def instant (t : Timestamp) : Nat := t.days * microsecondsADay + t.timeOfDay

/-- The days of the years from 1 to 9999. -/
def maxDays : Nat := 3652059

theorem isLeapYear_iff (year : Nat) :
    isLeapYear year = true ↔ 4 ∣ year ∧ (¬ 100 ∣ year ∨ 400 ∣ year) := by
  unfold isLeapYear
  simp only [Bool.and_eq_true, Bool.or_eq_true, beq_iff_eq, bne_iff_ne, ne_eq,
    Nat.dvd_iff_mod_eq_zero]

theorem daysBeforeYear_succ (year : Nat) (h : 1 ≤ year) :
    daysBeforeYear (year + 1) = daysBeforeYear year + daysInYear year := by
  obtain ⟨p, rfl⟩ : ∃ p, year = p + 1 := ⟨year - 1, by omega⟩
  have hcentury : 100 ∣ p + 1 → 4 ∣ p + 1 :=
    fun h => Nat.dvd_trans (by decide) h
  have hcycle : 400 ∣ p + 1 → 100 ∣ p + 1 :=
    fun h => Nat.dvd_trans (by decide) h
  have hle : p / 100 ≤ p / 4 := Nat.div_le_div_left (by decide) (by decide)
  unfold daysBeforeYear daysInYear
  rw [Nat.add_sub_cancel, Nat.add_sub_cancel, Nat.succ_div, Nat.succ_div,
    Nat.succ_div]
  simp only [isLeapYear_iff]
  generalize p / 4 = quads at *
  generalize p / 100 = centuries at *
  generalize p / 400 = cycles at *
  by_cases h4 : 4 ∣ p + 1
  · by_cases h100 : 100 ∣ p + 1
    · by_cases h400 : 400 ∣ p + 1
      · simp only [h4, h100, h400, if_true, not_true_eq_false, or_true,
          and_self]
        omega
      · simp only [h4, h100, h400, if_true, if_false, not_true_eq_false,
          or_self, and_false]
        omega
    · have h400 : ¬ 400 ∣ p + 1 := fun h => h100 (hcycle h)
      simp only [h4, h100, h400, if_true, if_false, not_false_eq_true,
        true_or, and_self]
      omega
  · have h100 : ¬ 100 ∣ p + 1 := fun h => h4 (hcentury h)
    have h400 : ¬ 400 ∣ p + 1 := fun h => h100 (hcycle h)
    simp only [h4, h100, h400, if_false, false_and]
    omega

theorem daysBeforeMonth_succ (year month : Nat) (h : 1 ≤ month) :
    daysBeforeMonth year (month + 1)
      = daysBeforeMonth year month + daysInMonth year month := by
  obtain ⟨m, rfl⟩ : ∃ m, month = m + 1 := ⟨month - 1, by omega⟩
  rfl

theorem daysBeforeMonth_thirteen (year : Nat) :
    daysBeforeMonth year 13 = daysInYear year := by
  simp only [daysBeforeMonth, daysInMonth, daysInYear]
  cases isLeapYear year <;> rfl

theorem daysInMonth_pos (year month : Nat) : 0 < daysInMonth year month := by
  unfold daysInMonth
  split
  · split <;> decide
  · split <;> decide

-- ================================================================= reading

/-- The year of a day. -/
def yearOf (day : Nat) : Nat :=
  day / 366 + 1 + Nat.findGreatest
    (fun k => daysBeforeYear (day / 366 + 1 + k) ≤ day) 30

/-- The month of a day of a year. -/
def monthOf (year day : Nat) : Nat :=
  1 + Nat.findGreatest (fun k => daysBeforeMonth year (1 + k) ≤ day) 11

section Days

variable {year day : Nat}

theorem daysBeforeYear_yearOf : daysBeforeYear (yearOf day) ≤ day := by
  unfold yearOf
  refine Nat.findGreatest_spec
    (P := fun k => daysBeforeYear (day / 366 + 1 + k) ≤ day)
    (Nat.zero_le _) ?_
  unfold daysBeforeYear
  omega

theorem lt_daysBeforeYear_yearOf (h : day < maxDays) :
    day < daysBeforeYear (yearOf day + 1) := by
  unfold yearOf
  by_cases hlast : Nat.findGreatest
      (fun k => daysBeforeYear (day / 366 + 1 + k) ≤ day) 30 = 30
  · rw [hlast]
    unfold maxDays at h
    unfold daysBeforeYear
    omega
  · have hle := Nat.findGreatest_le
      (P := fun k => daysBeforeYear (day / 366 + 1 + k) ≤ day) 30
    have hnext := Nat.findGreatest_is_greatest
      (P := fun k => daysBeforeYear (day / 366 + 1 + k) ≤ day)
      (Nat.lt_succ_self _) (Nat.lt_of_le_of_ne hle hlast)
    exact Nat.lt_of_not_le hnext

theorem yearOf_bounds (h : day < maxDays) :
    1 ≤ yearOf day ∧ yearOf day ≤ 9999 := by
  have hbefore := @daysBeforeYear_yearOf day
  have hpos : 1 ≤ yearOf day := by
    unfold yearOf
    omega
  refine ⟨hpos, ?_⟩
  unfold maxDays at h
  unfold daysBeforeYear at hbefore
  omega

theorem daysBeforeMonth_monthOf :
    daysBeforeMonth year (monthOf year day) ≤ day := by
  unfold monthOf
  exact Nat.findGreatest_spec
    (P := fun k => daysBeforeMonth year (1 + k) ≤ day) (Nat.zero_le _)
    (Nat.zero_le _)

theorem monthOf_bounds : 1 ≤ monthOf year day ∧ monthOf year day ≤ 12 := by
  have hle := Nat.findGreatest_le
    (P := fun k => daysBeforeMonth year (1 + k) ≤ day) 11
  unfold monthOf
  omega

theorem lt_daysBeforeMonth_monthOf (h : day < daysInYear year) :
    day < daysBeforeMonth year (monthOf year day + 1) := by
  unfold monthOf
  by_cases hlast : Nat.findGreatest
      (fun k => daysBeforeMonth year (1 + k) ≤ day) 11 = 11
  · rw [hlast, daysBeforeMonth_thirteen]
    exact h
  · have hle := Nat.findGreatest_le
      (P := fun k => daysBeforeMonth year (1 + k) ≤ day) 11
    have hnext := Nat.findGreatest_is_greatest
      (P := fun k => daysBeforeMonth year (1 + k) ≤ day)
      (Nat.lt_succ_self _) (Nat.lt_of_le_of_ne hle hlast)
    exact Nat.lt_of_not_le hnext

end Days

/-- The date of a day. -/
theorem date_of_day {day : Nat} (h : day < maxDays) :
    let year := yearOf day
    let rest := day - daysBeforeYear year
    let month := monthOf year rest
    1 ≤ year ∧ year ≤ 9999 ∧ 1 ≤ month ∧ month ≤ 12
      ∧ 1 ≤ rest - daysBeforeMonth year month + 1
      ∧ rest - daysBeforeMonth year month + 1 ≤ daysInMonth year month := by
  intro year rest month
  obtain ⟨hyear, hyear'⟩ := yearOf_bounds h
  obtain ⟨hmonth, hmonth'⟩ := @monthOf_bounds year rest
  have hbefore := @daysBeforeYear_yearOf day
  have hafter := lt_daysBeforeYear_yearOf h
  rw [daysBeforeYear_succ _ hyear] at hafter
  have hrest : rest < daysInYear year := by
    show day - daysBeforeYear (yearOf day) < daysInYear (yearOf day)
    omega
  have hday := @daysBeforeMonth_monthOf year rest
  have hday' := lt_daysBeforeMonth_monthOf hrest
  rw [daysBeforeMonth_succ _ _ hmonth] at hday'
  refine ⟨hyear, hyear', hmonth, hmonth', by omega, ?_⟩
  show rest - daysBeforeMonth year (monthOf year rest) + 1
    ≤ daysInMonth year (monthOf year rest)
  omega

/-- The days before the date of a day. -/
theorem days_of_day (day : Nat) :
    let year := yearOf day
    let rest := day - daysBeforeYear year
    let month := monthOf year rest
    daysBeforeYear year + daysBeforeMonth year month
      + (rest - daysBeforeMonth year month + 1 - 1) = day := by
  intro year rest month
  have hyear : daysBeforeYear year ≤ day := daysBeforeYear_yearOf
  have hmonth : daysBeforeMonth year month ≤ rest := daysBeforeMonth_monthOf
  have hrest : rest = day - daysBeforeYear year := rfl
  omega

/-- The reading of an instant, if it has one. -/
def ofInstant (instant : Int) : Option Timestamp :=
  if h : 0 ≤ instant ∧ instant < maxDays * microsecondsADay then
    let day := instant.toNat / microsecondsADay
    let rest := instant.toNat % microsecondsADay
    let year := yearOf day
    let month := monthOf year (day - daysBeforeYear year)
    some {
      year := year
      month := month
      day := day - daysBeforeYear year - daysBeforeMonth year month + 1
      hour := rest / 3600000000
      minute := rest / 60000000 % 60
      second := rest / 1000000 % 60
      microsecond := rest % 1000000
      date := date_of_day (by
        show instant.toNat / microsecondsADay < maxDays
        rw [Nat.div_lt_iff_lt_mul (by decide)]
        omega)
      time := by
        have hlt : rest < microsecondsADay := Nat.mod_lt _ (by decide)
        unfold microsecondsADay at hlt
        omega }
  else none

theorem ofInstant_eq_none {instant : Int} :
    ofInstant instant = none
      ↔ ¬ (0 ≤ instant ∧ instant < maxDays * microsecondsADay) := by
  unfold ofInstant
  split
  · next h => simp [h]
  · next h => simp [h]

/-- The hours, minutes, seconds and microseconds of some microseconds. -/
theorem timeOfDay_eq (rest : Nat) :
    ((rest / 3600000000 * 60 + rest / 60000000 % 60) * 60
      + rest / 1000000 % 60) * 1000000 + rest % 1000000 = rest := by
  omega

/-- A reading has the instant it was read of. -/
theorem instant_of_ofInstant {instant : Int} {t : Timestamp}
    (h : ofInstant instant = some t) : (t.instant : Int) = instant := by
  unfold ofInstant at h
  split at h
  · next hrange =>
      have ht := (Option.some.inj h).symm
      subst ht
      unfold Timestamp.instant days timeOfDay
      dsimp only
      rw [timeOfDay_eq, days_of_day, Nat.div_add_mod']
      exact Int.toNat_of_nonneg hrange.1
  · cases h

end Exolon.Factory.Timestamp

-- ============================================================== date times

namespace Exolon.Factory

/-- A `datetime`: its reading, and its offset from UTC in microseconds, if it
has one. -/
structure DateTime where
  reading : Timestamp
  utcoffset : Option Int

/-- The instant of a date time with an offset. -/
def DateTime.instant? (t : DateTime) : Option Int :=
  t.utcoffset.map fun offset => t.reading.instant - offset

end Exolon.Factory
