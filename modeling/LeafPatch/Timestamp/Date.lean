/-!
# Calendar dates

Dates of the Gregorian calendar, extended to all years before its introduction,
with the year zero before the year one.  A date steps to its neighbours, which
is all that a shift between time zones needs, and is found from a count of days.
-/

namespace LeafPatch

/-- Whether a year has a twenty-ninth of February. -/
def isLeapYear (year : Int) : Bool :=
  year % 4 == 0 && (year % 100 != 0 || year % 400 == 0)

/-- The number of days of a month. -/
def daysOfMonth (year : Int) (month : Nat) : Nat :=
  match month with
  | 2 => if isLeapYear year then 29 else 28
  | 4 => 30
  | 6 => 30
  | 9 => 30
  | 11 => 30
  | _ => 31

theorem daysOfMonth_pos (year : Int) (month : Nat) :
    1 ≤ daysOfMonth year month := by
  unfold daysOfMonth
  split
  · split <;> decide
  all_goals decide

/-- A date of the calendar. -/
structure Date where
  year : Int
  month : Nat
  day : Nat
  month_range : 1 ≤ month ∧ month ≤ 12
  day_range : 1 ≤ day ∧ day ≤ daysOfMonth year month
  deriving DecidableEq

namespace Date

/-- The date with the given year, month and day, if there is one. -/
def of? (year : Int) (month day : Nat) : Option Date :=
  if months : 1 ≤ month ∧ month ≤ 12 then
    if days : 1 ≤ day ∧ day ≤ daysOfMonth year month then
      some ⟨year, month, day, months, days⟩
    else
      none
  else
    none

/-- The first of a month. -/
def firstOf
    (year : Int)
    (month : Nat)
    (months : 1 ≤ month ∧ month ≤ 12) :
    Date :=
  ⟨year, month, 1, months, Nat.le_refl 1, daysOfMonth_pos year month⟩

/-- The last of a month. -/
def lastOf
    (year : Int)
    (month : Nat)
    (months : 1 ≤ month ∧ month ≤ 12) :
    Date :=
  ⟨year, month, daysOfMonth year month, months,
    daysOfMonth_pos year month, Nat.le_refl _⟩

/-- The day after. -/
def next (date : Date) : Date :=
  if later : date.day + 1 ≤ daysOfMonth date.year date.month then
    { date with day := date.day + 1, day_range := ⟨by omega, later⟩ }
  else if months : date.month + 1 ≤ 12 then
    firstOf date.year (date.month + 1) ⟨by omega, months⟩
  else
    firstOf (date.year + 1) 1 (by decide)

/-- The day before. -/
def previous (date : Date) : Date :=
  if earlier : 1 ≤ date.day - 1 then
    { date with
      day := date.day - 1
      day_range := ⟨earlier, by have := date.day_range.2; omega⟩ }
  else if months : 1 ≤ date.month - 1 then
    lastOf date.year (date.month - 1)
      ⟨months, by have := date.month_range.2; omega⟩
  else
    lastOf (date.year - 1) 12 (by decide)

/--
The date a number of days after the first of January 1970.

Days are counted in years that begin in March, so that a leap day ends its year,
within cycles of four hundred years, all of which are equally long.
-/
def ofUnixDay? (day : Int) : Option Date :=
  let shifted := day + 719468
  let cycle := shifted / 146097
  let dayOfCycle := shifted % 146097
  let yearOfCycle :=
    (dayOfCycle - dayOfCycle / 1460 + dayOfCycle / 36524
      - dayOfCycle / 146096) / 365
  let dayOfYear :=
    dayOfCycle
      - (365 * yearOfCycle + yearOfCycle / 4 - yearOfCycle / 100)
  let monthFromMarch := (5 * dayOfYear + 2) / 153
  let dayOfMonth := dayOfYear - (153 * monthFromMarch + 2) / 5 + 1
  let month :=
    if monthFromMarch < 10 then monthFromMarch + 3 else monthFromMarch - 9
  let year :=
    cycle * 400 + yearOfCycle + (if month ≤ 2 then 1 else 0)
  of? year month.toNat dayOfMonth.toNat

end Date

end LeafPatch
