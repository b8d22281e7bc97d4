/-!
# The Gregorian calendar

Dates are counted by their *ordinal*: day 1 is 1 January of year 1, and the Gregorian rules
are applied back to it.  `Calendar.ordinal` counts the days of a date and `Calendar.ofOrdinal`
turns a count back into a date; the day of the week follows from the ordinal, day 1 being a
Monday.

Two other ways of naming a day rest on these:

* an *ordinal date* names the day of the year, from 1 to 365 or 366 (`Calendar.ofDayOfYear`);
* a *week date* names a week of the ISO year and a day of that week, Monday being 1
  (`Calendar.ofWeekDate`).  Week 1 is the week that holds the year's first Thursday, so a year
  has 53 weeks when it starts on a Thursday, or on a Wednesday in a leap year.
-/
namespace ConnectedHome.Hub.Calendar

/-- Whether a year is a leap year. -/
def isLeapYear (y : Nat) : Bool := y % 4 == 0 && (y % 100 != 0 || y % 400 == 0)

/-- The number of days of a month. -/
def daysInMonth (y m : Nat) : Nat :=
  match m with
  | 2 => if isLeapYear y then 29 else 28
  | 4 | 6 | 9 | 11 => 30
  | _ => 31

/-- The number of days of a year. -/
def daysInYear (y : Nat) : Nat := if isLeapYear y then 366 else 365

/-- The days of the years before year `y`. -/
def daysBeforeYear (y : Nat) : Nat :=
  let p := y - 1
  p * 365 + p / 4 - p / 100 + p / 400

/-- The days of the months of year `y` before month `m`. -/
def daysBeforeMonth (y m : Nat) : Nat :=
  ((List.range (m - 1)).map fun i => daysInMonth y (i + 1)).foldl (· + ·) 0

/-- The ordinal of a date. -/
def ordinal (y m d : Nat) : Nat := daysBeforeYear y + daysBeforeMonth y m + d

/-- The month and day of the `n`-th day of year `y` (`1 ≤ n`), searching the months in order. -/
def monthDayOf (y : Nat) : Nat → Nat → Nat × Nat
  | 0, n => (12, n)
  | fuel + 1, n =>
    let m := 12 - fuel
    if m ≥ 12 || n ≤ daysInMonth y m then (m, n) else monthDayOf y fuel (n - daysInMonth y m)

/-- The date of an ordinal (`1 ≤ n`): the year found from an estimate corrected by one either
way, then the month and day. -/
def ofOrdinal (n : Nat) : Nat × Nat × Nat :=
  let guess := n * 400 / 146097 + 1
  let y :=
    if daysBeforeYear guess ≥ n then guess - 1
    else if daysBeforeYear (guess + 1) < n then guess + 1
    else guess
  let (m, d) := monthDayOf y 12 (n - daysBeforeYear y)
  (y, m, d)

/-- The day of the week of an ordinal, Monday being 0. -/
def weekdayOf (n : Nat) : Nat := (n + 6) % 7

/-- The ordinal of the Monday of week 1 of ISO year `y`. -/
def weekOneMonday (y : Nat) : Int :=
  let first := ordinal y 1 1
  let wd := weekdayOf first
  let monday : Int := (first : Int) - wd
  if wd > 3 then monday + 7 else monday

/-- Whether ISO year `y` has 53 weeks. -/
def hasWeek53 (y : Nat) : Bool :=
  let wd := weekdayOf (ordinal y 1 1)
  wd == 3 || (wd == 2 && isLeapYear y)

/-- The date of day `d` (1 to 7) of week `w` of ISO year `y`; none for a week or day the year
does not have. -/
def ofWeekDate (y w d : Nat) : Option (Nat × Nat × Nat) :=
  if w == 0 || w > 53 || (w == 53 && !hasWeek53 y) || d == 0 || d > 7 then none
  else
    let n := weekOneMonday y + ((w - 1) * 7 + d - 1 : Nat)
    if n < 1 then none else some (ofOrdinal n.toNat)

/-- The date of day `n` of year `y`; none for a day the year does not have. -/
def ofDayOfYear (y n : Nat) : Option (Nat × Nat × Nat) :=
  if n == 0 || n > daysInYear y then none else some (ofOrdinal (daysBeforeYear y + n))

/-- The date after a date. -/
def nextDay (y m d : Nat) : Nat × Nat × Nat := ofOrdinal (ordinal y m d + 1)

end ConnectedHome.Hub.Calendar
