/-!
# Timestamps

Instants of civil time in nanoseconds since the start of 1970, UTC. A leap second is written as
second 60 of its minute; it repeats the count of the second before it and carries a mark.
-/

namespace GoldenCapture

structure Timestamp where
  nanos : Int
  /-- Whether the instant stands in a leap second, after the second that `nanos` counts. -/
  leap : Bool := false
deriving DecidableEq, Repr, Inhabited

namespace Timestamp

def nanosPerSecond : Int := 1000000000

def secondsPerDay : Int := 86400

/-- Whole seconds since the start of 1970. -/
def seconds (t : Timestamp) : Int := t.nanos / nanosPerSecond

/-- Nanoseconds within the second. -/
def fraction (t : Timestamp) : Nat := (t.nanos % nanosPerSecond).toNat

def secondOfDay (t : Timestamp) : Int := t.seconds % secondsPerDay

/-- Whether the leap second of `t` counts in its distance to `other`: it does as long as the time
of day of `t` does not come before the one of `other`. -/
def leapCounts (t other : Timestamp) : Bool :=
  t.leap && decide (other.secondOfDay ≤ t.secondOfDay)

/-- The nanoseconds from `earlier` to `t`. -/
def since (t earlier : Timestamp) : Int :=
  t.nanos - earlier.nanos + (if t.leapCounts earlier then nanosPerSecond else 0) -
    (if earlier.leapCounts t then nanosPerSecond else 0)

/-- Away from leap seconds, distance is subtraction. -/
theorem since_eq {t earlier : Timestamp} (h : t.leap = false) (h' : earlier.leap = false) :
    t.since earlier = t.nanos - earlier.nanos := by
  simp [since, leapCounts, h, h']

/-! ## The calendar -/

/-- A day of the calendar. -/
structure Date where
  year : Int
  month : Nat
  day : Nat
deriving DecidableEq, Repr

def isLeapYear (year : Int) : Bool :=
  year % 4 == 0 && (year % 100 != 0 || year % 400 == 0)

def daysInMonth (year : Int) (month : Nat) : Nat :=
  if month = 2 then if isLeapYear year then 29 else 28
  else if month = 4 ∨ month = 6 ∨ month = 9 ∨ month = 11 then 30
  else 31

/-- Whether the day exists. -/
def Date.exists (d : Date) : Bool :=
  1 ≤ d.month && d.month ≤ 12 && 1 ≤ d.day && d.day ≤ daysInMonth d.year d.month

/-- The days of a whole era of four hundred years. -/
def daysPerEra : Int := 146097

/-- The days from the start of 1970. Years are counted from March on, so that the day which a leap
year adds is its last. -/
def Date.toDays (d : Date) : Int :=
  let year := if d.month ≤ 2 then d.year - 1 else d.year
  let month : Int := if d.month ≤ 2 then d.month + 9 else d.month - 3
  let yearOfEra := year % 400
  let dayOfYear := (153 * month + 2) / 5 + d.day - 1
  let dayOfEra := yearOfEra * 365 + yearOfEra / 4 - yearOfEra / 100 + dayOfYear
  year / 400 * daysPerEra + dayOfEra - 719468

/-- The day so many days from the start of 1970. -/
def Date.ofDays (days : Int) : Date :=
  let shifted := days + 719468
  let dayOfEra := shifted % daysPerEra
  let yearOfEra := (dayOfEra - dayOfEra / 1460 + dayOfEra / 36524 - dayOfEra / 146096) / 365
  let dayOfYear := dayOfEra - (365 * yearOfEra + yearOfEra / 4 - yearOfEra / 100)
  let month := (5 * dayOfYear + 2) / 153
  let day := dayOfYear - (153 * month + 2) / 5 + 1
  let year := shifted / daysPerEra * 400 + yearOfEra
  if month < 10 then ⟨year, (month + 3).toNat, day.toNat⟩
  else ⟨year + 1, (month - 9).toNat, day.toNat⟩

def date (t : Timestamp) : Date := Date.ofDays (t.seconds / secondsPerDay)

end Timestamp

end GoldenCapture
