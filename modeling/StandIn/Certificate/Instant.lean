import StandIn.Certificate.Basic

/-!
# Instants

* `Instant` — seconds since the start of 1970.
* `Instant.ofDate?` — the instant of a date and time of the calendar.
* `readInstant` — an instant in a certificate, in either of its two forms.
-/

namespace StandIn

/-- Seconds since the start of 1970. -/
abbrev Instant := Nat

namespace Instant

/-- Whether a year has 366 days. -/
def isLeapYear (year : Nat) : Bool :=
  year % 4 = 0 && (year % 100 ≠ 0 || year % 400 = 0)

/-- The number of days in a month. -/
def daysInMonth (year month : Nat) : Nat :=
  match month with
  | 2 => if isLeapYear year then 29 else 28
  | 4 | 6 | 9 | 11 => 30
  | _ => 31

/-- The number of days in the years before. -/
def daysBeforeYear (year : Nat) : Nat :=
  let y := year - 1
  y * 365 + y / 4 - y / 100 + y / 400

/-- The number of days of the year in the months before. -/
def daysBeforeMonth (year month : Nat) : Nat :=
  (List.range (month - 1)).foldl (fun days m => days + daysInMonth year (m + 1)) 0

/-- The instant of a date and time, from 1970 on. -/
def ofDate? (year month day hours minutes seconds : Nat) : Option Instant :=
  if year < 1970 then none
  else
    let days := daysBeforeYear year - daysBeforeYear 1970 + daysBeforeMonth year month + (day - 1)
    some (days * 86400 + hours * 3600 + minutes * 60 + seconds)

end Instant

namespace Certificate

/-- Takes a number of two digits between `low` and `high`. -/
def twoDigits (low high : Nat) : Octets → Except Defect (Nat × Octets)
  | a :: b :: rest =>
    let digit (c : UInt8) : Bool := 0x30 ≤ c && c ≤ 0x39
    let n := (a.toNat - 48) * 10 + (b.toNat - 48)
    if digit a && digit b && low ≤ n && n ≤ high then .ok (n, rest) else .error .badTime
  | _ => .error .badTime

/-- Takes the last two digits of a year between 1950 and 2049. -/
def shortYear (bs : Octets) : Except Defect (Nat × Octets) := do
  let (n, rest) ← twoDigits 0 99 bs
  return (if 50 ≤ n then 1900 + n else 2000 + n, rest)

/-- Takes the four digits of a year. -/
def longYear (bs : Octets) : Except Defect (Nat × Octets) := do
  let (high, bs) ← twoDigits 0 99 bs
  let (low, rest) ← twoDigits 0 99 bs
  return (high * 100 + low, rest)

/-- Takes an instant: year, month, day, hours, minutes and seconds, and the letter of the prime
meridian. -/
def readInstant (bs : Octets) : Except Defect (Instant × Octets) :=
  let short := Der.isNext .utcTime bs
  nested (if short then .utcTime else .generalizedTime) .trailingData (fun value => do
    let (year, value) ← if short then shortYear value else longYear value
    let (month, value) ← twoDigits 1 12 value
    let (day, value) ← twoDigits 1 (Instant.daysInMonth year month) value
    let (hours, value) ← twoDigits 0 23 value
    let (minutes, value) ← twoDigits 0 59 value
    let (seconds, value) ← twoDigits 0 59 value
    match value with
    | 0x5A :: rest =>
      return (← orElse (Instant.ofDate? year month day hours minutes seconds) .badTime, rest)
    | _ => throw .badTime) bs

end Certificate

end StandIn
