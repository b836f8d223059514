import StandIn.Text.Digit
import StandIn.Text.Scan

/-!
# Dates and times in TOML

* `Format.Toml.date`, `Format.Toml.time`, `Format.Toml.zone` — the parts.
* `Format.Toml.moment` — a date, a time or both, brought to one form.
-/

namespace StandIn.Settings.Format.Toml

open Scan

/-- Reads exactly `count` decimal digits. -/
def digits : (count : Nat) → Scan (List Char)
  | 0 => pure []
  | count + 1 => do
    let c ← satisfy Char.isDigit
    let cs ← digits count
    return c :: cs

/-- Reads a number of `count` digits between two bounds and gives its text. -/
def bounded (count least greatest : Nat) : Scan (List Char) := do
  let cs ← digits count
  let n := Text.numberOf 10 cs
  require (least ≤ n && n ≤ greatest)
  return cs

/-- The number of days in a month. -/
def daysIn (year month : Nat) : Nat :=
  if month = 2 then
    if year % 4 = 0 && (year % 100 ≠ 0 || year % 400 = 0) then 29 else 28
  else if [4, 6, 9, 11].contains month then 30
  else 31

/-- Reads a date. -/
def date : Scan (List Char) := do
  let year ← digits 4
  char '-'
  let month ← bounded 2 1 12
  char '-'
  let day ← bounded 2 1 (daysIn (Text.numberOf 10 year) (Text.numberOf 10 month))
  return year ++ '-' :: month ++ '-' :: day

/-- Reads a time of day.  Of a fraction nine digits count, and zeros at its end do not. -/
def time : Scan (List Char) := do
  let hour ← bounded 2 0 23
  char ':'
  let minute ← bounded 2 0 59
  char ':'
  let second ← bounded 2 0 60
  let fraction ← maybe do
    char '.'
    takeWhile1 Char.isDigit
  let kept := (((fraction.getD []).take 9).reverse.dropWhile (· = '0')).reverse
  return hour ++ ':' :: minute ++ ':' :: second ++ (if kept.isEmpty then [] else '.' :: kept)

/-- Reads the distance from universal time.  A distance of zero has a plus sign. -/
def zone : Scan (List Char) :=
  first [
    (fun _ => ['Z']) <$> satisfy (fun c => c = 'Z' || c = 'z'),
    do
      let sign ← satisfy fun c => c = '+' || c = '-'
      let hours ← bounded 2 0 23
      char ':'
      let minutes ← bounded 2 0 59
      let isZero := Text.numberOf 10 (hours ++ minutes) = 0
      return (if isZero then '+' else sign) :: hours ++ ':' :: minutes]

/-- Reads a date, a time or both, and gives its text. -/
def moment : Scan String :=
  first [
    do
      let day ← date
      let rest ← maybe do
        let _ ← satisfy fun c => c = 'T' || c = 't' || c = ' '
        let t ← time
        let z ← maybe zone
        return 'T' :: t ++ z.getD []
      return String.ofList (day ++ rest.getD []),
    String.ofList <$> time]

end StandIn.Settings.Format.Toml
