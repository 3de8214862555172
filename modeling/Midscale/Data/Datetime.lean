import Mathlib.Data.Int.Basic

/-!
# Points in time

A timezone-aware `datetime` in UTC is the number of microseconds since 1970-01-01.
-/

namespace Midscale

/-- A point in time, in microseconds since the epoch. -/
abbrev Timestamp := ℤ

namespace Timestamp

/-- A number of seconds as a difference of timestamps. -/
def seconds (n : ℤ) : ℤ := n * 1000000

/-- The decimal digits of `n`, padded with zeros to the given width. -/
def padded (width n : ℕ) : String :=
  let digits := Nat.toDigits 10 n
  String.ofList (List.replicate (width - digits.length) '0' ++ digits)

/-- Year, month and day of a number of days since the epoch, in the proleptic Gregorian calendar.
The computation counts years from March. -/
def civil (days : ℤ) : ℤ × ℕ × ℕ :=
  let z := days + 719468
  let doe := (z % 146097).toNat
  let yoe := (doe - doe / 1460 + doe / 36524 - doe / 146096) / 365
  let doy := doe - (365 * yoe + yoe / 4 - yoe / 100)
  let mp := (5 * doy + 2) / 153
  let month := if mp < 10 then mp + 3 else mp - 9
  (yoe + z / 146097 * 400 + (if month ≤ 2 then 1 else 0), month, doy - (153 * mp + 2) / 5 + 1)

/-- `t.isoformat()`. -/
def isoformat (t : Timestamp) : String :=
  let (year, month, day) := civil (t / 86400000000)
  let us := (t % 86400000000).toNat
  let s := us / 1000000
  padded 4 year.toNat ++ "-" ++ padded 2 month ++ "-" ++ padded 2 day ++ "T" ++
    padded 2 (s / 3600) ++ ":" ++ padded 2 (s / 60 % 60) ++ ":" ++ padded 2 (s % 60) ++
    (if us % 1000000 = 0 then "" else "." ++ padded 6 (us % 1000000)) ++ "+00:00"

example : isoformat 951868799000042 = "2000-02-29T23:59:59.000042+00:00" := by decide

end Timestamp

end Midscale
