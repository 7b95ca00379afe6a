/-!
# Instants

An instant is written as a date and a time of day in universal time.
-/
namespace ElfFacts

structure Instant where
  seconds : Nat
  nanoseconds : Nat
  deriving DecidableEq, Repr

structure Date where
  year : Nat
  month : Nat
  day : Nat
  deriving DecidableEq, Repr

namespace Date

/-- How many days come before the start of 1970, counted from the first of March of the year 0. -/
def epoch : Nat := 719468

/-- How many days four hundred years have. -/
def era : Nat := 146097

/-- The date that many days after the start of 1970. Years are taken to start in March, so that a
leap day ends its year. -/
def ofDays (days : Nat) : Date :=
  let n := days + epoch
  let dayOfEra := n % era
  let yearOfEra := (dayOfEra - dayOfEra / 1460 + dayOfEra / 36524 - dayOfEra / 146096) / 365
  let dayOfYear := dayOfEra - (365 * yearOfEra + yearOfEra / 4 - yearOfEra / 100)
  let m := (5 * dayOfYear + 2) / 153
  let month := if m < 10 then m + 3 else m - 9
  { year := yearOfEra + n / era * 400 + (if month ≤ 2 then 1 else 0)
    month := month
    day := dayOfYear - (153 * m + 2) / 5 + 1 }

end Date

namespace Instant

def padded (width n : Nat) : String :=
  let digits := Nat.toDigits 10 n
  String.ofList (List.replicate (width - digits.length) '0' ++ digits)

/-- As many digits as it takes in steps of three, and none for a whole second. -/
def fraction (nanoseconds : Nat) : String :=
  if nanoseconds = 0 then ""
  else if nanoseconds % 1000000 = 0 then "." ++ padded 3 (nanoseconds / 1000000)
  else if nanoseconds % 1000 = 0 then "." ++ padded 6 (nanoseconds / 1000)
  else "." ++ padded 9 nanoseconds

def text (i : Instant) : String :=
  let date := Date.ofDays (i.seconds / 86400)
  let time := i.seconds % 86400
  padded 4 date.year ++ "-" ++ padded 2 date.month ++ "-" ++ padded 2 date.day ++ "T" ++
    padded 2 (time / 3600) ++ ":" ++ padded 2 (time / 60 % 60) ++ ":" ++ padded 2 (time % 60) ++
    fraction i.nanoseconds ++ "+00:00"

end Instant

end ElfFacts
