import TerminalSessions.Text.Numeral

namespace TerminalSessions

open TerminalSessions.Text (zeroFilled)

/-- Nanoseconds since the beginning of 1970. -/
structure Instant where
  nanoseconds : Nat
  deriving DecidableEq, Repr, Inhabited

structure CivilTime where
  year : Nat
  month : Nat
  day : Nat
  hour : Nat
  minute : Nat
  second : Nat
  fraction : Nat
  deriving DecidableEq, Repr

namespace Instant

/-- Years are counted from March, so that a leap day ends its year: 146097 days make 400 years, and five
months from March on have 153 days. -/
def civil (instant : Instant) : CivilTime :=
  let seconds := instant.nanoseconds / 1_000_000_000
  let days := seconds / 86400 + 719468
  let era := days / 146097
  let dayOfEra := days % 146097
  let yearOfEra := (dayOfEra - dayOfEra / 1460 + dayOfEra / 36524 - dayOfEra / 146096) / 365
  let dayOfYear := dayOfEra - (365 * yearOfEra + yearOfEra / 4 - yearOfEra / 100)
  let shifted := (5 * dayOfYear + 2) / 153
  let month := if shifted < 10 then shifted + 3 else shifted - 9
  { year := yearOfEra + era * 400 + (if month ≤ 2 then 1 else 0)
    month
    day := dayOfYear - (153 * shifted + 2) / 5 + 1
    hour := seconds % 86400 / 3600
    minute := seconds % 3600 / 60
    second := seconds % 60
    fraction := instant.nanoseconds % 1_000_000_000 }

def date (time : CivilTime) : String :=
  zeroFilled 4 time.year ++ "-" ++ zeroFilled 2 time.month ++ "-" ++ zeroFilled 2 time.day

def fractionText (fraction : Nat) : String :=
  if fraction = 0 then ""
  else if fraction % 1_000_000 = 0 then "." ++ zeroFilled 3 (fraction / 1_000_000)
  else if fraction % 1000 = 0 then "." ++ zeroFilled 6 (fraction / 1000)
  else "." ++ zeroFilled 9 fraction

def timestamp (instant : Instant) : String :=
  let time := instant.civil
  date time ++ "T" ++ zeroFilled 2 time.hour ++ ":" ++ zeroFilled 2 time.minute ++ ":" ++
    zeroFilled 2 time.second ++ fractionText time.fraction ++ "+00:00"

def stamp (instant : Instant) : String :=
  let time := instant.civil
  date time ++ "_" ++ zeroFilled 2 time.hour ++ "-" ++ zeroFilled 2 time.minute ++ "-" ++
    zeroFilled 2 time.second

end Instant

end TerminalSessions
