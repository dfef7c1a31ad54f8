/-!
# Moments

A moment is a number of seconds since the beginning of 1970 in UTC. Its day is found by counting
in eras of 400 years, which all have the same number of days, with years that begin in March so
that the leap day is the last one.
-/

namespace VendorLaunch.Log

/-- A day and a time of day. -/
structure Moment where
  year : Int
  month : Nat
  day : Nat
  hour : Nat
  minute : Nat
  second : Nat
  deriving DecidableEq, Repr

/-- The number of days in 400 years. -/
def eraDays : Nat := 146097

/-- The year that begins in March, and the day in it, of a day of an era. -/
def yearOfEra (day : Nat) : Nat × Nat :=
  let year := (day - day / 1460 + day / 36524 - day / 146096) / 365
  (year, day - (365 * year + year / 4 - year / 100))

/-- The moment after a number of seconds. -/
def Moment.ofSeconds (seconds : Int) : Moment :=
  let days := seconds.fdiv 86400 + 719468
  let clock := (seconds.fmod 86400).toNat
  let era := days.fdiv eraDays
  let (yearInEra, dayInYear) := yearOfEra (days.fmod eraDays).toNat
  let march := (5 * dayInYear + 2) / 153
  let month := if march < 10 then march + 3 else march - 9
  { year := yearInEra + era * 400 + (if month ≤ 2 then 1 else 0)
    month := month
    day := dayInYear - (153 * march + 2) / 5 + 1
    hour := clock / 3600
    minute := clock / 60 % 60
    second := clock % 60 }

/-- A number with at least two digits. -/
def twoDigits (n : Nat) : String := if n < 10 then "0" ++ toString n else toString n

/-- The time of day. -/
def Moment.clockText (m : Moment) : String :=
  twoDigits m.hour ++ ":" ++ twoDigits m.minute ++ ":" ++ twoDigits m.second

/-- The day and the time of day. -/
def Moment.text (m : Moment) : String :=
  toString m.year ++ "-" ++ twoDigits m.month ++ "-" ++ twoDigits m.day ++ " " ++ m.clockText

end VendorLaunch.Log
