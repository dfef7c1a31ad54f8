import VendorLaunch.Number.Checked
import VendorLaunch.Yaml.Resolution

/-!
# Points of time in YAML

A timestamp is a day, or a day with a time of day and perhaps a time zone. `readTimestamp` reads
one and checks that there is such a day, time and zone.
-/

namespace VendorLaunch.Yaml

/-- A time of day, with the offset of its zone in minutes if it has one. -/
structure Clock where
  hour : Nat
  minute : Nat
  second : Nat
  zone : Option Int
  deriving DecidableEq, Repr

/-- A day and perhaps a time of day. -/
structure Timestamp where
  year : Nat
  month : Nat
  day : Nat
  clock : Option Clock
  deriving DecidableEq, Repr

/-- The number that digits denote. -/
def decimal (s : List Char) : Nat := s.foldl (fun n c => n * 10 + (c.toNat - 48)) 0

/-- Reads exactly `n` digits. -/
def takeDigits? (n : Nat) (s : List Char) : Option (Nat × List Char) :=
  (digits? n s).map fun r => (decimal (s.take n), r)

/-- Reads one or two digits. -/
def takeShort? (s : List Char) : Option (Nat × List Char) :=
  (oneOrTwo? s).map fun r => (decimal (s.take (s.length - r.length)), r)

/-- Reads the rest of a timestamp after the seconds: the offset of its zone. -/
def takeZone? (s : List Char) : Option (Option Int) :=
  let r := s.dropWhile fun c => c == ' ' || c == '\t'
  match r with
  | [] => if s.isEmpty then some none else none
  | ['Z'] => some (some 0)
  | sign :: r =>
    if sign == '+' || sign == '-' then
      match takeShort? r with
      | none => none
      | some (hours, r) =>
        let minutes : Option Nat := match r with
          | [] => some 0
          | ':' :: r =>
            match takeDigits? 2 r with
            | some (m, []) => some m
            | _ => none
          | _ => none
        minutes.map fun m =>
          let offset : Int := (hours * 60 + m : Nat)
          some (if sign == '-' then -offset else offset)
    else none

/-- Reads a time of day. -/
def takeClock? (s : List Char) : Option Clock := do
  let s ← dayEnd? s
  let (hour, s) ← takeShort? s
  let s ← char? ':' s
  let (minute, s) ← takeDigits? 2 s
  let s ← char? ':' s
  let (second, s) ← takeDigits? 2 s
  let s := match s with
    | '.' :: r => r.dropWhile Char.isDigit
    | _ => s
  let zone ← takeZone? s
  return ⟨hour, minute, second, zone⟩

/-- Reads the form of a timestamp. -/
def takeTimestamp? (s : List Char) : Option Timestamp := do
  let (year, s) ← takeDigits? 4 s
  let s ← char? '-' s
  let (month, s) ← takeShort? s
  let s ← char? '-' s
  let (day, s) ← takeShort? s
  if s.isEmpty then return ⟨year, month, day, none⟩
  else
    let clock ← takeClock? s
    return ⟨year, month, day, some clock⟩

/-- Whether a year has a leap day. -/
def isLeap (year : Nat) : Bool := year % 4 == 0 && (year % 100 != 0 || year % 400 == 0)

/-- The number of days of a month. -/
def monthDays (year month : Nat) : Nat :=
  if month = 2 then (if isLeap year then 29 else 28)
  else if month = 4 ∨ month = 6 ∨ month = 9 ∨ month = 11 then 30
  else 31

/-- What is wrong with a day. -/
def Timestamp.dayProblem (t : Timestamp) : Option String :=
  if t.year = 0 then some "year 0 is out of range"
  else if t.month = 0 ∨ 12 < t.month then some "month must be in 1..12"
  else if t.day = 0 ∨ monthDays t.year t.month < t.day then some "day is out of range for month"
  else none

/-- What is wrong with the offset of a zone: it is a day or more. -/
def zoneProblem (offset : Int) : Option String :=
  if offset.natAbs < 1440 then none
  else
    let days := offset.fdiv 1440
    let seconds := offset.fmod 1440 * 60
    some ("offset must be a timedelta strictly between -timedelta(hours=24) and " ++
      "timedelta(hours=24), not datetime.timedelta(days=" ++ toString days ++
      (if seconds = 0 then "" else ", seconds=" ++ toString seconds) ++ ").")

/-- What is wrong with a time of day. -/
def Clock.problem (c : Clock) : Option String :=
  if 23 < c.hour then some "hour must be in 0..23"
  else if 59 < c.minute then some "minute must be in 0..59"
  else if 59 < c.second then some "second must be in 0..59"
  else none

/-- What is wrong with a timestamp; its zone is looked at first. -/
def Timestamp.problem (t : Timestamp) : Option String :=
  match t.clock with
  | none => t.dayProblem
  | some c => (c.zone.bind zoneProblem).or (t.dayProblem.or c.problem)

/-- Reads a timestamp. -/
def readTimestamp (s : List Char) : Except Fault Timestamp :=
  let s := if s.getLast? = some '\n' then s.dropLast else s
  match takeTimestamp? s with
  | none => .error (.named "AttributeError" "'NoneType' object has no attribute 'groupdict'")
  | some t =>
    match t.problem with
    | some p => .error (.value p)
    | none => .ok t

end VendorLaunch.Yaml
