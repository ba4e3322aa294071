import Mathlib.Tactic.Basic

/-!
Instants as microseconds since 1970-01-01T00:00:00Z and their calendar form in
UTC, as `datetime.isoformat` writes it.
-/
namespace CivilTime

abbrev Time := Int

def microsecondsPerSecond : Int := 1000000
def secondsPerDay : Int := 86400

/-- The first and the last instant that `datetime` represents. -/
def earliest : Time := -62135596800 * microsecondsPerSecond
def latest : Time := 253402300799 * microsecondsPerSecond + 999999

structure Date where
  year : Int
  month : Int
  day : Int
  deriving DecidableEq, Repr

/-- The proleptic Gregorian date of a day counted from 1970-01-01. The year is
    shifted to begin in March, so that the leap day is its last. -/
def civilFromDays (days : Int) : Date :=
  let shifted := days + 719468
  let era := shifted / 146097
  let dayOfEra := shifted % 146097
  let yearOfEra :=
    (dayOfEra - dayOfEra / 1460 + dayOfEra / 36524 - dayOfEra / 146096) / 365
  let dayOfYear := dayOfEra - (365 * yearOfEra + yearOfEra / 4 - yearOfEra / 100)
  let monthIndex := (5 * dayOfYear + 2) / 153
  let month := if monthIndex < 10 then monthIndex + 3 else monthIndex - 9
  { year := yearOfEra + era * 400 + if month ≤ 2 then 1 else 0
    month := month
    day := dayOfYear - (153 * monthIndex + 2) / 5 + 1 }

def padded (width : Nat) (n : Int) : List Char :=
  let digits := (toString n.toNat).toList
  List.replicate (width - digits.length) '0' ++ digits

/-- `isoformat()` of an aware `datetime` in UTC; the fraction is left out when
    it is zero. -/
def isoformat (t : Time) : String :=
  let micro := t % microsecondsPerSecond
  let seconds := t / microsecondsPerSecond
  let date := civilFromDays (seconds / secondsPerDay)
  let ofDay := seconds % secondsPerDay
  String.ofList <|
    padded 4 date.year ++ ['-'] ++ padded 2 date.month ++ ['-'] ++ padded 2 date.day ++ ['T'] ++
      padded 2 (ofDay / 3600) ++ [':'] ++ padded 2 (ofDay / 60 % 60) ++ [':'] ++
      padded 2 (ofDay % 60) ++ (if micro = 0 then [] else '.' :: padded 6 micro) ++
      "+00:00".toList

example : isoformat 1709210096000123 = "2024-02-29T12:34:56.000123+00:00" := by decide

end CivilTime
