import TableQuery.Number.Literal

/-!
# Calendar days

A day is counted from the first of January 1970, and written as year, month and day of the Gregorian
calendar. The calendar's year is taken to start in March, so that a leap day is its last.
-/

namespace TableQuery

/-- A day of the Gregorian calendar, extended to all years. -/
structure Date where
  year : Int
  month : Nat
  day : Nat
  deriving DecidableEq

namespace Date

/-- The days from the first of March of year zero to the first of January 1970. -/
def epoch : Int := 719468

/-- The days of four hundred years. -/
def eraDays : Int := 146097

/-- The day that is this many days after the first of January 1970. -/
def ofDays (days : Int) : Date :=
  let shifted := days + epoch
  let era := shifted.fdiv eraDays
  let dayOfEra := shifted.fmod eraDays
  let yearOfEra := (dayOfEra - dayOfEra / 1460 + dayOfEra / 36524 - dayOfEra / 146096) / 365
  let dayOfYear := dayOfEra - (365 * yearOfEra + yearOfEra / 4 - yearOfEra / 100)
  let marchMonth := (5 * dayOfYear + 2) / 153
  let day := dayOfYear - (153 * marchMonth + 2) / 5 + 1
  let month := if marchMonth < 10 then marchMonth + 3 else marchMonth - 9
  let year := yearOfEra + era * 400 + (if month ≤ 2 then 1 else 0)
  ⟨year, month.toNat, day.toNat⟩

/-- Digits with zeros in front up to a width. -/
def padded (width n : Nat) : List Char :=
  let digits := Nat.toDigits 10 n
  List.replicate (width - digits.length) '0' ++ digits

/-- A day as text: four digits for the year, and a sign for a year that they do not hold. -/
def toText (date : Date) : String :=
  let sign := if date.year < 0 then ['-'] else if 9999 < date.year then ['+'] else []
  String.ofList (sign ++ padded 4 date.year.natAbs ++ '-' :: padded 2 date.month ++
    '-' :: padded 2 date.day)

/-- The years that a calendar day can have. -/
def isSupported (date : Date) : Bool :=
  decide (-262143 ≤ date.year) && decide (date.year ≤ 262142)

end Date

end TableQuery
