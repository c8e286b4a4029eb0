import IdentityProvider.Text.Numeral
/-! Instants of the proleptic Gregorian calendar in UTC, their text, and the validity window of an assertion. -/

namespace IdentityProvider

/-- Whole seconds after the start of 1970 and nanoseconds. A second that is inserted at the end of a minute has
those from a thousand million on. -/
structure Instant where
  seconds : Int
  nanos : Nat := 0
deriving Repr, DecidableEq, Inhabited

structure CalendarDate where
  year : Int
  month : Nat
  day : Nat
deriving Repr, DecidableEq

namespace CalendarDate

/-- The day a number of days after 1 January 1970. Years begin in March here, so that the leap day comes last,
and 146097 days make an era of 400 years. -/
def ofDays (days : Int) : CalendarDate :=
  let z := days + 719468
  let era := z.fdiv 146097
  let dayOfEra := (z.fmod 146097).toNat
  let yearOfEra := (dayOfEra - dayOfEra / 1460 + dayOfEra / 36524 - dayOfEra / 146096) / 365
  let dayOfYear := dayOfEra - (365 * yearOfEra + yearOfEra / 4 - yearOfEra / 100)
  let shifted := (5 * dayOfYear + 2) / 153
  let day := dayOfYear - (153 * shifted + 2) / 5 + 1
  let month := if shifted < 10 then shifted + 3 else shifted - 9
  let year := era * 400 + yearOfEra + (if month ≤ 2 then 1 else 0)
  ⟨year, month, day⟩

def toDays (date : CalendarDate) : Int :=
  let y := date.year - (if date.month ≤ 2 then 1 else 0)
  let era := y.fdiv 400
  let yearOfEra := (y.fmod 400).toNat
  let shifted := if date.month ≤ 2 then date.month + 9 else date.month - 3
  let dayOfYear := (153 * shifted + 2) / 5 + date.day - 1
  let dayOfEra := yearOfEra * 365 + yearOfEra / 4 - yearOfEra / 100 + dayOfYear
  era * 146097 + dayOfEra - 719468

end CalendarDate

namespace Instant

/-- The last whole second that an instant can have: 262142-12-31T23:59:59Z. -/
def lastSecond : Int := 8210266876799

def yearText (year : Int) : List Char :=
  if 0 ≤ year ∧ year ≤ 9999 then Text.paddedDecimal 4 year.toNat
  else (if year < 0 then '-' else '+') :: Text.paddedDecimal 4 year.natAbs

def text (instant : Instant) : String :=
  let date := CalendarDate.ofDays (instant.seconds.fdiv 86400)
  let time := (instant.seconds.fmod 86400).toNat
  String.ofList <|
    yearText date.year ++ '-' :: Text.paddedDecimal 2 date.month ++ '-' :: Text.paddedDecimal 2 date.day ++
      'T' :: Text.paddedDecimal 2 (time / 3600) ++ ':' :: Text.paddedDecimal 2 (time / 60 % 60) ++
      ':' :: Text.paddedDecimal 2 (time % 60 + instant.nanos / 1000000000) ++ ['Z']

def addSeconds? (instant : Instant) (seconds : Int) : Option Instant :=
  if instant.seconds + seconds ≤ lastSecond then
    some ⟨instant.seconds + seconds, instant.nanos % 1000000000⟩
  else none

end Instant

def assertionLifetime : Int := 86400

structure Validity where
  issued : String
  expires : String
deriving Repr, DecidableEq

def Validity.starting? (instant : Instant) : Option Validity :=
  (instant.addSeconds? assertionLifetime).map fun expiry => ⟨instant.text, expiry.text⟩

end IdentityProvider
