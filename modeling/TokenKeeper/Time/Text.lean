import TokenKeeper.Time.Duration

/-!
# Times and durations as text

Instants are written as calendar date and time of day with a final `Z`; the fraction of a
second has 3, 6 or 9 digits and is left out when it is zero. Durations are written in the
largest unit of which there is at least one, with as many decimals as are not zero.
-/

namespace TokenKeeper

/-- Decimal digits of `n`, with zeros in front up to `width` digits. -/
def padded (width n : Nat) : String :=
  let digits := toString n
  String.ofList (List.replicate (width - digits.length) '0') ++ digits

/-- A date of the proleptic calendar. -/
structure Date where
  year : Int
  month : Nat
  day : Nat
  deriving DecidableEq, Repr

namespace Date

/-- The date `days` days after the first of January 1970. The calendar repeats every 146097
days (400 years); years are counted from the first of March, so that the leap day comes last. -/
def ofDays (days : Int) : Date :=
  let shifted := days + 719468
  let era := shifted.fdiv 146097
  let dayOfEra := (shifted.fmod 146097).toNat
  let yearOfEra :=
    (dayOfEra - dayOfEra / 1460 + dayOfEra / 36524 - dayOfEra / 146096) / 365
  let dayOfYear := dayOfEra - (365 * yearOfEra + yearOfEra / 4 - yearOfEra / 100)
  let monthFromMarch := (5 * dayOfYear + 2) / 153
  let day := dayOfYear - (153 * monthFromMarch + 2) / 5 + 1
  let month := if monthFromMarch < 10 then monthFromMarch + 3 else monthFromMarch - 9
  let year := (yearOfEra : Int) + era * 400 + if month ≤ 2 then 1 else 0
  ⟨year, month, day⟩

/-- Four digits for the years 0 to 9999; other years carry their sign. -/
def yearText (year : Int) : String :=
  if 0 ≤ year ∧ year ≤ 9999 then padded 4 year.toNat
  else if year < 0 then "-" ++ padded 4 year.natAbs
  else "+" ++ padded 4 year.toNat

/-- Year, month and day, joined by dashes. -/
def text (d : Date) : String :=
  yearText d.year ++ "-" ++ padded 2 d.month ++ "-" ++ padded 2 d.day

end Date

/-- The fraction of a second in the fewest groups of three digits, after a point. -/
def fractionText (nanos : Nat) : String :=
  if nanos = 0 then ""
  else if nanos % 1000000 = 0 then "." ++ padded 3 (nanos / 1000000)
  else if nanos % 1000 = 0 then "." ++ padded 6 (nanos / 1000)
  else "." ++ padded 9 nanos

namespace Instant

/-- The calendar form, such as `2023-11-14T22:13:20Z`. -/
def text (t : Instant) : String :=
  let seconds := t.seconds
  let date := Date.ofDays (seconds.fdiv 86400)
  let ofDay := (seconds.fmod 86400).toNat
  date.text ++ "T" ++ padded 2 (ofDay / 3600) ++ ":" ++ padded 2 (ofDay / 60 % 60) ++ ":" ++
    padded 2 (ofDay % 60) ++ fractionText t.subsecond ++ "Z"

end Instant

namespace Duration

/-- The decimals of `part / 10 ^ width` without zeros at the end, after a point. -/
def decimals (width part : Nat) : String :=
  if part = 0 then ""
  else
    "." ++ String.ofList ((padded width part).toList.reverse.dropWhile (· == '0')).reverse

/-- The short form, such as `300s`, `1.5s` or `1.5µs`. -/
def text (d : Duration) : String :=
  if d.nanos ≥ 1000000000 then toString d.seconds ++ decimals 9 d.subsecond ++ "s"
  else if d.nanos ≥ 1000000 then
    toString (d.nanos / 1000000) ++ decimals 6 (d.nanos % 1000000) ++ "ms"
  else if d.nanos ≥ 1000 then toString (d.nanos / 1000) ++ decimals 3 (d.nanos % 1000) ++ "µs"
  else toString d.nanos ++ "ns"

end Duration
end TokenKeeper
