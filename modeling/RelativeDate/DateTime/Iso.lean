import RelativeDate.DateTime
import RelativeDate.Text.Numeral
import RelativeDate.Text.Quoted

/-! # ISO 8601 texts

Dates and times as people type them. A date is a calendar date, a date by week, or a date by
day of the year, with or without dashes. A time may follow after one character of any kind,
with or without colons, and after it an offset.

Fields are cut by position and read as numerals. The calendar form of the date is tried first,
and if it does not fit, the error is that of the other forms. Whether the fields denote a date
that exists is only looked at when all of them are read. -/

namespace RelativeDate.Iso

/-! ## Errors -/

/-- Why a text is no date and time. -/
inductive ReadError
  | notAscii
  | tooShort
  | number (text : List Char)
  | dashes
  | week (n : Int)
  | weekday (n : Int)
  | noOrdinal
  | ordinal (n year : Int)
  | timeTooShort
  | colons
  | leftover
  | midnight
  | offsetLength
  | offsetSign
  | offsetMinutes
  | offsetHours
  | field (cause : FieldError)
  /-- The fields make sense, and denote a day after the year 9999. -/
  | overflow
  deriving DecidableEq, Repr

def ReadError.message : ReadError → String
  | .notAscii => "ISO-8601 strings should contain only ASCII characters"
  | .tooShort => "ISO string too short"
  | .number text =>
    Text.NumeralError.malformed.message ("b" ++ String.ofList (Text.quotedChars text))
  | .dashes => "Inconsistent use of dash separator"
  | .week n => s!"Invalid week: {n}"
  | .weekday n => s!"Invalid weekday: {n}"
  | .noOrdinal => "Invalid ordinal day"
  | .ordinal n year => s!"Invalid ordinal day {n} for year {year}"
  | .timeTooShort => "ISO time too short"
  | .colons => "Inconsistent use of colon separator"
  | .leftover => "Unused components in ISO string"
  | .midnight => "Hour may only be 24 at 24:00:00.000"
  | .offsetLength => "Time zone offset must be 1, 3, 5 or 6 characters"
  | .offsetSign => "Time zone offset requires sign"
  | .offsetMinutes => "Invalid minutes in time zone offset"
  | .offsetHours => "Invalid hours in time zone offset"
  | .field cause => cause.message
  | .overflow => "date value out of range"

/-- The number in the first `width` characters, or in fewer if the text ends there. -/
def number (width : Nat) (s : List Char) : Except ReadError Int :=
  (Text.readInteger (s.take width)).mapError fun _ => .number (s.take width)

/-! ## Dates -/

/-- The date of a text, before its fields are checked. -/
inductive DateFields
  | calendar (year month day : Int)
  /-- A day of the line of days, known to exist. -/
  | numbered (n : Nat)
  deriving DecidableEq, Repr

def DateFields.toDay : DateFields → Except FieldError Nat
  | .calendar year month day => Calendar.dayOfFields year month day
  | .numbered n => .ok n

/-- A calendar date at the start of a text, and the text after it. -/
def calendarDate (s : List Char) : Option (DateFields × List Char) := do
  guard (4 ≤ s.length)
  let year ← (number 4 s).toOption
  let s := s.drop 4
  if s = [] then return (.calendar year 1 1, [])
  let dashed := s.head? == some '-'
  let s := if dashed then s.drop 1 else s
  guard (2 ≤ s.length)
  let month ← (number 2 s).toOption
  let s := s.drop 2
  if s = [] then
    guard dashed
    return (.calendar year month 1, [])
  guard (!dashed || s.head? == some '-')
  let s := if dashed then s.drop 1 else s
  guard (2 ≤ s.length)
  let day ← (number 2 s).toOption
  return (.calendar year month day, s.drop 2)

/-- The day with this weekday, counted from 1, of a week of a year. The first week of a year is
    the one that holds 4 January. -/
def dayOfWeek (year week weekday : Int) : Except ReadError Nat :=
  if ¬ (1 ≤ week ∧ week ≤ 53) then .error (.week week)
  else if ¬ (1 ≤ weekday ∧ weekday ≤ 7) then .error (.weekday weekday)
  else
    match Calendar.dayOfFields year 1 4 with
    | .error cause => .error (.field cause)
    | .ok fourth =>
      let day := fourth - fourth % 7 + 7 * (week.toNat - 1) + (weekday.toNat - 1)
      if day < Calendar.dayLimit then .ok day else .error .overflow

/-- A day of a year, counted from 1. -/
def dayOfYear (year ordinal : Int) : Except ReadError Nat :=
  let length := if Calendar.IsLeap year then 366 else 365
  if ¬ (1 ≤ ordinal ∧ ordinal ≤ length) then .error (.ordinal ordinal year)
  else
    match Calendar.dayOfFields year 1 1 with
    | .error cause => .error (.field cause)
    | .ok first => .ok (first + (ordinal.toNat - 1))

/-- What follows the week in a date by week: a weekday, behind a dash just if there was one
    before the week. The weekday may be missing, which means Monday. -/
def weekdayAfter (dashed : Bool) (s : List Char) : Except ReadError (Int × List Char) :=
  if s = [] then .ok (1, [])
  else if (s.head? == some '-') ≠ dashed then .error .dashes
  else
    let s := if dashed then s.drop 1 else s
    (number 1 s).map fun n => (n, s.drop 1)

/-- A date by week or by day of the year at the start of a text, and the text after it. -/
def otherDate (s : List Char) : Except ReadError (DateFields × List Char) := do
  if s.length < 4 then throw .tooShort
  let year ← number 4 s
  let s := s.drop 4
  let dashed := s.head? == some '-'
  let s := if dashed then s.drop 1 else s
  if s.head? = some 'W' then
    let week ← number 2 (s.drop 1)
    let (weekday, rest) ← weekdayAfter dashed (s.drop 3)
    let day ← dayOfWeek year week weekday
    return (.numbered day, rest)
  if s.length < 3 then throw .noOrdinal
  let ordinal ← number 3 s
  let day ← dayOfYear year ordinal
  return (.numbered day, s.drop 3)

/-- The date at the start of a text, and the text after it. -/
def date (s : List Char) : Except ReadError (DateFields × List Char) :=
  (calendarDate s).elim (otherDate s) .ok

/-! ## Offsets -/

/-- Whether an offset starts here. -/
def startsOffset : List Char → Bool
  | c :: _ => c = '-' || c = '+' || c = 'Z' || c = 'z'
  | [] => false

/-- The offset that a text denotes, in minutes. -/
def offset (s : List Char) : Except ReadError Int := do
  if s = ['Z'] || s = ['z'] then return 0
  if s.length ≠ 3 && s.length ≠ 5 && s.length ≠ 6 then throw .offsetLength
  let sign ← match s.head? with
    | some '-' => pure (-1)
    | some '+' => pure 1
    | _ => throw .offsetSign
  let hours ← number 2 (s.drop 1)
  let rest := s.drop 3
  let minutes ← if rest = [] then pure 0
    else number rest.length (if rest.head? = some ':' then rest.drop 1 else rest)
  if 59 < minutes then throw .offsetMinutes
  if 23 < hours then throw .offsetHours
  return sign * (hours * 60 + minutes)

/-! ## Times -/

/-- The time of a text, before its fields are checked. -/
structure TimeFields where
  hour : Int := 0
  minute : Int := 0
  second : Int := 0
  subsecond : Nat := 0
  /-- The offset in minutes. -/
  offset : Option Int := none
  deriving DecidableEq, Repr

/-- The fraction of a second at the start of a text, in microseconds, and the text after it.
    Digits after the sixth are dropped. -/
def fraction : List Char → Option (Nat × List Char)
  | c :: s =>
    let digits := (s.takeWhile Char.isDigit).take 6
    if (c = '.' || c = ',') && digits ≠ [] then
      let filled := digits ++ List.replicate (6 - digits.length) '0'
      some (Nat.ofDigitChars 10 filled 0, s.dropWhile Char.isDigit)
    else none
  | [] => none

/-- Finish a time where the text ends or an offset starts, or go on with what comes next. -/
def finishOr (time : TimeFields) (s : List Char) (next : Except ReadError TimeFields) :
    Except ReadError TimeFields :=
  if s = [] then .ok time
  else if startsOffset s then (offset s).map fun minutes => { time with offset := some minutes }
  else next

/-- What follows the seconds: a fraction may come before the end. -/
def afterSecond (time : TimeFields) (s : List Char) : Except ReadError TimeFields :=
  finishOr time s <|
    match fraction s with
    | none => .error .leftover
    | some (subsecond, rest) => finishOr { time with subsecond } rest (.error .leftover)

/-- What follows the minutes: a colon is due just if there was one before the minutes. -/
def afterMinute (colon : Bool) (time : TimeFields) (s : List Char) :
    Except ReadError TimeFields :=
  finishOr time s do
    if colon && s.head? ≠ some ':' then throw .colons
    let s := if colon then s.drop 1 else s
    let second ← number 2 s
    afterSecond { time with second } (s.drop 2)

/-- What follows the hours: a colon here asks for one before the seconds. -/
def afterHour (time : TimeFields) (s : List Char) : Except ReadError TimeFields :=
  finishOr time s do
    let colon := s.head? == some ':'
    let s := if colon then s.drop 1 else s
    let minute ← number 2 s
    afterMinute colon { time with minute } (s.drop 2)

/-- The time that a text denotes. -/
def time (s : List Char) : Except ReadError TimeFields := do
  if s.length < 2 then throw .timeTooShort
  let fields ← finishOr {} s do
    let hour ← number 2 s
    afterHour { hour } (s.drop 2)
  if fields.hour = 24
      ∧ ¬ (fields.minute = 0 ∧ fields.second = 0 ∧ fields.subsecond = 0) then
    throw .midnight
  return fields

/-! ## Dates and times -/

/-- The instant with these fields. Hour 24 is the midnight that ends the day. -/
def instantOf (date : DateFields) (time : TimeFields) : Except ReadError Instant := do
  let day ← date.toDay.mapError .field
  let hour := if time.hour = 24 then 0 else time.hour
  let past ← (timeOfFields hour time.minute time.second time.subsecond).mapError .field
  let day := if time.hour = 24 then day + 1 else day
  match Instant.ofMicros? (day * microsPerDay + past) with
  | some t => return t
  | none => throw .overflow

/-- The date and time that a text denotes. -/
def read (s : String) : Except ReadError DateTime := do
  let s := s.toList
  if s.any fun c => 0x80 ≤ c.toNat then throw .notAscii
  let (date, rest) ← date s
  let fields ← if rest = [] then pure {} else time (rest.drop 1)
  let civil ← instantOf date fields
  return ⟨civil, fields.offset.map (· * microsPerMinute)⟩

end RelativeDate.Iso
