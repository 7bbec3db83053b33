import SpanWeave.Text.Digits

/-!
# Dates and instants

A date, or a date with a time of day and perhaps a distance from universal time, as a document
writes it, and why one that is well written may still not exist.
-/

set_option autoImplicit false

namespace SpanWeave.Yaml

/-- A distance from universal time, to the west or to the east. -/
structure Offset where
  west : Bool
  hours : Nat
  minutes : Nat
deriving DecidableEq, Repr

/-- A time of day. -/
structure TimeOfDay where
  hour : Nat
  minute : Nat
  second : Nat
  offset : Option Offset
deriving DecidableEq, Repr

/-- A date, with or without a time of day. -/
structure Moment where
  year : Nat
  month : Nat
  day : Nat
  time : Option TimeOfDay
deriving DecidableEq, Repr

namespace Moment

/-- At least `least` and at most `most` digits as a number, and the text behind them. -/
def takeNumber (least most : Nat) (cs : List Char) : Option (Nat × List Char) :=
  let digits := (cs.take most).takeWhile Char.isDigit
  if digits.length < least then none
  else some (Text.ofDigits 10 (digits.map fun c => c.toNat - 48), cs.drop digits.length)

/-- The text behind a character. -/
def after? (c : Char) : List Char → Option (List Char)
  | d :: cs => if d = c then some cs else none
  | [] => none

/-- A space or a tab. -/
def isSpace (c : Char) : Bool := c == ' ' || c == '\t'

/-- The minutes of an offset behind a colon; without a colon there are none. -/
def offsetMinutes? : List Char → Option Nat
  | [] => some 0
  | ':' :: cs => do
    let (minutes, rest) ← takeNumber 2 2 cs
    if rest.isEmpty then some minutes else none
  | _ => none

/-- What ends a time of day: nothing, a mark for universal time, or an offset. -/
def offset? (cs : List Char) : Option (Option Offset) :=
  match cs with
  | [] => some none
  | _ =>
    match cs.dropWhile isSpace with
    | ['Z'] => some none
    | c :: cs =>
      if c = '+' || c = '-' then do
        let (hours, rest) ← takeNumber 1 2 cs
        let minutes ← offsetMinutes? rest
        return some ⟨c == '-', hours, minutes⟩
      else none
    | [] => none

/-- The text behind a fraction of a second. -/
def afterFraction : List Char → List Char
  | '.' :: cs => cs.dropWhile Char.isDigit
  | cs => cs

/-- A time of day. -/
def time? (cs : List Char) : Option TimeOfDay := do
  let (hour, cs) ← takeNumber 1 2 cs
  let (minute, cs) ← takeNumber 2 2 (← after? ':' cs)
  let (second, cs) ← takeNumber 2 2 (← after? ':' cs)
  return ⟨hour, minute, second, ← offset? (afterFraction cs)⟩

/-- The text behind what separates a date from a time of day: a letter or some space. -/
def afterSeparator? : List Char → Option (List Char)
  | [] => none
  | c :: cs =>
    if c = 'T' || c = 't' then some cs
    else if isSpace c then some (cs.dropWhile isSpace)
    else none

/-- The moment that a text spells. -/
def ofChars? (cs : List Char) : Option Moment := do
  let (year, cs) ← takeNumber 4 4 cs
  let (month, cs) ← takeNumber 1 2 (← after? '-' cs)
  let (day, cs) ← takeNumber 1 2 (← after? '-' cs)
  if cs.isEmpty then return ⟨year, month, day, none⟩
  else return ⟨year, month, day, some (← time? (← afterSeparator? cs))⟩

/-- Whether a year has a leap day. -/
def isLeap (year : Nat) : Bool := year % 4 == 0 && (year % 100 != 0 || year % 400 == 0)

/-- How many days a month has. -/
def daysIn (year month : Nat) : Nat :=
  if month = 2 then if isLeap year then 29 else 28
  else if month = 4 || month = 6 || month = 9 || month = 11 then 30
  else 31

/-- The length of a time in days and seconds; days may be negative, seconds are not. -/
def spanText (seconds : Int) : String :=
  let days := seconds.fdiv 86400
  let rest := seconds.fmod 86400
  "datetime.timedelta(days=" ++ toString days ++
    (if rest = 0 then "" else ", seconds=" ++ toString rest) ++ ")"

/-- Why an offset does not exist: offsets are shorter than a day. -/
def offsetTrouble (o : Offset) : Option String :=
  let seconds : Int := 3600 * o.hours + 60 * o.minutes
  if seconds < 86400 then none
  else
    some ("offset must be a timedelta strictly between -timedelta(hours=24) and " ++
      "timedelta(hours=24), not " ++ spanText (if o.west then -seconds else seconds) ++ ".")

/-- Why a date does not exist. -/
def dateTrouble (m : Moment) : Option String :=
  if m.year = 0 then some "year 0 is out of range"
  else if m.month < 1 || 12 < m.month then some "month must be in 1..12"
  else if m.day < 1 || daysIn m.year m.month < m.day then some "day is out of range for month"
  else none

/-- Why a time of day does not exist. -/
def timeTrouble (t : TimeOfDay) : Option String :=
  if 23 < t.hour then some "hour must be in 0..23"
  else if 59 < t.minute then some "minute must be in 0..59"
  else if 59 < t.second then some "second must be in 0..59"
  else none

/-- Why a moment does not exist: the offset is looked at first, then the date, then the time. -/
def trouble (m : Moment) : Option String :=
  ((m.time.bind (·.offset)).bind offsetTrouble).or (m.dateTrouble.or (m.time.bind timeTrouble))

end Moment

end SpanWeave.Yaml
