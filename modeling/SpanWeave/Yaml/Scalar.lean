import SpanWeave.Datum
import SpanWeave.Number.Reading
import SpanWeave.Text.Base64
import SpanWeave.Yaml.Moment
import SpanWeave.Yaml.Token

/-!
# Scalars of a document

What kind of value a plain scalar is told to be by its form, and the value that a text has as a
scalar of a kind. A tag may ask for a kind that the form does not suggest, so every text is read as
every kind.
-/

set_option autoImplicit false

namespace SpanWeave.Yaml

/-- The kinds of scalars. -/
inductive ScalarKind where
  | null
  | bool
  | int
  | float
  | moment
  | binary
  | text
  /-- The key of entries to be taken over from another mapping. -/
  | merge
  /-- The key of the value that stands for a mapping. -/
  | standIn
deriving DecidableEq, Repr

namespace ScalarKind

/-! ## Forms -/

/-- The text behind a sign. -/
def unsigned (cs : List Char) : List Char := (Text.takeSign cs).2

/-- A decimal digit or an underscore. -/
def isFiller (c : Char) : Bool := c.isDigit || c == '_'

/-- A digit and then fillers. -/
def isDecimal : List Char → Bool
  | c :: cs => c.isDigit && cs.all isFiller
  | [] => false

/-- A number of minutes or seconds. -/
def isSixtieth : List Char → Bool
  | [d] => d.isDigit
  | [t, d] => '0' ≤ t && t ≤ '5' && d.isDigit
  | _ => false

/-- A decimal that does not begin with zero. -/
def isCount (cs : List Char) : Bool := isDecimal cs && cs.head? != some '0'

/-- The forms of whole numbers without a sign. -/
def isWholeForm (cs : List Char) : Bool :=
  match cs with
  | ['0'] => true
  | '0' :: 'b' :: bits => !bits.isEmpty && bits.all fun c => c == '0' || c == '1' || c == '_'
  | '0' :: 'x' :: digits => !digits.isEmpty && digits.all fun c => Reader.isHex c || c == '_'
  | '0' :: digits => digits.all fun c => ('0' ≤ c && c ≤ '7') || c == '_'
  | _ =>
    match Text.splitAtEach ':' cs with
    | first :: sixtieths => isCount first && sixtieths.all isSixtieth
    | [] => false

/-- Nothing, or an exponent with a sign. -/
def isExponentForm : List Char → Bool
  | [] => true
  | e :: sign :: digits =>
    (e == 'e' || e == 'E') && (sign == '+' || sign == '-') && !digits.isEmpty &&
      digits.all Char.isDigit
  | _ => false

/-- The fraction behind a point, and perhaps an exponent. -/
def isFractionForm (cs : List Char) : Bool := isExponentForm (cs.dropWhile isFiller)

/-- The last part of a number in sixties: a number of seconds and a fraction. -/
def isSecondsForm (cs : List Char) : Bool :=
  isSixtieth (cs.takeWhile (· != '.')) &&
    match cs.dropWhile (· != '.') with
    | _ :: fraction => fraction.all isFiller
    | [] => false

/-- A number in sixties with a fraction. -/
def isSixtyForm (cs : List Char) : Bool :=
  match Text.splitAtEach ':' cs with
  | first :: second :: more =>
    let sixtieths := second :: more
    isDecimal first && (sixtieths.dropLast.all isSixtieth) &&
      isSecondsForm (sixtieths.getLastD [])
  | _ => false

/-- The forms of numbers with a fraction. -/
def isFloatForm (cs : List Char) : Bool :=
  let body := unsigned cs
  let wholePart := body.takeWhile isFiller
  (isDecimal wholePart &&
      match body.drop wholePart.length with
      | '.' :: fraction => isFractionForm fraction
      | _ => false) ||
    isSixtyForm body ||
    [".inf", ".Inf", ".INF"].contains (String.ofList body) ||
    [".nan", ".NaN", ".NAN"].contains (String.ofList cs) ||
    match cs with
    | '.' :: d :: fraction => d.isDigit && isFractionForm fraction
    | _ => false

/-- The forms of dates and instants; a bare date has two digits for the month and the day. -/
def isMomentForm (cs : List Char) : Bool :=
  match Moment.ofChars? cs with
  | some m => m.time.isSome || cs.length == 10
  | none => false

/-- The words for nothing. -/
def nullWords : List String := ["", "~", "null", "Null", "NULL"]

/-- The words for yes and no: a capital may begin them, or they may be all capitals. -/
def boolWord? (word : String) : Option Bool :=
  match word with
  | "yes" | "true" | "on" => some true
  | "no" | "false" | "off" => some false
  | _ => none

/-- The words as they may be written: small, with a capital, or in capitals. -/
def boolForms : List String :=
  ["yes", "Yes", "YES", "no", "No", "NO", "true", "True", "TRUE", "false", "False", "FALSE", "on",
    "On", "ON", "off", "Off", "OFF"]

/-- The kind that the form of a plain scalar tells. The whole text counts: one that ends with a line
break, which no plain scalar does, has the form of a text. -/
def ofForm (s : String) : ScalarKind :=
  let cs := s.toList
  if boolForms.contains s then bool
  else if isFloatForm cs then float
  else if isWholeForm (unsigned cs) then int
  else if s = "<<" then merge
  else if nullWords.contains s then null
  else if isMomentForm cs then moment
  else if s = "=" then standIn
  else text

/-! ## Tags -/

/-- The part that the tags of common kinds begin with. -/
def tagStem : String := "tag:yaml.org,2002:"

/-- The kind of scalar that a tag names. -/
def ofTag? (tag : String) : Option ScalarKind :=
  [("null", null), ("bool", bool), ("int", int), ("float", float), ("timestamp", moment),
    ("binary", binary), ("str", text), ("merge", merge), ("value", standIn)].findSome? fun p =>
      if tag = tagStem ++ p.1 then some p.2 else none

/-! ## Values -/

/-- The text without underscores. -/
def ungrouped (s : String) : List Char := s.toList.filter (· != '_')

/-- The whole number that a text spells in a base; a failure is a value that does not exist. -/
def wholeIn (base : Nat) (cs : List Char) : Except Fault Int :=
  (Number.readWhole base Text.quoted (String.ofList cs)).mapError fun e => .impossible e.message

/-- The number that parts in sixties spell, the last part counting single. -/
def sixties : List Int → Int := fun parts => parts.foldl (fun n part => n * 60 + part) 0

/-- The number of a text without a sign. -/
def wholeSize (cs : List Char) : Except Fault Int :=
  match cs with
  | [] => .error .emptyNumber
  | ['0'] => .ok 0
  | '0' :: 'b' :: digits => wholeIn 2 digits
  | '0' :: 'x' :: digits => wholeIn 16 digits
  | '0' :: _ => wholeIn 8 cs
  | _ =>
    if cs.contains ':' then do
      return sixties (← (Text.splitAtEach ':' cs).mapM (wholeIn 10))
    else wholeIn 10 cs

/-- The whole number of a text. -/
def wholeValue (s : String) : Except Fault Int := do
  let (negative, cs) := Text.takeSign (ungrouped s)
  let n ← wholeSize cs
  return if negative then -n else n

/-- The number of one part of a text. -/
def floatPart (cs : List Char) : Except Fault Binary64 :=
  let s := String.ofList cs
  match Number.double? s with
  | some x => .ok x
  | none => .error (.impossible ("could not convert string to float: " ++ Text.quoted s))

/-- The number that parts in sixties spell, added up from the last part on. -/
def floatSixties (parts : List Binary64) : Binary64 :=
  (parts.reverse.foldl
    (fun (sum, base) part =>
      (Binary64.addSizes sum (Binary64.mulSizes part (Binary64.ofRatio false base 1)), base * 60))
    (Binary64.zero false, 1)).1

/-- The number of a text in small letters without a sign. -/
def floatSize (cs : List Char) : Except Fault Binary64 :=
  match String.ofList cs with
  | ".inf" => .ok (.infinite false)
  | ".nan" => .ok .nan
  | _ =>
    if cs.contains ':' then do
      return floatSixties (← (Text.splitAtEach ':' cs).mapM floatPart)
    else floatPart cs

/-- The number with a fraction of a text. -/
def floatValue (s : String) : Except Fault Binary64 := do
  let cs := (Text.lowerAscii (String.ofList (ungrouped s))).toList
  if cs.isEmpty then throw .emptyNumber
  let (negative, cs) := Text.takeSign cs
  let x ← floatSize cs
  return if negative then x.opposite else x

/-- The moment of a text, kept as it is written. -/
def momentValue (s : String) : Except Fault Datum :=
  match Moment.ofChars? s.toList with
  | none => .error .noDate
  | some m =>
    match m.trouble with
    | some message => .error (.impossible message)
    | none => .ok (.moment s)

/-- The bytes of a text. -/
def binaryValue (s : String) : Except Fault Datum :=
  if s.toList.all fun c => c.toNat < 128 then
    match Text.Base64.decode s.toList with
    | some bytes => .ok (.bytes bytes)
    | none => .error .malformed
  else .error .malformed

/-- The value of a text as a scalar of a kind. -/
def value (kind : ScalarKind) (s : String) : Except Fault Datum :=
  match kind with
  | null => .ok .null
  | bool =>
    let word := Text.lowerAscii s
    match boolWord? word with
    | some b => .ok (.bool b)
    | none => .error (.unknownWord (Text.quoted word))
  | int => (wholeValue s).map .int
  | float => (floatValue s).map .float
  | moment => momentValue s
  | binary => binaryValue s
  | text => .ok (.text s)
  | merge | standIn => .error .malformed

end ScalarKind

end SpanWeave.Yaml
