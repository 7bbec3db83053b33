import SpanWeave.Number.Binary64
import SpanWeave.Text.Blank
import SpanWeave.Text.Digits

/-!
# Reading numbers

Whole numbers and double-precision numbers as free text: blanks may surround them, a sign may
precede them, and single underscores may stand between digits.
-/

set_option autoImplicit false

namespace SpanWeave.Number

open SpanWeave.Text

/-- Why a text could not be read as a whole number. -/
inductive Unreadable where
  /-- The text is no number of the base. -/
  | malformed (base : Nat) (written : String)
  /-- The number has more digits than are read. -/
  | tooLong (digits : Nat)
deriving DecidableEq, Repr

/-- The report of an unreadable whole number. -/
def Unreadable.message : Unreadable → String
  | .malformed base written =>
    "invalid literal for int() with base " ++ toString base ++ ": " ++ written
  | .tooLong digits =>
    "Exceeds the limit (" ++ toString digitLimit ++ " digits) for integer string conversion: "
      ++ "value has " ++ toString digits
      ++ " digits; use sys.set_int_max_str_digits() to increase the limit"

/-- The letter that marks a base behind a zero. -/
def baseMark? (base : Nat) : Option Char :=
  if base = 2 then some 'b' else if base = 8 then some 'o' else if base = 16 then some 'x' else none

/-- The digits behind the mark of a base, which need not be written. -/
def afterBaseMark (base : Nat) (cs : List Char) : List Char :=
  match cs with
  | '0' :: c :: digits =>
    if some c.toLower = baseMark? base then
      match digits with
      | '_' :: more => more
      | _ => digits
    else cs
  | _ => cs

/-- The whole number that a text spells in a base. -/
def readWhole (base : Nat) (quote : String → String) (s : String) : Except Unreadable Int :=
  let (negative, cs) := takeSign (trim s.toList)
  match groupedDigits? base false (afterBaseMark base cs) with
  | none => .error (.malformed base (quote s))
  | some ds =>
    if base = 10 && ds.length > digitLimit then .error (.tooLong ds.length)
    else .ok (signed negative (ofDigits base ds))

/-- The whole number that a text spells in decimal, if it does. -/
def whole? (s : String) : Option Int := (readWhole 10 id s).toOption

/-- A run of decimal digits with single underscores between them, and what follows it. -/
def digitRun : Bool → List Char → List Nat × List Char
  | _, [] => ([], [])
  | after, c :: cs =>
    match digitValue? c with
    | some d =>
      let (ds, rest) := digitRun true cs
      (d :: ds, rest)
    | none =>
      if after && c = '_' then
        match cs with
        | d :: _ => if (digitValue? d).isSome then digitRun false cs else ([], c :: cs)
        | [] => ([], c :: cs)
      else ([], c :: cs)

/-- The exponent part of a decimal, if the text is one or empty. -/
def exponentPart? : List Char → Option Int
  | [] => some 0
  | c :: cs =>
    if c = 'e' || c = 'E' then
      let (negative, cs) := takeSign cs
      match digitRun false cs with
      | ([], _) => none
      | (ds, []) => some (signed negative (ofDigits 10 ds))
      | _ => none
    else none

/-- The double that a text spells, if it does. -/
def double? (s : String) : Option Binary64 :=
  let (negative, cs) := takeSign (trim s.toList)
  match lowerAscii (String.ofList cs) with
  | "inf" | "infinity" => some (.infinite negative)
  | "nan" => some .nan
  | _ =>
    let (front, rest) := digitRun false cs
    let (back, rest) :=
      match rest with
      | '.' :: more => digitRun false more
      | _ => ([], rest)
    if front.isEmpty && back.isEmpty then none
    else
      (exponentPart? rest).map fun e =>
        Binary64.ofDecimal negative (ofDigits 10 (front ++ back)) (e - back.length)

end SpanWeave.Number
