/-!
# Decimal digits and whole numbers

A decimal digit is any character that a script of Unicode 14 counts with, and its value is its
distance from that script's zero. A whole number may carry a sign, blanks around it and single
underscores between its digits.
-/

set_option autoImplicit false

namespace SpanWeave.Text

/-- The zero of each run of ten decimal digits, in ascending order. -/
def digitZeros : Array Nat := #[
  0x30, 0x660, 0x6F0, 0x7C0, 0x966, 0x9E6, 0xA66, 0xAE6, 0xB66, 0xBE6, 0xC66, 0xCE6, 0xD66,
  0xDE6, 0xE50, 0xED0, 0xF20, 0x1040, 0x1090, 0x17E0, 0x1810, 0x1946, 0x19D0, 0x1A80, 0x1A90,
  0x1B50, 0x1BB0, 0x1C40, 0x1C50, 0xA620, 0xA8D0, 0xA900, 0xA9D0, 0xA9F0, 0xAA50, 0xABF0, 0xFF10,
  0x104A0, 0x10D30, 0x11066, 0x110F0, 0x11136, 0x111D0, 0x112F0, 0x11450, 0x114D0, 0x11650,
  0x116C0, 0x11730, 0x118E0, 0x11950, 0x11C50, 0x11D50, 0x11DA0, 0x16A60, 0x16AC0, 0x16B50,
  0x1D7CE, 0x1D7D8, 0x1D7E2, 0x1D7EC, 0x1D7F6, 0x1E140, 0x1E2F0, 0x1E950, 0x1FBF0]

/-- The value of a decimal digit of any script. -/
def digitValue? (c : Char) : Option Nat :=
  if c.toNat < 128 then
    if c.isDigit then some (c.toNat - 48) else none
  else
    (digitZeros.find? fun z => z ≤ c.toNat && c.toNat ≤ z + 9).map (c.toNat - ·)

/-- The value of a letter or digit as a digit of a base up to 36; letters count from ten. -/
def baseDigit? (base : Nat) (c : Char) : Option Nat :=
  let value? :=
    match digitValue? c with
    | some d => some d
    | none =>
      if 'a' ≤ c && c ≤ 'z' then some (c.toNat - 87)
      else if 'A' ≤ c && c ≤ 'Z' then some (c.toNat - 55)
      else none
  value?.filter (· < base)

/-- The number that digits spell in a base. -/
def ofDigits (base : Nat) (ds : List Nat) : Nat := ds.foldl (fun n d => n * base + d) 0

/-- Digits with single underscores between them; `after` says that a digit has just been read. -/
def groupedDigits? (base : Nat) (after : Bool) : List Char → Option (List Nat)
  | [] => if after then some [] else none
  | c :: cs =>
    if c = '_' then
      if after then groupedDigits? base false cs else none
    else
      match baseDigit? base c with
      | some d => (groupedDigits? base true cs).map (d :: ·)
      | none => none

/-- A sign, if one is written, and the rest; `true` stands for minus. -/
def takeSign : List Char → Bool × List Char
  | '-' :: cs => (true, cs)
  | '+' :: cs => (false, cs)
  | cs => (false, cs)

/-- How many digits a decimal number may have to be read or written in full. -/
def digitLimit : Nat := 4300

/-- Attaches a sign. -/
def signed (negative : Bool) (n : Nat) : Int := if negative then -(n : Int) else n

end SpanWeave.Text
