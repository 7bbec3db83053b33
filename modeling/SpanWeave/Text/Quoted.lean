import SpanWeave.Text.Identifier
import SpanWeave.Text.PrintableTable

/-!
# Quoted text

Two ways to write a text between quotes. `quoted` keeps every character that has a glyph, writes the
others by number, and prefers single quotes; `escaped` uses double quotes and ASCII only, with a
pair of surrogate units for a character beyond the basic plane.
-/

set_option autoImplicit false

namespace SpanWeave.Text

/-- The characters that can be shown as they are. -/
def isPrintable (c : Char) : Bool :=
  if c.toNat < 128 then 32 ≤ c.toNat && c.toNat ≤ 126 else !inRanges unprintableRanges c.toNat

/-- One small hexadecimal digit. -/
def hexDigit (n : Nat) : Char := (Nat.toDigits 16 (n % 16)).headD '0'

/-- The last `width` hexadecimal digits of a number. -/
def hexDigits : Nat → Nat → List Char
  | 0, _ => []
  | width + 1, n => hexDigits width (n / 16) ++ [hexDigit n]

/-- How one character stands between the quotes `quote`. -/
def quotedChar (quote : Char) (c : Char) : List Char :=
  if c = quote || c = '\\' then ['\\', c]
  else if c = '\t' then ['\\', 't']
  else if c = '\n' then ['\\', 'n']
  else if c = '\r' then ['\\', 'r']
  else if isPrintable c then [c]
  else if c.toNat < 0x100 then '\\' :: 'x' :: hexDigits 2 c.toNat
  else if c.toNat < 0x10000 then '\\' :: 'u' :: hexDigits 4 c.toNat
  else '\\' :: 'U' :: hexDigits 8 c.toNat

/-- Single quotes, unless the text holds single quotes and no double ones. -/
def preferredQuote (cs : List Char) : Char :=
  if cs.contains '\'' && !cs.contains '"' then '"' else '\''

/-- A text between quotes, its unprintable characters by number. -/
def quoted (s : String) : String :=
  let cs := s.toList
  let q := preferredQuote cs
  String.ofList (q :: cs.flatMap (quotedChar q) ++ [q])

/-- The four digits of one 16-bit unit. -/
def escapedUnit (n : Nat) : List Char := '\\' :: 'u' :: hexDigits 4 n

/-- How one character stands between double quotes in ASCII. -/
def escapedChar (c : Char) : List Char :=
  if c = '"' || c = '\\' then ['\\', c]
  else if c = '\n' then ['\\', 'n']
  else if c = '\r' then ['\\', 'r']
  else if c = '\t' then ['\\', 't']
  else if c.toNat = 8 then ['\\', 'b']
  else if c.toNat = 12 then ['\\', 'f']
  else if 32 ≤ c.toNat && c.toNat < 127 then [c]
  else if c.toNat < 0x10000 then escapedUnit c.toNat
  else
    let n := c.toNat - 0x10000
    escapedUnit (0xD800 + n / 0x400) ++ escapedUnit (0xDC00 + n % 0x400)

/-- A text between double quotes, in ASCII. -/
def escaped (s : String) : String :=
  String.ofList ('"' :: s.toList.flatMap escapedChar ++ ['"'])

end SpanWeave.Text
