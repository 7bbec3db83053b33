/-!
# Base 64

Bytes written with 64 letters of six bits each. Characters that are no such letters are passed over,
and padding behind a complete group of bytes ends the text.
-/

set_option autoImplicit false

namespace SpanWeave.Text.Base64

/-- The six bits of a letter. -/
def letter? (c : Char) : Option Nat :=
  if c.isUpper then some (c.toNat - 65)
  else if c.isLower then some (c.toNat - 71)
  else if c.isDigit then some (c.toNat + 4)
  else if c = '+' then some 62
  else if c = '/' then some 63
  else none

/-- What of a group of four letters is not yet written as bytes: how many letters there were, and
the bits that are left of the last one. -/
structure Pending where
  letters : Nat := 0
  bits : Nat := 0

/-- One more letter of a group, and the byte that it completes. -/
def Pending.add (p : Pending) (n : Nat) : List UInt8 × Pending :=
  match p.letters with
  | 0 => ([], ⟨1, n⟩)
  | 1 => ([UInt8.ofNat (p.bits * 4 + n / 16)], ⟨2, n % 16⟩)
  | 2 => ([UInt8.ofNat (p.bits * 16 + n / 4)], ⟨3, n % 4⟩)
  | _ => ([UInt8.ofNat (p.bits * 64 + n)], ⟨0, 0⟩)

/-- The bytes of a text behind a pending group; `pads` counts the padding since the last letter. -/
def decodeFrom (p : Pending) (pads : Nat) : List Char → Option (List UInt8)
  | [] => if p.letters = 0 then some [] else none
  | c :: cs =>
    if c = '=' then
      if 2 ≤ p.letters then
        if 4 ≤ p.letters + pads + 1 then some [] else decodeFrom p (pads + 1) cs
      else decodeFrom p pads cs
    else
      match letter? c with
      | none => decodeFrom p pads cs
      | some n =>
        let (bytes, next) := p.add n
        (decodeFrom next 0 cs).map (bytes ++ ·)

/-- The bytes of a text, if its last group is complete or padded. -/
def decode (cs : List Char) : Option (List UInt8) := decodeFrom {} 0 cs

end SpanWeave.Text.Base64
