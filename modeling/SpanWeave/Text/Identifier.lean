import SpanWeave.Text.IdentifierTable

/-!
# Identifiers

An identifier opens with a letter-like character or an underscore and goes on with letters, digits,
marks and connectors, as the Unicode properties `XID_Start` and `XID_Continue` say. Reserved words
are identifiers in this sense.
-/

set_option autoImplicit false

namespace SpanWeave.Text

/-- Whether a code point lies in one of the ranges. -/
def inRanges (ranges : Array (Nat × Nat)) (n : Nat) : Bool :=
  ranges.any fun r => r.1 ≤ n && n ≤ r.2

/-- The characters that may open an identifier. -/
def isIdentifierStart (c : Char) : Bool :=
  if c.toNat < 128 then c.isAlpha || c == '_' else inRanges identifierStartRanges c.toNat

/-- The characters that may follow in an identifier. -/
def isIdentifierContinue (c : Char) : Bool :=
  if c.toNat < 128 then c.isAlphanum || c == '_' else inRanges identifierContinueRanges c.toNat

/-- Whether the characters form an identifier. -/
def isIdentifierChars : List Char → Bool
  | [] => false
  | c :: cs => isIdentifierStart c && cs.all isIdentifierContinue

/-- Whether a text is an identifier. -/
def isIdentifier (s : String) : Bool := isIdentifierChars s.toList

end SpanWeave.Text
