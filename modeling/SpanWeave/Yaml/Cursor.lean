import SpanWeave.Text.Digits

/-!
# Places in a document

A place in a document is the text that follows and how far it is from the beginning, in characters,
in lines and in the columns of its line. The end of the text reads as the character NUL, which no
document holds.
-/

set_option autoImplicit false

namespace SpanWeave.Yaml

/-- The characters that end a line. -/
def isBreak (c : Char) : Bool :=
  c == '\n' || c == '\r' || c.toNat == 0x85 || c.toNat == 0x2028 || c.toNat == 0x2029

/-- The end of the text as a character. -/
def endChar : Char := Char.ofNat 0

/-- The end of a line or of the text. -/
def isBreakOrEnd (c : Char) : Bool := isBreak c || c == endChar

/-- A space, or the end of a line or of the text. -/
def isSpaceOrEnd (c : Char) : Bool := c == ' ' || isBreakOrEnd c

/-- What separates an indicator from what follows: a space, a tab, or an end. -/
def isGap (c : Char) : Bool := c == '\t' || isSpaceOrEnd c

/-- The characters of names in a document. -/
def isWordChar (c : Char) : Bool := c.isAlphanum || c == '-' || c == '_'

/-- The characters that a document may hold. -/
def isAllowed (c : Char) : Bool :=
  let n := c.toNat
  n == 9 || n == 10 || n == 13 || (0x20 ≤ n && n ≤ 0x7E) || n == 0x85 || (0xA0 ≤ n && n ≤ 0xD7FF) ||
    (0xE000 ≤ n && n ≤ 0xFFFD) || 0x10000 ≤ n

/-- A place in a document. -/
structure Cursor where
  rest : List Char
  index : Nat := 0
  line : Nat := 0
  column : Nat := 0

namespace Cursor

/-- The character at a distance from the place. -/
def peek (c : Cursor) (k : Nat) : Char := (c.rest.drop k).headD endChar

/-- The character at the place. -/
def head (c : Cursor) : Char := c.rest.headD endChar

/-- The place after one more character. -/
def step (c : Cursor) : Cursor :=
  match c.rest with
  | [] => c
  | d :: rest =>
    if isBreak d && !(d == '\r' && rest.head? == some '\n') then ⟨rest, c.index + 1, c.line + 1, 0⟩
    else if d.toNat = 0xFEFF then ⟨rest, c.index + 1, c.line, c.column⟩
    else ⟨rest, c.index + 1, c.line, c.column + 1⟩

/-- The place after some more characters. -/
def skip (c : Cursor) : Nat → Cursor
  | 0 => c
  | n + 1 => c.step.skip n

/-- The characters up to the first one that does not fit, and the place behind them. -/
def takeWhile (c : Cursor) (p : Char → Bool) : List Char × Cursor :=
  let taken := c.rest.takeWhile p
  (taken, c.skip taken.length)

/-- The place behind the characters that fit. -/
def dropWhile (c : Cursor) (p : Char → Bool) : Cursor := (c.takeWhile p).2

/-- A line end, as it counts in a scalar, and the place behind it; nothing if there is none. -/
def lineBreak (c : Cursor) : List Char × Cursor :=
  let d := c.head
  if d = '\r' && c.peek 1 == '\n' then (['\n'], c.skip 2)
  else if d = '\r' || d = '\n' || d.toNat = 0x85 then (['\n'], c.step)
  else if isBreak d then ([d], c.step)
  else ([], c)

/-- Whether a mark of three equal characters between documents stands here. -/
def atMarker (c : Cursor) (d : Char) : Bool :=
  c.head == d && c.peek 1 == d && c.peek 2 == d && isGap (c.peek 3)

/-- Whether one of the marks between documents stands here. -/
def atDocumentMarker (c : Cursor) : Bool := c.atMarker '-' || c.atMarker '.'

end Cursor

end SpanWeave.Yaml
