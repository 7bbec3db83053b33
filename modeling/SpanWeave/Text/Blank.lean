/-!
# Blank characters, trimming and lines

Which characters count as blank, how a text is trimmed of them, and where a text is cut into lines
or into the parts between separators. Everything works on lists of characters; the `String` versions
only wrap them.
-/

set_option autoImplicit false

namespace SpanWeave.Text

/-- A blank character separates words: the Unicode white space and the four information separators.
-/
def isBlank (c : Char) : Bool :=
  let n := c.toNat
  (9 ≤ n && n ≤ 13) || (28 ≤ n && n ≤ 32) || n == 0x85 || n == 0xA0 || n == 0x1680 ||
    (0x2000 ≤ n && n ≤ 0x200A) || n == 0x2028 || n == 0x2029 || n == 0x202F || n == 0x205F ||
    n == 0x3000

/-- The characters without the blanks at both ends. -/
def trim (cs : List Char) : List Char :=
  ((cs.dropWhile isBlank).reverse.dropWhile isBlank).reverse

/-- A text without the blanks at both ends. -/
def strip (s : String) : String := String.ofList (trim s.toList)

/-- A text of blanks only, the empty text included. -/
def isBlankText (s : String) : Bool := s.toList.all isBlank

/-- The parts between the separators, in order; there is always one part more than separators. -/
def splitAtEach (sep : Char) : List Char → List (List Char)
  | [] => [[]]
  | c :: cs =>
    if c = sep then [] :: splitAtEach sep cs
    else match splitAtEach sep cs with
      | [] => [[c]]
      | part :: parts => (c :: part) :: parts

/-- The parts of a text between the occurrences of a character. -/
def parts (sep : Char) (s : String) : List String :=
  (splitAtEach sep s.toList).map String.ofList

/-- Whether a text begins with another one. -/
def startsWith (s lead : String) : Bool := lead.toList.isPrefixOf s.toList

/-- Whether a text ends with another one. -/
def endsWith (s tail : String) : Bool := tail.toList.reverse.isPrefixOf s.toList.reverse

/-- Every line end, whether written `\r\n`, `\r` or `\n`, becomes one `\n`. -/
def foldLineEnds : List Char → List Char
  | [] => []
  | '\r' :: '\n' :: cs => '\n' :: foldLineEnds cs
  | c :: cs => (if c = '\r' then '\n' else c) :: foldLineEnds cs

/-- The characters that end a line. -/
def isLineEnd (c : Char) : Bool :=
  let n := c.toNat
  (10 ≤ n && n ≤ 13) || (28 ≤ n && n ≤ 30) || n == 0x85 || n == 0x2028 || n == 0x2029

/-- The lines of a text without their ends. `\r\n` is one end, and text after the last end is a
line. -/
def splitLines : List Char → List (List Char)
  | [] => []
  | '\r' :: '\n' :: cs => [] :: splitLines cs
  | c :: cs =>
    if isLineEnd c then [] :: splitLines cs
    else match cs with
      | [] => [[c]]
      | d :: ds =>
        match splitLines (d :: ds) with
        | [] => [[c]]
        | line :: rest => (c :: line) :: rest

/-- The lines of a text. -/
def lines (s : String) : List String := (splitLines s.toList).map String.ofList

/-- ASCII capitals become small letters; other characters stay. -/
def lowerAscii (s : String) : String := String.ofList (s.toList.map Char.toLower)

end SpanWeave.Text
