import SpanWeave.Source.Literal
import SpanWeave.Text.Blank
import SpanWeave.Text.Identifier
import SpanWeave.Text.Utf8

/-!
# Tokens of source text

A source text is a list of tokens, each with the layout before it: blanks, remarks and line
continuations. Nothing is lost, so the text of any run of tokens can be written out again. What the
grammar sees of a token is its `Symbol`: the lexeme, whether it opens a line and how far it is
indented there, and the line continuations before it.
-/

set_option autoImplicit false

namespace SpanWeave.Source

open SpanWeave.Text

/-- A piece of layout. -/
inductive Layout where
  | blank (g : Glyph)
  | remark (gs : List Glyph)
  /-- A backslash with the line end after it. -/
  | continuation (gs : List Glyph)
deriving DecidableEq, Repr

/-- The units of a piece of layout. -/
def Layout.glyphs : Layout → List Glyph
  | .blank g => [g]
  | .remark gs => gs
  | .continuation gs => gs

/-- What kind of token it is. -/
inductive Lexeme where
  | name (s : String)
  | number
  | text
  /-- An operator or a delimiter. -/
  | mark (s : String)
  /-- A character that no token begins with, or a string that is never closed. -/
  | unknown
deriving DecidableEq, Repr

/-- What the grammar sees of a token. -/
structure Symbol where
  lexeme : Lexeme
  /-- The indentation, if the token opens a line outside all brackets. -/
  opens : Option Nat
  /-- The line continuations right before the token, as written. -/
  joins : List String
deriving DecidableEq, Repr

/-- A place in a text; lines and columns count from one, and columns count bytes. -/
structure Position where
  line : Nat
  column : Nat
deriving DecidableEq, Repr

/-- The place after one more unit. -/
def Position.after (p : Position) (g : Glyph) : Position :=
  if g = .char '\n' then ⟨p.line + 1, 1⟩ else ⟨p.line, p.column + g.width⟩

/-- A token with the layout before it. -/
structure Token where
  lead : List Layout
  symbol : Symbol
  text : List Glyph
  start : Position
deriving Repr

/-- The characters that only separate tokens. -/
def isLayoutBlank (c : Char) : Bool :=
  (isBlank c && !(28 ≤ c.toNat && c.toNat ≤ 31)) || c.toNat == 0xFEFF || c.toNat == 0x200B ||
    c.toNat == 0x2060

/-- The indentation that layout leaves behind. -/
structure Indentation where
  /-- Whether a line has ended. -/
  broken : Bool := false
  width : Nat := 0
  /-- Whether a blank that has no width of its own has fixed the indentation. -/
  fixed : Bool := false

/-- What one more piece of layout does to the indentation. -/
def Indentation.after (i : Indentation) : Layout → Indentation
  | .blank (.char c) =>
    if i.fixed then i
    else if c = '\n' then ⟨true, 0, false⟩
    else if c = ' ' then { i with width := i.width + 1 }
    else if c = '\t' then { i with width := i.width + 8 }
    else if c = '\r' || c = '\x0c' then { i with width := 0 }
    else { i with fixed := i.broken }
  | .blank (.stray _) => i
  | .remark _ => if i.fixed then i else { i with width := 0 }
  | .continuation _ => i

/-- The indentation of a token that opens a line after the given layout. -/
def indentation? (lead : List Layout) : Option Nat :=
  let i := lead.foldl Indentation.after {}
  if i.broken then some i.width else none

/-- The line continuations among layout, as written. -/
def continuations (lead : List Layout) : List String :=
  lead.filterMap fun
    | .continuation gs => some (String.ofList (shown gs))
    | _ => none

/-- The operators and delimiters, longer ones before their beginnings. -/
def marks : List String :=
  ["**=", "//=", ">>=", "<<=", "...", "->", ":=", "==", "!=", "<>", "<=", ">=", "+=", "-=", "*=",
    "/=", "%=", "@=", "&=", "|=", "^=", "**", "//", "<<", ">>", "+", "-", "*", "/", "%", "@", "&",
    "|", "^", "~", "<", ">", "=", "(", ")", "[", "]", "\x7b", "\x7d", ",", ":", ".", ";"]

/-- The token at the beginning of a text, as its lexeme and its length. -/
def measure (cs : List Char) : Lexeme × Nat :=
  match stringLength? cs with
  | some n => (.text, n)
  | none =>
    match cs with
    | [] => (.unknown, 1)
    | c :: rest =>
      if isIdentifierStart c then
        let word := c :: rest.takeWhile isIdentifierContinue
        (.name (String.ofList word), word.length)
      else
        let n := numberLength cs
        if n > 0 then (.number, n)
        else
          match marks.find? fun m => m.toList.isPrefixOf cs with
          | some m => (.mark m, m.length)
          | none => (.unknown, 1)

/-- The length of a line continuation at the beginning of a text; zero if none begins there. -/
def continuationLength : List Char → Nat
  | '\\' :: '\r' :: '\n' :: _ => 3
  | '\\' :: '\n' :: _ => 2
  | ['\\'] => 1
  | _ => 0

/-- The piece of layout at the beginning of a text and its length, if there is one. -/
def layout? (gs : List Glyph) (cs : List Char) : Option (Layout × Nat) :=
  match gs, cs with
  | g :: _, c :: _ =>
    if isLayoutBlank c then some (.blank g, 1)
    else if c = '#' then
      let n := (cs.takeWhile (· != '\n')).length
      some (.remark (gs.take n), n)
    else
      let n := continuationLength cs
      if n > 0 then some (.continuation (gs.take n), n) else none
  | _, _ => none

/-- How many brackets are open after a lexeme. -/
def depthAfter (depth : Nat) : Lexeme → Nat
  | .mark m =>
    if m = "(" || m = "[" || m = "\x7b" then depth + 1
    else if m = ")" || m = "]" || m = "\x7d" then depth - 1
    else depth
  | _ => depth

/-- Reads tokens; every round takes at least one unit, so as many rounds as units are enough. -/
def readTokens (rounds : Nat) (lead : List Layout) (depth : Nat) (here : Position) (gs : List Glyph)
    (cs : List Char) : List Token :=
  match rounds with
  | 0 => []
  | rounds + 1 =>
    if gs.isEmpty then []
    else
      match layout? gs cs with
      | some (l, n) =>
        readTokens rounds (l :: lead) depth ((gs.take n).foldl Position.after here) (gs.drop n)
          (cs.drop n)
      | none =>
        let (lexeme, n) := measure cs
        let lead := lead.reverse
        let opens := if depth = 0 then indentation? lead else none
        ⟨lead, ⟨lexeme, opens, continuations lead⟩, gs.take n, here⟩ ::
          readTokens rounds [] (depthAfter depth lexeme) ((gs.take n).foldl Position.after here)
            (gs.drop n) (cs.drop n)

/-- The character that stands for a unit where tokens are told apart. -/
def look (g : Glyph) : Char := g.char?.getD (Char.ofNat 0)

/-- The tokens of a source text. -/
def tokens (gs : List Glyph) : List Token :=
  readTokens gs.length [] 0 ⟨1, 1⟩ gs (gs.map look)

/-- A run of tokens, from one index up to another. -/
structure Extent where
  start : Nat
  stop : Nat
deriving DecidableEq, Repr

/-- The text of a run of tokens, with the layout between them. -/
def spell : List Token → List Glyph
  | [] => []
  | t :: ts => t.text ++ ts.flatMap fun u => u.lead.flatMap Layout.glyphs ++ u.text

/-- The text of an extent of the tokens; stray bytes are left out. -/
def Extent.text (tokens : Array Token) (e : Extent) : String :=
  String.ofList (shown (spell (tokens.extract e.start e.stop).toList))

end SpanWeave.Source
