/-!
# Patterns for names

A pattern is a sequence of parts: any run of characters, any one character, one character of a
class, or a given character. Slashes have no special place in it. A class lists characters and
ranges between brackets; ranges that run backwards drop out together with their ends.
-/

set_option autoImplicit false

namespace SpanWeave

/-- One part of a pattern. -/
inductive GlobPart where
  /-- Any run of characters, the empty one included. -/
  | run
  /-- Any one character. -/
  | one
  | literal (c : Char)
  /-- A character in one of the ranges, or in none of them. -/
  | charClass (negated : Bool) (ranges : List (Char × Char))
deriving DecidableEq, Repr

namespace Glob

/-- The text of a class and what follows its closing bracket. A bracket that comes first, or first
after a `!`, belongs to the text. -/
def classText? (cs : List Char) : Option (List Char × List Char) :=
  let bang := if cs.head? = some '!' then ['!'] else []
  let cs := cs.drop bang.length
  let bracket := if cs.head? = some ']' then [']'] else []
  let cs := cs.drop bracket.length
  let inner := cs.takeWhile (· != ']')
  match cs.drop inner.length with
  | [] => none
  | _ :: rest => some (bang ++ bracket ++ inner, rest)

/-- Cuts the text of a class at the hyphens that make ranges. The first `offset` characters of a
chunk are never such hyphens; `rounds` bounds the number of chunks. -/
def chunks : Nat → Nat → List Char → List (List Char)
  | 0, _, cs => [cs]
  | rounds + 1, offset, cs =>
    let chunk := cs.take offset ++ (cs.drop offset).takeWhile (· != '-')
    match cs.drop chunk.length with
    | [] => [cs]
    | [_] => [chunk ++ ['-']]
    | _ :: rest => chunk :: chunks rounds 2 rest

/-- Joins a chunk with the following one if the range between them runs backwards. -/
def joinBackward (chunk : List Char) (following : List (List Char)) : List (List Char) :=
  match following with
  | [] => [chunk]
  | next :: more =>
    match chunk.getLast?, next.head? with
    | some low, some high =>
      if high < low then (chunk.dropLast ++ next.tail) :: more else chunk :: next :: more
    | _, _ => chunk :: next :: more

/-- The ranges of a class: the ends of neighbouring chunks make a range, all else stands alone.
Where `taken` is set, the first character of the first chunk has already ended a range. -/
def ranges (taken : Bool) : List (List Char) → List (Char × Char)
  | [] => []
  | chunk :: following =>
    let chunk := if taken then chunk.tail else chunk
    match chunk.getLast?, following.head?.bind List.head? with
    | some low, some high =>
      chunk.dropLast.map (fun c => (c, c)) ++ (low, high) :: ranges true following
    | _, _ => chunk.map (fun c => (c, c)) ++ ranges false following

/-- The part that the text of a class stands for. -/
def classPart (inner : List Char) : GlobPart :=
  let offset := if inner.head? = some '!' then 2 else 1
  let cut :=
    if inner.contains '-' then (chunks inner.length offset inner).foldr joinBackward []
    else [inner]
  match cut with
  | ('!' :: first) :: more => .charClass true (ranges false (first :: more))
  | _ => .charClass false (ranges false cut)

/-- The parts of a pattern; every round takes at least one character. -/
def readParts : Nat → List Char → List GlobPart
  | 0, _ => []
  | _ + 1, [] => []
  | rounds + 1, '*' :: cs => .run :: readParts rounds (cs.dropWhile (· == '*'))
  | rounds + 1, '?' :: cs => .one :: readParts rounds cs
  | rounds + 1, '[' :: cs =>
    match classText? cs with
    | some (inner, rest) => classPart inner :: readParts rounds rest
    | none => .literal '[' :: readParts rounds cs
  | rounds + 1, c :: cs => .literal c :: readParts rounds cs

/-- The parts of a pattern. -/
def ofText (pattern : String) : List GlobPart := readParts pattern.length pattern.toList

/-- Whether one character fits a part that stands for one character. -/
def fitsOne (c : Char) : GlobPart → Bool
  | .run => false
  | .one => true
  | .literal d => c == d
  | .charClass negated rs => (rs.any fun r => r.1 ≤ c && c ≤ r.2) != negated

/-- All ends of a list, the longest first. -/
def tails {α : Type} : List α → List (List α)
  | [] => [[]]
  | a :: as => (a :: as) :: tails as

/-- What can be left of a text after one more part, given what was left before it. Both lists hold
ends of the text, the longest first, so a run from the longest one covers the runs from the
others. -/
def leftAfter (left : List (List Char)) : GlobPart → List (List Char)
  | .run => (left.head?.map tails).getD []
  | p =>
    left.filterMap fun
      | [] => none
      | c :: cs => if fitsOne c p then some cs else none

/-- Whether characters fit a pattern as a whole: its parts can take all of them. -/
def fits (ps : List GlobPart) (cs : List Char) : Bool :=
  (ps.foldl leftAfter [cs]).any List.isEmpty

/-- Whether a name fits a pattern. -/
def matchesName (pattern name : String) : Bool := fits (ofText pattern) name.toList

end Glob

end SpanWeave
