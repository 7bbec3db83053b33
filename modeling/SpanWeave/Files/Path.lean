import SpanWeave.Text.Blank

/-!
# Paths

A path is a start and a list of names. Doubled slashes and `.` are forgotten when a path is read;
`..` is kept until the path is resolved against a directory. No name is a link, so resolving is a
matter of the text alone.
-/

set_option autoImplicit false

namespace SpanWeave

/-- Where a path starts: at the current directory, or at a root. -/
inductive Anchor where
  | here
  | root
  /-- Exactly two leading slashes, which are kept apart from one. -/
  | doubleRoot
deriving DecidableEq, Repr

/-- A path. -/
structure Path where
  anchor : Anchor
  names : List String
deriving DecidableEq, Repr

namespace Path

/-- The start that the leading slashes of a text choose. -/
def anchorOf : List Char → Anchor
  | '/' :: '/' :: '/' :: _ => .root
  | '/' :: '/' :: _ => .doubleRoot
  | '/' :: _ => .root
  | _ => .here

/-- The path that a text writes. -/
def ofText (s : String) : Path :=
  ⟨anchorOf s.toList, (Text.parts '/' s).filter fun name => name != "" && name != "."⟩

/-- The text of a start. -/
def Anchor.text : Anchor → String
  | .here => ""
  | .root => "/"
  | .doubleRoot => "//"

/-- The text of a path. -/
def text (p : Path) : String :=
  if p.anchor = .here && p.names.isEmpty then "."
  else Anchor.text p.anchor ++ String.intercalate "/" p.names

/-- The second path as seen from the first one. -/
def join (p q : Path) : Path := if q.anchor = .here then ⟨p.anchor, p.names ++ q.names⟩ else q

/-- A path and one more text below it. -/
def below (p : Path) (s : String) : Path := p.join (ofText s)

/-- The directory of a path; a start is its own directory. -/
def parent (p : Path) : Path := ⟨p.anchor, p.names.dropLast⟩

/-- The last name of a path, empty for a start. -/
def name (p : Path) : String := p.names.getLast?.getD ""

/-- Removes each `..` together with the name before it. -/
def lexical : List String → List String → List String
  | done, [] => done.reverse
  | done, name :: rest =>
    if name = ".." then lexical done.tail rest else lexical (name :: done) rest

/-- The path to the same place without `..`. -/
def direct (p : Path) : Path := ⟨p.anchor, lexical [] p.names⟩

/-- The absolute path without `..` that a path names in a directory. -/
def resolve (directory p : Path) : Path := (directory.join p).direct

/-- The names that lead from one path to another one at or below it. -/
def relativeTo? (p base : Path) : Option (List String) :=
  if p.anchor = base.anchor && base.names.isPrefixOf p.names then
    some (p.names.drop base.names.length)
  else none

end Path

/-- The part of a file name from its last dot on, if the dot neither opens nor ends the name. -/
def extensionStart? (cs : List Char) : Option Nat :=
  match cs.reverse.findIdx? (· = '.') with
  | some k =>
    let i := cs.length - 1 - k
    if 0 < i && i + 1 < cs.length then some i else none
  | none => none

/-- The last extension of a file name, with its dot. -/
def extensionOf (name : String) : String :=
  match extensionStart? name.toList with
  | some i => String.ofList (name.toList.drop i)
  | none => ""

/-- A file name without its last extension. -/
def stemOf (name : String) : String :=
  match extensionStart? name.toList with
  | some i => String.ofList (name.toList.take i)
  | none => name

end SpanWeave
