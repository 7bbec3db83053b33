import SpanWeave.Ignore.Glob
import SpanWeave.Text.Blank

/-!
# Ignore rules

A rule says which paths of a tree are left out, or kept after all. Later rules override earlier
ones. A rule with a slash in it, or one that was anchored by a leading slash, is about whole paths;
any other rule is about every name on a path.
-/

set_option autoImplicit false

namespace SpanWeave

/-- A rule about paths. -/
structure IgnoreRule where
  pattern : String
  directoryOnly : Bool
  anchored : Bool
  /-- Whether the rule keeps what it matches. -/
  negated : Bool
  hasSlash : Bool
deriving DecidableEq, Repr

namespace IgnoreRule

/-- The rule that a pattern writes; a blank pattern writes none. -/
def ofPattern? (pattern : String) (negated : Bool) : Option IgnoreRule :=
  let cs := Text.trim pattern.toList
  if cs.isEmpty then none
  else
    let directoryOnly := cs.getLast? == some '/'
    let cs := if directoryOnly then cs.dropLast else cs
    let anchored := cs.head? == some '/'
    let cs := if anchored then cs.tail else cs
    some ⟨String.ofList cs, directoryOnly, anchored, negated, cs.contains '/'⟩

/-- Whether the rule is about a path of a folder or of a file. -/
def covers (r : IgnoreRule) (path : String) (isFolder : Bool) : Bool :=
  if r.pattern = "" then false
  else if r.directoryOnly && !isFolder then false
  else if r.anchored || r.hasSlash then
    Glob.matchesName r.pattern path || (r.directoryOnly && Text.startsWith path (r.pattern ++ "/"))
  else (Text.parts '/' path).any (Glob.matchesName r.pattern)

/-- The rule on a line of an ignore file; blank lines and remarks have none. -/
def ofLine? (line : String) : Option IgnoreRule :=
  match Text.trim line.toList with
  | [] => none
  | '#' :: _ => none
  | '!' :: cs => ofPattern? (String.ofList cs) true
  | cs => ofPattern? (String.ofList cs) false

/-- The rules in the text of an ignore file. -/
def ofFileText (text : String) : List IgnoreRule :=
  (Text.lines (String.ofList (Text.foldLineEnds text.toList))).filterMap ofLine?

/-- The rules that patterns write. -/
def ofPatterns (patterns : List String) : List IgnoreRule :=
  patterns.filterMap fun p => ofPattern? p false

/-- Whether rules leave a path out: the last rule about it decides. -/
def ignores (rules : List IgnoreRule) (path : String) (isFolder : Bool) : Bool :=
  rules.foldl (fun ignored r => if r.covers path isFolder then !r.negated else ignored) false

end IgnoreRule

end SpanWeave
