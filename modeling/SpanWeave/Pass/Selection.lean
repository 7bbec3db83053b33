import SpanWeave.Index
import SpanWeave.Pass.Finding

/-!
# One declaration for each type

A type may be marked at several places. The first eligible declaration is kept, or the first one if
none is eligible, and every other one is a finding.
-/

set_option autoImplicit false

namespace SpanWeave

namespace SourceIndex

/-- The verdict on a marked declaration. -/
def verdict (index : SourceIndex) (c : Candidate) : Verdict := .ofType? (index.resolve c)

/-- Which of several declarations of one type is kept. -/
def keptPosition (index : SourceIndex) (group : List Candidate) : Nat :=
  (group.findIdx? fun c => index.verdict c == .eligible).getD 0

end SourceIndex

/-- The kept declarations by location, and a finding for each other one. -/
structure Selection where
  kept : List Candidate
  findings : List Finding
deriving DecidableEq, Repr

namespace Selection

/-- The declarations of a type that are not kept. -/
def passedBy (kept : Candidate) (others : List Candidate) : List Finding :=
  others.map fun c => ⟨.duplicate c.identity kept.origin, c.origin⟩

/-- The kept one of several declarations of one type, and a finding for each other one. -/
def ofGroup (index : SourceIndex) (group : List Candidate) : Selection :=
  let k := index.keptPosition group
  match group[k]? with
  | some kept => ⟨[kept], passedBy kept (group.eraseIdx k)⟩
  | none => ⟨[], []⟩

/-- The declarations of each type, in the order in which the types appear first. -/
def groups (candidates : List Candidate) : List (List Candidate) :=
  (candidates.map Candidate.key).eraseDups.map fun key => candidates.filter fun c => c.key == key

/-- One declaration for each type of the candidates. -/
def ofCandidates (index : SourceIndex) (candidates : List Candidate) : Selection :=
  let selections := (groups candidates).map (ofGroup index)
  ⟨(selections.flatMap Selection.kept).mergeSort fun a b => a.origin.upTo b.origin,
    selections.flatMap Selection.findings⟩

end Selection

end SpanWeave
