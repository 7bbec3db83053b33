import SpanWeave.Declaration

/-!
# Merged imports

The imports of all fragments of a type, each text once, in the order of first occurrence, and with
the requests for future features first.
-/

set_option autoImplicit false

namespace SpanWeave

/-- Drops blank directives and those whose text has been seen. -/
def deduplicateFrom (seen : List String) : List ImportDirective → List ImportDirective
  | [] => []
  | d :: ds =>
    let key := Text.strip d.text
    if key = "" || seen.contains key then deduplicateFrom seen ds
    else d :: deduplicateFrom (key :: seen) ds

/-- Each directive once, at its first occurrence. -/
def deduplicateImports (ds : List ImportDirective) : List ImportDirective := deduplicateFrom [] ds

/-- The imports of all fragments, fragment by fragment. -/
def mergeImports (fragments : List Fragment) : List ImportDirective :=
  deduplicateImports (fragments.flatMap Fragment.imports)

/-- Requests for future features first, everything else in its order. -/
def hoistFutureImports (ds : List ImportDirective) : List ImportDirective :=
  ds.filter ImportDirective.isFuture ++ ds.filter fun d => !d.isFuture

/-- The request that every wrapper makes. -/
def futureTypes : ImportDirective := ⟨"from __future__ import annotations"⟩

/-- The imports of a wrapper. -/
def importBlock (imports : List ImportDirective) : List ImportDirective :=
  let hoisted := hoistFutureImports imports
  if hoisted.contains futureTypes then hoisted else futureTypes :: hoisted

end SpanWeave
