import SpanWeave.Proofs.Text.IdentifierNames
import SpanWeave.Proofs.Wrapper.AssemblyResults

/-!
# Merged imports

A wrapper's module begins with the imports of all fragments of its type. Every directive stands
there once, in the order in which the fragments mention it first, except that requests for future
features come before everything else. One such request is always made; if no fragment makes it, it
is put on top.
-/

set_option autoImplicit false

namespace SpanWeave

/-- What becomes of the imports of sources, in the order in which they are written there, once they
are merged for one module. -/
structure ImportDirective.Merges (sources merged : List ImportDirective) : Prop where
  nodup : merged.Nodup
  mem_iff : ∀ d, d ∈ merged ↔ d = futureTypes ∨ d ∈ sources ∧ d.text ≠ ""
  futureFirst : merged.Pairwise fun d e => e.isFuture = true → d.isFuture = true
  inOrder : merged.Pairwise fun d e => d ∈ sources → d.isFuture = e.isFuture →
    sources.idxOf d < sources.idxOf e
  added : futureTypes ∉ sources → merged.head? = some futureTypes

theorem ImportDirective.text_injective : Function.Injective ImportDirective.text := by
  rintro ⟨s⟩ ⟨s'⟩ hsame
  rw [ImportDirective.mk.injEq]
  exact hsame

/-! ## First occurrences -/

section Deduplication

variable {ds : List ImportDirective} (hds : ∀ d ∈ ds, Text.strip d.text = d.text)

include hds

theorem mem_deduplicateFrom {seen : List String} {d : ImportDirective} :
    d ∈ deduplicateFrom seen ds ↔ d ∈ ds ∧ d.text ≠ "" ∧ d.text ∉ seen := by
  induction ds generalizing seen with
  | nil => simp [deduplicateFrom]
  | cons e ds ih =>
    obtain ⟨he, hds⟩ := List.forall_mem_cons.mp hds
    have hsame : d.text = e.text ↔ d = e := ImportDirective.text_injective.eq_iff
    rw [deduplicateFrom]
    simp only [he, Bool.or_eq_true, decide_eq_true_eq, List.contains_iff_mem]
    split
    · rename_i hskip
      rw [ih hds, List.mem_cons]
      constructor
      · exact fun h => ⟨Or.inr h.1, h.2⟩
      · rintro ⟨rfl | hd, hblank, hseen⟩
        · exact absurd hskip (by simp [hblank, hseen])
        · exact ⟨hd, hblank, hseen⟩
    · rename_i hkeep
      rw [List.mem_cons, ih hds, List.mem_cons, List.mem_cons, hsame]
      by_cases hd : d = e
      · simp_all
      · simp [hd]

/-- What is kept stands in the order of first occurrence. -/
theorem pairwise_deduplicateFrom (seen : List String) :
    (deduplicateFrom seen ds).Pairwise fun d e => ds.idxOf d < ds.idxOf e := by
  induction ds generalizing seen with
  | nil => exact List.Pairwise.nil
  | cons first ds ih =>
    obtain ⟨hfirst, hds⟩ := List.forall_mem_cons.mp hds
    -- a directive that is kept behind the first one differs from it
    have hlater : ∀ seen, first.text = "" ∨ first.text ∈ seen →
        (deduplicateFrom seen ds).Pairwise
          fun d e => (first :: ds).idxOf d < (first :: ds).idxOf e := by
      intro seen hskip
      have hne : ∀ d ∈ deduplicateFrom seen ds, first ≠ d := by
        rintro d hd rfl
        obtain ⟨-, hblank, hseen⟩ := (mem_deduplicateFrom hds).mp hd
        exact absurd hskip (by simp [hblank, hseen])
      apply (ih hds seen).imp_of_mem
      intro d e hd he hlt
      rw [List.idxOf_cons_ne _ (hne d hd), List.idxOf_cons_ne _ (hne e he)]
      omega
    rw [deduplicateFrom]
    simp only [hfirst, Bool.or_eq_true, decide_eq_true_eq, List.contains_iff_mem]
    split
    · rename_i hskip
      exact hlater seen hskip
    · refine .cons ?_ (hlater _ (Or.inr List.mem_cons_self))
      intro e he
      obtain ⟨-, -, hseen⟩ := (mem_deduplicateFrom hds).mp he
      have hne : first ≠ e := by
        rintro rfl
        exact hseen List.mem_cons_self
      rw [List.idxOf_cons_self, List.idxOf_cons_ne _ hne]
      omega

end Deduplication

/-! ## The block of a wrapper -/

/-- Hoisting puts requests for future features first and keeps every order among directives of one
kind. -/
theorem pairwise_hoistFutureImports {R : ImportDirective → ImportDirective → Prop}
    {ds : List ImportDirective} (h : ds.Pairwise R) :
    (hoistFutureImports ds).Pairwise fun d e =>
      (e.isFuture = true → d.isFuture = true) ∧ (d.isFuture = e.isFuture → R d e) := by
  unfold hoistFutureImports
  rw [List.pairwise_append]
  refine ⟨?_, ?_, ?_⟩
  · apply (h.filter _).imp_of_mem
    intro d e hd he hde
    exact ⟨fun _ => (List.mem_filter.mp hd).2, fun _ => hde⟩
  · apply (h.filter _).imp_of_mem
    intro d e hd he hde
    have hnot := (List.mem_filter.mp he).2
    exact ⟨fun hfuture => by simp [hfuture] at hnot, fun _ => hde⟩
  · intro d hd e he
    have hfuture := (List.mem_filter.mp hd).2
    have hnot := (List.mem_filter.mp he).2
    exact ⟨fun _ => hfuture, fun hsame => by simp [← hsame, hfuture] at hnot⟩

theorem mem_hoistFutureImports {ds : List ImportDirective} {d : ImportDirective} :
    d ∈ hoistFutureImports ds ↔ d ∈ ds := by
  unfold hoistFutureImports
  rw [List.mem_append, List.mem_filter, List.mem_filter]
  cases d.isFuture <;> simp

/-- A wrapper writes the imports of its type, and the request that every wrapper makes. -/
theorem mem_importBlock {imports : List ImportDirective} {d : ImportDirective} :
    d ∈ importBlock imports ↔ d ∈ imports ∨ d = futureTypes := by
  unfold importBlock
  dsimp only
  split
  · rename_i hfuture
    rw [List.contains_iff_mem, mem_hoistFutureImports] at hfuture
    rw [mem_hoistFutureImports]
    constructor
    · exact Or.inl
    · rintro (hd | rfl)
      · exact hd
      · exact hfuture
  · rw [List.mem_cons, mem_hoistFutureImports, or_comm]

section Hoisting

variable {ds : List ImportDirective} (hds : ∀ d ∈ ds, Text.strip d.text = d.text)

include hds

theorem mem_hoisted {d : ImportDirective} :
    d ∈ hoistFutureImports (deduplicateImports ds) ↔ d ∈ ds ∧ d.text ≠ "" := by
  rw [mem_hoistFutureImports, deduplicateImports, mem_deduplicateFrom hds]
  simp

theorem pairwise_hoisted : (hoistFutureImports (deduplicateImports ds)).Pairwise fun d e =>
    (e.isFuture = true → d.isFuture = true) ∧
      (d.isFuture = e.isFuture → ds.idxOf d < ds.idxOf e) :=
  pairwise_hoistFutureImports (pairwise_deduplicateFrom hds [])

theorem nodup_hoisted : (hoistFutureImports (deduplicateImports ds)).Nodup := by
  apply (pairwise_hoisted hds).imp
  rintro d e ⟨-, hlt⟩ rfl
  exact Nat.lt_irrefl _ (hlt rfl)

end Hoisting

/-- The imports of fragments, as read from texts, are merged in the block of a wrapper. -/
theorem merges_importBlock {fragments : List Fragment}
    (hread : ∀ f ∈ fragments, ∀ d ∈ f.imports, ∃ s, d = .ofText s) :
    ImportDirective.Merges (fragments.flatMap Fragment.imports)
      (importBlock (mergeImports fragments)) := by
  have hds : ∀ d ∈ fragments.flatMap Fragment.imports, Text.strip d.text = d.text := by
    intro d hd
    obtain ⟨f, hf, hd⟩ := List.mem_flatMap.mp hd
    obtain ⟨s, rfl⟩ := hread f hf d hd
    exact Text.strip_strip s
  have hfuture : futureTypes.isFuture = true ∧ futureTypes.text ≠ "" := by decide
  have hordered := pairwise_hoisted hds
  unfold mergeImports importBlock
  generalize fragments.flatMap Fragment.imports = sources at hds hordered ⊢
  dsimp only
  split
  · rename_i hthere
    rw [List.contains_iff_mem, mem_hoisted hds] at hthere
    refine ⟨nodup_hoisted hds, ?_, hordered.imp fun h => h.1, hordered.imp fun h _ => h.2,
      fun habsent => absurd hthere.1 habsent⟩
    intro d
    rw [mem_hoisted hds]
    constructor
    · exact Or.inr
    · rintro (rfl | hd)
      · exact hthere
      · exact hd
  · -- the request is put on top, and no fragment makes it
    rename_i habsent
    rw [List.contains_iff_mem, mem_hoisted hds] at habsent
    have hsources : futureTypes ∉ sources := fun h => habsent ⟨h, hfuture.2⟩
    refine ⟨List.nodup_cons.mpr ⟨?_, nodup_hoisted hds⟩, ?_,
      .cons ?_ (hordered.imp fun h => h.1), .cons ?_ (hordered.imp fun h _ => h.2), fun _ => rfl⟩
    · exact fun hin => hsources ((mem_hoisted hds).mp hin).1
    · intro d
      rw [List.mem_cons, mem_hoisted hds]
    · exact fun d _ _ => hfuture.1
    · exact fun d _ hin => absurd hin hsources

theorem LogicalType.imports_of_collect {t : LogicalType} {members : CollectedMembers}
    (h : t.collect.result = .ok members) : members.imports = mergeImports t.fragments := by
  unfold collect at h
  obtain ⟨⟨methods, properties⟩, -, h⟩ := Traced.result_bind_eq_ok.mp h
  rw [Traced.result_note_bind] at h
  cases h
  rfl

namespace Assembler

variable {a : Assembler} {t : LogicalType}

/-- The parts of a wrapper hold the block of its imports. -/
theorem imports_of_parts {members : CollectedMembers} {node : WrapperNode}
    (h : a.parts t members = .ok node) :
    node.imports = (importBlock members.imports).map ImportDirective.text := by
  unfold parts at h
  obtain ⟨methods, -, h⟩ := Traced.except_bind_eq_ok.mp h
  cases h
  rfl

/-- Let the directives of the fragments of a type be read from texts. They are merged in one way:
each directive that is not blank is there once, with the request that every wrapper makes and
nothing else; requests for future features come first; and two directives of one kind stand in the
order of their first occurrences, whether a fragment makes the request or it is put on top. The
parts of every wrapper of the type import just what is merged. -/
theorem parts_merge_imports (a : Assembler) (t : LogicalType)
    (hread : ∀ f ∈ t.fragments, ∀ d ∈ f.imports, ∃ s, d = .ofText s) :
    ∃ merged, ImportDirective.Merges (t.fragments.flatMap Fragment.imports) merged ∧
      ∀ members node, t.collect.result = .ok members → a.parts t members = .ok node →
        node.imports = merged.map ImportDirective.text := by
  refine ⟨_, merges_importBlock hread, ?_⟩
  intro members node hcollect hparts
  rw [imports_of_parts hparts, LogicalType.imports_of_collect hcollect]

/-- A type of two fragments that have an import in common; the request for future features is made
by the second one, in a text with blanks around it. -/
def importing : LogicalType :=
  let fragment (line : Nat) (texts : List String) : Fragment :=
    ⟨"m", "m.py", ⟨"m.py", line, 1⟩, [], texts.map ImportDirective.ofText⟩
  ⟨"T", "", "m", ⟨"m.py", 4, 1⟩,
    [fragment 4 ["import os", "from abc import ABC", " "],
      fragment 9 ["\tfrom __future__ import annotations ", "import os", "import sys"]], true, true⟩

theorem parts_merge_imports_importing :
    ∃ merged members node, importing.collect.result = .ok members ∧
      parts { currentYear := 2024 } importing members = .ok node ∧
      ImportDirective.Merges (importing.fragments.flatMap Fragment.imports) merged ∧
      node.imports = merged.map ImportDirective.text ∧
      node.imports =
        ["from __future__ import annotations", "import os", "from abc import ABC", "import sys"] := by
  have hread : ∀ f ∈ importing.fragments, ∀ d ∈ f.imports, ∃ s, d = .ofText s := by
    intro f hf d hd
    obtain ⟨texts, htexts⟩ :
        ∃ texts : List String, f.imports = texts.map ImportDirective.ofText := by
      simp only [importing, List.mem_cons, List.not_mem_nil, or_false] at hf
      rcases hf with rfl | rfl <;> exact ⟨_, rfl⟩
    rw [htexts] at hd
    obtain ⟨s, -, rfl⟩ := List.mem_map.mp hd
    exact ⟨s, rfl⟩
  have hmade : (importing.collect.result.toOption.any fun members =>
      (parts { currentYear := 2024 } importing members).toOption.any fun node => node.imports =
        ["from __future__ import annotations", "import os", "from abc import ABC", "import sys"]) =
          true := by
    decide +kernel
  obtain ⟨members, hcollect, hmade⟩ := (Option.any_eq_true _ _).mp hmade
  obtain ⟨node, hparts, hwritten⟩ := (Option.any_eq_true _ _).mp hmade
  replace hcollect := Traced.eq_ok_of_toOption hcollect
  replace hparts := Traced.eq_ok_of_toOption hparts
  obtain ⟨merged, hmerges, himports⟩ :=
    parts_merge_imports { currentYear := 2024 } importing hread
  exact ⟨merged, members, node, hcollect, hparts, hmerges, himports members node hcollect hparts,
    of_decide_eq_true hwritten⟩

end Assembler

end SpanWeave
