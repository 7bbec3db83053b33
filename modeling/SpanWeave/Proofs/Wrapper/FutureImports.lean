import SpanWeave.Proofs.Source.ImportStatements
import SpanWeave.Proofs.Wrapper.ReadMembers
import SpanWeave.Proofs.Wrapper.RelativeImports

/-!
# Imports from `__future__` in a wrapper

An import from `__future__` has to stand before all others. It is taken for one by the beginning of
its text alone: with one blank before the module and a blank behind it. Every other spelling is
merged as any import is, and stands before the imports of its own kind only if it is mentioned
before them.
-/

set_option autoImplicit false

namespace SpanWeave

open Source (Cursor ImportSite readStatements tokens)

namespace ImportDirective

/-- Whether a directive imports from `__future__`, as a reader of its text sees it. -/
def asksForFuture (d : ImportDirective) : Bool :=
  (Cursor.mk 0 (d.tokens.map Source.Token.symbol)).atFutureImport

theorem asksForFuture_futureTypes : futureTypes.asksForFuture = true := by decide +kernel

theorem text_ne_of_asksForFuture {d : ImportDirective} (h : d.asksForFuture = true) :
    d.text ≠ "" := by
  have hblank : asksForFuture ⟨""⟩ = false := by decide +kernel
  obtain ⟨text⟩ := d
  rintro rfl
  rw [hblank] at h
  cases h

/-- No import from `__future__` follows another import. -/
def FutureLeads (imports : List ImportDirective) : Prop :=
  imports.Pairwise fun d e => e.asksForFuture = true → d.asksForFuture = true

instance (imports : List ImportDirective) : Decidable (FutureLeads imports) :=
  inferInstanceAs (Decidable (List.Pairwise _ _))

/-- Whether a directive of sources goes ahead of another one when they are merged: it is taken for
an import from `__future__` and the other one is not, or both are of one kind and it is mentioned
first. -/
def AheadOf (sources : List ImportDirective) (d e : ImportDirective) : Prop :=
  d.isFuture = true ∧ e.isFuture = false ∨
    d.isFuture = e.isFuture ∧ sources.idxOf d < sources.idxOf e

instance (sources : List ImportDirective) (d e : ImportDirective) :
    Decidable (AheadOf sources d e) :=
  inferInstanceAs (Decidable (_ ∨ _))

theorem AheadOf.asymm {sources : List ImportDirective} {d e : ImportDirective}
    (h : AheadOf sources d e) : ¬ AheadOf sources e d := by
  rintro (⟨he, hd⟩ | ⟨hsame, hlt⟩) <;> rcases h with ⟨hd', he'⟩ | ⟨hsame', hlt'⟩
  · rw [he] at he'
    cases he'
  · rw [hd, he] at hsame'
    cases hsame'
  · rw [hd', he'] at hsame
    cases hsame
  · omega

end ImportDirective

/-! ## The order of merged imports -/

theorem sublist_pair_or {α : Type} {x y : α} {xs : List α} (hx : x ∈ xs) (hy : y ∈ xs)
    (hne : x ≠ y) : [x, y].Sublist xs ∨ [y, x].Sublist xs := by
  obtain ⟨before, after, rfl⟩ := List.append_of_mem hx
  rcases List.mem_append.mp hy with hy | hy
  · exact Or.inr ((List.singleton_sublist.mpr hy).append
      ((List.nil_sublist after).cons_cons x))
  · have hafter : y ∈ after := (List.mem_cons.mp hy).resolve_left (Ne.symm hne)
    exact Or.inl ((List.nil_sublist before).append
      ((List.singleton_sublist.mpr hafter).cons_cons x))

namespace ImportDirective.Merges

variable {sources merged : List ImportDirective} {d e : ImportDirective}
  (h : Merges sources merged)

include h

theorem aheadOf (hd : d ∈ sources) (hpair : [d, e].Sublist merged) : AheadOf sources d e := by
  have hfuture := List.pairwise_iff_forall_sublist.mp h.futureFirst hpair
  have horder := List.pairwise_iff_forall_sublist.mp h.inOrder hpair hd
  by_cases hsame : d.isFuture = e.isFuture
  · exact Or.inr ⟨hsame, horder hsame⟩
  · -- of two kinds, the imports from `__future__` come first
    cases he : e.isFuture with
    | true => exact absurd ((hfuture he).trans he.symm) hsame
    | false =>
      rw [he, Bool.not_eq_false] at hsame
      exact Or.inl ⟨hsame, he⟩

/-- The request that is put on top follows nothing. -/
theorem not_sublist_of_added (habsent : futureTypes ∉ sources) :
    ¬ [d, futureTypes].Sublist merged := by
  intro hpair
  obtain ⟨others, rfl⟩ := List.head?_eq_some_iff.mp (h.added habsent)
  have hnodup := List.nodup_cons.mp h.nodup
  cases hpair with
  | cons _ hpair => exact hnodup.1 (hpair.subset (by simp))
  | cons_cons _ hpair => exact hnodup.1 (hpair.subset (by simp))

/-- In a merged list the imports from `__future__` lead exactly if in the sources each of them goes
ahead of every other import. -/
theorem futureLeads_iff : FutureLeads merged ↔
    ∀ d ∈ sources, ∀ e ∈ sources, d.asksForFuture = true → e.asksForFuture = false →
      e.text ≠ "" → AheadOf sources d e := by
  unfold FutureLeads
  rw [List.pairwise_iff_forall_sublist]
  have hdistinct : ∀ {d e : ImportDirective}, d.asksForFuture = true → e.asksForFuture = false →
      d ≠ e := by
    rintro d e hd he rfl
    rw [hd] at he
    cases he
  constructor
  · intro hleads d hd e he hdf hef hetext
    have hdtext := text_ne_of_asksForFuture hdf
    rcases sublist_pair_or ((h.mem_iff d).mpr (Or.inr ⟨hd, hdtext⟩))
      ((h.mem_iff e).mpr (Or.inr ⟨he, hetext⟩)) (hdistinct hdf hef) with hpair | hpair
    · exact h.aheadOf hd hpair
    · rw [hleads hpair hdf] at hef
      cases hef
  · intro hahead e d hpair hdf
    by_contra hef
    rw [Bool.not_eq_true] at hef
    have hother : e ≠ futureTypes := (hdistinct asksForFuture_futureTypes hef).symm
    obtain ⟨he, hetext⟩ := ((h.mem_iff e).mp (hpair.subset (by simp))).resolve_left hother
    by_cases hd : d ∈ sources
    · exact (hahead d hd e he hdf hef hetext).asymm (h.aheadOf he hpair)
    · have hadded : d = futureTypes :=
        ((h.mem_iff d).mp (hpair.subset (by simp))).resolve_right fun hsource => hd hsource.1
      rw [hadded] at hd hpair
      exact h.not_sublist_of_added hd hpair

end ImportDirective.Merges

/-! ## The imports of a module -/

/-- Whether there is one blank before the module of the import from `__future__` at a cursor, and a
blank behind it. -/
def plainlySpacedAt (ts : List Source.Token) (c : Cursor) : Bool :=
  match ts.drop c.index with
  | _ :: feature :: word :: _ => feature.gap == [' '] && word.gap.head? == some ' '
  | _ => false

/-- The imports of a module are read off its text. Each statement that imports is read at a place of
the text and comes to a directive; if it imports from `__future__` there, a reader of the directive
sees the same, and the directive is taken for one exactly if it is plainly spaced. -/
structure ReadsImports (path : String) (content : List UInt8) : Prop where
  sites : ∀ written,
    .importing written ∈ (readStatements (tokens (Text.glyphs content))).statements →
    ImportDirective.ofText written ∈ (ModuleReading.ofBytes path content).imports ∧
      ∃ site stop, ImportSite (tokens (Text.glyphs content)) written site stop
  future : ∀ written site stop, ImportSite (tokens (Text.glyphs content)) written site stop →
    site.atFutureImport = true → (ImportDirective.ofText written).asksForFuture = true ∧
      ((ImportDirective.ofText written).isFuture = true ↔
        plainlySpacedAt (tokens (Text.glyphs content)) site = true)

/-- A directive of an import from `__future__` asks for it, and shows that it does if it is plainly
spaced. -/
theorem Source.ImportSite.directive {gs : List Text.Glyph} {written : String} {site stop : Cursor}
    (h : ImportSite (tokens gs) written site stop) (hfuture : site.atFutureImport = true) :
    (ImportDirective.ofText written).asksForFuture = true ∧
      ((ImportDirective.ofText written).isFuture = true ↔
        plainlySpacedAt (tokens gs) site = true) := by
  obtain ⟨t, u, v, more, rest, hts, htext⟩ := h.futureText hfuture
  refine ⟨htext.atFutureImport, ?_⟩
  have hstarts := htext.startsWith_iff
  rw [String.ofList_toList] at hstarts
  unfold plainlySpacedAt
  rw [hts]
  simp only [Bool.and_eq_true, beq_iff_eq]
  exact hstarts

theorem readsImports (path : String) (content : List UInt8) : ReadsImports path content where
  sites _ hmem :=
    ⟨List.mem_filterMap.mpr ⟨_, hmem, rfl⟩, Source.exists_importSite hmem⟩
  future _ _ _ hsite := hsite.directive

theorem exists_ofText_of_mem_imports {path : String} {content : List UInt8} {d : ImportDirective}
    (h : d ∈ (ModuleReading.ofBytes path content).imports) : ∃ written, d = .ofText written := by
  obtain ⟨statement, -, hdirective⟩ := List.mem_filterMap.mp h
  split at hdirective
  · exact ⟨_, (Option.some.inj hdirective).symm⟩
  · cases hdirective

namespace SourceIndex

variable {ε : Type} {marker : String} {modules : List (SourceFile × List UInt8)}
  {index : SourceIndex} {c : Candidate} {t : LogicalType}

/-- A part of a type from sources has the imports of its module. -/
theorem imports_of_resolve
    (hindex : (addSources { marker } modules : Traced ε SourceIndex).result = .ok index)
    (ht : index.resolve c = some t) {f : Fragment} (hf : f ∈ t.fragments) :
    ∃ m ∈ modules, f.imports = (ModuleReading.ofBytes m.1.path m.2).imports := by
  rw [(module_of_resolve ht).2] at hf
  obtain ⟨d, hd, -, rfl⟩ := mem_fragments.mp hf
  rw [addSources_result] at hindex
  cases hindex
  obtain ⟨m, hm, hd⟩ := List.mem_flatMap.mp hd
  obtain ⟨declaration, -, rfl⟩ := List.mem_map.mp hd
  exact ⟨m, hm, rfl⟩

end SourceIndex

namespace Assembler

/-- Every module has its imports read off its text: one from `__future__`, however it is written,
comes to a directive that asks for a future feature, and the directive is taken for one exactly if
it is plainly spaced. A wrapper of a type from sources is written with the imports of the modules
that declare the type; no import from `__future__` follows another import there exactly if among the
imports of these modules each one from `__future__` goes ahead of every other import, either taken
for what it is, where the other import is not, or mentioned before it. -/
theorem assemble_future_leads_iff {ε : Type} (a : Assembler) (marker : String)
    (modules : List (SourceFile × List UInt8)) (index : SourceIndex) (c : Candidate)
    (t : LogicalType) (w : WrapperModule)
    (hindex : (SourceIndex.addSources { marker } modules : Traced ε SourceIndex).result = .ok index)
    (ht : index.resolve c = some t)
    (h : (a.assemble (some t)).result = .ok (.eligible, some w)) :
    (∀ path content, ReadsImports path content) ∧
      (∀ f ∈ t.fragments, ∃ m ∈ modules,
        f.imports = (ModuleReading.ofBytes m.1.path m.2).imports) ∧
      ∃ imports, a.Writes t w imports ∧
        (ImportDirective.FutureLeads imports ↔
          ∀ d ∈ t.fragments.flatMap Fragment.imports, ∀ e ∈ t.fragments.flatMap Fragment.imports,
            d.asksForFuture = true → e.asksForFuture = false → e.text ≠ "" →
              ImportDirective.AheadOf (t.fragments.flatMap Fragment.imports) d e) := by
  refine ⟨readsImports, fun f hf => SourceIndex.imports_of_resolve hindex ht hf, ?_⟩
  obtain ⟨imports, hwrites⟩ := writes_of_wrap (assemble_result_eq_ok.mp h).2
  refine ⟨imports, hwrites, ?_⟩
  obtain ⟨members, -, hcollect, -⟩ := id hwrites
  rw [imports_of_writes hwrites hcollect, LogicalType.imports_of_collect hcollect]
  refine (merges_importBlock fun f hf d hd => ?_).futureLeads_iff
  obtain ⟨m, -, himports⟩ := SourceIndex.imports_of_resolve hindex ht hf
  exact exists_ofText_of_mem_imports (himports ▸ hd)

/-! ## Two modules of one type -/

/-- An import from `__future__` that goes on in a second line, or has two blanks before its
module. -/
def spelledFuture (joined : Bool) : String :=
  if joined then "from __future__ \\\n  import annotations"
  else "from  __future__ import annotations"

/-- The text of a module that imports from `__future__` and declares a class. -/
def futureSource (joined : Bool) : List UInt8 :=
  Text.encode (spelledFuture joined ++ "\nclass A(ABC): pass\n")

/-- The module, and another one that declares the class and marks it behind an import of its own. -/
def sharedSources (joined : Bool) : List (SourceFile × List UInt8) :=
  [(⟨"a.py", some "a", "", ""⟩, Text.encode "import os\n@Instrumentation\nclass A(ABC): pass\n"),
    (⟨"b.py", some "b", "", ""⟩, futureSource joined)]

def sharedIndex (joined : Bool) : SourceIndex :=
  { marker := "Instrumentation"
    classes :=
      [⟨⟨"a.py", some "a", "", ""⟩, [⟨"import os"⟩],
          ⟨"A", ["Instrumentation"], true, ⟨"a.py", 3, 1⟩, []⟩⟩,
        ⟨⟨"b.py", some "b", "", ""⟩, [⟨spelledFuture joined⟩],
          ⟨"A", [], true, ⟨"b.py", if joined then 3 else 2, 1⟩, []⟩⟩] }

theorem addSources_sharedSources (joined : Bool) :
    (SourceIndex.addSources { marker := "Instrumentation" } (sharedSources joined) :
      Traced Unit SourceIndex).result = .ok (sharedIndex joined) := by
  have hclasses : ∀ joined, ((sharedSources joined).flatMap fun m =>
      SourceIndex.classesIn m.1 m.2) = (sharedIndex joined).classes := by
    decide +kernel
  rw [SourceIndex.addSources_result, hclasses]
  rfl

/-- The marked declaration of the class. -/
def sharedCandidate : Candidate := ⟨"A", ⟨"a.py", some "a", "", ""⟩, ⟨"a.py", 3, 1⟩⟩

/-- The type that both modules declare. -/
def sharedType (joined : Bool) : LogicalType :=
  ⟨"A", "", "a", ⟨"a.py", 3, 1⟩, (sharedIndex joined).classes.map IndexedClass.fragment, true, true⟩

theorem sharedIndex_resolve (joined : Bool) :
    sharedCandidate ∈ (sharedIndex joined).candidates ∧
      (sharedIndex joined).resolve sharedCandidate = some (sharedType joined) := by
  have horder : (sharedIndex joined).InOrder := by
    unfold SourceIndex.InOrder
    cases joined <;> decide
  have hfragments : (sharedIndex joined).fragments sharedCandidate.key =
      (sharedIndex joined).classes.map IndexedClass.fragment := by
    rw [horder.fragments_eq, List.filter_eq_self.mpr (by cases joined <;> decide +kernel)]
  unfold SourceIndex.resolve
  rw [hfragments]
  cases joined <;> decide +kernel

/-- The type has a wrapper. -/
theorem sharedType_assemble (joined : Bool) :
    ∃ w, (assemble { currentYear := 2024 } (some (sharedType joined))).result =
      .ok (.eligible, some w) := by
  have hmade : ∀ joined, Verdict.ofType? (some (sharedType joined)) = .eligible ∧
      ((sharedType joined).collect.result.toOption.any fun members =>
        (parts { currentYear := 2024 } (sharedType joined) members).toOption.isSome) = true := by
    decide +kernel
  obtain ⟨heligible, hmade⟩ := hmade joined
  obtain ⟨members, hcollect, hmade⟩ := (Option.any_eq_true _ _).mp hmade
  obtain ⟨node, hparts⟩ := Option.isSome_iff_exists.mp hmade
  exact ⟨_, assemble_result_eq_ok.mpr ⟨heligible, wrap_result_eq_ok.mpr
    ⟨members, node, Traced.eq_ok_of_toOption hcollect, Traced.eq_ok_of_toOption hparts, rfl⟩⟩⟩

/-- The cursor at the beginning of the module that imports from `__future__`. -/
def futureStart (joined : Bool) : Cursor :=
  ⟨0, (tokens (Text.glyphs (futureSource joined))).map Source.Token.symbol⟩

/-- The module is read to begin with the import. -/
theorem futureStart_site (joined : Bool) :
    ∃ stop, ImportSite (tokens (Text.glyphs (futureSource joined))) (spelledFuture joined)
      (futureStart joined) stop := by
  have hread : ∀ joined, ((Source.Grammar.run Source.Grammar.importing (futureStart joined)).any
      fun stop => decide (spelledFuture joined = (Source.Spelling.ofTokens
        (tokens (Text.glyphs (futureSource joined))).toArray).between (futureStart joined) stop)) =
          true := by
    decide +kernel
  obtain ⟨stop, hread, hwritten⟩ := (Option.any_eq_true _ _).mp (hread joined)
  exact ⟨stop, .refl _, hread, of_decide_eq_true hwritten⟩

/-- The import that goes on in a second line is taken for what it is, and leads the import of the
other module. -/
theorem assemble_future_leads_iff_joined :
    ∃ stop w imports,
      ImportSite (tokens (Text.glyphs (futureSource true))) (spelledFuture true)
        (futureStart true) stop ∧
      (ImportDirective.ofText (spelledFuture true)).isFuture = true ∧
      (assemble { currentYear := 2024 } (some (sharedType true))).result =
        .ok (.eligible, some w) ∧
      Writes { currentYear := 2024 } (sharedType true) w imports ∧
      ImportDirective.FutureLeads imports ∧
      (sharedType true).fragments.flatMap Fragment.imports =
        [⟨"import os"⟩, ⟨"from __future__ \\\n  import annotations"⟩] := by
  obtain ⟨w, hassembled⟩ := sharedType_assemble true
  obtain ⟨hreads, -, imports, hwrites, hleads⟩ :=
    assemble_future_leads_iff { currentYear := 2024 } "Instrumentation" (sharedSources true) _
      sharedCandidate _ w (addSources_sharedSources true) (sharedIndex_resolve true).2 hassembled
  obtain ⟨stop, hsite⟩ := futureStart_site true
  obtain ⟨-, htaken⟩ := (hreads "b.py" (futureSource true)).future _ _ _ hsite (by decide +kernel)
  exact ⟨stop, w, imports, hsite, htaken.mpr (by decide +kernel), hassembled, hwrites,
    hleads.mpr (by decide +kernel), rfl⟩

/-- With two blanks before its module, an import from `__future__` with which a text begins is not
taken for one, and it is written behind the import of the other module. -/
theorem assemble_future_follows :
    ∃ (stop : Cursor) (w : WrapperModule) (imports : List ImportDirective),
      ImportSite (tokens (Text.glyphs (futureSource false))) (spelledFuture false)
        (futureStart false) stop ∧
      (futureStart false).atFutureImport = true ∧
      (ModuleReading.ofBytes "b.py" (futureSource false)).imports =
        [.ofText (spelledFuture false)] ∧
      (ImportDirective.ofText (spelledFuture false)).isFuture = false ∧
      (SourceIndex.addSources { marker := "Instrumentation" } (sharedSources false) :
        Traced Unit SourceIndex).result = .ok (sharedIndex false) ∧
      sharedCandidate ∈ (sharedIndex false).candidates ∧
      (sharedIndex false).resolve sharedCandidate = some (sharedType false) ∧
      (assemble { currentYear := 2024 } (some (sharedType false))).result =
        .ok (.eligible, some w) ∧
      Writes { currentYear := 2024 } (sharedType false) w imports ∧
      ¬ ImportDirective.FutureLeads imports := by
  obtain ⟨stop, hsite⟩ := futureStart_site false
  obtain ⟨hmarked, hresolve⟩ := sharedIndex_resolve false
  obtain ⟨w, hassembled⟩ := sharedType_assemble false
  obtain ⟨imports, hwrites⟩ := writes_of_wrap (assemble_result_eq_ok.mp hassembled).2
  obtain ⟨members, -, hcollect, -⟩ := id hwrites
  refine ⟨stop, w, imports, hsite, by decide +kernel, by decide +kernel, by decide +kernel,
    addSources_sharedSources false, hmarked, hresolve, hassembled, hwrites, ?_⟩
  rw [imports_of_writes hwrites hcollect, LogicalType.imports_of_collect hcollect]
  decide +kernel

end Assembler

end SpanWeave
