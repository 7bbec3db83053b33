import SpanWeave.Proofs.Pass.ResolvedCandidates
import SpanWeave.Proofs.Scan.PackageNames
import SpanWeave.Proofs.Wrapper.HeaderRemarks

/-!
# Importing the wrapped type

A wrapper begins by importing the type that it is for. The line is a statement only if it names the
module and the type by free words. The scan asks each word of a module's name to be an identifier,
which words that the language keeps for itself are, too: a module in a file `class.py` has a name
that no statement can import.
-/

set_option autoImplicit false

namespace SpanWeave

/-! ## Statements that import a name -/

/-- The words that the language keeps for itself. -/
def keywords : List String :=
  Source.reservedWords ++ ["False", "None", "True", "async", "await"]

/-- A word that can name something: an identifier that the language does not keep for itself. -/
structure IsFreeWord (word : String) : Prop where
  identifier : Text.isIdentifier word = true
  free : word ∉ keywords

/-- The text that imports a name from a module. -/
def importText (module name : String) : String := "from " ++ module ++ " import " ++ name

/-- A statement that imports a name from a module, which it finds by a path of words. -/
structure ImportStatement where
  path : List String
  name : String
  path_ne_nil : path ≠ []
  free : ∀ word ∈ name :: path, IsFreeWord word

/-- The text of a statement has dots between the words of the path. -/
def ImportStatement.text (s : ImportStatement) : String :=
  importText (String.intercalate "." s.path) s.name

/-- No identifier has a blank. -/
theorem not_blank_mem_of_isIdentifier {name : String} (h : Text.isIdentifier name = true) :
    ' ' ∉ name.toList :=
  Text.not_mem_of_isIdentifier (by decide) (by decide) h

/-- Identifiers with dots between them have no blank. -/
theorem not_blank_mem_dotted {words : List String}
    (h : ∀ word ∈ words, Text.isIdentifier word = true) :
    ' ' ∉ (String.intercalate "." words).toList :=
  Text.not_mem_intercalate (by decide) fun word hword => not_blank_mem_of_isIdentifier (h word hword)

/-- A text that imports a name is cut at its blanks. -/
theorem parts_importText {module name : String} (hmodule : ' ' ∉ module.toList)
    (hname : ' ' ∉ name.toList) :
    Text.parts ' ' (importText module name) = ["from", module, "import", name] := by
  have htext : importText module name =
      String.intercalate (String.ofList [' ']) ["from", module, "import", name] := by
    unfold importText
    simp only [String.intercalate_cons_cons, String.intercalate_singleton, String.append_assoc]
    rfl
  rw [htext]
  refine Text.parts_intercalate_sep (by simp) ?_
  simp only [List.forall_mem_cons, List.not_mem_nil, false_imp_iff, implies_true, and_true]
  exact ⟨by decide, hmodule, by decide, hname⟩

/-- A text that imports an identifier from a module with a name of identifiers is a statement
exactly if the language keeps none of the words for itself. -/
theorem exists_importStatement_iff {words : List String} {name : String} (hne : words ≠ [])
    (hwords : ∀ word ∈ words, Text.isIdentifier word = true)
    (hname : Text.isIdentifier name = true) :
    (∃ s : ImportStatement, s.text = importText (String.intercalate "." words) name) ↔
      ∀ word ∈ name :: words, word ∉ keywords := by
  constructor
  · rintro ⟨s, hs⟩
    have hpath : ∀ word ∈ s.path, Text.isIdentifier word = true :=
      fun word hword => (s.free word (List.mem_cons_of_mem _ hword)).identifier
    have hcut := congrArg (Text.parts ' ') hs
    unfold ImportStatement.text at hcut
    rw [parts_importText (not_blank_mem_dotted hpath)
        (not_blank_mem_of_isIdentifier (s.free s.name List.mem_cons_self).identifier),
      parts_importText (not_blank_mem_dotted hwords) (not_blank_mem_of_isIdentifier hname)] at hcut
    simp only [List.cons.injEq, true_and, and_true] at hcut
    obtain ⟨hmodule, hsame⟩ := hcut
    have hdotless : ∀ {names : List String},
        (∀ word ∈ names, Text.isIdentifier word = true) → ∀ word ∈ names, '.' ∉ word.toList :=
      fun h word hword => not_dot_mem_of_isIdentifier (h word hword)
    have hpaths : s.path = words := by
      rw [← Text.parts_intercalate_sep s.path_ne_nil (hdotless hpath),
        ← Text.parts_intercalate_sep hne (hdotless hwords)]
      exact congrArg (Text.parts '.') hmodule
    rw [← hpaths, ← hsame]
    exact fun word hword => (s.free word hword).free
  · intro hfree
    refine ⟨⟨words, name, hne, fun word hword => ⟨?_, hfree word hword⟩⟩, rfl⟩
    rcases List.mem_cons.mp hword with rfl | hword
    · exact hname
    · exact hwords word hword

/-! ## The line of a wrapper that imports its type -/

/-- A text that ends no line is one line. -/
theorem moduleLines_of_endsNoLine {s : String} (h : EndsNoLine s) : moduleLines s = [s] := by
  unfold moduleLines
  rw [Text.foldLineEnds_eq_self h.2, String.ofList_toList, Text.parts_of_not_mem h.1]

theorem endsNoLine_of_isIdentifier {name : String} (h : Text.isIdentifier name = true) :
    EndsNoLine name :=
  ⟨Text.not_mem_of_isIdentifier (by decide) (by decide) h,
    Text.not_mem_of_isIdentifier (by decide) (by decide) h⟩

theorem endsNoLine_importText {words : List String} {name : String}
    (hwords : ∀ word ∈ words, Text.isIdentifier word = true)
    (hname : Text.isIdentifier name = true) :
    EndsNoLine (importText (String.intercalate "." words) name) := by
  have hmodule : EndsNoLine (String.intercalate "." words) :=
    ⟨Text.not_mem_intercalate (by decide) fun word h => (endsNoLine_of_isIdentifier (hwords word h)).1,
      Text.not_mem_intercalate (by decide) fun word h => (endsNoLine_of_isIdentifier (hwords word h)).2⟩
  unfold importText
  exact (((show EndsNoLine "from " by decide).append hmodule).append (by decide)).append
    (endsNoLine_of_isIdentifier hname)

/-- Above the line that imports its type a wrapper has an empty line. -/
theorem WrapperNode.exists_lines_above (w : WrapperNode) :
    ∃ above, w.header.map remarkLine ++ [""] ++ importLines w.imports = above ++ [""] := by
  unfold importLines
  split
  · exact ⟨w.header.map remarkLine, List.append_nil _⟩
  · exact ⟨w.header.map remarkLine ++ [""] ++ w.imports, (List.append_assoc _ _ _).symm⟩

/-- The line that imports its type stands in a wrapper between two line ends. -/
theorem WrapperNode.render_eq_importText (w : WrapperNode) :
    ∃ above below, w.render = joinLines above ++ "\n" ++
      (importText w.binding.baseModule w.binding.baseName ++ "\n" ++ below) := by
  obtain ⟨above, habove⟩ := w.exists_lines_above
  have hline : w.binding.lines =
      importText w.binding.baseModule w.binding.baseName :: w.binding.lines.tail := rfl
  refine ⟨above, joinLines (w.binding.lines.tail ++ ["", ""] ++ w.body.lines w.binding ++
    ["", "", "__all__ = [" ++ Text.escaped w.body.name ++ "]"]), ?_⟩
  unfold render lines
  rw [habove, hline]
  simp only [joinLines_append, List.append_assoc, List.cons_append, String.append_assoc]
  simp [joinLines, String.append_assoc]

/-- The line that imports the type is one of the lines of a wrapper. -/
theorem WrapperNode.importText_mem_moduleLines {w : WrapperNode}
    (hline : EndsNoLine (importText w.binding.baseModule w.binding.baseName)) :
    importText w.binding.baseModule w.binding.baseName ∈ moduleLines w.render := by
  have hlast : (importText w.binding.baseModule w.binding.baseName).toList.getLast? ≠ some '\r' :=
    fun h => hline.2 (List.mem_of_getLast? h)
  obtain ⟨above, below, hrender⟩ := w.render_eq_importText
  rw [hrender, moduleLines_append (getLast?_joinLines_ne _), moduleLines_append hlast,
    moduleLines_of_endsNoLine hline]
  simp

namespace Assembler

variable {a : Assembler} {t : LogicalType}

/-- A wrapper imports its type from the type's module. -/
theorem base_of_parts {members : CollectedMembers} {node : WrapperNode}
    (h : a.parts t members = .ok node) :
    node.binding.baseModule = t.module ∧ node.binding.baseName = t.name := by
  unfold parts at h
  obtain ⟨methods, -, h⟩ := Traced.except_bind_eq_ok.mp h
  cases h
  exact ⟨rfl, rfl⟩

/-- The text of an assembled wrapper has the line that imports its type. -/
theorem importText_mem_of_assemble {w : WrapperModule}
    (hw : (a.assemble (some t)).result = .ok (.eligible, some w))
    (hline : EndsNoLine (importText t.module t.name)) :
    importText t.module t.name ∈ moduleLines w.text := by
  obtain ⟨-, hwrap⟩ := assemble_result_eq_ok.mp hw
  obtain ⟨members, node, -, hparts, rfl⟩ := wrap_result_eq_ok.mp hwrap
  obtain ⟨hmodule, hname⟩ := base_of_parts hparts
  rw [← hmodule, ← hname] at hline ⊢
  exact WrapperNode.importText_mem_moduleLines hline

end Assembler

/-! ## Declarations that do not resolve -/

/-- A declaration that resolves to nothing is passed over as unresolved, and no other one is. -/
theorem Outcome.reached_unresolved_iff {index : SourceIndex} {a : Assembler} {c : Candidate} :
    reached index a c = .finding ⟨.passedOver c.identity .unresolved, c.origin⟩ ↔
      index.resolve c = none := by
  have hverdict : index.verdict c = .unresolved ↔ index.resolve c = none := by
    unfold SourceIndex.verdict Verdict.ofType?
    cases index.resolve c with
    | none => simp
    | some t =>
      dsimp only
      split_ifs <;> simp
  rw [← hverdict]
  constructor
  · intro h
    by_cases heligible : index.verdict c = .eligible
    · rcases reached_of_eligible (a := a) heligible with ⟨w, hw, -⟩ | ⟨e, he⟩
      · rw [hw] at h
        cases h
      · rw [he] at h
        cases h
    · rw [reached_of_ineligible heligible] at h
      simpa using h
  · intro h
    rw [reached_of_ineligible (by simp [h]), h]

section

variable {tree : FileTree} {root : Path} {rules : List IgnoreRule} {suffix marker : String}
  {c : Candidate}

/-- The module of a marked declaration is named by its place below the root. -/
theorem module_of_mem_candidates (htree : tree.WellFormed)
    (hc : c ∈ (indexUnder tree root rules suffix marker).candidates) :
    c.file.module = (ModuleName.ofPath tree (root.below c.file.path)).module ∧
      Text.isIdentifier c.name = true := by
  obtain ⟨d, hd, -, rfl⟩ := SourceIndex.mem_candidates.mp hc
  obtain ⟨names, -, -, -, hfile, -⟩ := module_of_mem_indexUnder htree hd
  refine ⟨?_, ((indexUnder_faithful htree root rules suffix marker).declared d hd).identifier⟩
  change d.file.module = (ModuleName.ofPath tree (root.below d.file.path)).module
  rw [hfile, module_ofPath, path_ofPath]

/-- A marked declaration resolves to nothing exactly if its module has no name. -/
theorem resolve_eq_none_iff (htree : tree.WellFormed)
    (hc : c ∈ (indexUnder tree root rules suffix marker).candidates) :
    (indexUnder tree root rules suffix marker).resolve c = none ↔
      moduleWords tree (root.below c.file.path) = [] ∨
        ∃ word ∈ moduleWords tree (root.below c.file.path), Text.isIdentifier word = false := by
  obtain ⟨-, -, -, hnone, -⟩ := SourceIndex.resolvesWell
    (indexUnder_faithful htree root rules suffix marker).distinct hc
  have hmodule := (module_of_mem_candidates htree hc).1
  rw [hnone, ← module_eq_none_iff, ← hmodule]
  refine ⟨fun h => h.resolve_right ?_, Or.inl⟩
  -- the empty text is no name, since no word of a name is empty
  intro hempty
  rw [hmodule] at hempty
  have hwords := (module_eq_some_iff.mp hempty).2.1
  rw [← parts_of_module hempty] at hwords
  have hforeign := hwords "" (by decide)
  cases hforeign

/-- What resolves has a module with a name of identifiers. -/
theorem name_of_resolve (htree : tree.WellFormed)
    (hc : c ∈ (indexUnder tree root rules suffix marker).candidates) {t : LogicalType}
    (ht : (indexUnder tree root rules suffix marker).resolve c = some t) :
    Text.isIdentifier t.name = true ∧ moduleWords tree (root.below c.file.path) ≠ [] ∧
      (∀ word ∈ moduleWords tree (root.below c.file.path), Text.isIdentifier word = true) ∧
        t.module = String.intercalate "." (moduleWords tree (root.below c.file.path)) := by
  obtain ⟨hmodule, hname⟩ := module_of_mem_candidates htree hc
  rw [(SourceIndex.module_of_resolve ht).1] at hmodule
  rw [(SourceIndex.resolve_eq_some ht).1]
  exact ⟨hname, module_eq_some_iff.mp hmodule.symm⟩

end

/-- Let a tree be scanned and the modules that are listed be indexed. A marked declaration is passed
over as unresolved exactly if there are no words for the name of its module or if one of them is no
identifier. Any other one resolves to a type, whose module is named by these words, all of them
identifiers, and every wrapper of the type has the line that imports it from there. The line is a
statement exactly if the language keeps neither the name of the type nor one of the words for
itself. -/
theorem resolve_importable_iff {ε : Type} (tree : FileTree) (root : Path) (asked : String)
    (excludePaths : List String) (output : Option Path) (suffix marker : String)
    (manifest : Manifest) (htree : tree.WellFormed) (hroot : root.IsPlain)
    (hscan : scanTree tree root asked excludePaths output suffix = .ok manifest) :
    ∃ index, (SourceIndex.ofManifest tree marker manifest : Traced ε SourceIndex).result =
        .ok index ∧
      ∀ c ∈ index.candidates,
        (∀ a, Outcome.reached index a c =
              .finding ⟨.passedOver c.identity .unresolved, c.origin⟩ ↔
            moduleWords tree (root.below c.file.path) = [] ∨
              ∃ word ∈ moduleWords tree (root.below c.file.path),
                Text.isIdentifier word = false) ∧
          (index.resolve c = none ↔
            moduleWords tree (root.below c.file.path) = [] ∨
              ∃ word ∈ moduleWords tree (root.below c.file.path),
                Text.isIdentifier word = false) ∧
            ∀ t, index.resolve c = some t →
              Text.parts '.' t.module = moduleWords tree (root.below c.file.path) ∧
                (∀ part ∈ Text.parts '.' t.module, Text.isIdentifier part = true) ∧
                (∀ a w, (Assembler.assemble a (some t)).result = .ok (.eligible, some w) →
                  importText t.module t.name ∈ moduleLines w.text) ∧
                ((∃ s : ImportStatement, s.text = importText t.module t.name) ↔
                  ∀ word ∈ t.name :: Text.parts '.' t.module, word ∉ keywords) := by
  obtain ⟨rules, hindex⟩ := ofManifest_of_scanTree (ε := ε) hroot hscan marker
  refine ⟨indexUnder tree root rules suffix marker, hindex, ?_⟩
  intro c hc
  have hnone := resolve_eq_none_iff htree hc
  refine ⟨fun a => Outcome.reached_unresolved_iff.trans hnone, hnone, ?_⟩
  intro t ht
  obtain ⟨hname, hne, hwords, hmodule⟩ := name_of_resolve htree hc ht
  have hparts : Text.parts '.' t.module = moduleWords tree (root.below c.file.path) := by
    rw [hmodule]
    exact Text.parts_intercalate_sep hne fun word hword =>
      not_dot_mem_of_isIdentifier (hwords word hword)
  rw [hparts]
  refine ⟨rfl, hwords, ?_, ?_⟩
  · intro a w hw
    refine Assembler.importText_mem_of_assemble hw ?_
    rw [hmodule]
    exact endsNoLine_importText hwords hname
  · rw [hmodule]
    exact exists_importStatement_iff hne hwords hname

/-! ## Three modules with different names -/

/-- A folder of three modules. The name of the third file is a keyword, and that of the second one is
no identifier. -/
def threeModules (a b c : List UInt8) : FileTree :=
  ⟨[(["p", "a.py"], .file a), (["p", "c-d.py"], .file b), (["p", "class.py"], .file c),
    (["p"], .folder)]⟩

theorem threeModules_paths (a b c : List UInt8) :
    modulePaths (threeModules a b c) ⟨.root, ["p"]⟩ [] "_g.py" = ["a.py", "c-d.py", "class.py"] := by
  cbv

/-- Each of the modules marks an abstract class. -/
def namedProject : FileTree :=
  threeModules (Text.encode "@Instrumentation\nclass A(ABC):\n  def f(self): pass\n")
    (Text.encode "@Instrumentation\nclass B(ABC):\n  def f(self): pass\n")
    (Text.encode "@Instrumentation\nclass C(ABC):\n  def f(self): pass\n")

def namedManifest : Manifest :=
  ⟨smallRequest.root.text,
    ["a.py", "c-d.py", "class.py"].map (SourceFile.ofPath namedProject smallRequest.root)⟩

def namedIndex : SourceIndex :=
  ⟨"Instrumentation",
    namedManifest.files.flatMap (SourceIndex.classesAt namedProject smallRequest.root)⟩

theorem namedProject_wellFormed : namedProject.WellFormed := by decide +kernel

theorem namedProject_scan :
    scanTree namedProject smallRequest.root "/p" [] none "_g.py" = .ok namedManifest := by
  have hfolder : namedProject.at? smallRequest.root = some .folder := by decide +kernel
  have hrules : scanRules namedProject smallRequest.root [] none = .ok [] := by decide +kernel
  have hmodules : modulePaths namedProject smallRequest.root [] "_g.py" =
      ["a.py", "c-d.py", "class.py"] := threeModules_paths _ _ _
  refine scanTree_eq_ok.mpr ⟨hfolder, [], hrules, ?_⟩
  rw [hmodules]
  rfl

theorem namedProject_index {ε : Type} :
    (SourceIndex.ofManifest namedProject "Instrumentation" namedManifest :
      Traced ε SourceIndex).result = .ok namedIndex := by
  rw [SourceIndex.ofManifest_result]
  unfold namedIndex
  rw [namedManifest, Path.ofText_text smallRequest_plain]

/-- An assembler of wrappers with nothing set but the year. -/
def plainAssembler : Assembler := { currentYear := 2024 }

set_option maxRecDepth 100000 in
/-- A wrapper is assembled of the class of each module with a name. -/
theorem exists_wrapper_namedIndex {module name : String}
    (h : (module, name) ∈ [("a", "A"), ("class", "C")]) :
    ∃ c ∈ namedIndex.candidates, ∃ t w, namedIndex.resolve c = some t ∧ t.module = module ∧
      t.name = name ∧ (plainAssembler.assemble (some t)).result = .ok (.eligible, some w) := by
  obtain ⟨c, hc, t, members, node, ht, hassemble, -, -, hcheck⟩ :=
    Assembler.exists_parts_of_any_class plainAssembler namedIndex
      (fun t _ _ => decide (t.module = module ∧ t.name = name))
      (by
        simp only [List.mem_cons, List.not_mem_nil, or_false, Prod.mk.injEq] at h
        rcases h with ⟨rfl, rfl⟩ | ⟨rfl, rfl⟩ <;> decide +kernel)
  obtain ⟨hmodule, hname⟩ := of_decide_eq_true hcheck
  exact ⟨c, hc, t, _, ht, hmodule, hname, hassemble⟩

/-- The class of the first module is imported by a statement, and that of the second one is passed
over as unresolved. -/
theorem resolve_importable_iff_namedProject :
    (∃ c ∈ namedIndex.candidates, ∃ t w, namedIndex.resolve c = some t ∧
        (plainAssembler.assemble (some t)).result = .ok (.eligible, some w) ∧
          "from a import A" ∈ moduleLines w.text ∧
            ∃ s : ImportStatement, s.text = "from a import A") ∧
      ∃ c ∈ namedIndex.candidates, c.file.path = "c-d.py" ∧
        Outcome.reached namedIndex plainAssembler c =
          .finding ⟨.passedOver c.identity .unresolved, c.origin⟩ := by
  obtain ⟨index, hindex, hall⟩ := resolve_importable_iff (ε := Unit) namedProject smallRequest.root
    "/p" [] none "_g.py" "Instrumentation" namedManifest namedProject_wellFormed smallRequest_plain
    namedProject_scan
  rw [namedProject_index] at hindex
  cases hindex
  constructor
  · obtain ⟨c, hc, t, w, ht, hmodule, hname, hw⟩ :=
      exists_wrapper_namedIndex (List.mem_cons_self : ("a", "A") ∈ _)
    obtain ⟨-, -, hresolved⟩ := hall c hc
    obtain ⟨-, -, hline, hstatement⟩ := hresolved t ht
    rw [hmodule, hname] at hstatement
    have himport := hline plainAssembler w hw
    rw [hmodule, hname] at himport
    exact ⟨c, hc, t, w, ht, hw, himport, hstatement.mpr (by decide)⟩
  · obtain ⟨d, hd, hmarked, hpath⟩ : ∃ d ∈ namedIndex.classes,
        d.declaration.carries "Instrumentation" = true ∧ d.file.path = "c-d.py" := by
      decide +kernel
    have hc := SourceIndex.mem_candidates.mpr ⟨d, hd, hmarked, rfl⟩
    obtain ⟨hunresolved, -⟩ := hall d.candidate hc
    refine ⟨d.candidate, hc, hpath, (hunresolved plainAssembler).mpr (Or.inr ?_)⟩
    rw [show d.candidate.file.path = "c-d.py" from hpath]
    decide +kernel

/-- The class of the third module resolves, although its module is named by a keyword, and the
wrapper has a line that is no statement. -/
theorem resolve_imports_keyword :
    namedProject.WellFormed ∧ smallRequest.root.IsPlain ∧
      scanTree namedProject smallRequest.root "/p" [] none "_g.py" = .ok namedManifest ∧
        ∃ index, (SourceIndex.ofManifest namedProject "Instrumentation" namedManifest :
            Traced Unit SourceIndex).result = .ok index ∧
          ∃ c ∈ index.candidates, ∃ t w, index.resolve c = some t ∧
            (∃ part ∈ Text.parts '.' t.module, part ∈ keywords) ∧
              (plainAssembler.assemble (some t)).result = .ok (.eligible, some w) ∧
                "from class import C" ∈ moduleLines w.text ∧
                  ¬ ∃ s : ImportStatement, s.text = "from class import C" := by
  obtain ⟨c, hc, t, w, ht, hmodule, hname, hw⟩ :=
    exists_wrapper_namedIndex (List.mem_cons_of_mem _ List.mem_cons_self : ("class", "C") ∈ _)
  have hline : importText t.module t.name = "from class import C" := by
    rw [hmodule, hname]
    rfl
  have himport := Assembler.importText_mem_of_assemble hw (by rw [hline]; decide)
  rw [hline] at himport
  refine ⟨namedProject_wellFormed, smallRequest_plain, namedProject_scan, namedIndex,
    namedProject_index, c, hc, t, w, ht, ?_, hw, himport, ?_⟩
  · rw [hmodule]
    decide
  · intro hstatement
    have hfree : ∀ word ∈ "C" :: ["class"], word ∉ keywords :=
      (exists_importStatement_iff (by simp) (by decide) (by decide)).mp hstatement
    exact hfree "class" (by simp) (by decide)

end SpanWeave
