import Mathlib.Data.List.Nodup
import SpanWeave.Proofs.Index.Sources
import SpanWeave.Proofs.Pass.PlanResults
import SpanWeave.Proofs.Scan.FoundFiles
import SpanWeave.Proofs.Source.ClassHeads

/-!
# What a survey finds

The index of a survey holds the classes of every module that the scan lists, and a class is known by
its location: no two classes of the index stand at the same one. So marked declarations are told
apart by their origins throughout a pass.
-/

set_option autoImplicit false

namespace SpanWeave

open SpanWeave.Path (joined)

variable {ε : Type}

namespace SourceIndex

/-- The classes of a module below a root; there are none if it cannot be read. -/
def classesAt (tree : FileTree) (root : Path) (file : SourceFile) : List IndexedClass :=
  match tree.read (root.below file.path) with
  | .ok content => classesOf file (.ofBytes file.path content)
  | .error _ => []

/-- A module adds its classes at the end of an index. -/
theorem addFile_result (tree : FileTree) (root : Path) (index : SourceIndex) (file : SourceFile) :
    (addFile tree root index file : Traced ε SourceIndex).result =
      .ok { index with classes := index.classes ++ classesAt tree root file } := by
  unfold addFile classesAt
  cases tree.read (root.below file.path) with
  | error e =>
    rw [List.append_nil]
    rfl
  | ok content => exact Traced.result_bind_of_ok (addSource_result index file content) _

/-- The index of a manifest holds the classes of its modules in order. -/
theorem ofManifest_result (tree : FileTree) (marker : String) (manifest : Manifest) :
    (ofManifest tree marker manifest : Traced ε SourceIndex).result =
      .ok ⟨marker, manifest.files.flatMap (classesAt tree (Path.ofText manifest.root))⟩ := by
  have hfold : ∀ (files : List SourceFile) (index : SourceIndex),
      files.foldl (fun index file => { index with
          classes := index.classes ++ classesAt tree (Path.ofText manifest.root) file }) index =
        { index with classes := index.classes ++
          files.flatMap (classesAt tree (Path.ofText manifest.root)) } := by
    intro files
    induction files with
    | nil => simp
    | cons file files ih =>
      intro index
      rw [List.foldl_cons, ih, List.flatMap_cons, List.append_assoc]
  unfold ofManifest
  rw [Traced.result_foldlM_of_ok (addFile_result tree (Path.ofText manifest.root)), hfold]
  rfl

end SourceIndex

/-- The modules below a root as a survey with the given rules and suffix indexes them. -/
def indexUnder (tree : FileTree) (root : Path) (rules : List IgnoreRule) (suffix marker : String) :
    SourceIndex :=
  ⟨marker, ((modulePaths tree root rules suffix).map (SourceFile.ofPath tree root)).flatMap
    (SourceIndex.classesAt tree root)⟩

/-- The index of what a scan lists is that of the modules under the rules of the scan. -/
theorem ofManifest_of_scanTree {tree : FileTree} {root : Path} {asked suffix : String}
    {excludePaths : List String} {output : Option Path} {manifest : Manifest} (hroot : root.IsPlain)
    (hscan : scanTree tree root asked excludePaths output suffix = .ok manifest) (marker : String) :
    ∃ rules, (SourceIndex.ofManifest tree marker manifest : Traced ε SourceIndex).result =
      .ok (indexUnder tree root rules suffix marker) := by
  obtain ⟨-, rules, -, rfl⟩ := scanTree_eq_ok.mp hscan
  refine ⟨rules, (SourceIndex.ofManifest_result tree marker _).trans ?_⟩
  dsimp only
  rw [Path.ofText_text hroot]
  rfl

/-- A survey indexes the modules of the tree under the rules of the tree and its settings. -/
theorem underSettings_result_eq_ok {tree : FileTree} {root : Path} {suffix : Option String}
    {settings : Settings} {survey : Survey} (hroot : root.IsPlain) :
    (Survey.underSettings tree root suffix settings).result = .ok survey ↔
      tree.at? root = some .folder ∧
        ∃ rules, scanRules tree root settings.excludePaths settings.output.directory = .ok rules ∧
          survey = ⟨settings, indexUnder tree root rules (suffix.getD settings.output.suffix)
            settings.marker⟩ := by
  have hreads : ∀ manifest : Manifest,
      (do
        Traced.note .debug passSpeaker
          ("Scanner discovered " ++ toString manifest.files.length ++ " modules")
        let index ← SourceIndex.ofManifest tree settings.marker manifest
        return { settings, index } : Traced PassError Survey).result =
          .ok ⟨settings, settings.marker,
            manifest.files.flatMap (SourceIndex.classesAt tree (Path.ofText manifest.root))⟩ := by
    intro manifest
    rw [Traced.result_note_bind,
      Traced.result_bind_of_ok (SourceIndex.ofManifest_result tree settings.marker manifest)]
    rfl
  unfold Survey.underSettings
  rw [Traced.result_bind_eq_ok]
  constructor
  · rintro ⟨manifest, hmanifest, hindex⟩
    rw [hreads] at hindex
    cases hindex
    have hscan : scanTree tree root root.text settings.excludePaths settings.output.directory
        (suffix.getD settings.output.suffix) = .ok manifest := by
      rw [Traced.result_ofExcept] at hmanifest
      cases hscan : scanTree tree root root.text settings.excludePaths settings.output.directory
          (suffix.getD settings.output.suffix) with
      | error e =>
        rw [hscan] at hmanifest
        cases hmanifest
      | ok found =>
        rw [hscan] at hmanifest
        cases hmanifest
        rfl
    obtain ⟨hfolder, rules, hrules, rfl⟩ := scanTree_eq_ok.mp hscan
    refine ⟨hfolder, rules, hrules, ?_⟩
    dsimp only
    rw [Path.ofText_text hroot]
    rfl
  · rintro ⟨hfolder, rules, hrules, rfl⟩
    have hscan : scanTree tree root root.text settings.excludePaths settings.output.directory
        (suffix.getD settings.output.suffix) = .ok ⟨root.text, (modulePaths tree root rules
          (suffix.getD settings.output.suffix)).map (SourceFile.ofPath tree root)⟩ :=
      scanTree_eq_ok.mpr ⟨hfolder, rules, hrules, rfl⟩
    refine ⟨⟨root.text, _⟩, by rw [Traced.result_ofExcept, hscan]; rfl, (hreads _).trans ?_⟩
    dsimp only
    rw [Path.ofText_text hroot]
    rfl

/-- The survey of a tree whose listed modules are known. -/
theorem Survey.ofTree_of_modules {tree : FileTree} {root : Path} {suffix : Option String}
    {settings : Settings} {rules : List IgnoreRule} {paths : List String} (hroot : root.IsPlain)
    (hload : Settings.load tree root = .ok settings) (hfolder : tree.at? root = some .folder)
    (hrules : scanRules tree root settings.excludePaths settings.output.directory = .ok rules)
    (hpaths : modulePaths tree root rules (suffix.getD settings.output.suffix) = paths) :
    (Survey.ofTree tree root suffix).result = .ok ⟨settings, settings.marker,
      (paths.map (SourceFile.ofPath tree root)).flatMap (SourceIndex.classesAt tree root)⟩ := by
  refine PassRequest.ofTree_result_eq_ok.mpr
    ⟨hload, (underSettings_result_eq_ok hroot).mpr ⟨hfolder, rules, hrules, ?_⟩⟩
  unfold indexUnder
  rw [hpaths]

/-! ## Locations of classes -/

/-- A class that is declared in a module at a path below a root. -/
structure IndexedClass.DeclaredBelow (tree : FileTree) (root : Path) (c : IndexedClass) : Prop where
  origin_path : c.declaration.origin.path = c.file.path
  identifier : Text.isIdentifier c.declaration.name = true
  found : ∃ names, names ≠ [] ∧ (∀ name ∈ names, IsName name) ∧ c.file.path = joined names ∧
    ∃ content, tree.entryAt? (root.names ++ names) = some (.file content)

/-- What makes an index trustworthy: its classes are declared below the root, each at a location of
its own. -/
structure SourceIndex.Faithful (tree : FileTree) (root : Path) (index : SourceIndex) : Prop where
  declared : ∀ c ∈ index.classes, c.DeclaredBelow tree root
  distinct : (index.classes.map fun c => c.declaration.origin).Nodup

/-- The classes of one module have its path and different locations. -/
theorem SourceIndex.classesAt_origins (tree : FileTree) (root : Path) (file : SourceFile) :
    ((classesAt tree root file).map fun c => c.declaration.origin).Nodup ∧
      ∀ c ∈ classesAt tree root file, c.file = file ∧ c.declaration.origin.path = file.path ∧
        Text.isIdentifier c.declaration.name = true := by
  unfold classesAt
  split
  · exact classesIn_origins file _
  · exact ⟨List.nodup_nil, fun c hc => by cases hc⟩

/-- A class of a survey stands in a listed module, which is named after its path. -/
theorem module_of_mem_indexUnder {tree : FileTree} (htree : tree.WellFormed) {root : Path}
    {rules : List IgnoreRule} {suffix marker : String} {c : IndexedClass}
    (hc : c ∈ (indexUnder tree root rules suffix marker).classes) :
    ∃ names, names ≠ [] ∧ (∀ name ∈ names, IsName name) ∧
      joined names ∈ modulePaths tree root rules suffix ∧
        c.file = .ofPath tree root (joined names) ∧ c.declaration.origin.path = joined names := by
  obtain ⟨file, hfile, hc⟩ := List.mem_flatMap.mp hc
  obtain ⟨path, hpath, rfl⟩ := List.mem_map.mp hfile
  obtain ⟨hsame, horigin, -⟩ := (SourceIndex.classesAt_origins tree root _).2 c hc
  obtain ⟨names, hne, hnames, rfl, -⟩ := mem_modulePaths htree hpath
  exact ⟨names, hne, hnames, hpath, hsame, horigin⟩

/-- The index of a survey is faithful to the tree. -/
theorem indexUnder_faithful {tree : FileTree} (htree : tree.WellFormed) (root : Path)
    (rules : List IgnoreRule) (suffix marker : String) :
    (indexUnder tree root rules suffix marker).Faithful tree root := by
  unfold indexUnder
  constructor
  · intro c hc
    obtain ⟨file, hfile, hc⟩ := List.mem_flatMap.mp hc
    obtain ⟨path, hpath, rfl⟩ := List.mem_map.mp hfile
    obtain ⟨hsame, horigin, hname⟩ := (SourceIndex.classesAt_origins tree root _).2 c hc
    refine ⟨by rw [hsame]; exact horigin, hname, ?_⟩
    rw [hsame]
    exact mem_modulePaths htree hpath
  · refine SourceIndex.nodup_origins
      (fun file _ => (SourceIndex.classesAt_origins tree root file).1)
      (fun file _ c hc => ((SourceIndex.classesAt_origins tree root file).2 c hc).2.1) ?_
    have hpaths : (modulePaths tree root rules suffix).map
        (SourceFile.path ∘ SourceFile.ofPath tree root) = modulePaths tree root rules suffix :=
      List.map_id _
    rw [List.map_map, hpaths]
    exact nodup_modulePaths htree root rules suffix

/-- A survey of a tree has a faithful index. -/
theorem Survey.faithful_of_ofTree {tree : FileTree} {root : Path} {suffix : Option String}
    {survey : Survey} (htree : tree.WellFormed) (hroot : root.IsPlain)
    (h : (Survey.ofTree tree root suffix).result = .ok survey) :
    survey.index.Faithful tree root := by
  obtain ⟨-, hunder⟩ := PassRequest.ofTree_result_eq_ok.mp h
  obtain ⟨-, rules, -, hsurvey⟩ := (underSettings_result_eq_ok hroot).mp hunder
  rw [hsurvey]
  exact indexUnder_faithful htree root rules _ _

/-! ## A small project -/

/-- A project of one module that marks an abstract class. -/
def smallProject : FileTree :=
  ⟨[(["p", "a.py"], .file (Text.encode "@Instrumentation\nclass A(ABC):\n  def f(self): pass\n")),
    (["p"], .folder)]⟩

/-- A pass over the small project. -/
def smallRequest : PassRequest := { root := ⟨.root, ["p"]⟩, currentYear := 2024 }

theorem smallProject_wellFormed : smallProject.WellFormed := by decide +kernel

theorem smallRequest_plain : smallRequest.root.IsPlain := by decide

set_option maxRecDepth 100000 in
/-- The pass over the small project yields one wrapper. -/
theorem smallRequest_run :
    ∃ result, (smallRequest.run smallProject).2.result = .ok result ∧
      result.wrappers.length = 1 := by
  have hone : (smallRequest.run smallProject).2.result.toOption.any
      (fun result => result.wrappers.length = 1) = true := by decide +kernel
  obtain ⟨result, hresult, hcount⟩ := (Option.any_eq_true _ _).mp hone
  exact ⟨result, Traced.eq_ok_of_toOption hresult, of_decide_eq_true hcount⟩

/-! ## A project with several declarations -/

/-- A project with settings of its own. Two modules mark a class `A`; the first one also marks a
class that is not abstract, the second one a class with a method that cannot be forwarded. A third
module marks one more type, and a folder with another one is left out. -/
def mixedProject : FileTree :=
  ⟨[(["p", ".instrumentgen.yml"], .file (Text.encode
      "output:\n  directory: out\n  suffix: _w.py\nexclude_paths: [old/]\nworkers: 2\n")),
    (["p", "a.py"], .file (Text.encode
      ("@Instrumentation\nclass A(ABC):\n  def f(self): pass\n" ++
        "@Instrumentation\nclass B(A): pass\n"))),
    (["p", "b.py"], .file (Text.encode
      ("@Instrumentation\nclass A(ABC):\n  def g(self): pass\n" ++
        "@Instrumentation\nclass C(ABC):\n  def h(self, *rest): pass\n"))),
    (["p", "old", "e.py"], .file (Text.encode "@Instrumentation\nclass E(ABC): pass\n")),
    (["p", "old"], .folder), (["p", "out"], .folder),
    (["p", "q.py"], .file (Text.encode "@Instrumentation\nclass D(ABC):\n  def f(self): pass\n")),
    (["p"], .folder)]⟩

/-- A pass over the mixed project by workers that take up the last task first. -/
def mixedRequest : PassRequest :=
  { root := ⟨.root, ["p"]⟩
    currentYear := 2024
    order := fun count => (List.range count).reverse
    order_complete := fun _ => List.reverse_perm _ }

def mixedSettings : Settings :=
  { root := mixedRequest.root
    workers := 2
    excludePaths := ["old/"]
    output := { directory := some ⟨.root, ["p", "out"]⟩, suffix := "_w.py" } }

def mixedRules : List IgnoreRule :=
  [⟨"old", true, false, false, false⟩, ⟨"out", true, true, false, false⟩]

/-- A class of the mixed project with the names of its methods; the last parameter of the method `h`
takes up all arguments that are left. -/
def mixedClass (name stem : String) (line : Nat) (isAbstract : Bool) (methods : List String) :
    IndexedClass :=
  { file := ⟨stem ++ ".py", some stem, "", ""⟩
    imports := []
    declaration := {
      name
      decorators := ["Instrumentation"]
      isAbstract
      origin := ⟨stem ++ ".py", line, 1⟩
      members := methods.map fun method => {
        kind := .method
        name := method
        type := none
        modifiers := ⟨true, true, false⟩
        origin := ⟨stem ++ ".py", line + 1, 3⟩
        parameters := some (if method = "h" then ⟨"(self, *rest)", some "self", [], some .variadic⟩
          else ⟨"(self)", some "self", [], none⟩)
        isAsync := false
        hasSetter := false } } }

/-- What a survey of the mixed project finds. -/
def mixedSurvey : Survey :=
  { settings := mixedSettings
    index := ⟨"Instrumentation", [mixedClass "A" "a" 2 true ["f"], mixedClass "B" "a" 5 false [],
      mixedClass "A" "b" 2 true ["g"], mixedClass "C" "b" 5 true ["h"],
      mixedClass "D" "q" 2 true ["f"]]⟩ }

theorem mixedProject_wellFormed : mixedProject.WellFormed := by decide

theorem mixedRequest_plain : mixedRequest.root.IsPlain := by decide

set_option maxRecDepth 100000 in
theorem mixedProject_load :
    Settings.load mixedProject mixedRequest.root = .ok mixedSettings := by
  decide +kernel

theorem mixedProject_rules :
    mixedProject.at? mixedRequest.root = some .folder ∧
      scanRules mixedProject mixedRequest.root mixedSettings.excludePaths
        mixedSettings.output.directory = .ok mixedRules := by
  decide

theorem mixedProject_modules :
    modulePaths mixedProject mixedRequest.root mixedRules "_w.py" = ["a.py", "b.py", "q.py"] := by
  have hnames : mixedProject.namesIn ["p"] =
      [".instrumentgen.yml", "a.py", "b.py", "old", "out", "q.py"] :=
    List.mergeSort_of_pairwise (by decide)
  unfold modulePaths filesBelow
  dsimp only [mixedRequest]
  rw [hnames]
  rfl

set_option maxRecDepth 100000 in
theorem mixedProject_classes :
    (["a.py", "b.py", "q.py"].map (SourceFile.ofPath mixedProject mixedRequest.root)).flatMap
      (SourceIndex.classesAt mixedProject mixedRequest.root) = mixedSurvey.index.classes := by
  decide +kernel

theorem mixedProject_survey :
    (Survey.ofTree mixedProject mixedRequest.root none).result = .ok mixedSurvey := by
  obtain ⟨hfolder, hrules⟩ := mixedProject_rules
  have hfound : (Survey.ofTree mixedProject mixedRequest.root none).result =
      .ok ⟨mixedSettings, mixedSettings.marker, (["a.py", "b.py", "q.py"].map
        (SourceFile.ofPath mixedProject mixedRequest.root)).flatMap
          (SourceIndex.classesAt mixedProject mixedRequest.root)⟩ :=
    Survey.ofTree_of_modules mixedRequest_plain mixedProject_load hfolder hrules
      mixedProject_modules
  rw [mixedProject_classes] at hfound
  exact hfound

theorem mixedSurvey_inOrder : mixedSurvey.index.InOrder := by
  unfold SourceIndex.InOrder
  decide

/-- The type that two modules of the mixed project declare. -/
def mixedType : LogicalType :=
  ⟨"A", "", "a", ⟨"a.py", 2, 1⟩,
    [(mixedClass "A" "a" 2 true ["f"]).fragment, (mixedClass "A" "b" 2 true ["g"]).fragment],
    true, true⟩

theorem mixedSurvey_resolve :
    mixedSurvey.index.resolve (mixedClass "A" "a" 2 true ["f"]).candidate = some mixedType := by
  unfold SourceIndex.resolve
  rw [mixedSurvey_inOrder.fragments_eq]
  rfl

/-- The declarations that the mixed project keeps, but for the first one. -/
def mixedOthers : List Candidate :=
  [mixedClass "B" "a" 5 false [], mixedClass "C" "b" 5 true ["h"],
    mixedClass "D" "q" 2 true ["f"]].map IndexedClass.candidate

/-- Of the two declarations of one type the first one is kept. -/
theorem mixedSurvey_selection :
    Selection.ofCandidates mixedSurvey.index mixedSurvey.index.candidates =
      ⟨(mixedClass "A" "a" 2 true ["f"]).candidate :: mixedOthers,
        [⟨.duplicate ⟨"", "A"⟩ ⟨"a.py", 2, 1⟩, ⟨"b.py", 2, 1⟩⟩]⟩ := by
  have hgroups : Selection.groups ((mixedSurvey.index.classes.filter fun c =>
      c.declaration.carries mixedSurvey.index.marker).map IndexedClass.candidate) =
        [(mixedClass "A" "a" 2 true ["f"]).candidate,
          (mixedClass "A" "b" 2 true ["g"]).candidate] :: mixedOthers.map fun c => [c] := by
    decide
  have hothers : (mixedOthers.map fun c => [c]).map (Selection.ofGroup mixedSurvey.index) =
      mixedOthers.map fun c => ⟨[c], []⟩ := by
    decide +kernel
  have hverdict : mixedSurvey.index.verdict (mixedClass "A" "a" 2 true ["f"]).candidate =
      .eligible := by
    unfold SourceIndex.verdict
    rw [mixedSurvey_resolve]
    rfl
  have hfirst : Selection.ofGroup mixedSurvey.index
      [(mixedClass "A" "a" 2 true ["f"]).candidate, (mixedClass "A" "b" 2 true ["g"]).candidate] =
        ⟨[(mixedClass "A" "a" 2 true ["f"]).candidate],
          [⟨.duplicate ⟨"", "A"⟩ ⟨"a.py", 2, 1⟩, ⟨"b.py", 2, 1⟩⟩]⟩ := by
    unfold Selection.ofGroup SourceIndex.keptPosition
    rw [List.findIdx?_cons, hverdict]
    rfl
  have hsorted : ((mixedClass "A" "a" 2 true ["f"]).candidate :: mixedOthers).mergeSort
      (fun a b => a.origin.upTo b.origin) =
        (mixedClass "A" "a" 2 true ["f"]).candidate :: mixedOthers :=
    List.mergeSort_of_pairwise (by decide)
  rw [mixedSurvey_inOrder.candidates_eq]
  unfold Selection.ofCandidates
  rw [hgroups, List.map_cons, hothers, hfirst]
  exact congrArg (fun kept => Selection.mk kept _) hsorted

/-- What the pass makes of the declarations that the mixed project keeps. -/
def mixedOutcomes : List Outcome :=
  let assembler := mixedRequest.assemblerFor mixedSettings
  ((assembler.assemble (some mixedType)).result.toOption.bind (·.2)).toList.map Outcome.wrapper ++
    mixedOthers.map (Outcome.reached mixedSurvey.index assembler)

/-- The plan of the pass over the mixed project. -/
def mixedPlan : PassPlan :=
  let placement := Placement.ofWrappers (mixedRequest.destination mixedSettings)
    (mixedOutcomes.filterMap Outcome.wrapper?)
  { placed := placement.placed
    findings := ⟨.duplicate ⟨"", "A"⟩ ⟨"a.py", 2, 1⟩, ⟨"b.py", 2, 1⟩⟩ ::
      (mixedOutcomes.filterMap Outcome.finding? ++ placement.findings) }

set_option maxRecDepth 100000 in
/-- The type has a wrapper, the wrappers are in the order of their file names, and the plan yields
them and the findings. -/
theorem mixedPlan_stages :
    (((mixedRequest.assemblerFor mixedSettings).assemble (some mixedType)).result.toOption.any
        fun made => made.2.isSome) = true ∧
      (mixedOutcomes.filterMap Outcome.wrapper?).Pairwise
        (fun v w => decide (v.fileName ≤ w.fileName) = true) ∧
      ((mixedRequest.carryOut mixedProject mixedPlan).2.result.toOption.any fun result =>
        result.wrappers.length = 2 ∧ result.findings.map (fun f => f.diagnostic.code) =
          ["duplicate", "not-abstract", "malformed-signature"] ∧ result.failed = true) = true := by
  decide +kernel

theorem mixedRequest_outcomesOf : mixedRequest.outcomesOf mixedSurvey = mixedOutcomes := by
  obtain ⟨hmade, -⟩ := mixedPlan_stages
  obtain ⟨⟨verdict, w?⟩, hmade, hsome⟩ := (Option.any_eq_true _ _).mp hmade
  obtain ⟨w, rfl⟩ := Option.isSome_iff_exists.mp hsome
  unfold PassRequest.outcomesOf PassRequest.keptOf mixedOutcomes
  rw [mixedSurvey_selection]
  dsimp only
  rw [hmade, List.map_cons, Outcome.reached, mixedSurvey_resolve]
  dsimp only [mixedSurvey]
  rw [Traced.eq_ok_of_toOption hmade]
  rfl

theorem mixedRequest_planOf : mixedRequest.planOf mixedSurvey = mixedPlan := by
  obtain ⟨-, hordered, -⟩ := mixedPlan_stages
  have hsorted : PassRequest.sortWrappers (mixedOutcomes.filterMap Outcome.wrapper?) =
      mixedOutcomes.filterMap Outcome.wrapper? := List.mergeSort_of_pairwise hordered
  unfold PassRequest.planOf PassRequest.placementOf
  rw [mixedRequest_outcomesOf, hsorted, mixedSurvey_selection]
  rfl

/-- The pass over the mixed project keeps four of five declarations. It writes two wrappers and
reports one declaration that is passed by, one that is not eligible and one that failed. -/
theorem mixedRequest_run :
    mixedSurvey.reports.length = 5 ∧ (PassRequest.keptOf mixedSurvey).length = 4 ∧
      ∃ result, (mixedRequest.run mixedProject).2.result = .ok result ∧
        result.wrappers.length = 2 ∧
          result.findings.map (fun f => f.diagnostic.code) =
            ["duplicate", "not-abstract", "malformed-signature"] ∧ result.failed = true := by
  obtain ⟨-, -, hcarried⟩ := mixedPlan_stages
  obtain ⟨result, hresult, hcount⟩ := (Option.any_eq_true _ _).mp hcarried
  refine ⟨?_, ?_, result, ?_, of_decide_eq_true hcount⟩
  · unfold Survey.reports
    rw [mixedSurvey_inOrder.candidates_eq, List.length_map]
    rfl
  · unfold PassRequest.keptOf
    rw [mixedSurvey_selection]
    rfl
  · rw [(PassRequest.run_of_quiet mixedProject_survey rfl).2, mixedRequest_planOf]
    exact Traced.eq_ok_of_toOption hresult

end SpanWeave
