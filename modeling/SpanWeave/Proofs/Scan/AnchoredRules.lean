import Mathlib.Data.List.DropRight
import Mathlib.Data.List.Permutation
import SpanWeave.Proofs.Ignore.PatternTexts
import SpanWeave.Proofs.Scan.ListedModules
import SpanWeave.Proofs.Text.IdentifierNames

/-!
# Rules that stay at the top

A leading slash in front of a pattern without other slashes anchors the pattern: its rule is meant
for what lies directly in the root. The rule compares whole paths with the pattern, and no part of a
pattern knows of slashes. So the rule stays at the top as long as no part of the pattern can take a
slash; with a star in it the rule is about files further down as well. A rule that stays at the top
takes no module away from a folder that it is not about.
-/

set_option autoImplicit false

namespace SpanWeave

open SpanWeave.Path (joined)
open IgnoreRule (LeaveOut)

/-! ## The rule of an anchored pattern -/

namespace IgnoreRule

/-- A rule that is about nothing below a folder of the root. -/
def StaysAtTop (r : IgnoreRule) : Prop :=
  ∀ path isFolder, r.covers path isFolder = true → '/' ∉ path.toList

/-- The rule that a pattern makes behind a leading slash. -/
structure IsAnchoredAt (r : IgnoreRule) (p : String) (negated : Bool) : Prop where
  rule : r = ⟨r.pattern, false, true, negated, false⟩
  pattern : "/" ++ r.pattern = Text.strip ("/" ++ p)
  nonempty : r.pattern ≠ ""

/-- Trimming takes from an anchored pattern only blanks at its end. -/
theorem trim_anchored {cs : List Char} (h : cs.all Text.isBlank = false) :
    Text.trim ('/' :: cs) = '/' :: cs.rdropWhile Text.isBlank := by
  have hkept : (cs.reverse.dropWhile Text.isBlank).isEmpty = false := by
    rw [List.isEmpty_eq_false_iff, Ne, List.dropWhile_eq_nil_iff]
    intro hall
    rw [List.all_eq_false] at h
    obtain ⟨c, hc, hfull⟩ := h
    exact hfull (hall c (List.mem_reverse.mpr hc))
  unfold Text.trim List.rdropWhile
  rw [List.dropWhile_cons_of_neg (by decide), List.reverse_cons, List.dropWhile_append, hkept]
  simp

theorem exists_isAnchoredAt {p : String} (hp : Text.isBlankText p = false)
    (hslash : '/' ∉ p.toList) (negated : Bool) :
    ∃ r, ofPattern? ("/" ++ p) negated = some r ∧ r.IsAnchoredAt p negated := by
  have hlist : ("/" ++ p).toList = '/' :: p.toList := by
    rw [String.toList_append]
    rfl
  have htrim := trim_anchored hp
  generalize hcs : p.toList.rdropWhile Text.isBlank = cs at htrim
  have hne : cs ≠ [] := by
    rw [← hcs, Ne, List.rdropWhile_eq_nil_iff]
    intro hall
    unfold Text.isBlankText at hp
    rw [List.all_eq_true.mpr hall] at hp
    cases hp
  have hplain : '/' ∉ cs := by
    rw [← hcs]
    exact fun hmem => hslash ((List.rdropWhile_prefix _ _).subset hmem)
  have hlast : ('/' :: cs).getLast? ≠ some '/' := by
    intro hlast
    rw [List.getLast?_cons_of_ne_nil hne] at hlast
    exact hplain (List.mem_of_getLast? hlast)
  refine ⟨⟨String.ofList cs, false, true, negated, false⟩, ?_, ?_⟩
  · unfold ofPattern?
    rw [hlist, htrim]
    simp [hlast, hplain]
  · refine ⟨rfl, ?_, by simpa using hne⟩
    unfold Text.strip
    rw [hlist, htrim]
    apply String.toList_inj.mp
    simp

/-- Blanks at the ends of a pattern do not count. -/
theorem ofPattern?_trim (p : String) (negated : Bool) :
    ofPattern? (String.ofList (Text.trim p.toList)) negated = ofPattern? p negated := by
  unfold ofPattern?
  rw [String.toList_ofList, Text.trim_trim]

/-- A line of an ignore file with an anchored pattern makes the rule of the pattern. -/
theorem ofLine?_anchored {p : String} (hp : Text.isBlankText p = false) :
    ofLine? ("/" ++ p) = ofPattern? ("/" ++ p) false := by
  have htrim : Text.trim ("/" ++ p).toList = '/' :: p.toList.rdropWhile Text.isBlank := by
    rw [String.toList_append]
    exact trim_anchored hp
  rw [← ofPattern?_trim]
  unfold ofLine?
  rw [htrim]
  rfl

namespace IsAnchoredAt

variable {r : IgnoreRule} {p : String} {negated : Bool}

/-- The rule is about the paths that the pattern fits as a whole. -/
theorem covers_iff (h : r.IsAnchoredAt p negated) (path : String) (isFolder : Bool) :
    r.covers path isFolder = true ↔ Glob.Fits (Glob.ofText r.pattern) path.toList := by
  rw [← Glob.matchesName_iff]
  unfold covers
  rw [if_neg h.nonempty, h.rule]
  simp

/-- The rule stays at the top exactly if no part of the pattern can take a slash, or if the pattern
fits no text at all. -/
theorem staysAtTop_iff (h : r.IsAnchoredAt p negated) :
    r.StaysAtTop ↔ (∀ part ∈ Glob.ofText r.pattern, ¬ part.Takes '/') ∨
      ∃ part ∈ Glob.ofText r.pattern, ∀ c, ¬ part.Takes c := by
  have hfits : r.StaysAtTop ↔ ¬ ∃ cs, Glob.Fits (Glob.ofText r.pattern) cs ∧ '/' ∈ cs := by
    unfold StaysAtTop
    simp only [h.covers_iff]
    constructor
    · rintro hstays ⟨cs, hcs, hslash⟩
      exact hstays (String.ofList cs) false (by simpa using hcs) (by simpa using hslash)
    · intro hnone path _ hpath hslash
      exact hnone ⟨path.toList, hpath, hslash⟩
  rw [hfits, Glob.exists_fits_mem_iff, not_and_or]
  push Not
  rfl

end IsAnchoredAt

/-! ## One rule less -/

/-- A rule decides nothing about a path that it is not about. -/
theorem leaveOut_append_cons {r : IgnoreRule} {path : String} {isFolder : Bool}
    (h : r.covers path isFolder = false) (before after : List IgnoreRule) :
    LeaveOut (before ++ r :: after) path isFolder ↔ LeaveOut (before ++ after) path isFolder := by
  rw [← ignores_iff, ← ignores_iff]
  unfold ignores
  rw [List.foldl_append, List.foldl_append, List.foldl_cons, h]
  rfl

end IgnoreRule

/-- Names that are more than one are joined with a slash. -/
theorem slash_mem_joined {names others : List String} (hnames : names ≠ []) (hothers : others ≠ []) :
    '/' ∈ (joined (names ++ others)).toList := by
  rw [Path.joined_append hnames hothers]
  simp

variable {t : FileTree} {rules others before after : List IgnoreRule} {place : Place}
  {folders : List String} {folder name : String} {r : IgnoreRule}

/-- A file in a folder is reached under other rules that say the same of the folder and of all paths
below it. -/
theorem IsReached.of_leaveOut (h : IsReached t rules place [] (folder :: folders) name)
    (htop : ¬ LeaveOut rules folder true → ¬ LeaveOut others folder true)
    (hbelow : ∀ path isFolder, '/' ∈ path.toList → ¬ LeaveOut rules path isFolder →
      ¬ LeaveOut others path isFolder) :
    IsReached t others place [] (folder :: folders) name := by
  refine ⟨h.file, ?_, ?_⟩
  · intro outer inside inner hsplit
    obtain ⟨htool, hkept⟩ := h.enters outer inside inner hsplit
    refine ⟨htool, ?_⟩
    cases outer with
    | nil =>
      obtain ⟨rfl, -⟩ := List.cons.inj hsplit
      rw [List.append_nil, List.nil_append, Path.joined_singleton] at hkept ⊢
      exact htop hkept
    | cons first outer =>
      exact hbelow _ _ (slash_mem_joined (by simp) (by simp)) hkept
  · exact hbelow _ _ (slash_mem_joined (by simp) (by simp)) h.kept

/-- A rule that stays at the top decides nothing about the files in a folder that it is not about. -/
theorem isReached_append_cons (hstays : r.StaysAtTop) (hfolder : r.covers folder true = false) :
    IsReached t (before ++ r :: after) place [] (folder :: folders) name ↔
      IsReached t (before ++ after) place [] (folder :: folders) name := by
  have hbelow : ∀ path isFolder, '/' ∈ path.toList →
      (LeaveOut (before ++ r :: after) path isFolder ↔ LeaveOut (before ++ after) path isFolder) := by
    intro path isFolder hslash
    apply IgnoreRule.leaveOut_append_cons
    rw [Bool.eq_false_iff]
    exact fun hcovers => hstays path isFolder hcovers hslash
  have htop := IgnoreRule.leaveOut_append_cons hfolder before after
  constructor
  · intro h
    exact h.of_leaveOut (fun hkept => htop.not.mp hkept)
      fun path isFolder hslash hkept => (hbelow path isFolder hslash).not.mp hkept
  · intro h
    exact h.of_leaveOut (fun hkept => htop.not.mpr hkept)
      fun path isFolder hslash hkept => (hbelow path isFolder hslash).not.mpr hkept

theorem mem_modulePaths_append_cons (ht : t.WellFormed) (root : Path) (suffix : String)
    (hstays : r.StaysAtTop) {path : String} {inner : List String}
    (hpath : (Path.ofText path).names = folder :: inner) (hinner : inner ≠ [])
    (hfolder : r.covers folder true = false) :
    path ∈ modulePaths t root (before ++ r :: after) suffix ↔
      path ∈ modulePaths t root (before ++ after) suffix := by
  rw [mem_modulePaths_iff ht, mem_modulePaths_iff ht]
  -- the first folder on the way is the one at the top of the path
  have hway : ∀ {rules folders name}, path = joined (folders ++ [name]) →
      IsReached t rules root.names [] folders name → ∃ rest, folders = folder :: rest := by
    intro rules folders name hsame hreached
    rw [hsame, Path.ofText_joined (hreached.named ht)] at hpath
    cases folders with
    | nil =>
      obtain ⟨-, rfl⟩ := List.cons.inj hpath
      exact absurd rfl hinner
    | cons first rest =>
      obtain ⟨rfl, -⟩ := List.cons.inj hpath
      exact ⟨rest, rfl⟩
  constructor
  · rintro ⟨folders, name, hsame, hreached, hmodule⟩
    obtain ⟨rest, rfl⟩ := hway hsame hreached
    exact ⟨_, name, hsame, (isReached_append_cons hstays hfolder).mp hreached, hmodule⟩
  · rintro ⟨folders, name, hsame, hreached, hmodule⟩
    obtain ⟨rest, rfl⟩ := hway hsame hreached
    exact ⟨_, name, hsame, (isReached_append_cons hstays hfolder).mpr hreached, hmodule⟩

/-- A pattern without slashes makes a rule behind a leading slash, as a line of an ignore file and
as an excluded path. The rule is about the paths that the pattern fits as a whole. It is only about
what lies directly in the root exactly if no part of the pattern can take a slash, or if the pattern
fits no text at all. In that case it takes no module away from a folder of the root that it is not
about: the scan lists such a module exactly if it does so without the rule. -/
theorem anchored_rule_stays_at_top (p : String) (hp : Text.isBlankText p = false)
    (hslash : '/' ∉ p.toList) (negated : Bool) :
    IgnoreRule.ofLine? ("/" ++ p) = IgnoreRule.ofPattern? ("/" ++ p) false ∧
      ∃ r, IgnoreRule.ofPattern? ("/" ++ p) negated = some r ∧ r.negated = negated ∧
        "/" ++ r.pattern = Text.strip ("/" ++ p) ∧
        (∀ path isFolder, r.covers path isFolder = true ↔
          Glob.Fits (Glob.ofText r.pattern) path.toList) ∧
        ((∀ path isFolder, r.covers path isFolder = true → '/' ∉ path.toList) ↔
          (∀ part ∈ Glob.ofText r.pattern, ¬ part.Takes '/') ∨
            ∃ part ∈ Glob.ofText r.pattern, ∀ c, ¬ part.Takes c) ∧
        ((∀ path isFolder, r.covers path isFolder = true → '/' ∉ path.toList) →
          ∀ (tree : FileTree) (root : Path) (asked : String) (excludePaths : List String)
            (output : Option Path) (suffix : String) (manifest : Manifest)
            (before after : List IgnoreRule), tree.WellFormed →
            scanTree tree root asked excludePaths output suffix = .ok manifest →
            scanRules tree root excludePaths output = .ok (before ++ r :: after) →
            ∀ path top inner, (Path.ofText path).names = top :: inner → inner ≠ [] →
              r.covers top true = false →
              (path ∈ manifest.files.map SourceFile.path ↔
                path ∈ modulePaths tree root (before ++ after) suffix)) := by
  obtain ⟨r, hr, hanchored⟩ := IgnoreRule.exists_isAnchoredAt hp hslash negated
  refine ⟨IgnoreRule.ofLine?_anchored hp, r, hr, ?_, hanchored.pattern, hanchored.covers_iff,
    hanchored.staysAtTop_iff, ?_⟩
  · rw [hanchored.rule]
  · intro hstays tree root asked excludePaths output suffix manifest before after htree hscan hrules
      path top inner hpath hinner htop
    obtain ⟨-, rules, hsame, rfl⟩ := scanTree_eq_ok.mp hscan
    rw [hrules, Except.ok.injEq] at hsame
    subst hsame
    dsimp only
    rw [SourceFile.map_path_ofPath]
    exact mem_modulePaths_append_cons htree root suffix hstays hpath hinner htop

/-- A project with the given ignore file and two modules of one name, one of them in a folder. -/
def anchoredProject (ignoreFile : List UInt8) : FileTree :=
  ⟨[(["p", ".gitignore"], .file ignoreFile), (["p", "b1.py"], .file []),
    (["p", "sub", "b1.py"], .file []), (["p", "sub"], .folder), (["p"], .folder)]⟩

theorem anchoredProject_modules (ignoreFile : List UInt8) :
    modulePaths (anchoredProject ignoreFile) ⟨.root, ["p"]⟩ [] "_g.py" = ["b1.py", "sub/b1.py"] := by
  cbv

theorem anchoredProject_scan {ignoreFile : List UInt8} {rules : List IgnoreRule}
    (hrules : scanRules (anchoredProject ignoreFile) ⟨.root, ["p"]⟩ [] none = .ok rules) :
    ∃ manifest, scanTree (anchoredProject ignoreFile) ⟨.root, ["p"]⟩ "/p" [] none "_g.py" =
        .ok manifest ∧ manifest.files.map SourceFile.path =
          modulePaths (anchoredProject ignoreFile) ⟨.root, ["p"]⟩ rules "_g.py" :=
  ⟨_, scanTree_eq_ok.mpr ⟨rfl, rules, hrules, rfl⟩, SourceFile.map_path_ofPath _ _ _⟩

set_option maxRecDepth 100000 in
/-- A class of digits cannot take a slash, so the rule with it leaves the module in the folder in. -/
theorem anchored_rule_stays_at_top_digits :
    Text.isBlankText "b[0-9].py" = false ∧ '/' ∉ "b[0-9].py".toList ∧
      ∃ r manifest, IgnoreRule.ofPattern? "/b[0-9].py" false = some r ∧
        (∀ path isFolder, r.covers path isFolder = true → '/' ∉ path.toList) ∧
        scanRules (anchoredProject (Text.encode "/b[0-9].py\n")) ⟨.root, ["p"]⟩ [] none = .ok [r] ∧
        scanTree (anchoredProject (Text.encode "/b[0-9].py\n")) ⟨.root, ["p"]⟩ "/p" [] none "_g.py" =
          .ok manifest ∧
        r.covers "b1.py" false = true ∧ "sub/b1.py" ∈ manifest.files.map SourceFile.path := by
  have hp : Text.isBlankText "b[0-9].py" = false := by decide
  have hslash : '/' ∉ "b[0-9].py".toList := by decide
  obtain ⟨-, r, hr, -, -, -, hstays, hlists⟩ :=
    anchored_rule_stays_at_top "b[0-9].py" hp hslash false
  have hrule : IgnoreRule.ofPattern? "/b[0-9].py" false =
      some ⟨"b[0-9].py", false, true, false, false⟩ := by decide +kernel
  cases hr.symm.trans hrule
  have hrules : scanRules (anchoredProject (Text.encode "/b[0-9].py\n")) ⟨.root, ["p"]⟩ [] none =
      .ok [⟨"b[0-9].py", false, true, false, false⟩] := by decide +kernel
  obtain ⟨manifest, hscan, -⟩ := anchoredProject_scan hrules
  have htop := hstays.mpr (Or.inl (by decide +kernel))
  have hlisted := hlists htop _ _ _ _ _ _ manifest [] [] (by decide +kernel) hscan hrules
    "sub/b1.py" "sub" ["b1.py"] (by decide +kernel) (by simp) (by decide +kernel)
  rw [List.append_nil, anchoredProject_modules] at hlisted
  exact ⟨hp, hslash, _, manifest, hrule, htop, hrules, hscan, by decide +kernel,
    hlisted.mpr (by simp)⟩

set_option maxRecDepth 100000 in
/-- A star takes slashes as well, so the rule with it takes away a module from a folder that it is
not about. -/
theorem anchored_star_reaches_down :
    Text.isBlankText "*.py" = false ∧ '/' ∉ "*.py".toList ∧
      (anchoredProject (Text.encode "/*.py\n")).WellFormed ∧
      ∃ r manifest, IgnoreRule.ofPattern? "/*.py" false = some r ∧
        r.covers "sub/b1.py" false = true ∧ '/' ∈ "sub/b1.py".toList ∧
        r.covers "sub" true = false ∧
        scanRules (anchoredProject (Text.encode "/*.py\n")) ⟨.root, ["p"]⟩ [] none = .ok [r] ∧
        scanTree (anchoredProject (Text.encode "/*.py\n")) ⟨.root, ["p"]⟩ "/p" [] none "_g.py" =
          .ok manifest ∧
        "sub/b1.py" ∉ manifest.files.map SourceFile.path ∧
        "sub/b1.py" ∈ modulePaths (anchoredProject (Text.encode "/*.py\n")) ⟨.root, ["p"]⟩ []
          "_g.py" := by
  have hrules : scanRules (anchoredProject (Text.encode "/*.py\n")) ⟨.root, ["p"]⟩ [] none =
      .ok [⟨"*.py", false, true, false, false⟩] := by decide +kernel
  have hleft : LeaveOut [⟨"*.py", false, true, false, false⟩] "sub/b1.py" false := by decide +kernel
  have htree : (anchoredProject (Text.encode "/*.py\n")).WellFormed := by decide +kernel
  obtain ⟨manifest, hscan, hpaths⟩ := anchoredProject_scan hrules
  refine ⟨by decide, by decide, htree, ⟨"*.py", false, true, false, false⟩, manifest,
    by decide +kernel, by decide +kernel, by decide, by decide +kernel, hrules, hscan, ?_, ?_⟩
  · rw [hpaths, mem_modulePaths_iff htree]
    rintro ⟨folders, name, hpath, hreached, -⟩
    have hkept := hreached.kept
    rw [List.nil_append, ← hpath] at hkept
    exact hkept hleft
  · rw [anchoredProject_modules]
    simp

end SpanWeave
