import SpanWeave.Proofs.Files.TreeView
import SpanWeave.Proofs.Ignore.WrittenRules
import SpanWeave.Scan

/-!
# Where the rules of a scan come from

The rules of a scan are those that the lines of the ignore file write, then those that the excluded
paths write, and last one about the output directory, if it lies below the root. Each of the three is
said here by what is written where, and a scan gathers exactly these rules in this order.
-/

set_option autoImplicit false

namespace SpanWeave

open SpanWeave.Path (joined)
open IgnoreRule (TextsWrite LineWrites PatternWrites)

/-- What the ignore file of a tree writes, if there is one. -/
inductive FileWrites (t : FileTree) (root : Path) : List IgnoreRule → Prop
  | absent (h : t.at? (root.below ".gitignore") = none) : FileWrites t root []
  | lines {content : List UInt8} {text : String} {rules : List IgnoreRule}
    (hfile : t.at? (root.below ".gitignore") = some (.file content))
    (htext : Text.decode content = .ok text)
    (hlines : TextsWrite LineWrites
      (Text.lines (String.ofList (Text.foldLineEnds text.toList))) rules) :
    FileWrites t root rules

/-- What an output directory writes. Below the root it is a pattern of the names that lead to it,
between slashes. -/
inductive OutputWrites (root : Path) : Option Path → List IgnoreRule → Prop
  | unset : OutputWrites root none []
  | elsewhere {directory : Path}
    (h : ∀ names, names ≠ [] → Path.resolve root directory ≠ ⟨root.anchor, root.names ++ names⟩) :
    OutputWrites root (some directory) []
  | below {directory : Path} {names : List String} {r : IgnoreRule} (hne : names ≠ [])
    (h : Path.resolve root directory = ⟨root.anchor, root.names ++ names⟩)
    (hr : PatternWrites false ("/" ++ joined names ++ "/") (some r)) :
    OutputWrites root (some directory) [r]

variable {t : FileTree} {root : Path} {rules : List IgnoreRule}

theorem fileWrites_iff : FileWrites t root rules ↔ ignoreFileRules t root = .ok rules := by
  unfold ignoreFileRules FileTree.holds
  dsimp only
  constructor
  · intro h
    cases h with
    | absent h => rw [h, if_neg (by simp)]
    | lines hfile htext hlines =>
      rw [hfile, if_pos (by simp), FileTree.read_eq_ok.mpr hfile]
      dsimp only
      rw [htext]
      exact congrArg Except.ok (IgnoreRule.linesWrite_iff.mp hlines).symm
  · intro h
    split at h
    · cases hread : t.read (root.below ".gitignore") with
      | error e =>
        rw [hread] at h
        cases h
      | ok content =>
        rw [hread] at h
        dsimp only at h
        split at h
        · cases h
        · rename_i text htext
          cases h
          exact .lines (FileTree.read_eq_ok.mp hread) htext (IgnoreRule.linesWrite_iff.mpr rfl)
    · rename_i hnone
      cases h
      exact .absent (by simpa using hnone)

/-- Names between slashes write a rule. -/
theorem exists_patternWrites_between (names : String) :
    ∃ r, PatternWrites false ("/" ++ names ++ "/") (some r) := by
  cases hpattern : IgnoreRule.ofPattern? ("/" ++ names ++ "/") false with
  | some r => exact ⟨r, IgnoreRule.patternWrites_iff.mpr hpattern⟩
  | none =>
    obtain ⟨hblank⟩ := IgnoreRule.patternWrites_iff.mpr hpattern
    unfold Text.isBlankText at hblank
    rw [String.toList_append, String.toList_append, List.all_append, List.all_append] at hblank
    simp [Text.isBlank] at hblank

theorem outputWrites_iff {output : Option Path} :
    OutputWrites root output rules ↔ rules = (outputRule? root output).toList := by
  cases output with
  | none =>
    constructor
    · rintro ⟨⟩
      rfl
    · rintro rfl
      exact .unset
  | some directory =>
    have hnone : (∀ names, names ≠ [] → Path.resolve root directory ≠
        ⟨root.anchor, root.names ++ names⟩) → outputRule? root (some directory) = none := by
      intro h
      unfold outputRule?
      simp only [Option.bind_eq_bind, Option.bind_some]
      cases hnames : (Path.resolve root directory).relativeTo? root with
      | none => rfl
      | some names =>
        by_cases hne : names = []
        · simp [hne]
        · exact absurd (Path.relativeTo?_eq_some_iff.mp hnames) (h names hne)
    have hsome : ∀ {names}, names ≠ [] →
        Path.resolve root directory = ⟨root.anchor, root.names ++ names⟩ →
        outputRule? root (some directory) =
          IgnoreRule.ofPattern? ("/" ++ joined names ++ "/") false := by
      intro names hne h
      unfold outputRule?
      simp only [Option.bind_eq_bind, Option.bind_some, Path.relativeTo?_eq_some_iff.mpr h]
      rw [if_neg (by simpa using hne)]
      rfl
    constructor
    · intro h
      cases h with
      | elsewhere h => rw [hnone h, Option.toList_none]
      | below hne h hr =>
        rw [hsome hne h, IgnoreRule.patternWrites_iff.mp hr, Option.toList_some]
    · rintro rfl
      by_cases hbelow : ∃ names, names ≠ [] ∧
          Path.resolve root directory = ⟨root.anchor, root.names ++ names⟩
      · obtain ⟨names, hne, h⟩ := hbelow
        obtain ⟨r, hr⟩ := exists_patternWrites_between (joined names)
        rw [hsome hne h, IgnoreRule.patternWrites_iff.mp hr, Option.toList_some]
        exact .below hne h hr
      · have helse : ∀ names, names ≠ [] →
            Path.resolve root directory ≠ ⟨root.anchor, root.names ++ names⟩ :=
          fun names hne h => hbelow ⟨names, hne, h⟩
        rw [hnone helse, Option.toList_none]
        exact .elsewhere helse

/-- A scan has the rules of the ignore file, then those of the excluded paths, then that of the output
directory. -/
theorem scanRules_eq_ok_iff {excludePaths : List String} {output : Option Path} :
    scanRules t root excludePaths output = .ok rules ↔
      ∃ fileRules excludeRules outputRules, FileWrites t root fileRules ∧
        TextsWrite (PatternWrites false) excludePaths excludeRules ∧
        OutputWrites root output outputRules ∧ rules = fileRules ++ excludeRules ++ outputRules := by
  simp only [fileWrites_iff, IgnoreRule.patternsWrite_iff, outputWrites_iff]
  unfold scanRules
  cases ignoreFileRules t root with
  | error e =>
    constructor
    · intro h
      cases h
    · rintro ⟨_, _, _, h, -⟩
      cases h
  | ok fileRules =>
    constructor
    · intro h
      cases h
      exact ⟨_, _, _, rfl, rfl, rfl, rfl⟩
    · rintro ⟨_, _, _, h, rfl, rfl, rfl⟩
      cases h
      rfl

end SpanWeave
