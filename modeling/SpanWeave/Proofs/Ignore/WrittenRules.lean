import Mathlib.Data.List.Forall2
import Mathlib.Data.List.ReduceOption
import SpanWeave.Proofs.Ignore.DecidingRule
import SpanWeave.Proofs.Ignore.PatternTexts
import SpanWeave.Proofs.Text.Parts
import SpanWeave.Proofs.Text.Trimming

/-!
# Rules as they are written

Every text that is not blank writes one rule. Slashes at its ends are not part of the pattern: one
in front says that the rule is about whole paths, and one behind that it is about folders only. On a
line of an ignore file a rule may be taken back by an exclamation mark, and remarks write none. Of
the rules that match a path the last one says whether the path is ignored.
-/

set_option autoImplicit false

namespace SpanWeave.IgnoreRule

/-! ## Patterns and lines -/

/-- A rule that says what a text does. Without a slash in front the pattern begins with another
character, and without one behind the text ends with another one. -/
structure IsWrittenAs (r : IgnoreRule) (text : String) : Prop where
  not_blank : Text.isBlankText text = false
  spelled : Text.strip text =
    (if r.anchored then "/" else "") ++ r.pattern ++ (if r.directoryOnly then "/" else "")
  not_anchored : r.anchored = false → ∀ rest, r.pattern ≠ "/" ++ rest
  not_directoryOnly : r.directoryOnly = false → ∀ front, Text.strip text ≠ front ++ "/"
  hasSlash_iff : r.hasSlash = true ↔ '/' ∈ r.pattern.toList

/-- What a pattern writes: a rule that keeps or does not keep what it matches, unless it is blank. -/
inductive PatternWrites (negated : Bool) (text : String) : Option IgnoreRule → Prop
  | blank (h : Text.isBlankText text = true) : PatternWrites negated text none
  | rule {r : IgnoreRule} (h : r.IsWrittenAs text) (hnegated : r.negated = negated) :
    PatternWrites negated text (some r)

/-- What a line of an ignore file writes. -/
inductive LineWrites (line : String) : Option IgnoreRule → Prop
  | remark {rest : String} (h : Text.strip line = "#" ++ rest) : LineWrites line none
  | keeping {rest : String} {r? : Option IgnoreRule} (h : Text.strip line = "!" ++ rest)
    (hrest : PatternWrites true rest r?) : LineWrites line r?
  | pattern {r? : Option IgnoreRule} (hremark : ∀ rest, Text.strip line ≠ "#" ++ rest)
    (hkeeping : ∀ rest, Text.strip line ≠ "!" ++ rest) (h : PatternWrites false line r?) :
    LineWrites line r?

/-- The rules that texts write one after the other. -/
def TextsWrite (Writes : String → Option IgnoreRule → Prop) (texts : List String)
    (rules : List IgnoreRule) : Prop :=
  ∃ written, List.Forall₂ Writes texts written ∧ rules = written.reduceOption

variable {r : IgnoreRule} {text line path : String} {negated isFolder : Bool}
  {rules : List IgnoreRule}

/-! ## Slashes at the ends -/

theorem getLast?_eq_slash_iff {cs : List Char} : cs.getLast? = some '/' ↔ ['/'] <:+ cs := by
  rw [List.getLast?_eq_some_iff]
  exact exists_congr fun front => eq_comm

theorem head?_eq_slash_iff {cs : List Char} : cs.head? = some '/' ↔ ['/'] <+: cs := by
  rw [List.head?_eq_some_iff]
  exact exists_congr fun rest => eq_comm

/-- What stands before a slash at the end, or everything if there is none. -/
theorem slash_behind_iff {cs rest : List Char} {slash : Bool} :
    cs = rest ++ (if slash then ['/'] else []) ∧ (slash = false → ¬ ['/'] <:+ cs) ↔
      slash = (cs.getLast? == some '/') ∧ rest = if slash then cs.dropLast else cs := by
  constructor
  · rintro ⟨rfl, hnone⟩
    cases slash with
    | false =>
      have hlast : ¬ rest.getLast? = some '/' := by
        simpa [getLast?_eq_slash_iff] using hnone rfl
      simp [hlast]
    | true => simp
  · rintro ⟨hslash, rfl⟩
    cases slash with
    | false => simpa [getLast?_eq_slash_iff] using hslash
    | true =>
      obtain ⟨front, rfl⟩ := getLast?_eq_slash_iff.mp (beq_iff_eq.mp hslash.symm)
      simp

/-- What stands behind a slash in front, or everything if there is none. -/
theorem slash_in_front_iff {cs rest : List Char} {slash : Bool} :
    cs = (if slash then ['/'] else []) ++ rest ∧ (slash = false → ¬ ['/'] <+: rest) ↔
      slash = (cs.head? == some '/') ∧ rest = if slash then cs.tail else cs := by
  constructor
  · rintro ⟨rfl, hnone⟩
    cases slash with
    | false =>
      have hhead : ¬ rest.head? = some '/' := by
        simpa [head?_eq_slash_iff] using hnone rfl
      simp [hhead]
    | true => simp
  · rintro ⟨hslash, rfl⟩
    cases slash with
    | false => simpa [head?_eq_slash_iff] using hslash
    | true =>
      obtain ⟨rest, rfl⟩ := head?_eq_slash_iff.mp (beq_iff_eq.mp hslash.symm)
      simp

theorem prefix_toList_iff {s lead : String} : lead.toList <+: s.toList ↔ ∃ rest, s = lead ++ rest := by
  rw [← List.isPrefixOf_iff_prefix]
  exact Text.startsWith_iff

theorem suffix_toList_iff {s tail : String} : tail.toList <:+ s.toList ↔ ∃ front, s = front ++ tail := by
  rw [← List.reverse_prefix, ← List.isPrefixOf_iff_prefix]
  exact Text.endsWith_iff

/-- What is written, said of characters. -/
theorem isWrittenAs_iff :
    r.IsWrittenAs text ↔ Text.trim text.toList ≠ [] ∧
      ∃ cs, (Text.trim text.toList = cs ++ (if r.directoryOnly then ['/'] else []) ∧
          (r.directoryOnly = false → ¬ ['/'] <:+ Text.trim text.toList)) ∧
        (cs = (if r.anchored then ['/'] else []) ++ r.pattern.toList ∧
          (r.anchored = false → ¬ ['/'] <+: r.pattern.toList)) ∧
        r.hasSlash = r.pattern.toList.contains '/' := by
  have hslash : ∀ slash : Bool,
      (if slash then "/" else "").toList = if slash then ['/'] else [] := by
    intro slash
    cases slash <;> rfl
  have hspelled : Text.strip text = (if r.anchored then "/" else "") ++ r.pattern ++
        (if r.directoryOnly then "/" else "") ↔
      Text.trim text.toList = (if r.anchored then ['/'] else []) ++ r.pattern.toList ++
        (if r.directoryOnly then ['/'] else []) := by
    rw [← String.toList_inj, Text.toList_strip, String.toList_append, String.toList_append, hslash,
      hslash]
  have hfront : (∀ rest, r.pattern ≠ "/" ++ rest) ↔ ¬ ['/'] <+: r.pattern.toList := by
    rw [← not_exists]
    exact not_congr prefix_toList_iff.symm
  have hbehind : (∀ front, Text.strip text ≠ front ++ "/") ↔ ¬ ['/'] <:+ Text.trim text.toList := by
    rw [← not_exists, ← Text.toList_strip]
    exact not_congr suffix_toList_iff.symm
  have hblank : Text.isBlankText text = false ↔ Text.trim text.toList ≠ [] := by
    rw [← Bool.not_eq_true, ← Text.strip_eq_empty_iff, Text.strip, String.ofList_eq_empty_iff]
  have hin : (r.hasSlash = true ↔ '/' ∈ r.pattern.toList) ↔
      r.hasSlash = r.pattern.toList.contains '/' := by
    rw [← List.contains_iff_mem, ← Bool.eq_iff_iff]
  constructor
  · intro h
    exact ⟨hblank.mp h.not_blank, _, ⟨hspelled.mp h.spelled,
      fun hr => hbehind.mp (h.not_directoryOnly hr)⟩, ⟨rfl, fun hr => hfront.mp (h.not_anchored hr)⟩,
      hin.mp h.hasSlash_iff⟩
  · rintro ⟨hne, _, ⟨htrim, hfolders⟩, ⟨rfl, hanchored⟩, hcontains⟩
    exact ⟨hblank.mpr hne, hspelled.mpr htrim, fun hr => hfront.mpr (hanchored hr),
      fun hr => hbehind.mpr (hfolders hr), hin.mpr hcontains⟩

theorem ofPattern?_eq_some_iff :
    ofPattern? text negated = some r ↔ r.IsWrittenAs text ∧ r.negated = negated := by
  rw [isWrittenAs_iff]
  simp only [slash_behind_iff, slash_in_front_iff]
  unfold ofPattern?
  generalize Text.trim text.toList = cs
  obtain ⟨pattern, directoryOnly, anchored, keeps, hasSlash⟩ := r
  dsimp only
  split
  · rename_i hempty
    simp [List.isEmpty_iff.mp hempty]
  · rename_i hempty
    rw [List.isEmpty_iff] at hempty
    constructor
    · rintro ⟨⟩
      simp [hempty]
    · rintro ⟨⟨-, inner, ⟨hfolders, hinner⟩, ⟨hanchored, hpattern⟩, hcontains⟩, rfl⟩
      rw [← hfolders, ← hinner, ← hanchored, ← hpattern, ← hcontains, String.ofList_toList]

theorem patternWrites_iff {r? : Option IgnoreRule} :
    PatternWrites negated text r? ↔ ofPattern? text negated = r? := by
  cases r? with
  | none =>
    have hnone : ofPattern? text negated = none ↔ Text.isBlankText text = true := by
      rw [← Text.strip_eq_empty_iff, Text.strip, String.ofList_eq_empty_iff]
      unfold ofPattern?
      simp
    rw [hnone]
    constructor
    · rintro ⟨h⟩
      exact h
    · exact .blank
  | some r =>
    rw [ofPattern?_eq_some_iff]
    constructor
    · rintro (_ | ⟨h, hnegated⟩)
      exact ⟨h, hnegated⟩
    · rintro ⟨h, hnegated⟩
      exact .rule h hnegated

/-- A line reads as a remark, or behind an exclamation mark, or as a pattern. -/
theorem ofLine?_eq (line : String) :
    (∀ rest, Text.strip line = "#" ++ rest → ofLine? line = none) ∧
      (∀ rest, Text.strip line = "!" ++ rest → ofLine? line = ofPattern? rest true) ∧
      ((∀ rest, Text.strip line ≠ "#" ++ rest) → (∀ rest, Text.strip line ≠ "!" ++ rest) →
        ofLine? line = ofPattern? line false) := by
  unfold ofLine?
  rw [← Text.toList_strip]
  refine ⟨?_, ?_, ?_⟩
  · intro rest h
    rw [h, String.toList_append]
    rfl
  · intro rest h
    rw [h, String.toList_append]
    show ofPattern? (String.ofList rest.toList) true = _
    rw [String.ofList_toList]
  · intro hremark hkeeping
    have hfirst : ∀ {c : Char} {cs : List Char}, (Text.strip line).toList = c :: cs →
        Text.strip line = String.singleton c ++ String.ofList cs := by
      intro c cs h
      apply String.toList_inj.mp
      rw [h, String.toList_append, String.toList_singleton, String.toList_ofList]
      rfl
    have hsame : ofPattern? (String.ofList (Text.strip line).toList) false =
        ofPattern? line false := by
      rw [String.ofList_toList]
      unfold ofPattern?
      rw [Text.toList_strip, Text.trim_trim]
    split
    · rename_i hnil
      rw [← hsame, hnil]
      rfl
    · rename_i cs hcs
      exact absurd (hfirst hcs) (hremark _)
    · rename_i cs hcs
      exact absurd (hfirst hcs) (hkeeping _)
    · exact hsame

theorem lineWrites_iff {r? : Option IgnoreRule} : LineWrites line r? ↔ ofLine? line = r? := by
  obtain ⟨hremark, hkeeping, hpattern⟩ := ofLine?_eq line
  constructor
  · intro h
    cases h with
    | remark h => exact hremark _ h
    | keeping h hrest => exact (hkeeping _ h).trans (patternWrites_iff.mp hrest)
    | pattern hr hk h => exact (hpattern hr hk).trans (patternWrites_iff.mp h)
  · rintro rfl
    by_cases hr : ∃ rest, Text.strip line = "#" ++ rest
    · obtain ⟨rest, h⟩ := hr
      rw [hremark rest h]
      exact .remark h
    by_cases hk : ∃ rest, Text.strip line = "!" ++ rest
    · obtain ⟨rest, h⟩ := hk
      rw [hkeeping rest h]
      exact .keeping h (patternWrites_iff.mpr rfl)
    · have hr' := not_exists.mp hr
      have hk' := not_exists.mp hk
      rw [hpattern hr' hk']
      exact .pattern hr' hk' (patternWrites_iff.mpr rfl)

/-- Where a reader gives what each text writes, it gives the rules of texts. -/
theorem textsWrite_iff {Writes : String → Option IgnoreRule → Prop} {f : String → Option IgnoreRule}
    (hwrites : ∀ text r?, Writes text r? ↔ f text = r?) {texts : List String} :
    TextsWrite Writes texts rules ↔ rules = texts.filterMap f := by
  have hsame : Writes = fun text r? => f text = r? := by
    funext text r?
    exact propext (hwrites text r?)
  have hmap : ∀ written, List.Forall₂ Writes texts written ↔ written = texts.map f := by
    intro written
    rw [hsame, ← List.forall₂_map_left_iff (R := Eq), List.forall₂_eq_eq_eq]
    exact eq_comm
  have hkept : (texts.map f).reduceOption = texts.filterMap f := by
    rw [List.reduceOption, List.filterMap_map]
    rfl
  unfold TextsWrite
  simp only [hmap, exists_eq_left, hkept]

theorem linesWrite_iff :
    TextsWrite LineWrites (Text.lines (String.ofList (Text.foldLineEnds text.toList))) rules ↔
      rules = ofFileText text := by
  unfold ofFileText
  exact textsWrite_iff fun line r? => @lineWrites_iff line r?

theorem patternsWrite_iff {patterns : List String} :
    TextsWrite (PatternWrites false) patterns rules ↔ rules = ofPatterns patterns := by
  unfold ofPatterns
  exact textsWrite_iff fun pattern r? => @patternWrites_iff pattern false r?

/-! ## Matching -/

/-- A rule that matches a path. A rule about folders matches no file. A rule about whole paths that is
about folders also matches what lies below. A rule about names matches if one of the names on the path
fits. -/
structure Matches (r : IgnoreRule) (path : String) (isFolder : Bool) : Prop where
  not_empty : r.pattern ≠ ""
  folder : r.directoryOnly = true → isFolder = true
  fits : if r.anchored = true ∨ r.hasSlash = true then
      Glob.Fits (Glob.ofText r.pattern) path.toList ∨
        r.directoryOnly = true ∧ ∃ below, path = r.pattern ++ "/" ++ below
    else ∃ name ∈ Text.parts '/' path, Glob.Fits (Glob.ofText r.pattern) name.toList

theorem covers_iff_matches : r.covers path isFolder = true ↔ r.Matches path isFolder := by
  unfold covers
  constructor
  · intro h
    split at h
    · cases h
    rename_i hpattern
    split at h
    · cases h
    rename_i hfolder
    refine ⟨hpattern, by simpa using hfolder, ?_⟩
    split at h
    · rename_i hwhole
      rw [if_pos (by simpa using hwhole)]
      simpa [Glob.matchesName_iff, Text.startsWith_iff] using h
    · rename_i hwhole
      rw [if_neg (by simpa using hwhole)]
      simpa [Glob.matchesName_iff] using h
  · rintro ⟨hpattern, hfolder, hfits⟩
    rw [if_neg hpattern, if_neg (by simpa using hfolder)]
    split
    · rename_i hwhole
      rw [if_pos (by simpa using hwhole)] at hfits
      simpa [Glob.matchesName_iff, Text.startsWith_iff] using hfits
    · rename_i hwhole
      rw [if_neg (by simpa using hwhole)] at hfits
      simpa [Glob.matchesName_iff] using hfits

/-- Rules ignore a path if the last one that matches it does not keep it. -/
def IsIgnored (rules : List IgnoreRule) (path : String) (isFolder : Bool) : Prop :=
  ∃ before r after, rules = before ++ r :: after ∧ r.Matches path isFolder ∧ r.negated = false ∧
    ∀ later ∈ after, ¬ later.Matches path isFolder

theorem isIgnored_iff : IsIgnored rules path isFolder ↔ LeaveOut rules path isFolder := by
  unfold IsIgnored LeaveOut
  constructor
  · rintro ⟨before, r, after, rfl, hmatches, hkeeps, hlater⟩
    refine ⟨r, List.find?_eq_some_iff_append.mpr ⟨covers_iff_matches.mpr hmatches, after.reverse,
      before.reverse, by simp, ?_⟩, hkeeps⟩
    intro later hmem
    have hnot := hlater later (List.mem_reverse.mp hmem)
    rwa [← covers_iff_matches, Bool.not_eq_true, ← Bool.not_eq_true'] at hnot
  · rintro ⟨r, hfind, hkeeps⟩
    obtain ⟨hcovers, after, before, hsplit, hlater⟩ := List.find?_eq_some_iff_append.mp hfind
    have hrules : rules = before.reverse ++ r :: after.reverse := by
      simpa using congrArg List.reverse hsplit
    refine ⟨before.reverse, r, after.reverse, hrules, covers_iff_matches.mp hcovers, hkeeps, ?_⟩
    intro later hmem
    have hnot := hlater later (List.mem_reverse.mp hmem)
    rwa [Bool.not_eq_true', ← Bool.not_eq_true, covers_iff_matches] at hnot

instance : Decidable (IsIgnored rules path isFolder) := decidable_of_iff _ isIgnored_iff.symm

end SpanWeave.IgnoreRule
