import Mathlib.Data.List.DropRight
import SpanWeave.Text.Blank

/-!
# Trimmed texts

Trimming takes blanks from both ends of a text and nothing else. A text that neither starts nor ends
with a blank is kept as it is, so trimming again changes nothing, and nothing is left of a text if
and only if it has blanks only.
-/

set_option autoImplicit false

namespace SpanWeave.Text

theorem trim_of_not_blank {cs : List Char} (h : ∀ c ∈ cs, isBlank c = false) : trim cs = cs := by
  have hkeep : ∀ ds : List Char, (∀ c ∈ ds, isBlank c = false) → ds.dropWhile isBlank = ds := by
    intro ds hds
    cases ds with
    | nil => rfl
    | cons d ds => exact List.dropWhile_cons_of_neg (by simp [hds d List.mem_cons_self])
  unfold trim
  rw [hkeep cs h, hkeep _ fun c hc => h c (List.mem_reverse.mp hc), List.reverse_reverse]

/-- A text that starts and ends with other characters than blanks is kept as it is. -/
theorem trim_of_ends {first last : Char} {inner : List Char} (hfirst : isBlank first = false)
    (hlast : isBlank last = false) : trim (first :: inner ++ [last]) = first :: inner ++ [last] := by
  unfold trim
  rw [List.cons_append, List.dropWhile_cons_of_neg (by simp [hfirst]), ← List.cons_append,
    List.reverse_append, List.reverse_singleton, List.singleton_append,
    List.dropWhile_cons_of_neg (by simp [hlast]), List.reverse_cons, List.reverse_reverse]

theorem trim_trim (cs : List Char) : trim (trim cs) = trim cs := by
  have htrim : ∀ ds, trim ds = (ds.dropWhile isBlank).rdropWhile isBlank := fun _ => rfl
  -- nothing is dropped in front, since what is left begins as the text without its first blanks
  have hfront : (trim cs).dropWhile isBlank = trim cs := by
    rw [List.dropWhile_eq_self_iff]
    intro hpos
    obtain ⟨rest, hrest⟩ : trim cs <+: cs.dropWhile isBlank := List.rdropWhile_prefix _ _
    have hlong : 0 < (cs.dropWhile isBlank).length := by
      rw [← hrest, List.length_append]
      omega
    have hfirst := List.dropWhile_get_zero_not isBlank cs hlong
    simpa only [List.get_eq_getElem, ← hrest, List.getElem_append_left hpos] using hfirst
  rw [htrim (trim cs), hfront, htrim cs]
  exact List.rdropWhile_idempotent _ _

theorem toList_strip (s : String) : (strip s).toList = trim s.toList := String.toList_ofList

theorem strip_strip (s : String) : strip (strip s) = strip s := by
  rw [strip, toList_strip, trim_trim, strip]

/-- Trimming takes nothing from a text in front, and of what follows it at most an end. -/
theorem trim_append_of_ends {first last : Char} (inner rest : List Char)
    (hfirst : isBlank first = false) (hlast : isBlank last = false) :
    ∃ kept, kept <+: rest ∧
      trim (first :: inner ++ [last] ++ rest) = first :: inner ++ [last] ++ kept := by
  refine ⟨rest.rdropWhile isBlank, List.rdropWhile_prefix _ _, ?_⟩
  unfold trim List.rdropWhile
  rw [List.cons_append, List.cons_append, List.dropWhile_cons_of_neg (by simp [hfirst]),
    ← List.cons_append, ← List.cons_append, List.reverse_append, List.reverse_append,
    List.reverse_singleton, List.singleton_append, List.dropWhile_append]
  split
  · rename_i hblank
    rw [List.isEmpty_iff.mp hblank, List.dropWhile_cons_of_neg (by simp [hlast])]
    simp
  · simp

theorem strip_blank_append (s : String) : strip (" " ++ s) = strip s := by
  have hlist : (" " ++ s).toList = ' ' :: s.toList := by
    rw [String.toList_append]
    rfl
  unfold strip trim
  rw [hlist, List.dropWhile_cons_of_pos (by decide)]

theorem trim_subset (cs : List Char) : trim cs ⊆ cs := by
  have hfront : trim cs ⊆ cs.dropWhile isBlank := (List.rdropWhile_prefix _ _).subset
  exact List.Subset.trans hfront (List.dropWhile_suffix _).subset

theorem trim_eq_nil_iff {cs : List Char} : trim cs = [] ↔ ∀ c ∈ cs, isBlank c = true := by
  show (cs.dropWhile isBlank).rdropWhile isBlank = [] ↔ _
  rw [List.rdropWhile_eq_nil_iff]
  constructor
  · intro h c hc
    rw [← List.takeWhile_append_dropWhile (p := isBlank) (l := cs), List.mem_append] at hc
    rcases hc with hc | hc
    · exact List.mem_takeWhile_imp hc
    · exact h c hc
  · intro h c hc
    exact h c ((List.dropWhile_suffix _).subset hc)

theorem strip_eq_empty_iff {s : String} : strip s = "" ↔ isBlankText s = true := by
  unfold strip isBlankText
  rw [String.ofList_eq_empty_iff, trim_eq_nil_iff, List.all_eq_true]

theorem not_mem_strip {c : Char} {s : String} (h : c ∉ s.toList) : c ∉ (strip s).toList := by
  unfold strip
  rw [String.toList_ofList]
  exact fun hmem => h (trim_subset _ hmem)

end SpanWeave.Text
