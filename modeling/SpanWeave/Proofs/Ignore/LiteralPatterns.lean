import SpanWeave.Ignore.Rule
import SpanWeave.Proofs.Ignore.PatternTexts

/-!
# Patterns that stand for themselves

A pattern whose parts are all given characters fits its own text and no other one. This is so for
every text in which no character has a special meaning; a question mark, a star and a bracket that
opens a class do have one, and a pattern with one of them fits other texts or not even its own.
-/

set_option autoImplicit false

namespace SpanWeave.Glob

/-- Every part of the pattern is a given character. -/
def IsLiteral (pattern : String) : Prop := ∀ part ∈ ofText pattern, ∃ c, part = .literal c

variable {rounds : Nat} {cs : List Char} {pattern name : String}

theorem readParts_cons_of_ordinary {c : Char} (hstar : c ≠ '*') (hmark : c ≠ '?')
    (hbracket : c ≠ '[') : readParts (rounds + 1) (c :: cs) = .literal c :: readParts rounds cs := by
  rw [readParts] <;> simp_all

theorem classPart_ne_literal (inner : List Char) (c : Char) : classPart inner ≠ .literal c := by
  unfold classPart
  dsimp only
  split <;> simp

/-- Where all parts are given characters, they are all the characters. -/
theorem readParts_of_literal (hrounds : cs.length ≤ rounds)
    (h : ∀ part ∈ readParts rounds cs, ∃ c, part = .literal c) :
    readParts rounds cs = cs.map .literal := by
  induction cs generalizing rounds with
  | nil => cases rounds <;> rfl
  | cons c cs ih =>
    rw [List.length_cons] at hrounds
    obtain ⟨rounds, rfl⟩ : ∃ below, rounds = below + 1 := ⟨rounds - 1, by omega⟩
    have hrest : readParts (rounds + 1) (c :: cs) = .literal c :: readParts rounds cs →
        readParts (rounds + 1) (c :: cs) = (c :: cs).map .literal := by
      intro hread
      rw [hread] at h ⊢
      rw [List.map_cons, ih (by omega) fun part hpart => h part (List.mem_cons_of_mem _ hpart)]
    by_cases hstar : c = '*'
    · subst hstar
      simp [readParts] at h
    by_cases hmark : c = '?'
    · subst hmark
      simp [readParts] at h
    by_cases hbracket : c = '['
    · subst hbracket
      cases hclass : classText? cs with
      | some found =>
        obtain ⟨c, hc⟩ := h (classPart found.1) (by simp [readParts, hclass])
        exact absurd hc (classPart_ne_literal _ _)
      | none => exact hrest (by simp [readParts, hclass])
    · exact hrest (readParts_cons_of_ordinary hstar hmark hbracket)

theorem isLiteral_iff : IsLiteral pattern ↔ ofText pattern = pattern.toList.map .literal := by
  refine ⟨readParts_of_literal (Nat.le_of_eq String.length_toList), ?_⟩
  intro h part hpart
  rw [h] at hpart
  obtain ⟨c, -, rfl⟩ := List.mem_map.mp hpart
  exact ⟨c, rfl⟩

instance : Decidable (IsLiteral pattern) := decidable_of_iff _ isLiteral_iff.symm

theorem readParts_of_ordinary (hrounds : cs.length ≤ rounds)
    (h : ∀ c ∈ cs, c ≠ '*' ∧ c ≠ '?' ∧ c ≠ '[') : readParts rounds cs = cs.map .literal := by
  induction cs generalizing rounds with
  | nil => cases rounds <;> rfl
  | cons c cs ih =>
    rw [List.length_cons] at hrounds
    obtain ⟨rounds, rfl⟩ : ∃ below, rounds = below + 1 := ⟨rounds - 1, by omega⟩
    obtain ⟨⟨hstar, hmark, hbracket⟩, hrest⟩ := List.forall_mem_cons.mp h
    rw [readParts_cons_of_ordinary hstar hmark hbracket, ih (by omega) hrest, List.map_cons]

/-- A text without a star, a question mark and an opening bracket is literal. -/
theorem isLiteral_of_ordinary (h : ∀ c ∈ pattern.toList, c ≠ '*' ∧ c ≠ '?' ∧ c ≠ '[') :
    IsLiteral pattern :=
  isLiteral_iff.mpr (readParts_of_ordinary (Nat.le_of_eq String.length_toList) h)

example : ¬ IsLiteral "out[1]" ∧ IsLiteral "out[1" := by decide +kernel

/-- Characters that fit given ones are these. -/
theorem fits_literal_iff {ds : List Char} : Fits (cs.map .literal) ds ↔ ds = cs := by
  induction cs generalizing ds with
  | nil => exact fits_nil_iff
  | cons c cs ih =>
    rw [List.map_cons, fits_one_iff (by simp)]
    constructor
    · rintro ⟨d, rest, rfl, hfirst, hrest⟩
      have hsame : d = c := by simpa [fitsOne] using hfirst
      rw [hsame, ih.mp hrest]
    · rintro rfl
      exact ⟨c, cs, rfl, by simp [fitsOne], ih.mpr rfl⟩

/-- A literal pattern fits its own text only. -/
theorem matchesName_of_isLiteral (h : IsLiteral pattern) :
    matchesName pattern name = true ↔ name = pattern := by
  rw [matchesName_iff, isLiteral_iff.mp h, fits_literal_iff, String.toList_inj]

end SpanWeave.Glob
