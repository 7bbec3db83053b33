import SpanWeave.Proofs.Text.Trimming
import SpanWeave.Text.Identifier

/-!
# Identifiers among blanks and marks

No character of an identifier is a blank or a mark. So trimming keeps an identifier as it is, and
a text is never cut inside of an identifier.
-/

set_option autoImplicit false

namespace SpanWeave.Text

variable {s : String} {c : Char}

/-- A character that neither opens an identifier nor goes on in one is in none. -/
theorem not_mem_of_isIdentifier (hstart : isIdentifierStart c = false)
    (hcontinue : isIdentifierContinue c = false) (h : isIdentifier s = true) : c ∉ s.toList := by
  unfold isIdentifier at h
  intro hmem
  cases hs : s.toList with
  | nil =>
    rw [hs] at hmem
    cases hmem
  | cons first rest =>
    rw [hs, isIdentifierChars, Bool.and_eq_true, List.all_eq_true] at h
    rw [hs] at hmem
    rcases List.mem_cons.mp hmem with rfl | hmem
    · rw [hstart] at h
      cases h.1
    · have hall := h.2 c hmem
      rw [hcontinue] at hall
      cases hall

theorem ne_empty_of_isIdentifier (h : isIdentifier s = true) : s ≠ "" := by
  rintro rfl
  cases h

/-! ## Blanks -/

/-- The ranges of blanks above ASCII. -/
def wideBlanks : List (Nat × Nat) :=
  [(0x85, 0x85), (0xA0, 0xA0), (0x1680, 0x1680), (0x2000, 0x200A), (0x2028, 0x2029),
    (0x202F, 0x202F), (0x205F, 0x205F), (0x3000, 0x3000)]

/-- A blank is among the first ASCII characters or lies above ASCII. -/
theorem isBlank_cases (h : isBlank c = true) :
    c.toNat ≤ 32 ∨ ∃ b ∈ wideBlanks, b.1 ≤ c.toNat ∧ c.toNat ≤ b.2 := by
  simp only [isBlank, Bool.or_eq_true, Bool.and_eq_true, decide_eq_true_eq, beq_iff_eq] at h
  by_cases hascii : c.toNat ≤ 32
  · exact Or.inl hascii
  · right
    simp only [wideBlanks, List.mem_cons, List.not_mem_nil, or_false, exists_eq_or_imp,
      exists_eq_left]
    omega

/-- The identifier characters above ASCII leave gaps for the blanks there. -/
theorem inRanges_of_wideBlank {n : Nat} {b : Nat × Nat} (hb : b ∈ wideBlanks) (hlow : b.1 ≤ n)
    (hhigh : n ≤ b.2) :
    inRanges identifierStartRanges n = false ∧ inRanges identifierContinueRanges n = false := by
  have hgaps : wideBlanks.all (fun b =>
      (identifierStartRanges.toList ++ identifierContinueRanges.toList).all fun r =>
        Nat.blt b.2 r.1 || Nat.blt r.2 b.1) = true := by decide +kernel
  have hgap := List.all_eq_true.mp (List.all_eq_true.mp hgaps b hb)
  have hout : ∀ ranges : Array (Nat × Nat),
      (∀ r ∈ ranges.toList, (Nat.blt b.2 r.1 || Nat.blt r.2 b.1) = true) →
        inRanges ranges n = false := by
    intro ranges hall
    unfold inRanges
    rw [← Array.any_toList, List.any_eq_false]
    intro r hr
    have hr := hall r hr
    simp only [Bool.or_eq_true, Nat.blt_eq, Bool.and_eq_true, decide_eq_true_eq] at hr ⊢
    omega
  exact ⟨hout _ fun r hr => hgap r (List.mem_append_left _ hr),
    hout _ fun r hr => hgap r (List.mem_append_right _ hr)⟩

/-- A blank neither opens an identifier nor goes on in one. -/
theorem isIdentifier_chars_of_isBlank (h : isBlank c = true) :
    isIdentifierStart c = false ∧ isIdentifierContinue c = false := by
  rcases isBlank_cases h with hascii | ⟨b, hb, hlow, hhigh⟩
  · have hforeign : ∀ n < 33, isIdentifierStart (Char.ofNat n) = false ∧
        isIdentifierContinue (Char.ofNat n) = false := by decide +kernel
    have hc := hforeign c.toNat (by omega)
    rw [Char.ofNat_toNat] at hc
    exact hc
  · have hwide : ∀ b ∈ wideBlanks, 128 ≤ b.1 := by decide
    have hlarge : ¬ c.toNat < 128 := by
      have hbound := hwide b hb
      omega
    unfold isIdentifierStart isIdentifierContinue
    rw [if_neg hlarge, if_neg hlarge]
    exact inRanges_of_wideBlank hb hlow hhigh

theorem not_isBlank_of_isIdentifier (h : isIdentifier s = true) :
    ∀ c ∈ s.toList, isBlank c = false := by
  intro c hc
  cases hblank : isBlank c with
  | false => rfl
  | true =>
    obtain ⟨hstart, hcontinue⟩ := isIdentifier_chars_of_isBlank hblank
    exact absurd hc (not_mem_of_isIdentifier hstart hcontinue h)

theorem strip_of_isIdentifier (h : isIdentifier s = true) : strip s = s := by
  unfold strip
  rw [trim_of_not_blank (not_isBlank_of_isIdentifier h), String.ofList_toList]

end SpanWeave.Text
