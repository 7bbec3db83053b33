import Mathlib.Data.List.Infix
import SpanWeave.Ignore.Glob

/-!
# The texts that a pattern fits

A text fits a pattern if it can be cut into pieces, one for each part of the pattern: a run takes a
piece of any length, and every other part takes one character. The matcher does not try the cuts one
by one. It keeps all ends of the text that can still be left, the longest first, so that the ends
that a run leaves are those of the longest one.
-/

set_option autoImplicit false

namespace SpanWeave

/-- A part of a pattern that can take a character. -/
def GlobPart.Takes (part : GlobPart) (c : Char) : Prop := part = .run ∨ Glob.fitsOne c part = true

instance (part : GlobPart) (c : Char) : Decidable (part.Takes c) :=
  inferInstanceAs (Decidable (_ ∨ _))

namespace Glob

/-- Characters that are cut into one piece for each part. -/
inductive Fits : List GlobPart → List Char → Prop
  | nil : Fits [] []
  | run {parts : List GlobPart} {rest : List Char} (piece : List Char) (more : Fits parts rest) :
    Fits (.run :: parts) (piece ++ rest)
  | one {part : GlobPart} {parts : List GlobPart} {c : Char} {rest : List Char}
    (first : fitsOne c part = true) (more : Fits parts rest) : Fits (part :: parts) (c :: rest)

variable {part : GlobPart} {parts : List GlobPart} {cs ds : List Char} {c : Char}

theorem fits_nil_iff : Fits [] cs ↔ cs = [] := by
  constructor
  · rintro ⟨⟩
    rfl
  · rintro rfl
    exact .nil

theorem fits_run_iff : Fits (.run :: parts) cs ↔ ∃ rest, rest <:+ cs ∧ Fits parts rest := by
  constructor
  · intro h
    cases h with
    | run piece more => exact ⟨_, ⟨piece, rfl⟩, more⟩
    | one first => cases first
  · rintro ⟨rest, ⟨piece, rfl⟩, more⟩
    exact .run piece more

theorem fits_one_iff (h : part ≠ .run) :
    Fits (part :: parts) cs ↔ ∃ c rest, cs = c :: rest ∧ fitsOne c part = true ∧ Fits parts rest := by
  constructor
  · intro hfits
    cases hfits with
    | run => exact absurd rfl h
    | one first more => exact ⟨_, _, rfl, first, more⟩
  · rintro ⟨c, rest, rfl, first, more⟩
    exact .one first more

/-! ## The ends that are left -/

/-- Ends of one text, the longest first. -/
def Descends (left : List (List Char)) : Prop := left.Pairwise fun longer shorter => shorter <:+ longer

theorem mem_tails : ds ∈ tails cs ↔ ds <:+ cs := by
  induction cs with
  | nil => simp [tails]
  | cons c cs ih => rw [tails, List.mem_cons, ih, List.suffix_cons_iff]

theorem descends_tails (cs : List Char) : Descends (tails cs) := by
  induction cs with
  | nil => exact List.pairwise_singleton _ _
  | cons c cs ih =>
    refine List.pairwise_cons.mpr ⟨?_, ih⟩
    intro ds hds
    exact (mem_tails.mp hds).trans (List.suffix_cons c cs)

theorem leftAfter_of_ne_run (h : part ≠ .run) (left : List (List Char)) :
    leftAfter left part = left.filterMap fun
      | [] => none
      | c :: cs => if fitsOne c part then some cs else none := by
  cases part with
  | run => exact absurd rfl h
  | one => rfl
  | literal => rfl
  | charClass => rfl

theorem mem_leftAfter_of_ne_run (h : part ≠ .run) {left : List (List Char)} :
    ds ∈ leftAfter left part ↔ ∃ c, c :: ds ∈ left ∧ fitsOne c part = true := by
  rw [leftAfter_of_ne_run h, List.mem_filterMap]
  constructor
  · rintro ⟨cs, hcs, hsome⟩
    cases cs with
    | nil => cases hsome
    | cons c cs =>
      obtain ⟨hfits, rfl⟩ : fitsOne c part = true ∧ cs = ds := by simpa using hsome
      exact ⟨c, hcs, hfits⟩
  · rintro ⟨c, hmem, hfits⟩
    exact ⟨c :: ds, hmem, by simp [hfits]⟩

/-- The ends that are left after one more part descend again. -/
theorem descends_leftAfter {left : List (List Char)} (h : Descends left) (part : GlobPart) :
    Descends (leftAfter left part) := by
  by_cases hrun : part = .run
  · subst hrun
    cases left with
    | nil => exact List.Pairwise.nil
    | cons longest left => exact descends_tails longest
  · rw [leftAfter_of_ne_run hrun]
    refine List.Pairwise.filterMap _ ?_ h
    intro longer shorter hends cs hcs ds hds
    cases longer with
    | nil => cases hcs
    | cons c longer =>
      cases shorter with
      | nil => cases hds
      | cons d shorter =>
        obtain rfl : longer = cs := by simpa using (Option.ite_none_right_eq_some.mp hcs).2
        obtain rfl : shorter = ds := by simpa using (Option.ite_none_right_eq_some.mp hds).2
        rcases List.suffix_cons_iff.mp hends with hsame | hinside
        · rw [(List.cons.inj hsame).2]
        · exact (List.suffix_cons d shorter).trans hinside

/-- What is left after one more part can take the other parts exactly if what was left before can
take them all. -/
theorem exists_leftAfter_iff {left : List (List Char)} (h : Descends left) :
    (∃ cs ∈ leftAfter left part, Fits parts cs) ↔ ∃ cs ∈ left, Fits (part :: parts) cs := by
  by_cases hrun : part = .run
  · subst hrun
    simp only [fits_run_iff]
    cases left with
    | nil => simp [leftAfter]
    | cons longest left =>
      obtain ⟨hlongest, -⟩ := List.pairwise_cons.mp h
      constructor
      · rintro ⟨rest, hrest, hfits⟩
        exact ⟨longest, List.mem_cons_self, rest, mem_tails.mp hrest, hfits⟩
      · rintro ⟨cs, hcs, rest, hrest, hfits⟩
        refine ⟨rest, mem_tails.mpr (hrest.trans ?_), hfits⟩
        rcases List.mem_cons.mp hcs with rfl | hcs
        · exact List.suffix_refl _
        · exact hlongest cs hcs
  · simp only [mem_leftAfter_of_ne_run hrun, fits_one_iff hrun]
    constructor
    · rintro ⟨rest, ⟨c, hmem, hfirst⟩, hfits⟩
      exact ⟨c :: rest, hmem, c, rest, rfl, hfirst, hfits⟩
    · rintro ⟨_, hmem, c, rest, rfl, hfirst, hfits⟩
      exact ⟨rest, ⟨c, hmem, hfirst⟩, hfits⟩

theorem any_isEmpty_foldl_leftAfter {left : List (List Char)} (h : Descends left) :
    (parts.foldl leftAfter left).any List.isEmpty = true ↔ ∃ cs ∈ left, Fits parts cs := by
  induction parts generalizing left with
  | nil => simp [fits_nil_iff]
  | cons part parts ih => rw [List.foldl_cons, ih (descends_leftAfter h part), exists_leftAfter_iff h]

/-- The matcher accepts the texts that can be cut into pieces for the parts, and no other ones. -/
theorem fits_iff : fits parts cs = true ↔ Fits parts cs := by
  unfold fits
  rw [any_isEmpty_foldl_leftAfter (List.pairwise_singleton _ _)]
  simp

theorem matchesName_iff {pattern name : String} :
    matchesName pattern name = true ↔ Fits (ofText pattern) name.toList := fits_iff

/-! ## Characters in the texts that a pattern fits -/

/-- Every character of a text that fits is taken by a part, and every part can take something. -/
theorem Fits.takes (h : Fits parts cs) :
    (∀ c ∈ cs, ∃ part ∈ parts, part.Takes c) ∧ ∀ part ∈ parts, ∃ c, part.Takes c := by
  induction h with
  | nil => exact ⟨by simp, by simp⟩
  | @run parts rest piece more ih =>
    obtain ⟨htaken, hable⟩ := ih
    constructor
    · intro c hc
      rcases List.mem_append.mp hc with _ | hc
      · exact ⟨.run, List.mem_cons_self, Or.inl rfl⟩
      · obtain ⟨part, hpart, htakes⟩ := htaken c hc
        exact ⟨part, List.mem_cons_of_mem _ hpart, htakes⟩
    · exact List.forall_mem_cons.mpr ⟨⟨'/', Or.inl rfl⟩, hable⟩
  | @one part parts c rest first more ih =>
    obtain ⟨htaken, hable⟩ := ih
    constructor
    · refine List.forall_mem_cons.mpr ⟨⟨part, List.mem_cons_self, Or.inr first⟩, ?_⟩
      intro d hd
      obtain ⟨other, hother, htakes⟩ := htaken d hd
      exact ⟨other, List.mem_cons_of_mem _ hother, htakes⟩
    · exact List.forall_mem_cons.mpr ⟨⟨c, Or.inr first⟩, hable⟩

/-- A character that a part can take goes in front of what the other parts take. -/
theorem Fits.cons (htakes : part.Takes c) (h : Fits parts cs) : Fits (part :: parts) (c :: cs) := by
  rcases htakes with rfl | hfits
  · exact .run [c] h
  · exact .one hfits h

theorem exists_fits (h : ∀ part ∈ parts, ∃ c, part.Takes c) : ∃ cs, Fits parts cs := by
  induction parts with
  | nil => exact ⟨[], .nil⟩
  | cons part parts ih =>
    obtain ⟨⟨c, hc⟩, hrest⟩ := List.forall_mem_cons.mp h
    obtain ⟨cs, hcs⟩ := ih hrest
    exact ⟨c :: cs, hcs.cons hc⟩

/-- A pattern fits a text with a given character exactly if one of its parts can take the character
and all of them can take something. -/
theorem exists_fits_mem_iff :
    (∃ cs, Fits parts cs ∧ c ∈ cs) ↔
      (∃ part ∈ parts, part.Takes c) ∧ ∀ part ∈ parts, ∃ d, part.Takes d := by
  constructor
  · rintro ⟨cs, hfits, hc⟩
    exact ⟨hfits.takes.1 c hc, hfits.takes.2⟩
  · rintro ⟨⟨part, hpart, htakes⟩, hable⟩
    obtain ⟨before, after, rfl⟩ := List.append_of_mem hpart
    clear hpart
    induction before with
    | nil =>
      obtain ⟨cs, hcs⟩ := exists_fits (List.forall_mem_cons.mp hable).2
      exact ⟨c :: cs, hcs.cons htakes, List.mem_cons_self⟩
    | cons other before ih =>
      obtain ⟨⟨d, hd⟩, hrest⟩ := List.forall_mem_cons.mp hable
      obtain ⟨cs, hcs, hc⟩ := ih hrest
      exact ⟨d :: cs, hcs.cons hd, List.mem_cons_of_mem _ hc⟩

end Glob

end SpanWeave
