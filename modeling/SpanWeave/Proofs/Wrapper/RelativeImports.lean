import SpanWeave.Proofs.Source.TokenTexts
import SpanWeave.Proofs.Wrapper.MergedImports

/-!
# Relative imports of a wrapper

An import is relative if there are dots behind its first word, whatever layout stands between the
word and the dots. It is taken for one by the beginning of its text alone, so it marks the wrapper
that it is written in if one blank stands before the dots, and goes unnoticed otherwise.
-/

set_option autoImplicit false

namespace SpanWeave

namespace ImportDirective

/-- The tokens of a directive. -/
def tokens (d : ImportDirective) : List Source.Token :=
  Source.tokens (d.text.toList.map Text.Glyph.char)

/-- Whether a directive imports from a module relative to its own: there are dots behind the word
`from`. -/
def namesRelatively (d : ImportDirective) : Bool :=
  match d.tokens with
  | word :: dots :: _ => word.symbol.lexeme == .name "from" &&
      (dots.symbol.lexeme == .mark "." || dots.symbol.lexeme == .mark "...")
  | _ => false

/-- Whether a directive begins with a token that one blank sets apart from the next one. -/
def isPlainlySpaced (d : ImportDirective) : Bool :=
  match d.tokens with
  | first :: next :: _ => first.lead == [] && next.lead == [.blank (.char ' ')]
  | _ => false

/-- The text of a relative import: the layout before its word, the word, the layout before the dots,
and the dots. -/
theorem toList_of_namesRelatively {d : ImportDirective} (h : d.namesRelatively = true) :
    ∃ word dots others rest, d.tokens = word :: dots :: others ∧
      (∀ l ∈ word.lead, l.Proper) ∧ (∀ l ∈ dots.lead, l.Proper) ∧
        d.text.toList = (word.lead.flatMap Source.Layout.glyphs).map Source.look ++
          ("from".toList ++
            ((dots.lead.flatMap Source.Layout.glyphs).map Source.look ++ '.' :: rest)) := by
  have hlook := Source.look_char d.text.toList
  unfold namesRelatively at h
  split at h
  · rename_i word dots others htokens
    simp only [Bool.and_eq_true, Bool.or_eq_true, beq_iff_eq] at h
    obtain ⟨hword, hdots⟩ := h
    obtain ⟨mark, hmark, more, hmore⟩ : ∃ mark, dots.symbol.lexeme.Spells mark ∧
        ∃ more, mark.toList = '.' :: more := by
      rcases hdots with hdots | hdots
      · exact ⟨".", hdots ▸ .mark _, [], rfl⟩
      · exact ⟨"...", hdots ▸ .mark _, ['.', '.'], rfl⟩
    obtain ⟨hproper, rest, htext, _, _, _, hothers⟩ :=
      Source.look_of_readTokens htokens (s := "from") (hword ▸ .name _)
    obtain ⟨hproper', rest', hrest, -⟩ := Source.look_of_readTokens hothers.symm hmark
    rw [hlook, hrest, hmore] at htext
    exact ⟨word, dots, others, _, htokens, hproper, hproper', htext⟩
  · cases h

/-- The text of a relative import shows that it is one if one blank stands before its dots, and only
then. -/
theorem isRelative_iff_isPlainlySpaced {d : ImportDirective} (h : d.namesRelatively = true) :
    d.isRelative = true ↔ d.isPlainlySpaced = true := by
  obtain ⟨word, dots, others, rest, htokens, hword, hdots, htext⟩ := toList_of_namesRelatively h
  unfold isRelative isPlainlySpaced Text.startsWith
  rw [htokens]
  simp only [Bool.and_eq_true, beq_iff_eq]
  constructor
  · intro hprefix
    obtain ⟨tail, htail⟩ := List.isPrefixOf_iff_prefix.mp hprefix
    rw [← htail] at htext
    obtain ⟨hnone, hrest⟩ := Source.lead_eq_nil hword (by decide) (by decide) (by decide) htext.symm
    have hgap : (dots.lead.flatMap Source.Layout.glyphs).map Source.look ++ '.' :: rest =
        ' ' :: '.' :: tail := by
      have hword : "from".toList ++ _ = "from".toList ++ ' ' :: '.' :: tail := hrest
      exact List.append_cancel_left hword
    refine ⟨hnone, ?_⟩
    obtain ⟨-, hdot⟩ | ⟨g, more, hlead, hg, -, hmore⟩ | hmark | hslash :=
      Source.lead_cases hdots hgap
    · cases hdot
    · have hproper : ∀ l ∈ more, l.Proper := fun l hl =>
        hdots l (by rw [hlead]; exact List.mem_cons_of_mem _ hl)
      obtain ⟨hend, -⟩ := Source.lead_eq_nil hproper (by decide) (by decide) (by decide) hmore
      have hblank : g = .char ' ' := by
        cases g with
        | char c => exact congrArg Text.Glyph.char hg
        | stray b => cases hg
      rw [hlead, hend, hblank]
    · cases hmark
    · cases hslash
  · rintro ⟨hnone, hblank⟩
    rw [htext, hnone, hblank]
    rfl

example : namesRelatively ⟨"from \\\n.jobs import Job"⟩ = true ∧
    isRelative ⟨"from \\\n.jobs import Job"⟩ = false := by
  decide +kernel

end ImportDirective

/-! ## The imports of a wrapper -/

namespace Assembler

variable {a : Assembler} {t : LogicalType} {w : WrapperModule} {imports : List ImportDirective}

/-- A wrapper of a type and the imports that are written in it. -/
def Writes (a : Assembler) (t : LogicalType) (w : WrapperModule) (imports : List ImportDirective) :
    Prop :=
  ∃ members node, t.collect.result = .ok members ∧ a.parts t members = .ok node ∧
    w = a.moduleOf t members node ∧ node.imports = imports.map ImportDirective.text

/-- Every wrapper of a type has its imports. -/
theorem writes_of_wrap (h : (a.wrap t).result = .ok w) : ∃ imports, a.Writes t w imports := by
  obtain ⟨members, node, hmembers, hparts, hw⟩ := wrap_result_eq_ok.mp h
  exact ⟨_, members, node, hmembers, hparts, hw, imports_of_parts hparts⟩

theorem wrap_of_writes (h : a.Writes t w imports) : (a.wrap t).result = .ok w := by
  obtain ⟨members, node, hmembers, hparts, hw, -⟩ := h
  exact wrap_result_eq_ok.mpr ⟨members, node, hmembers, hparts, hw⟩

/-- The imports that are written in a wrapper are those that its type collects. -/
theorem imports_of_writes (h : a.Writes t w imports) {members : CollectedMembers}
    (hmembers : t.collect.result = .ok members) : imports = importBlock members.imports := by
  obtain ⟨members', node, hmembers', hparts, -, himports⟩ := h
  rw [hmembers'] at hmembers
  cases hmembers
  exact List.map_injective_iff.mpr ImportDirective.text_injective
    (himports.symm.trans (imports_of_parts hparts))

/-- A wrapper is marked for relative imports if the text of one of its imports begins as theirs. -/
theorem relativeImports_iff (h : a.Writes t w imports) :
    w.relativeImports = true ↔ ∃ d ∈ imports, d.isRelative = true := by
  obtain ⟨members, node, hmembers, -, hw, -⟩ := id h
  have hfuture : futureTypes.isRelative = false := by decide
  have hflag : w.relativeImports = members.imports.any ImportDirective.isRelative := by
    rw [hw]
    rfl
  rw [hflag, List.any_eq_true, imports_of_writes h hmembers]
  constructor
  · rintro ⟨d, hd, hrelative⟩
    exact ⟨d, mem_importBlock.mpr (Or.inl hd), hrelative⟩
  · rintro ⟨d, hd, hrelative⟩
    rcases mem_importBlock.mp hd with hd | rfl
    · exact ⟨d, hd, hrelative⟩
    · rw [hfuture] at hrelative
      cases hrelative

end Assembler

end SpanWeave
