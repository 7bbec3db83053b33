import SpanWeave.Proofs.Wrapper.HeaderRemarks

/-!
# The year of the copyright

The year of an assembler is settled once for all of its wrappers, but a header settles it anew. Both
take the first year that is given and not zero. The assembler looks at the year that it was asked for
first, and the header at that of the settings, so they differ if both are given and are not the same.
-/

set_option autoImplicit false

namespace SpanWeave

/-! ## The first year that is given -/

section

variable {first second : Option Int} {otherwise : Int}

/-- Of two years the first one counts if it is given, then the second one. -/
theorem firstYear_pair (first second : Option Int) (otherwise : Int) :
    firstYear [first, second] otherwise =
      ((first.filter (· != 0)).or (second.filter (· != 0))).getD otherwise := by
  unfold firstYear
  cases hfirst : first.filter (· != 0) <;> cases hsecond : second.filter (· != 0) <;>
    simp [hfirst, hsecond]

/-- A year that is settled already stays, unless one in front of it is given. -/
theorem firstYear_again (first second : Option Int) (otherwise : Int) :
    firstYear [first, some (firstYear [second, first] otherwise)] otherwise =
      firstYear [first, second] otherwise := by
  rw [firstYear_pair, firstYear_pair second, firstYear_pair]
  cases hfirst : first.filter (· != 0) with
  | some year => rfl
  | none =>
    cases hsecond : second.filter (· != 0) with
    | some year =>
      have hyear : year ≠ 0 := by simpa using (Option.filter_eq_some_iff.mp hsecond).2
      simp [Option.filter, hyear]
    | none => by_cases hzero : otherwise = 0 <;> simp [Option.filter, hzero]

/-- The order of two years matters exactly if both are given and differ. -/
theorem firstYear_swap_iff :
    firstYear [first, second] otherwise = firstYear [second, first] otherwise ↔
      ∀ year other, first = some year → second = some other → year ≠ 0 → other ≠ 0 →
        year = other := by
  rw [firstYear_pair, firstYear_pair]
  constructor
  · rintro h year other rfl rfl hyear hother
    simpa [Option.filter, hyear, hother] using h
  · intro h
    cases hfirst : first.filter (· != 0) with
    | none => simp
    | some year =>
      cases hsecond : second.filter (· != 0) with
      | none => simp
      | some other =>
        obtain ⟨hyear, hne⟩ := Option.filter_eq_some_iff.mp hfirst
        obtain ⟨hother, hne'⟩ := Option.filter_eq_some_iff.mp hsecond
        rw [h year other hyear hother (by simpa using hne) (by simpa using hne')]

end

/-! ## The line about the holder -/

/-- A text that begins with a remark on the copyright of a holder in a year. -/
def StatesCopyright (text holder : String) (year : Int) : Prop :=
  ∃ rest, text = "# Copyright " ++ toString year ++ " " ++ holder ++ "\n" ++ rest

theorem nat_repr_injective {m n : Nat} (h : m.repr = n.repr) : m = n := by
  have hdigits := congrArg (fun s : String => Nat.ofDigitChars 10 s.toList 0) h
  simpa only [Nat.toList_repr, Nat.ofDigitChars_ten_toDigits] using hdigits

/-- A number is known by its digits and its sign. -/
theorem toString_int_injective {m n : Int} (h : toString m = toString n) : m = n := by
  -- no digits begin with a sign
  have hsigned : ∀ k l : Nat, k.repr ≠ "-" ++ l.succ.repr := by
    intro k l heq
    have hmem : '-' ∈ k.repr.toList := by
      rw [heq, String.toList_append]
      exact List.mem_append_left _ (List.mem_singleton_self _)
    rw [Nat.toList_repr] at hmem
    exact absurd (Nat.isDigit_of_mem_toDigits (by omega) (by omega) hmem) (by decide)
  cases m with
  | ofNat k =>
    cases n with
    | ofNat l => exact congrArg Int.ofNat (nat_repr_injective h)
    | negSucc l => exact absurd h (hsigned k l)
  | negSucc k =>
    cases n with
    | ofNat l => exact absurd h.symm (hsigned l k)
    | negSucc l =>
      have hdigits : "-" ++ k.succ.repr = "-" ++ l.succ.repr := h
      rw [String.append_right_inj] at hdigits
      exact congrArg Int.negSucc (Nat.succ.inj (nat_repr_injective hdigits))

/-- A text states the copyright of one year at most. -/
theorem StatesCopyright.unique {text holder : String} {year other : Int}
    (h : StatesCopyright text holder year) (h' : StatesCopyright text holder other) :
    year = other := by
  obtain ⟨rest, rfl⟩ := h
  obtain ⟨rest', h'⟩ := h'
  simp only [String.append_assoc, String.append_right_inj] at h'
  -- a year has no blank, so the first blank ends it
  have hcut : ∀ (n : Int) (s : String),
      Text.parts ' ' (toString n ++ (" " ++ s)) = toString n :: Text.parts ' ' s := by
    intro n s
    rw [← String.append_assoc]
    exact Text.parts_append (not_mem_toString_int (by decide) (by decide) n) s
  have hyears := congrArg (Text.parts ' ') h'
  rw [hcut, hcut, List.cons.injEq] at hyears
  exact toString_int_injective hyears.1

/-- A wrapper begins with the first line of its header. -/
theorem WrapperNode.render_eq_of_header {w : WrapperNode} {first : String} {more : List String}
    (hheader : w.header = first :: more) (hfirst : first ≠ "") :
    ∃ rest, w.render = "# " ++ first ++ "\n" ++ rest := by
  have hline : remarkLine first = "# " ++ first := if_neg hfirst
  rw [render_eq, hheader, List.map_cons, hline, joinLines, List.map_cons, String.join_cons]
  simp only [String.append_assoc]
  exact ⟨_, rfl⟩

namespace Assembler

variable {a : Assembler} {t : LogicalType} {w : WrapperModule}

/-- The year that was asked for and that of the settings are both given, and they differ. -/
def YearsConflict (a : Assembler) : Prop :=
  ∃ asked configured, a.askedYear = some asked ∧ a.header.year = some configured ∧ asked ≠ 0 ∧
    configured ≠ 0 ∧ asked ≠ configured

/-- The year of the header is that of the assembler unless the years conflict. -/
theorem headerYear_eq_iff (a : Assembler) :
    a.year = firstYear [a.header.year, a.askedYear] a.currentYear ↔ ¬ a.YearsConflict := by
  unfold year YearsConflict
  rw [firstYear_swap_iff]
  simp only [not_exists, not_and, ne_eq, not_not]

/-- A wrapper with a holder begins with its copyright. -/
theorem statesCopyright_of_assemble {holder : String} (hholder : a.header.holder = some holder)
    (hne : holder ≠ "") (hw : (a.assemble (some t)).result = .ok (.eligible, some w)) :
    StatesCopyright w.text holder (firstYear [a.header.year, a.askedYear] a.currentYear) := by
  obtain ⟨-, hwrap⟩ := assemble_result_eq_ok.mp hw
  obtain ⟨members, node, -, hparts, rfl⟩ := wrap_result_eq_ok.mp hwrap
  have hheld : a.header.holder.filter (· != "") = some holder := by simp [hholder, hne]
  have hheader := header_of_parts hparts
  unfold headerLines holderLines year at hheader
  rw [hheld, firstYear_again] at hheader
  obtain ⟨rest, hrest⟩ := WrapperNode.render_eq_of_header hheader (by simp)
  refine ⟨rest, hrest.trans ?_⟩
  simp only [← String.append_assoc]
  rfl

/-- Every wrapper with a holder states the copyright of one year, which is the same for all wrappers
of the assembler: the year of the settings, or else the one that was asked for, or else the current
one. It is the year of the assembler exactly if the years do not conflict. -/
theorem assemble_copyright_year_iff (a : Assembler) (holder : String) (t : LogicalType)
    (w : WrapperModule) (hholder : a.header.holder = some holder) (hne : holder ≠ "")
    (hw : (a.assemble (some t)).result = .ok (.eligible, some w)) :
    (∀ year, StatesCopyright w.text holder year ↔
        year = firstYear [a.header.year, a.askedYear] a.currentYear) ∧
      (StatesCopyright w.text holder a.year ↔ ¬ a.YearsConflict) := by
  have hstates := statesCopyright_of_assemble hholder hne hw
  have hiff : ∀ year, StatesCopyright w.text holder year ↔
      year = firstYear [a.header.year, a.askedYear] a.currentYear := by
    intro year
    constructor
    · exact fun h => h.unique hstates
    · rintro rfl
      exact hstates
  exact ⟨hiff, (hiff a.year).trans a.headerYear_eq_iff⟩

/-- An assembler of wrappers with a holder, which is asked for one year and configured with another
one. -/
def datedAssembler (asked configured : Int) : Assembler :=
  { header := { holder := some "Acme", year := some configured, license := .none }
    askedYear := some asked
    currentYear := 2024 }

/-- A configured year of zero does not count, so the wrapper states the year of the assembler. -/
theorem assemble_copyright_year_iff_zero :
    ∃ (t : LogicalType) (w : WrapperModule),
      ((datedAssembler 2020 0).assemble (some t)).result = .ok (.eligible, some w) ∧
        (datedAssembler 2020 0).year = 2020 ∧ StatesCopyright w.text "Acme" 2020 ∧
          ¬ StatesCopyright w.text "Acme" 2024 := by
  obtain ⟨-, -, t, members, node, -, hassemble, -⟩ :=
    exists_parts_of_any (datedAssembler 2020 0) (markedIndex "  def f(self): pass\n")
      (fun _ _ _ => true) (by decide +kernel)
  obtain ⟨hstates, -⟩ :=
    assemble_copyright_year_iff (datedAssembler 2020 0) "Acme" t _ rfl (by decide) hassemble
  exact ⟨t, _, hassemble, by decide, (hstates 2020).mpr (by decide),
    mt (hstates 2024).mp (by decide)⟩

/-- With two years that differ the wrapper states that of the settings, which is not the year of the
assembler. -/
theorem assemble_copyright_other_year :
    ∃ (t : LogicalType) (w : WrapperModule),
      ((datedAssembler 2020 2010).assemble (some t)).result = .ok (.eligible, some w) ∧
        (datedAssembler 2020 2010).year = 2020 ∧ StatesCopyright w.text "Acme" 2010 ∧
          ¬ StatesCopyright w.text "Acme" 2020 := by
  obtain ⟨-, -, t, members, node, -, hassemble, -⟩ :=
    exists_parts_of_any (datedAssembler 2020 2010) (markedIndex "  def f(self): pass\n")
      (fun _ _ _ => true) (by decide +kernel)
  have hyear : firstYear [some 2010, some 2020] 2024 = 2010 := by decide
  have hstates := statesCopyright_of_assemble rfl (by decide) hassemble
  dsimp only [datedAssembler] at hstates
  rw [hyear] at hstates
  refine ⟨t, _, hassemble, by decide, hstates, fun h => ?_⟩
  exact absurd (h.unique hstates) (by decide)

end Assembler

/-- An assembler that a pass makes of the settings is asked for no year, so no years conflict. -/
theorem PassRequest.not_yearsConflict {r : PassRequest} (h : r.assembler = none)
    (settings : Settings) : ¬ (r.assemblerFor settings).YearsConflict := by
  unfold assemblerFor
  rw [h]
  rintro ⟨asked, configured, hasked, -⟩
  cases hasked

end SpanWeave
