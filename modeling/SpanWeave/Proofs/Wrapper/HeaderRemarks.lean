import SpanWeave.Proofs.Pass.SurveyResults
import SpanWeave.Proofs.Settings.LoadingResults
import SpanWeave.Proofs.Text.Parts
import SpanWeave.Proofs.Wrapper.MergedImports
import SpanWeave.Proofs.Wrapper.ReadMembers
import SpanWeave.Settings.Loading

/-!
# The header of a wrapper as remarks

Nothing is read of the lines above the imports of a wrapper as long as they are remarks. Each line of
the header is made a remark by a `#` in front of it; a line end inside of one begins a line that is
not. Only the name of the holder, which the settings give, can hold one.
-/

set_option autoImplicit false

namespace SpanWeave

/-! ## Lines that are remarks -/

/-- The lines of the text of a module: `\r\n`, `\r` and `\n` each end one. -/
def moduleLines (s : String) : List String :=
  Text.parts '\n' (String.ofList (Text.foldLineEnds s.toList))

/-- A line of which nothing is read: it is empty, or a remark from its first character on. -/
def IsRemark (line : String) : Prop := line = "" ∨ Text.startsWith line "#" = true

instance (line : String) : Decidable (IsRemark line) :=
  inferInstanceAs (Decidable (_ ∨ _))

/-- Whether each line that begins in a text is a remark. The first line counts if the text begins
it; otherwise it goes on with a line of which something stands before the text. -/
def opensRemarks (atStart : Bool) : List Char → Bool
  | [] => true
  | c :: cs =>
    if c = '\n' || c = '\r' then opensRemarks true cs
    else (!atStart || c == '#') && opensRemarks false cs

/-- What is asked of the lines of a text, the first of which counts or not. -/
theorem opensRemarks_iff_splitAtEach (cs : List Char) :
    ∃ first rest, Text.splitAtEach '\n' (Text.foldLineEnds cs) = first :: rest ∧
      ∀ atStart, opensRemarks atStart cs = true ↔
        (atStart = true → IsRemark (String.ofList first)) ∧
          ∀ line ∈ rest, IsRemark (String.ofList line) := by
  have hempty : IsRemark (String.ofList []) := Or.inl rfl
  fun_induction Text.foldLineEnds cs with
  | case1 => exact ⟨[], [], rfl, by simp [opensRemarks, hempty]⟩
  | case2 cs ih =>
    obtain ⟨first, rest, hsplit, hih⟩ := ih
    refine ⟨[], first :: rest, by rw [Text.splitAtEach, if_pos rfl, hsplit], ?_⟩
    intro atStart
    simp [opensRemarks, hempty, hih]
  | case3 c cs hpair ih =>
    obtain ⟨first, rest, hsplit, hih⟩ := ih
    by_cases hend : c = '\n' ∨ c = '\r'
    · refine ⟨[], first :: rest, ?_, ?_⟩
      · rcases hend with rfl | rfl <;> simp [Text.splitAtEach, hsplit]
      · intro atStart
        simp [opensRemarks, hend, hempty, hih]
    · have hplain : ¬ (c = '\n' || c = '\r') = true := by simpa using hend
      refine ⟨c :: first, rest, ?_, ?_⟩
      · rw [not_or] at hend
        rw [if_neg hend.2, Text.splitAtEach, if_neg hend.1, hsplit]
      intro atStart
      have hhead : IsRemark (String.ofList (c :: first)) ↔ c = '#' := by
        unfold IsRemark Text.startsWith
        rw [@String.toList_ofList (c :: first), List.isPrefixOf_iff_prefix]
        constructor
        · rintro (hnil | ⟨rest, hrest⟩)
          · simp at hnil
          · exact (List.cons.inj hrest).1.symm
        · rintro rfl
          exact Or.inr ⟨first, rfl⟩
      rw [opensRemarks, if_neg hplain, Bool.and_eq_true, hih false, hhead]
      cases atStart <;> simp

theorem opensRemarks_true_iff (s : String) :
    opensRemarks true s.toList = true ↔ ∀ line ∈ moduleLines s, IsRemark line := by
  obtain ⟨first, rest, hsplit, h⟩ := opensRemarks_iff_splitAtEach s.toList
  rw [h, moduleLines, Text.parts, String.toList_ofList, hsplit]
  simp

theorem opensRemarks_false_iff (s : String) :
    opensRemarks false s.toList = true ↔ ∀ line ∈ (moduleLines s).tail, IsRemark line := by
  obtain ⟨first, rest, hsplit, h⟩ := opensRemarks_iff_splitAtEach s.toList
  rw [h, moduleLines, Text.parts, String.toList_ofList, hsplit]
  simp

/-- A text that ends no line. -/
def EndsNoLine (s : String) : Prop := '\n' ∉ s.toList ∧ '\r' ∉ s.toList

instance (s : String) : Decidable (EndsNoLine s) := inferInstanceAs (Decidable (_ ∧ _))

theorem EndsNoLine.append {s t : String} (hs : EndsNoLine s) (ht : EndsNoLine t) :
    EndsNoLine (s ++ t) := by
  unfold EndsNoLine at *
  simp only [String.toList_append, List.mem_append, not_or]
  exact ⟨⟨hs.1, ht.1⟩, hs.2, ht.2⟩

/-- A number is written with digits, and with a sign if it is negative. -/
theorem not_mem_toString_int {c : Char} (hdigit : c.isDigit = false) (hsign : c ≠ '-') (n : Int) :
    c ∉ (toString n).toList := by
  have hdigits : ∀ m : Nat, c ∉ m.repr.toList := by
    intro m hm
    rw [Nat.toList_repr] at hm
    have htrue := Nat.isDigit_of_mem_toDigits (by omega) (by omega) hm
    rw [hdigit] at htrue
    cases htrue
  cases n with
  | ofNat m => exact hdigits m
  | negSucc m =>
    have hsigned : (toString (Int.negSucc m)).toList = '-' :: m.succ.repr.toList :=
      String.toList_append
    rw [hsigned, List.mem_cons, not_or]
    exact ⟨hsign, hdigits m.succ⟩

theorem endsNoLine_toString (n : Int) : EndsNoLine (toString n) :=
  ⟨not_mem_toString_int (by decide) (by decide) n, not_mem_toString_int (by decide) (by decide) n⟩

/-- A text that ends no line begins no line either. -/
theorem opensRemarks_append {s : String} (h : EndsNoLine s) (cs : List Char) :
    opensRemarks false (s.toList ++ cs) = opensRemarks false cs := by
  obtain ⟨hn, hr⟩ := h
  generalize s.toList = ds at hn hr ⊢
  induction ds with
  | nil => rfl
  | cons c ds ih =>
    simp only [List.mem_cons, not_or] at hn hr
    have hplain : ¬ (c = '\n' || c = '\r') = true := by simp [Ne.symm hn.1, Ne.symm hr.1]
    rw [List.cons_append, opensRemarks, if_neg hplain, ih hn.2 hr.2]
    rfl

theorem opensRemarks_lineEnd (atStart : Bool) (cs ds : List Char) :
    opensRemarks atStart (cs ++ '\n' :: ds) = (opensRemarks atStart cs && opensRemarks true ds) := by
  induction cs generalizing atStart with
  | nil => simp [opensRemarks]
  | cons c cs ih =>
    simp only [List.cons_append, opensRemarks, ih]
    split
    · rfl
    · rw [Bool.and_assoc]

/-- The lines that a line of a header comes to are remarks exactly if those are that it breaks. -/
theorem opensRemarks_remarkLine (line : String) :
    opensRemarks true (remarkLine line).toList = opensRemarks false line.toList := by
  unfold remarkLine
  split
  · rename_i hnil
    rw [hnil]
    rfl
  · rw [String.toList_append]
    rfl

theorem opensRemarks_joinLines (lines : List String) :
    opensRemarks true (joinLines lines).toList = lines.all fun l => opensRemarks true l.toList := by
  unfold joinLines
  induction lines with
  | nil => rfl
  | cons line lines ih =>
    rw [List.map_cons, String.join_cons, String.toList_append, String.toList_append, List.all_cons,
      ← ih, ← opensRemarks_lineEnd, List.append_assoc]
    rfl

/-! ## The header of a wrapper -/

/-- The lines of a wrapper above its imports. -/
def WrapperNode.linesAbove (w : WrapperNode) : List String :=
  moduleLines (joinLines (w.header.map remarkLine))

/-- The text of a wrapper from its imports on. -/
def WrapperNode.textBelow (w : WrapperNode) : String :=
  joinLines (importLines w.imports ++ w.binding.lines ++ ["", ""] ++ w.body.lines w.binding ++
    ["", "", "__all__ = [" ++ Text.escaped w.body.name ++ "]"])

theorem joinLines_append (lines more : List String) :
    joinLines (lines ++ more) = joinLines lines ++ joinLines more := by
  unfold joinLines
  rw [List.map_append, String.join_append]

/-- Lines with their ends do not end with the first half of a line end. -/
theorem getLast?_joinLines_ne (lines : List String) :
    (joinLines lines).toList.getLast? ≠ some '\r' := by
  unfold joinLines
  rcases List.eq_nil_or_concat lines with hnil | ⟨front, last, hlast⟩
  · simp [hnil]
  · simp [hlast]

theorem WrapperNode.render_eq (w : WrapperNode) :
    w.render = joinLines (w.header.map remarkLine) ++ "\n" ++ w.textBelow := by
  unfold render lines textBelow
  simp only [List.append_assoc, joinLines_append]
  rw [← String.append_assoc]
  rfl

/-- A line end cuts the lines of a text in two, unless it is the second half of one. -/
theorem moduleLines_append {s : String} (h : s.toList.getLast? ≠ some '\r') (t : String) :
    moduleLines (s ++ "\n" ++ t) = moduleLines s ++ moduleLines t := by
  unfold moduleLines Text.parts
  rw [String.toList_append, String.toList_append, List.append_assoc]
  simp only [String.toList_ofList]
  rw [show "\n".toList ++ t.toList = '\n' :: t.toList from rfl, Text.foldLineEnds_append h,
    Text.splitAtEach_append_cons, List.map_append]

theorem WrapperNode.moduleLines_render (w : WrapperNode) :
    moduleLines w.render = w.linesAbove ++ moduleLines w.textBelow := by
  rw [render_eq, moduleLines_append (getLast?_joinLines_ne _), linesAbove]

/-- The text below begins with the first import. -/
theorem WrapperNode.textBelow_eq {w : WrapperNode} {first : String} {more : List String}
    (h : w.imports = first :: more) : ∃ rest, w.textBelow = first ++ "\n" ++ rest := by
  unfold textBelow importLines
  rw [h]
  simp only [List.isEmpty_cons, Bool.false_eq_true, if_false, List.cons_append, joinLines,
    List.map_cons, String.join_cons]
  exact ⟨_, rfl⟩

/-- The lines above the imports are remarks exactly if no line of the header breaks into others. -/
theorem WrapperNode.linesAbove_remarks_iff (w : WrapperNode) :
    (∀ line ∈ w.linesAbove, IsRemark line) ↔
      ∀ line ∈ w.header, opensRemarks false line.toList = true := by
  rw [linesAbove, ← opensRemarks_true_iff, opensRemarks_joinLines, List.all_eq_true]
  simp only [List.forall_mem_map, opensRemarks_remarkLine]

/-- The lines about a holder are the words before its name and the lines of the name. -/
theorem holderLines_remarks_iff (settings : HeaderSettings) (year : Option Int)
    (currentYear : Int) :
    (∀ line ∈ holderLines settings year currentYear, opensRemarks false line.toList = true) ↔
      ∀ holder, settings.holder = some holder → opensRemarks false holder.toList = true := by
  unfold holderLines
  cases hnamed : settings.holder with
  | none => exact ⟨fun _ _ h => (by cases h), fun _ _ h => absurd h List.not_mem_nil⟩
  | some holder =>
    by_cases hempty : holder = ""
    · subst hempty
      exact ⟨fun _ _ h => (by cases h; rfl), fun _ _ h => absurd h List.not_mem_nil⟩
    · have hkept : (some holder).filter (fun s => s != "") = some holder := by simp [hempty]
      have hfront : EndsNoLine ("Copyright " ++
          toString (firstYear [settings.year, year] currentYear) ++ " ") :=
        EndsNoLine.append (EndsNoLine.append (by decide) (endsNoLine_toString _)) (by decide)
      rw [hkept]
      simp only [List.forall_mem_cons, List.not_mem_nil, false_imp_iff, implies_true, and_true,
        Option.some.injEq, forall_eq']
      rw [String.toList_append, opensRemarks_append hfront]
      simp [opensRemarks]

/-- Of the lines of a header only that about the holder can break. -/
theorem headerLines_remarks_iff {settings : HeaderSettings} {source : TypeIdentity}
    (hsource : EndsNoLine source.qualifiedName) (year : Option Int) (currentYear : Int) :
    (∀ line ∈ headerLines settings source year currentYear, opensRemarks false line.toList = true) ↔
      ∀ holder, settings.holder = some holder → ∀ line ∈ (moduleLines holder).tail,
        IsRemark line := by
  have hlicense : ∀ line ∈ licenseLines settings.license,
      opensRemarks false line.toList = true := by
    cases settings.license <;> decide +kernel
  have hmade : opensRemarks false
      ("Generated by instrumentgen from " ++ source.qualifiedName ++ ". Do not edit.").toList =
        true := by
    rw [String.toList_append, opensRemarks_append (EndsNoLine.append (by decide) hsource)]
    decide
  simp only [← opensRemarks_false_iff]
  rw [← holderLines_remarks_iff settings year currentYear]
  unfold headerLines
  simp only [List.mem_append, List.mem_singleton]
  constructor
  · exact fun h line hline => h line (Or.inl (Or.inl hline))
  · rintro h line ((hline | hline) | rfl)
    · exact h line hline
    · exact hlicense line hline
    · exact hmade

namespace Assembler

variable {a : Assembler} {t : LogicalType} {w : WrapperModule}

theorem header_of_parts {members : CollectedMembers} {node : WrapperNode}
    (h : a.parts t members = .ok node) :
    node.header = headerLines a.header t.identity (some a.year) a.currentYear := by
  unfold parts at h
  obtain ⟨methods, -, h⟩ := Traced.except_bind_eq_ok.mp h
  cases h
  rfl

/-- Let a wrapper be assembled of a type whose name ends no line. Its text is cut in two before its
first import. The lines above, empty ones apart, are remarks exactly if this holds of those that the
holder's name in the settings comes to behind its first one: so always if the name is one line. -/
theorem assemble_header_remarks_iff (a : Assembler) (t : LogicalType) (w : WrapperModule)
    (hname : EndsNoLine t.identity.qualifiedName)
    (hw : (a.assemble (some t)).result = .ok (.eligible, some w)) :
    ∃ members node first more rest, t.collect.result = .ok members ∧
      a.parts t members = .ok node ∧ w.text = node.render ∧ node.imports = first :: more ∧
      node.textBelow = first ++ "\n" ++ rest ∧
      moduleLines w.text = node.linesAbove ++ moduleLines node.textBelow ∧
      ((∀ line ∈ node.linesAbove, IsRemark line) ↔
        ∀ holder, a.header.holder = some holder →
          ∀ line ∈ (moduleLines holder).tail, IsRemark line) := by
  obtain ⟨-, hwrap⟩ := assemble_result_eq_ok.mp hw
  obtain ⟨members, node, hmembers, hparts, rfl⟩ := wrap_result_eq_ok.mp hwrap
  have himports : node.imports ≠ [] := by
    rw [imports_of_parts hparts]
    exact List.ne_nil_of_mem (List.mem_map_of_mem (mem_importBlock.mpr (Or.inr rfl)))
  obtain ⟨first, more, hfirst⟩ := List.exists_cons_of_ne_nil himports
  obtain ⟨rest, hrest⟩ := WrapperNode.textBelow_eq hfirst
  refine ⟨members, node, first, more, rest, hmembers, hparts, rfl, hfirst, hrest,
    node.moduleLines_render, ?_⟩
  rw [WrapperNode.linesAbove_remarks_iff, header_of_parts hparts, headerLines_remarks_iff hname]

/-- An assembler of wrappers whose holder has a name in two lines. -/
def heldAssembler (second : String) : Assembler :=
  { header := { holder := some ("Acme\n" ++ second ++ "\n"), license := .none }
    currentYear := 2024 }

theorem assemble_header_remarks_iff_twoLines :
    ∃ (t : LogicalType) (w : WrapperModule) (members : CollectedMembers) (node : WrapperNode),
      EndsNoLine t.identity.qualifiedName ∧
      ((heldAssembler "# and others").assemble (some t)).result = .ok (.eligible, some w) ∧
      (heldAssembler "# and others").parts t members = .ok node ∧
      moduleLines w.text = node.linesAbove ++ moduleLines node.textBelow ∧
      node.linesAbove = ["# Copyright 2024 Acme", "# and others", "", "#",
        "# Generated by instrumentgen from A. Do not edit.", ""] ∧
      ∀ line ∈ node.linesAbove, IsRemark line := by
  obtain ⟨c, -, t, members, node, -, hassemble, hmembers, hparts, hcheck⟩ :=
    exists_parts_of_any (heldAssembler "# and others") (markedIndex "  def f(self): pass\n")
      (fun t _ node => decide (EndsNoLine t.identity.qualifiedName) &&
        decide (node.linesAbove = ["# Copyright 2024 Acme", "# and others", "", "#",
          "# Generated by instrumentgen from A. Do not edit.", ""]))
      (by decide +kernel)
  simp only [Bool.and_eq_true, decide_eq_true_eq] at hcheck
  obtain ⟨hname, habove⟩ := hcheck
  obtain ⟨members', node', -, -, -, hmembers', hparts', -, -, -, hlines, hremarks⟩ :=
    assemble_header_remarks_iff _ t _ hname hassemble
  cases hmembers.symm.trans hmembers'
  cases hparts.symm.trans hparts'
  refine ⟨t, _, members, node, hname, hassemble, hparts, hlines, habove, hremarks.mpr ?_⟩
  intro holder hholder
  cases hholder
  decide +kernel

/-- A project whose settings name a holder in two lines. -/
def heldProject : FileTree :=
  Settings.settledProject
    (Text.encode "header:\n copyright_holder: |\n  Acme\n  x = 1\n license: none\n")

set_option maxRecDepth 100000 in
theorem heldProject_load :
    ∃ settings, Settings.load heldProject ⟨.root, ["p"]⟩ = .ok settings ∧
      smallRequest.assemblerFor settings = heldAssembler "x = 1" := by
  refine ⟨{ root := ⟨.root, ["p"]⟩, header := (heldAssembler "x = 1").header }, ?_, rfl⟩
  decide +kernel

/-- The second line of a holder's name that is no remark stands above the imports as it is, and is
read as a statement. -/
theorem assemble_header_breaks_out :
    ∃ (settings : Settings) (c : Candidate) (t : LogicalType) (w : WrapperModule)
      (members : CollectedMembers) (node : WrapperNode),
      Settings.load heldProject ⟨.root, ["p"]⟩ = .ok settings ∧
      c ∈ (markedIndex "  def f(self): pass\n").candidates ∧
      (markedIndex "  def f(self): pass\n").resolve c = some t ∧
      EndsNoLine t.identity.qualifiedName ∧
      ((smallRequest.assemblerFor settings).assemble (some t)).result = .ok (.eligible, some w) ∧
      (smallRequest.assemblerFor settings).parts t members = .ok node ∧ w.text = node.render ∧
      moduleLines w.text = node.linesAbove ++ moduleLines node.textBelow ∧
      "x = 1" ∈ node.linesAbove ∧ ¬ IsRemark "x = 1" := by
  obtain ⟨settings, hload, hassembler⟩ := heldProject_load
  obtain ⟨c, hc, t, members, node, hresolve, hassemble, -, hparts, hcheck⟩ :=
    exists_parts_of_any (heldAssembler "x = 1") (markedIndex "  def f(self): pass\n")
      (fun t _ node => decide (EndsNoLine t.identity.qualifiedName) &&
        decide ("x = 1" ∈ node.linesAbove))
      (by decide +kernel)
  simp only [Bool.and_eq_true, decide_eq_true_eq] at hcheck
  rw [← hassembler] at hassemble hparts
  exact ⟨settings, c, t, _, members, node, hload, hc, hresolve, hcheck.1, hassemble, hparts,
    rfl, node.moduleLines_render, hcheck.2, by decide⟩

end Assembler

end SpanWeave
