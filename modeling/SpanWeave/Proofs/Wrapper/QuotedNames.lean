import SpanWeave.Proofs.Text.LiteralValue
import SpanWeave.Proofs.Wrapper.ReadMembers

/-!
# Names that a wrapper quotes

A wrapper writes the names of its spans, the keys of its tags and its own name as literals. The names
are those of the source, and a literal means its name as long as no character of the name lies beyond
the basic plane; of every other one it means two surrogates.
-/

set_option autoImplicit false

namespace SpanWeave

/-- One of the lines has a name in it, between what stands before and after, as a literal whose value
is the name in UTF-16 units. -/
def QuotesName (named : String → Option Nat) (lines : List String) (before name after : String) :
    Prop :=
  ∃ literal, before ++ literal ++ after ∈ lines ∧
    Text.literalValue? named literal = some (name.toList.flatMap Text.utf16Units)

theorem quotesName_of_mem {named : String → Option Nat} {lines : List String}
    {before name after : String} (h : before ++ Text.escaped name ++ after ∈ lines) :
    QuotesName named lines before name after :=
  ⟨_, h, Text.literalValue?_escaped named name⟩

/-- The names that an override quotes in the lines of its wrapper: that of its method for the span,
and that of each parameter for the tag with its value. -/
structure MethodNode.QuotesNames (named : String → Option Nat) (lines : List String) (b : Binding)
    (m : Member) (e : MethodNode) : Prop where
  spanName : e.spanName = m.name
  keys : e.tags.map TagNode.key = m.parameterNames
  span : QuotesName named lines ("        with " ++ b.spanSource ++ ".start_span(") m.name
    (") as " ++ e.spanVariable ++ ":")
  tags : ∀ x ∈ m.parameterNames, QuotesName named lines
    ("            " ++ b.setTag ++ "(" ++ e.spanVariable ++ ", ") x (", " ++ x ++ ")")

section Lines

variable {named : String → Option Nat} {b : Binding} {m : Member} {e : MethodNode}

theorem WrapperNode.lines_of_method {w : WrapperNode} (he : e ∈ w.body.methods) :
    e.lines w.binding ⊆ w.lines := by
  intro line hline
  unfold WrapperNode.lines ClassBody.lines
  simp only [List.mem_append, List.mem_flatMap]
  exact Or.inl (Or.inr (Or.inr ⟨e, he, hline⟩))

theorem MethodNode.line_of_span : ("        with " ++ b.spanSource ++ ".start_span(") ++
    Text.escaped e.spanName ++ (") as " ++ e.spanVariable ++ ":") ∈ e.lines b := by
  simp only [MethodNode.lines, String.append_assoc, List.cons_append, List.mem_cons, true_or,
    or_true]

theorem MethodNode.line_of_tag {tag : TagNode} (htag : tag ∈ e.tags) :
    ("            " ++ b.setTag ++ "(" ++ e.spanVariable ++ ", ") ++ Text.escaped tag.key ++
      (", " ++ tag.value ++ ")") ∈ e.lines b := by
  have hline : ("            " ++ b.setTag ++ "(" ++ e.spanVariable ++ ", ") ++
      Text.escaped tag.key ++ (", " ++ tag.value ++ ")") =
        TagNode.line b.setTag e.spanVariable tag := by
    unfold TagNode.line
    simp only [String.append_assoc]
  rw [hline, MethodNode.lines, List.mem_append, List.mem_append]
  exact Or.inl (Or.inr (List.mem_map_of_mem htag))

theorem MethodNode.quotesNames_of_lines {lines : List String} (hlines : e.lines b ⊆ lines)
    (hspan : e.spanName = m.name) (htags : e.tags = m.parameterNames.map fun x => ⟨x, x⟩) :
    e.QuotesNames named lines b m := by
  refine ⟨hspan, ?_, ?_, ?_⟩
  · rw [htags, List.map_map]
    exact List.map_id _
  · have hline := line_of_span (b := b) (e := e)
    rw [hspan] at hline
    exact quotesName_of_mem (hlines hline)
  · intro x hx
    have htag : ⟨x, x⟩ ∈ e.tags := by
      rw [htags]
      exact List.mem_map_of_mem hx
    have hline := line_of_tag (b := b) htag
    dsimp only at hline
    exact quotesName_of_mem (hlines hline)

end Lines

namespace Assembler

/-- The override of a collected method that is read has the names of the method. -/
theorem names_of_override {m : Member} {c : CollectedMethod} {aliases : Aliases} {e : MethodNode}
    (hread : m.IsRead) (hcm : IsCollectedAs m c)
    (h : aliases.override c.member.name c.member.type c.signature (receiverName c.member) = .ok e) :
    e.spanName = m.name ∧ e.tags = m.parameterNames.map fun x => ⟨x, x⟩ := by
  have hsplit : splitForwarding c.signature.forwarding = m.parameterNames := by
    rw [forwarding_of_isCollectedAs hcm, trimmedNames_of_isIdentifier hread.parameters,
      splitForwarding_joinForwarding hread.parameters]
  obtain ⟨-, -, -, he⟩ := Aliases.override_eq_ok h
  rw [he, hsplit, hcm.1]
  exact ⟨rfl, rfl⟩

/-- What is written for a text is a literal. Its value is the text in UTF-16 units, and so the text
itself exactly if all its characters are in the basic plane. Each override of a wrapper that is
assembled of a type from sources writes in this way the name of its method for its span, and the
names of its parameters for the keys of its tags; and the wrapper writes its own name so. -/
theorem assemble_quotes_names {ε : Type} (named : String → Option Nat) (a : Assembler)
    (marker : String) (modules : List (SourceFile × List UInt8)) (index : SourceIndex)
    (c : Candidate) (t : LogicalType) (w : WrapperModule)
    (hindex : (SourceIndex.addSources { marker } modules : Traced ε SourceIndex).result = .ok index)
    (ht : index.resolve c = some t)
    (h : (a.assemble (some t)).result = .ok (.eligible, some w)) :
    (∀ s, Text.literalValue? named (Text.escaped s) = some (s.toList.flatMap Text.utf16Units)) ∧
      (∀ s, Text.literalValue? named (Text.escaped s) = some (s.toList.map Char.toNat) ↔
        ∀ ch ∈ s.toList, ch.toNat < 0x10000) ∧
      ∃ members node, t.collect.result = .ok members ∧ a.parts t members = .ok node ∧
        w.text = joinLines node.lines ∧
        List.Forall₂ (fun c e =>
          MethodNode.QuotesNames named node.lines node.binding c.member e)
            members.methods node.body.methods ∧
        QuotesName named node.lines "__all__ = [" (companionName t.name) "]" := by
  refine ⟨Text.literalValue?_escaped named, fun s => ?_, ?_⟩
  · rw [Text.literalValue?_escaped, Option.some.injEq, Text.flatMap_utf16Units_eq_iff]
  obtain ⟨members, node, hcollect, hparts, rfl⟩ :=
    wrap_result_eq_ok.mp (assemble_result_eq_ok.mp h).2
  obtain ⟨hname, -, -, hoverrides⟩ := parts_eq_ok hparts
  refine ⟨members, node, hcollect, hparts, rfl, ?_, ?_⟩
  · have hlines : ∀ e ∈ node.body.methods, e.lines node.binding ⊆ node.lines :=
      fun e he => WrapperNode.lines_of_method he
    -- an override, its lines in the text, and the member that it was made of
    have hmade := ((List.forall₂_and_left _ _).mpr ⟨hlines, hoverrides.flip⟩).flip
    refine ((List.forall₂_and_left _ _).mpr
      ⟨LogicalType.exists_isCollectedAs hcollect, hmade⟩).imp ?_
    rintro c e ⟨⟨m, hm, -, hcm⟩, hin, hoverride⟩
    obtain ⟨hspan, htags⟩ :=
      names_of_override (SourceIndex.isRead_of_resolve hindex ht hm) hcm hoverride
    rw [hcm.1]
    exact MethodNode.quotesNames_of_lines hin hspan htags
  · apply quotesName_of_mem
    rw [← hname]
    unfold WrapperNode.lines
    simp

set_option maxRecDepth 100000 in
/-- Names beyond ASCII that are read back as they are. -/
theorem assemble_quotes_names_accented :
    ∃ (t : LogicalType) (members : CollectedMembers) (node : WrapperNode),
      (assemble { currentYear := 2024 } (some t)).result =
        .ok (.eligible, some (moduleOf { currentYear := 2024 } t members node)) ∧
      members.methods.map (fun c => (c.member.name, c.member.parameterNames)) =
        [("größe", ["ü"])] ∧
      List.Forall₂ (fun c e => MethodNode.QuotesNames (fun _ => none) node.lines node.binding
        c.member e) members.methods node.body.methods ∧
      Text.literalValue? (fun _ => none) (Text.escaped "größe") =
        some ("größe".toList.map Char.toNat) := by
  obtain ⟨c, -, t, members, node, ht, hassembled, hcollect, hparts, hnames⟩ :=
    exists_parts_of_any { currentYear := 2024 } (markedIndex "  def größe(self, ü): pass\n")
      (fun _ members _ => decide (members.methods.map (fun c =>
        (c.member.name, c.member.parameterNames)) = [("größe", ["ü"])]))
      (by decide +kernel)
  obtain ⟨-, hread, members', node', hcollect', hparts', -, hquotes, -⟩ :=
    assemble_quotes_names (fun _ => none) { currentYear := 2024 } "Instrumentation"
      (markedSource "  def größe(self, ü): pass\n") _ c t _ (addSources_markedSource _) ht hassembled
  cases hcollect.symm.trans hcollect'
  cases hparts.symm.trans hparts'
  have hbasic : ("größe".toList.all fun ch => decide (ch.toNat < 0x10000)) = true := by decide
  exact ⟨t, members, node, hassembled, of_decide_eq_true hnames, hquotes,
    (hread "größe").mpr fun ch hch => of_decide_eq_true (List.all_eq_true.mp hbasic ch hch)⟩

set_option maxRecDepth 100000 in
/-- A parameter whose name is a character beyond the basic plane has a key that means two surrogates
instead. -/
theorem assemble_quotes_surrogates :
    ∃ (c : Candidate) (t : LogicalType) (members : CollectedMembers) (node : WrapperNode)
      (e : MethodNode),
      c ∈ (markedIndex "  def f(self, 𐀀): pass\n").candidates ∧
      (markedIndex "  def f(self, 𐀀): pass\n").resolve c = some t ∧
      (assemble { currentYear := 2024 } (some t)).result =
        .ok (.eligible, some (moduleOf { currentYear := 2024 } t members node)) ∧
      node.body.methods = [e] ∧ e.tags = [⟨"𐀀", "𐀀"⟩] ∧
      ("            " ++ node.binding.setTag ++ "(" ++ e.spanVariable ++ ", ") ++ Text.escaped "𐀀" ++
        (", " ++ "𐀀" ++ ")") ∈ node.lines ∧
      ∀ named, Text.literalValue? named (Text.escaped "𐀀") = some [0xD800, 0xDC00] ∧
        Text.literalValue? named (Text.escaped "𐀀") ≠ some ("𐀀".toList.map Char.toNat) := by
  obtain ⟨c, hc, t, members, node, ht, hassembled, -, -, hcheck⟩ :=
    exists_parts_of_any { currentYear := 2024 } (markedIndex "  def f(self, 𐀀): pass\n")
      (fun _ _ node => decide (node.body.methods.map MethodNode.tags = [[⟨"𐀀", "𐀀"⟩]]))
      (by decide +kernel)
  obtain ⟨e, hsingle, htags⟩ := List.map_eq_singleton_iff.mp (of_decide_eq_true hcheck)
  have htag : ⟨"𐀀", "𐀀"⟩ ∈ e.tags := by
    rw [htags]
    exact List.mem_singleton_self _
  have hline := MethodNode.line_of_tag (b := node.binding) htag
  dsimp only at hline
  replace hline := WrapperNode.lines_of_method (by rw [hsingle]; exact List.mem_singleton_self _)
    hline
  refine ⟨c, t, members, node, e, hc, ht, hassembled, hsingle, htags, hline, ?_⟩
  intro named
  rw [Text.literalValue?_escaped]
  decide

end Assembler

end SpanWeave
