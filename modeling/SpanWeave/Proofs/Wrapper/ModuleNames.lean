import Mathlib.Data.Set.Function
import SpanWeave.Proofs.Wrapper.ReadMembers

/-!
# Names that a wrapper's module binds

Above its class, the module of a wrapper imports the base class and two functions of the runtime,
and binds its source of spans. The head of the class and the bodies of the overrides use these
names, and a name means what it was bound to last, unless a local hides it.

The aliases of the wrapper avoid all parameters that are handed on, but neither what a method calls
its receiver nor the name of the base class. So the meaning of the names is settled by comparing
these: an alias is lost exactly in the overrides whose receiver has its name, and the base class
exactly if an alias or the runtime's function has its name.
-/

set_option autoImplicit false

namespace SpanWeave

/-! ## The statements of a module -/

/-- What a name of a module stands for. -/
inductive ModuleValue where
  /-- What a module provides under a name. -/
  | imported (module name : String)
  /-- The result of calling what stands for a function with what stands for an argument. -/
  | result (function argument : Option ModuleValue)
  | other

/-- The names of a module with what they were bound to, latest first. -/
abbrev ModuleNames := List (String × ModuleValue)

/-- What a name was bound to last, where names of one form are the same. -/
def ModuleNames.lookup (form : String → String) (names : ModuleNames) (name : String) :
    Option ModuleValue :=
  (names.find? fun p => form p.1 == form name).map Prod.snd

/-- A statement that binds a name of a module. -/
inductive ModuleStatement where
  | importing (module name : String)
  | importingAs (module name target : String)
  | calling (target function argument : String)

namespace ModuleStatement

/-- The lines of a statement; one line is left free above a call. -/
def lines : ModuleStatement → List String
  | importing module name => ["from " ++ module ++ " import " ++ name]
  | importingAs module name target =>
    ["from " ++ module ++ (" import " ++ name ++ " as ") ++ target]
  | calling target function argument =>
    ["", target ++ (" = " ++ function ++ "(") ++ argument ++ ")"]

/-- The names after a statement. -/
def exec (form : String → String) (names : ModuleNames) : ModuleStatement → ModuleNames
  | importing module name => (name, .imported module name) :: names
  | importingAs module name target => (target, .imported module name) :: names
  | calling target function argument =>
    (target, .result (names.lookup form function) (names.lookup form argument)) :: names

end ModuleStatement

/-- The statements that bind a wrapper to its type and to the runtime. -/
def Binding.statements (b : Binding) : List ModuleStatement :=
  [.importing b.baseModule b.baseName,
    .importingAs b.runtimeModule "set_tag" b.setTag,
    .importingAs b.runtimeModule "span_source_for" "_span_source_for",
    .calling b.spanSource "_span_source_for" b.baseName]

theorem Binding.lines_eq (b : Binding) :
    b.lines = b.statements.flatMap ModuleStatement.lines := by
  have hsetTag : " import " ++ "set_tag" ++ " as " = " import set_tag as " := by decide
  have hsourceFor : "from " ++ b.runtimeModule ++ (" import " ++ "span_source_for" ++ " as ") ++
      "_span_source_for" = "from " ++ b.runtimeModule ++
        " import span_source_for as _span_source_for" := by
    rw [String.append_assoc]
    exact congrArg ("from " ++ b.runtimeModule ++ ·) (by decide)
  have hcall : " = " ++ "_span_source_for" ++ "(" = " = _span_source_for(" := by decide
  unfold lines statements
  simp only [List.flatMap_cons, List.flatMap_nil, ModuleStatement.lines, List.cons_append,
    List.nil_append]
  rw [hsetTag, hsourceFor, hcall]

/-- The names of a wrapper's module where its class begins, given the names that were bound above.
-/
def Binding.names (form : String → String) (b : Binding) (above : ModuleNames) : ModuleNames :=
  b.statements.foldl (ModuleStatement.exec form) above

/-- The names behind the imports that bind a wrapper. -/
def Binding.imports (b : Binding) (above : ModuleNames) : ModuleNames :=
  ("_span_source_for", .imported b.runtimeModule "span_source_for") ::
    (b.setTag, .imported b.runtimeModule "set_tag") ::
      (b.baseName, .imported b.baseModule b.baseName) :: above

/-- The names of a wrapper's module when its methods are called: its class and the list of what it
offers have been bound as well. -/
def WrapperNode.names (form : String → String) (w : WrapperNode) (above : ModuleNames) :
    ModuleNames :=
  ("__all__", .other) :: (w.body.name, .other) :: w.binding.names form above

/-- The names that may stand in the module of a wrapper, those of imports aside. -/
def LogicalType.writtenNames (t : LogicalType) : Set String :=
  { name | name ∈ [t.name, Assembler.companionName t.name, "_span_source_for", "__all__"] ∨
    (∃ base ∈ ["span", "_span_source", "_set_tag"], ∃ count, name = underscored base count) ∨
      ∃ m ∈ t.forwardedMembers, name = Assembler.receiverName m ∨ name ∈ m.parameterNames }

theorem LogicalType.mem_writtenNames_of_involves {t : LogicalType} {m : Member}
    (hm : m ∈ t.forwardedMembers) {name : String} (h : m.Involves name) :
    name ∈ t.writtenNames := by
  rcases h with rfl | h | h
  · exact Or.inr (Or.inr ⟨m, hm, Or.inl rfl⟩)
  · exact Or.inr (Or.inr ⟨m, hm, Or.inr h⟩)
  · exact Or.inr (Or.inl h)

/-! ## Looking names up -/

/-- A name that was bound last, or one that was bound before. -/
theorem ModuleNames.lookup_cons {form : String → String} {names : Set String}
    (hform : names.InjOn form) {target name : String} (htarget : target ∈ names)
    (hname : name ∈ names) (value : ModuleValue) (before : ModuleNames) :
    ModuleNames.lookup form ((target, value) :: before) name =
      if target = name then some value else ModuleNames.lookup form before name := by
  unfold lookup
  rw [List.find?_cons]
  by_cases heq : target = name
  · rw [if_pos heq, beq_iff_eq.mpr (congrArg form heq)]
    rfl
  · have hne : form target ≠ form name := fun h => heq (hform htarget hname h)
    rw [if_neg heq, beq_eq_false_iff_ne.mpr hne]

/-- The names that a wrapper chooses for a module, each different from the other fixed ones. -/
structure Binding.ChosenFor (b : Binding) (t : LogicalType) : Prop where
  baseModule : b.baseModule = t.module
  baseName : b.baseName = t.name
  spanSource : ∃ count, b.spanSource = underscored "_span_source" count
  setTag : ∃ count, b.setTag = underscored "_set_tag" count

namespace Binding.ChosenFor

variable {b : Binding} {t : LogicalType} (h : b.ChosenFor t)

include h

theorem mem_writtenNames : b.baseName ∈ t.writtenNames ∧ b.spanSource ∈ t.writtenNames ∧
    b.setTag ∈ t.writtenNames := by
  obtain ⟨j, hj⟩ := h.spanSource
  obtain ⟨k, hk⟩ := h.setTag
  refine ⟨Or.inl (by simp [h.baseName]), Or.inr (Or.inl ?_), Or.inr (Or.inl ?_)⟩
  · exact ⟨"_span_source", by simp, j, hj⟩
  · exact ⟨"_set_tag", by simp, k, hk⟩

/-- The aliases differ from each other and from all fixed names of the module. -/
theorem aliases_ne : b.setTag ≠ b.spanSource ∧
    ∀ name ∈ [Assembler.companionName t.name, "_span_source_for", "__all__"],
      b.spanSource ≠ name ∧ b.setTag ≠ name := by
  obtain ⟨j, hj⟩ := h.spanSource
  obtain ⟨k, hk⟩ := h.setTag
  rw [hj, hk]
  refine ⟨(chosen_ne 0 j k).2.2, ?_⟩
  have hne : ∀ (name : String) (c : Char), c ∈ name.toList → c ∉ "_span_source".toList →
      c ∉ "_set_tag".toList → c ≠ '_' →
        underscored "_span_source" j ≠ name ∧ underscored "_set_tag" k ≠ name := by
    intro name c hname hsource htag hc
    exact ⟨underscored_ne_of_mem hname hsource hc j, underscored_ne_of_mem hname htag hc k⟩
  have hcompanion : 'I' ∈ (Assembler.companionName t.name).toList := by
    unfold Assembler.companionName
    rw [String.toList_append, String.toList_append]
    exact List.mem_append_left _ (List.mem_append_left _ (by decide))
  intro name hname
  simp only [List.mem_cons, List.not_mem_nil, or_false] at hname
  rcases hname with rfl | rfl | rfl
  · exact hne _ 'I' hcompanion (by decide) (by decide) (by decide)
  · exact hne _ 'f' (by decide) (by decide) (by decide) (by decide)
  · exact hne _ 'l' (by decide) (by decide) (by decide) (by decide)

theorem setTag_ne : b.setTag ≠ "set_tag" := by
  obtain ⟨k, hk⟩ := h.setTag
  have hplain : underscored "set_tag" 0 = "set_tag" := by decide
  rw [hk, ← hplain]
  exact underscored_ne 1 (by decide) (by decide) (by decide) k 0

variable {form : String → String} (hform : t.writtenNames.InjOn form)

include hform

theorem lookup_imports (above : ModuleNames) {name : String} (hname : name ∈ t.writtenNames) :
    (b.imports above).lookup form name =
      if "_span_source_for" = name then some (.imported b.runtimeModule "span_source_for")
      else if b.setTag = name then some (.imported b.runtimeModule "set_tag")
      else if b.baseName = name then some (.imported b.baseModule b.baseName)
      else above.lookup form name := by
  obtain ⟨hbase, -, htag⟩ := h.mem_writtenNames
  have hfunction : "_span_source_for" ∈ t.writtenNames := Or.inl (by simp)
  unfold imports
  rw [ModuleNames.lookup_cons hform hfunction hname, ModuleNames.lookup_cons hform htag hname,
    ModuleNames.lookup_cons hform hbase hname]

/-- The base class is known behind the imports unless a name of the runtime equals its name. -/
theorem lookup_imports_baseName_iff (above : ModuleNames) :
    (b.imports above).lookup form b.baseName = some (.imported b.baseModule b.baseName) ↔
      b.baseName ≠ b.setTag ∧ b.baseName ≠ "_span_source_for" := by
  rw [h.lookup_imports hform above h.mem_writtenNames.1]
  by_cases hfunction : "_span_source_for" = b.baseName
  · have hname : "span_source_for" ≠ b.baseName := by
      rw [← hfunction]
      decide
    simp [hfunction, hname]
  · by_cases htag : b.setTag = b.baseName
    · have hname : "set_tag" ≠ b.baseName := fun heq => h.setTag_ne (htag.trans heq.symm)
      simp [hfunction, htag, hname]
    · simp [hfunction, htag, Ne.symm htag, Ne.symm hfunction]

/-- Where the class begins, the function that sets tags is known under its alias, the source of
spans is that of the base class unless a name of the runtime equals the name of the base class, and
the base class is known unless one of the three names equals its own. -/
theorem lookup_names (above : ModuleNames) :
    (b.names form above).lookup form b.setTag = some (.imported b.runtimeModule "set_tag") ∧
      ((b.names form above).lookup form b.spanSource =
          some (.result (some (.imported b.runtimeModule "span_source_for"))
            (some (.imported b.baseModule b.baseName))) ↔
        b.baseName ≠ b.setTag ∧ b.baseName ≠ "_span_source_for") ∧
      ((b.names form above).lookup form b.baseName = some (.imported b.baseModule b.baseName) ↔
        b.baseName ≠ b.spanSource ∧ b.baseName ≠ b.setTag ∧ b.baseName ≠ "_span_source_for") := by
  obtain ⟨hbase, hsource, htag⟩ := h.mem_writtenNames
  obtain ⟨hdiffer, hfixed⟩ := h.aliases_ne
  obtain ⟨hsourceFixed, htagFixed⟩ := hfixed "_span_source_for" (by simp)
  have hfunction : "_span_source_for" ∈ t.writtenNames := Or.inl (by simp)
  have hstep : ∀ name ∈ t.writtenNames, (b.names form above).lookup form name =
      if b.spanSource = name then some (.result ((b.imports above).lookup form "_span_source_for")
        ((b.imports above).lookup form b.baseName))
      else (b.imports above).lookup form name :=
    fun name hname => ModuleNames.lookup_cons hform hsource hname _ _
  refine ⟨?_, ?_, ?_⟩
  · rw [hstep _ htag, if_neg hdiffer.symm, h.lookup_imports hform above htag, if_neg htagFixed.symm,
      if_pos rfl]
  · rw [hstep _ hsource, if_pos rfl, h.lookup_imports hform above hfunction, if_pos rfl,
      ← h.lookup_imports_baseName_iff hform above]
    simp
  · rw [hstep _ hbase, ← h.lookup_imports_baseName_iff hform above]
    by_cases heq : b.spanSource = b.baseName
    · simp [heq]
    · simp [heq, Ne.symm heq]

end Binding.ChosenFor

/-! ## Overrides and classes -/

/-- What the aliases mean in an override. No parameter hides them, nor does the span; the receiver
hides an alias if it has its name. -/
structure MethodNode.SeesAliases (form : String → String) (b : Binding) (m : Member)
    (e : MethodNode) : Prop extends e.KeepsApart b m where
  spanSource : ∀ (V : Type) (values : String → V),
    (e.scope form b m values).lookup b.spanSource = some .spanSource ↔
      Assembler.receiverName m ≠ b.spanSource
  setTag : ∀ (V : Type) (values : String → V),
    (e.scope form b m values).lookup b.setTag = some .setTag ↔
      Assembler.receiverName m ≠ b.setTag

/-- What the names mean that a wrapper's module binds, in the head of its class and when its methods
are called. -/
structure WrapperNode.SeesBase (form : String → String) (t : LogicalType) (w : WrapperNode)
    (above : ModuleNames) : Prop where
  head : (w.binding.names form above).lookup form w.body.base =
      some (.imported t.module t.name) ↔
    t.name ≠ w.binding.spanSource ∧ t.name ≠ w.binding.setTag ∧ t.name ≠ "_span_source_for"
  spanSource : (w.names form above).lookup form w.binding.spanSource =
      some (.result (some (.imported w.binding.runtimeModule "span_source_for"))
        (some (.imported t.module t.name))) ↔
    t.name ≠ w.binding.setTag ∧ t.name ≠ "_span_source_for"
  setTag : (w.names form above).lookup form w.binding.setTag =
    some (.imported w.binding.runtimeModule "set_tag")

/-- An override of a member that is read sees the aliases, its receiver aside. -/
theorem seesAliases_of_override {form : String → String} {b : Binding} {t : LogicalType}
    {c : CollectedMethod} {taken : List String} {e : MethodNode} {m : Member}
    (hm : m ∈ t.forwardedMembers) (hread : m.IsRead) (hcollected : IsCollectedAs m c)
    (hform : t.writtenNames.InjOn form)
    (hsource : b.spanSource = (Aliases.avoiding {} taken).spanSource)
    (htag : b.setTag = (Aliases.avoiding {} taken).setTag)
    (h : (Aliases.avoiding {} taken).override c.member.name c.member.type c.signature
      (Assembler.receiverName c.member) = .ok e) : e.SeesAliases form b m := by
  have hnames : m.Nameable form := ⟨hread.name, hread.receiver, hread.parameters, fun x y hx hy =>
    hform (LogicalType.mem_writtenNames_of_involves hm hx)
      (LogicalType.mem_writtenNames_of_involves hm hy)⟩
  have hhands := handsOn_of_override hnames hcollected hsource htag h
  have hspan : m.Involves e.spanVariable := by
    obtain ⟨i, hi, -⟩ := uniqueName_spec spanVariable
      (splitForwarding c.signature.forwarding ++ [Assembler.receiverName c.member])
    rw [(Aliases.override_eq_ok h).2.2.2]
    exact hi ▸ involves_underscored (by simp [spanVariable])
  have hreceiver : ∀ (V : Type) (values : String → V),
      (e.scope form b m values).lookup (Assembler.receiverName m) =
        some (.value (values (form (Assembler.receiverName m)))) :=
    fun V values => lookup_bound hnames hhands.toKeepsApart hspan values _ List.mem_cons_self
  refine { hhands.toKeepsApart with spanSource := ?_, setTag := ?_ }
  · intro V values
    refine ⟨?_, (hhands.runtime V values).1⟩
    rintro hlookup heq
    rw [← heq, hreceiver] at hlookup
    cases hlookup
  · intro V values
    refine ⟨?_, (hhands.runtime V values).2⟩
    rintro hlookup heq
    rw [← heq, hreceiver] at hlookup
    cases hlookup

namespace Assembler

variable {a : Assembler} {t : LogicalType} {members : CollectedMembers} {node : WrapperNode}

theorem chosenFor_of_parts (haliases : a.aliases = {}) (h : a.parts t members = .ok node) :
    node.binding.ChosenFor t ∧ node.body.base = t.name ∧ node.body.name = companionName t.name := by
  obtain ⟨hname, hsource, htag, -⟩ := parts_eq_ok h
  rw [haliases] at hsource htag
  obtain ⟨j, hj, -⟩ := uniqueName_spec "_span_source" (takenNames members.methods)
  obtain ⟨k, hk, -⟩ := uniqueName_spec "_set_tag" (takenNames members.methods)
  unfold parts at h
  obtain ⟨methods, -, h⟩ := Traced.except_bind_eq_ok.mp h
  cases h
  exact ⟨⟨rfl, rfl, ⟨j, hsource.trans hj⟩, ⟨k, htag.trans hk⟩⟩, rfl, hname⟩

/-- The names that a wrapper's module binds keep their meanings but for the name of the base. -/
theorem seesBase_of_parts {form : String → String} (haliases : a.aliases = {})
    (hform : t.writtenNames.InjOn form) (h : a.parts t members = .ok node) (above : ModuleNames) :
    node.SeesBase form t above := by
  obtain ⟨hchosen, hbase, hname⟩ := chosenFor_of_parts haliases h
  obtain ⟨-, hsource, htag⟩ := hchosen.mem_writtenNames
  obtain ⟨htagNames, hsourceNames, hhead⟩ := hchosen.lookup_names hform above
  rw [hchosen.baseModule, hchosen.baseName] at hsourceNames hhead
  -- neither the class nor the list of what is offered takes an alias over
  have hlater : ∀ name ∈ t.writtenNames, companionName t.name ≠ name → "__all__" ≠ name →
      (node.names form above).lookup form name =
        (node.binding.names form above).lookup form name := by
    intro name hwritten hcompanion hall
    unfold WrapperNode.names
    rw [ModuleNames.lookup_cons hform (Or.inl (by simp)) hwritten, if_neg hall, hname,
      ModuleNames.lookup_cons hform (Or.inl (by simp)) hwritten, if_neg hcompanion]
  have hfixed := hchosen.aliases_ne.2
  have hcompanion := hfixed (companionName t.name) (by simp)
  have hall := hfixed "__all__" (by simp)
  refine ⟨?_, ?_, ?_⟩
  · rw [hbase]
    exact hhead
  · rw [hlater _ hsource hcompanion.1.symm hall.1.symm]
    exact hsourceNames
  · rw [hlater _ htag hcompanion.2.symm hall.2.symm]
    exact htagNames

/-- Let a form of names tell the names apart that a wrapper of a type from sources may write. In an
assembled wrapper with the usual aliases, no parameter of any override is an alias, and each alias
means in an override what the module binds it to, exactly if the receiver of the override does not
have its name. Whatever was imported above, the head of the class names the base class exactly if
the name of the base is none of the other names that are bound for the wrapper, and the source of
spans is that of the base class exactly if the name of the base is none of those that the runtime's
functions have. -/
theorem assemble_captures_iff {ε : Type} (a : Assembler) (marker : String)
    (modules : List (SourceFile × List UInt8)) (index : SourceIndex) (c : Candidate)
    (t : LogicalType) (w : WrapperModule) (form : String → String) (haliases : a.aliases = {})
    (hindex : (SourceIndex.addSources { marker } modules : Traced ε SourceIndex).result = .ok index)
    (ht : index.resolve c = some t) (hform : t.writtenNames.InjOn form)
    (h : (a.assemble (some t)).result = .ok (.eligible, some w)) :
    ∃ members node, t.collect.result = .ok members ∧ a.parts t members = .ok node ∧
      w.text = node.render ∧
        node.binding.lines = node.binding.statements.flatMap ModuleStatement.lines ∧
          List.Forall₂ (fun c e => MethodNode.SeesAliases form node.binding c.member e)
            members.methods node.body.methods ∧
          ∀ above, node.SeesBase form t above := by
  obtain ⟨members, node, hcollect, hparts, rfl⟩ :=
    wrap_result_eq_ok.mp (assemble_result_eq_ok.mp h).2
  refine ⟨members, node, hcollect, hparts, rfl, node.binding.lines_eq, ?_,
    seesBase_of_parts haliases hform hparts⟩
  obtain ⟨-, hsource, htag, hoverrides⟩ := parts_eq_ok hparts
  rw [haliases] at hsource htag hoverrides
  refine ((List.forall₂_and_left _ _).mpr
    ⟨LogicalType.exists_isCollectedAs hcollect, hoverrides⟩).imp ?_
  rintro c e ⟨⟨m, hm, -, hcm⟩, hoverride⟩
  have hread := SourceIndex.isRead_of_resolve hindex ht hm
  have hsees := seesAliases_of_override hm hread hcm hform hsource htag hoverride
  rw [hcm.1]
  exact hsees

/-- Methods whose parameters have the names that a wrapper would add; the receiver of the second one
has the name that is added in place of a parameter's. -/
def crowdedBody : String :=
  "  def f(_self, span, _set_tag): pass\n  def g(_span_source_, _span_source): pass\n"

set_option maxRecDepth 100000 in
/-- Of the two overrides of the crowded body, the first sees its source of spans and the second does
not. -/
theorem assemble_captures_iff_crowdedBody :
    ∃ c t members node, (markedIndex crowdedBody).resolve c = some t ∧
      (assemble { currentYear := 2024 } (some t)).result =
        .ok (.eligible, some (moduleOf { currentYear := 2024 } t members node)) ∧
      members.methods.map (fun c => decide (receiverName c.member = node.binding.spanSource)) =
        [false, true] ∧
      List.Forall₂ (fun c e => MethodNode.SeesAliases id node.binding c.member e)
        members.methods node.body.methods ∧
      ∀ above, node.SeesBase id t above := by
  obtain ⟨c, -, t, members, node, ht, hassembled, hcollect, hparts, hreceivers⟩ :=
    exists_parts_of_any { currentYear := 2024 } (markedIndex crowdedBody)
      (fun _ members node => decide (members.methods.map
        (fun c => decide (receiverName c.member = node.binding.spanSource)) = [false, true]))
      (by decide +kernel)
  obtain ⟨members', node', hcollect', hparts', -, -, hoverrides, hbase⟩ := assemble_captures_iff
    { currentYear := 2024 } "Instrumentation" (markedSource crowdedBody) (markedIndex crowdedBody) c
    t _ id rfl (addSources_markedSource crowdedBody) ht (Set.injOn_id _)
    hassembled
  rw [hcollect] at hcollect'
  cases hcollect'
  rw [hparts] at hparts'
  cases hparts'
  exact ⟨c, t, members, node, ht, hassembled, of_decide_eq_true hreceivers, hoverrides, hbase⟩

/-- A method whose receiver has the name of the source of spans. -/
def capturingBody : String := "  def f(_span_source): pass\n"

set_option maxRecDepth 100000 in
/-- The receiver of the capturing body hides the source of spans, although the module could have
bound it under another name. -/
theorem assemble_captures_receiver :
    (SourceIndex.addSources { marker := "Instrumentation" } (markedSource capturingBody) :
      Traced Unit SourceIndex).result = .ok (markedIndex capturingBody) ∧
    ∃ c ∈ (markedIndex capturingBody).candidates, ∃ t members node,
      (markedIndex capturingBody).resolve c = some t ∧
      (assemble { currentYear := 2024 } (some t)).result =
        .ok (.eligible, some (moduleOf { currentYear := 2024 } t members node)) ∧
      t.collect.result = .ok members ∧ parts { currentYear := 2024 } t members = .ok node ∧
      ∃ p ∈ members.methods.zip node.body.methods,
        receiverName p.1.member = node.binding.spanSource ∧
          (p.2.scope id node.binding p.1.member id).lookup node.binding.spanSource =
            some (.value "_span_source") := by
  refine ⟨addSources_markedSource capturingBody, ?_⟩
  obtain ⟨c, hc, t, members, node, ht, hassembled, hcollect, hparts, hhidden⟩ :=
    exists_parts_of_any { currentYear := 2024 } (markedIndex capturingBody)
      (fun _ members node => (members.methods.zip node.body.methods).any fun p =>
        receiverName p.1.member = node.binding.spanSource ∧
          (p.2.scope id node.binding p.1.member id).lookup node.binding.spanSource =
            some (.value "_span_source"))
      (by decide +kernel)
  obtain ⟨p, hp, hhidden⟩ := List.any_eq_true.mp hhidden
  exact ⟨c, hc, t, members, node, ht, hassembled, hcollect, hparts, p, hp,
    of_decide_eq_true hhidden⟩

end Assembler

end SpanWeave
