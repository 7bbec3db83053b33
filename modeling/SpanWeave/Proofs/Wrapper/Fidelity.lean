import SpanWeave.Proofs.Wrapper.AssemblyResults
import SpanWeave.Proofs.Wrapper.BodyMeaning
import SpanWeave.Proofs.Wrapper.MemberResults
import SpanWeave.Proofs.Wrapper.UniqueNames

/-!
# Overrides hand on what they are given

An override of a method tags every argument under its own name and hands the same arguments on to
the method of the held object, in order. The names of the arguments travel as one text, and the
wrapper adds names of its own; but reading the body back gives the parameters, and none of them is
hidden, however many methods there are and whatever their parameters are called.

The wrapper tells names apart by their texts. A language that compares names in a normal form may
take a parameter for a name that the wrapper adds, so the main statement asks for a form that tells
the names of a method apart. With an ordinal indicator in a name such a form is not to be had.
-/

set_option autoImplicit false

namespace SpanWeave

/-! ## Overrides -/

theorem sortedDistinct_isEmpty_iff {names : List String} :
    (sortedDistinct names).isEmpty = true ↔ names = [] := by
  have hperm : (sortedDistinct names).Perm names.eraseDups := List.mergeSort_perm _ _
  rw [List.isEmpty_iff]
  constructor
  · intro h
    rw [h] at hperm
    cases names with
    | nil => rfl
    | cons name names =>
      rw [List.eraseDups_cons] at hperm
      cases List.nil_perm.mp hperm
  · rintro rfl
    exact List.perm_nil.mp hperm

theorem repeatedNames_isEmpty_iff {names : List String} :
    (repeatedNames names).isEmpty = true ↔ names.Nodup := by
  unfold repeatedNames
  rw [sortedDistinct_isEmpty_iff, List.filter_eq_nil_iff, List.nodup_iff_count_le_one]
  constructor
  · intro h name
    by_cases hname : name ∈ names
    · have hcount := h name hname
      simpa using hcount
    · rw [List.count_eq_zero_of_not_mem hname]
      exact Nat.zero_le 1
  · intro h name _
    simpa using h name

/-- An override is made if the names that it hands on are all different and none of them hides an
alias. -/
theorem Aliases.override_eq_ok {a : Aliases} {name : String} {type : Option String}
    {signature : Signature} {receiver : String} {e : MethodNode}
    (h : a.override name type signature receiver = .ok e) :
    let arguments := splitForwarding signature.forwarding
    arguments.Nodup ∧ a.spanSource ∉ arguments ∧ a.setTag ∉ arguments ∧
      e = { name
            signature := signature.text
            returnType := type
            spanName := name
            spanVariable := uniqueName spanVariable (arguments ++ [receiver])
            tags := arguments.map fun argument => ⟨argument, argument⟩
            call := receiver ++ "." ++ a.field ++ "." ++ name ++ "(" ++ signature.forwarding ++ ")"
            returns := !isVoid type } := by
  unfold override at h
  dsimp only at h ⊢
  split at h
  · cases h
  · rename_i hrepeated
    split at h
    · cases h
    · rename_i hshadowed
      simp only [Bool.not_eq_true', Bool.not_eq_false, repeatedNames_isEmpty_iff] at hrepeated
      simp only [Bool.not_eq_true', Bool.not_eq_false, sortedDistinct_isEmpty_iff,
        List.filter_eq_nil_iff, List.forall_mem_cons, List.contains_iff_mem] at hshadowed
      cases h
      exact ⟨hrepeated, hshadowed.1, hshadowed.2.1, rfl⟩

/-! ## The names of a method -/

namespace Member

/-- The names of the parameters behind the receiver, in order. -/
def parameterNames (m : Member) : List String :=
  match m.parameters with
  | some p => p.parameters.map Parameter.name
  | none => []

/-- The names that may stand in the override of a method: its receiver, its parameters, and all that
a wrapper may choose. -/
def Involves (m : Member) (name : String) : Prop :=
  name = Assembler.receiverName m ∨ name ∈ m.parameterNames ∨
    ∃ base ∈ ["span", "_span_source", "_set_tag"], ∃ count, name = underscored base count

/-- A method whose names are identifiers, and in whose override names of one form are one name. -/
structure Nameable (form : String → String) (m : Member) : Prop where
  name : Text.isIdentifier m.name = true
  receiver : Text.isIdentifier (Assembler.receiverName m) = true
  parameters : ∀ x ∈ m.parameterNames, Text.isIdentifier x = true
  toldApart : ∀ x y, m.Involves x → m.Involves y → form x = form y → x = y

end Member

/-- The names that the signature of a method hands on are those of its parameters. -/
theorem forwarding_of_isCollectedAs {m : Member} {c : CollectedMethod} (h : IsCollectedAs m c) :
    c.signature.forwarding = joinForwarding (trimmedNames m.parameterNames) := by
  obtain ⟨-, hsignature⟩ := h
  unfold Member.parameterNames
  generalize m.parameters = p? at hsignature ⊢
  generalize c.signature = s at hsignature ⊢
  cases hsignature with
  | nothing => rfl
  | list h => rw [← trimmedNames_eq, joinForwarding]

/-! ## What an override does -/

namespace MethodNode

/-- The names of an override are apart: its parameters from each other, and what the wrapper adds
from the parameters. -/
structure KeepsApart (globals : Binding) (m : Member) (e : MethodNode) : Prop where
  distinct : m.parameterNames.Nodup
  spanVariable : ∀ x ∈ Assembler.receiverName m :: globals.spanSource :: globals.setTag ::
    m.parameterNames, e.spanVariable ≠ x
  aliases : ∀ x ∈ m.parameterNames, x ≠ globals.spanSource ∧ x ≠ globals.setTag

/-- The scope of the body of an override whose receiver and parameters are bound to values. -/
def scope {V : Type} (e : MethodNode) (form : String → String) (globals : Binding) (m : Member)
    (values : String → V) : Scope V :=
  { form
    spanVariable := e.spanVariable
    bound := Assembler.receiverName m :: m.parameterNames
    values
    globals }

/-- What an override has to do with the method that it overrides. Whatever the receiver and the
parameters are bound to, it tags what each parameter is bound to under the name of the parameter,
calls the method of the held object with the same, and returns the result unless the method returns
nothing. The aliases mean what the wrapper binds them to unless the receiver hides them. -/
structure HandsOn (form : String → String) (globals : Binding) (m : Member) (e : MethodNode) :
    Prop extends e.KeepsApart globals m where
  name : e.name = m.name
  effect : ∀ (V : Type) (values : String → V),
    e.effect? (e.scope form globals m values) =
      some
        { tags := m.parameterNames.map fun x => (x, some (.value (values (form x))))
          receiver := some (.value (values (form (Assembler.receiverName m))))
          path := ["_impl", m.name]
          arguments := m.parameterNames.map fun x => some (.value (values (form x)))
          returns := decide (m.type.map Text.strip ≠ some "None") }
  runtime : ∀ (V : Type) (values : String → V),
    (Assembler.receiverName m ≠ globals.spanSource →
      (e.scope form globals m values).lookup globals.spanSource = some .spanSource) ∧
    (Assembler.receiverName m ≠ globals.setTag →
      (e.scope form globals m values).lookup globals.setTag = some .setTag)

end MethodNode

/-- The result of a method is returned unless it is nothing. -/
theorem not_isVoid (type : Option String) :
    (!isVoid type) = decide (type.map Text.strip ≠ some "None") := by
  cases type with
  | none => rfl
  | some t =>
    by_cases hvoid : Text.strip t = "None"
    · simp [isVoid, hvoid]
    · simp [isVoid, hvoid]

/-- The names that are chosen for an override differ from each other. -/
theorem chosen_ne (i j k : Nat) :
    underscored "span" i ≠ underscored "_span_source" j ∧
      underscored "span" i ≠ underscored "_set_tag" k ∧
        underscored "_set_tag" k ≠ underscored "_span_source" j :=
  ⟨underscored_ne 1 (by decide) (by decide) (by decide) i j,
    underscored_ne 1 (by decide) (by decide) (by decide) i k,
    underscored_ne 3 (by decide) (by decide) (by decide) k j⟩

section Overrides

variable {form : String → String} {m : Member} {globals : Binding} {e : MethodNode}

theorem involves_underscored {base : String} {count : Nat}
    (hbase : base ∈ ["span", "_span_source", "_set_tag"]) : m.Involves (underscored base count) :=
  Or.inr (Or.inr ⟨base, hbase, count, rfl⟩)

theorem lookup_bound {V : Type} (hnames : m.Nameable form) (hapart : e.KeepsApart globals m)
    (hspan : m.Involves e.spanVariable) (values : String → V) :
    ∀ x ∈ Assembler.receiverName m :: m.parameterNames,
      (e.scope form globals m values).lookup x = some (.value (values (form x))) := by
  intro x hx
  have hinvolved : m.Involves x ∧ e.spanVariable ≠ x := by
    rcases List.mem_cons.mp hx with rfl | hx
    · exact ⟨Or.inl rfl, hapart.spanVariable _ List.mem_cons_self⟩
    · exact ⟨Or.inr (Or.inl hx), hapart.spanVariable x (by simp [hx])⟩
  apply Scope.lookup_of_mem_bound hx
  intro heq
  exact hinvolved.2 (hnames.toldApart x _ hinvolved.1 hspan heq).symm

/-- The aliases mean what the wrapper binds them to unless the receiver hides them. -/
theorem lookup_aliases {V : Type} (hnames : m.Nameable form) (hapart : e.KeepsApart globals m)
    (hspan : m.Involves e.spanVariable) (hsource : m.Involves globals.spanSource)
    (htag : m.Involves globals.setTag) (hdiffer : globals.setTag ≠ globals.spanSource)
    (values : String → V) :
    (Assembler.receiverName m ≠ globals.spanSource →
      (e.scope form globals m values).lookup globals.spanSource = some .spanSource) ∧
    (Assembler.receiverName m ≠ globals.setTag →
      (e.scope form globals m values).lookup globals.setTag = some .setTag) := by
  -- a name that is none of the locals has the form of none of them
  have hglobal : ∀ name, m.Involves name → e.spanVariable ≠ name →
      (∀ x ∈ m.parameterNames, x ≠ name) → Assembler.receiverName m ≠ name →
        ∀ x ∈ e.spanVariable :: Assembler.receiverName m :: m.parameterNames,
          form name ≠ form x := by
    intro name hname hne hparameters hreceiver x hx heq
    rcases List.mem_cons.mp hx with rfl | hx
    · exact hne (hnames.toldApart _ _ hname hspan heq).symm
    · rcases List.mem_cons.mp hx with rfl | hx
      · exact hreceiver (hnames.toldApart _ _ hname (Or.inl rfl) heq).symm
      · exact hparameters x hx (hnames.toldApart _ _ hname (Or.inr (Or.inl hx)) heq).symm
  constructor
  · intro hreceiver
    have hforms := hglobal _ hsource (hapart.spanVariable _ (by simp))
      (fun x hx => (hapart.aliases x hx).1) hreceiver
    exact (Scope.lookup_globals hforms).1 rfl
  · intro hreceiver
    have hforms := hglobal _ htag (hapart.spanVariable _ (by simp))
      (fun x hx => (hapart.aliases x hx).2) hreceiver
    exact (Scope.lookup_globals hforms).2 rfl fun heq =>
      hdiffer (hnames.toldApart _ _ htag hsource heq)

/-- The effect of an override whose parameters mean what they are bound to. -/
theorem effect?_eq {V : Type} (hnames : m.Nameable form) {values : String → V}
    (htags : e.tags = m.parameterNames.map fun x => ⟨x, x⟩)
    (hcall : e.call = Assembler.receiverName m ++ "." ++ "_impl" ++ "." ++ m.name ++ "(" ++
      joinForwarding m.parameterNames ++ ")")
    (hlookup : ∀ x ∈ Assembler.receiverName m :: m.parameterNames,
      (e.scope form globals m values).lookup x = some (.value (values (form x)))) :
    e.effect? (e.scope form globals m values) =
      some
        { tags := m.parameterNames.map fun x => (x, some (.value (values (form x))))
          receiver := some (.value (values (form (Assembler.receiverName m))))
          path := ["_impl", m.name]
          arguments := m.parameterNames.map fun x => some (.value (values (form x)))
          returns := e.returns } := by
  obtain ⟨hreceiver, hparameters⟩ := List.forall_mem_cons.mp hlookup
  have htags' : e.tags.mapM (fun t => (readName? t.value).map fun name =>
      (t.key, (e.scope form globals m values).lookup name)) =
        some (m.parameterNames.map fun x => (x, some (.value (values (form x))))) := by
    apply mapM_eq_some
    rw [htags, List.forall₂_map_left_iff, List.forall₂_map_right_iff, List.forall₂_same]
    intro x hx
    rw [readName?_of_isIdentifier (hnames.parameters x hx), Option.map_some, hparameters x hx]
  have hcall' : Call.read? e.call =
      some ⟨[Assembler.receiverName m, "_impl", m.name], m.parameterNames⟩ := by
    rw [hcall]
    exact Call.read?_eq hnames.receiver (by decide) hnames.name hnames.parameters
  unfold MethodNode.effect?
  rw [htags', hcall']
  simp only [Option.bind_eq_bind, Option.bind_some, hreceiver, List.map_congr_left hparameters]
  rfl

/-- Names chosen with underscores after them are apart if they are free. -/
theorem keepsApart_of_underscored {i j k : Nat} (hspan : e.spanVariable = underscored "span" i)
    (hsource : globals.spanSource = underscored "_span_source" j)
    (htag : globals.setTag = underscored "_set_tag" k) (hdistinct : m.parameterNames.Nodup)
    (hfreeSpan : e.spanVariable ∉ m.parameterNames ++ [Assembler.receiverName m])
    (hfreeSource : globals.spanSource ∉ m.parameterNames)
    (hfreeTag : globals.setTag ∉ m.parameterNames) : e.KeepsApart globals m := by
  obtain ⟨hspanSource, hspanTag, -⟩ := chosen_ne i j k
  rw [← hspan, ← hsource] at hspanSource
  rw [← hspan, ← htag] at hspanTag
  simp only [List.mem_append, List.mem_singleton, not_or] at hfreeSpan
  refine ⟨hdistinct, ?_, fun x hx =>
    ⟨fun heq => hfreeSource (heq ▸ hx), fun heq => hfreeTag (heq ▸ hx)⟩⟩
  simp only [List.forall_mem_cons]
  exact ⟨hfreeSpan.2, hspanSource, hspanTag, fun x hx heq => hfreeSpan.1 (heq ▸ hx)⟩

/-- An override of a collected method under aliases that avoid some names hands the method on. -/
theorem handsOn_of_override {c : CollectedMethod} {taken : List String}
    (hnames : m.Nameable form) (hcollected : IsCollectedAs m c)
    (hsource : globals.spanSource = (Aliases.avoiding {} taken).spanSource)
    (htag : globals.setTag = (Aliases.avoiding {} taken).setTag)
    (h : (Aliases.avoiding {} taken).override c.member.name c.member.type c.signature
      (Assembler.receiverName c.member) = .ok e) : e.HandsOn form globals m := by
  have hforwarding : c.signature.forwarding = joinForwarding m.parameterNames := by
    rw [forwarding_of_isCollectedAs hcollected, trimmedNames_of_isIdentifier hnames.parameters]
  have hsplit : splitForwarding c.signature.forwarding = m.parameterNames := by
    rw [hforwarding, splitForwarding_joinForwarding hnames.parameters]
  obtain ⟨hdistinct, hfreeSource, hfreeTag, hmade⟩ := Aliases.override_eq_ok h
  rw [hsplit] at hdistinct hfreeSource hfreeTag hmade
  rw [← hsource] at hfreeSource
  rw [← htag] at hfreeTag
  rw [hcollected.1, hforwarding] at hmade
  -- the three names that the wrapper adds are names with underscores after them
  obtain ⟨i, hi, hfreeSpan, -⟩ :=
    uniqueName_spec spanVariable (m.parameterNames ++ [Assembler.receiverName m])
  obtain ⟨j, hj, -⟩ := uniqueName_spec "_span_source" taken
  obtain ⟨k, hk, -⟩ := uniqueName_spec "_set_tag" taken
  have hspan : e.spanVariable = underscored "span" i := by
    rw [hmade]
    exact hi
  have hsource' : globals.spanSource = underscored "_span_source" j := hsource.trans hj
  have htag' : globals.setTag = underscored "_set_tag" k := htag.trans hk
  have hinvolved : m.Involves e.spanVariable ∧ m.Involves globals.spanSource ∧
      m.Involves globals.setTag := by
    rw [hspan, hsource', htag']
    exact ⟨involves_underscored (by simp), involves_underscored (by simp),
      involves_underscored (by simp)⟩
  have hdiffer : globals.setTag ≠ globals.spanSource := by
    rw [hsource', htag']
    exact (chosen_ne i j k).2.2
  have hapart : e.KeepsApart globals m :=
    keepsApart_of_underscored hspan hsource' htag' hdistinct (hspan ▸ hfreeSpan) hfreeSource hfreeTag
  refine { hapart with name := by rw [hmade], effect := ?_, runtime := ?_ }
  · intro V values
    rw [effect?_eq hnames (by rw [hmade]) (by rw [hmade]; rfl)
      (lookup_bound hnames hapart hinvolved.1 values)]
    rw [show e.returns = !isVoid m.type by rw [hmade], not_isVoid]
  · intro V values
    exact lookup_aliases hnames hapart hinvolved.1 hinvolved.2.1 hinvolved.2.2 hdiffer values

end Overrides

/-! ## Wrappers -/

namespace Assembler

/-- Let the names of the methods that a type forwards be identifiers, and let a form of names tell
them and the names that a wrapper may add apart. If a wrapper of the type is assembled with the
usual aliases, it has one override for each collected method, in order, and every override hands its
method on. -/
theorem assemble_handsOn (a : Assembler) (t : LogicalType) (w : WrapperModule)
    (form : String → String) (haliases : a.aliases = {})
    (hnames : ∀ m ∈ t.forwardedMembers, m.kind = .method → m.Nameable form)
    (h : (a.assemble (some t)).result = .ok (.eligible, some w)) :
    ∃ members node, t.collect.result = .ok members ∧ a.parts t members = .ok node ∧
      w.text = node.render ∧
        List.Forall₂ (fun c e => MethodNode.HandsOn form node.binding c.member e)
          members.methods node.body.methods := by
  obtain ⟨members, node, hcollect, hparts, rfl⟩ :=
    wrap_result_eq_ok.mp (assemble_result_eq_ok.mp h).2
  refine ⟨members, node, hcollect, hparts, rfl, ?_⟩
  obtain ⟨-, hsource, htag, hoverrides⟩ := parts_eq_ok hparts
  rw [haliases] at hsource htag hoverrides
  -- what is known of the names is known of the forwarded members, and those are the collected ones
  have hmethods : ∀ c ∈ members.methods, ∃ m, m.Nameable form ∧ IsCollectedAs m c := by
    rcases t.collect_cases with ⟨_, _, _, _, -, -, -, herror⟩ |
        ⟨-, collected, hcollected, hmethods, -⟩
    · rw [hcollect] at herror
      cases herror
    · rw [hcollect] at hcollected
      cases hcollected
      intro c hc
      obtain ⟨m, hm, hcm⟩ := exists_left_of_forall₂ hmethods hc
      obtain ⟨hforwarded, hkind⟩ := List.mem_filter.mp hm
      exact ⟨m, hnames m hforwarded (of_decide_eq_true hkind), hcm⟩
  refine ((List.forall₂_and_left _ _).mpr ⟨hmethods, hoverrides⟩).imp ?_
  rintro c e ⟨⟨m, hnameable, hcm⟩, hoverride⟩
  have hmade := handsOn_of_override hnameable hcm hsource htag hoverride
  rw [hcm.1]
  exact hmade

/-- A type with a method for each name and list of parameter names. -/
def typeWith (methods : List (String × List String)) : LogicalType :=
  let member (p : (String × List String) × Nat) : Member :=
    let written := "(" ++ String.intercalate ", " ("self" :: p.1.2) ++ ")"
    let parameters := p.1.2.zipIdx.map fun q : String × Nat => ⟨q.1, none, q.2⟩
    ⟨.method, p.1.1, none, ⟨true, true, false⟩, ⟨"m.py", p.2 + 3, 5⟩,
      some ⟨written, some "self", parameters, none⟩, false, false⟩
  let members := methods.zipIdx.map member
  ⟨"T", "", "m", ⟨"m.py", 2, 1⟩, [⟨"m", "m.py", ⟨"m.py", 2, 1⟩, members, []⟩], true, true⟩

/-- Names with letters in place of ordinal indicators, as compatibility normalization has it. -/
def foldOrdinals (name : String) : String :=
  String.ofList (name.toList.map fun c => if c = 'ª' then 'a' else if c = 'º' then 'o' else c)

theorem foldOrdinals_eq {name : String} (h : 'ª' ∉ name.toList ∧ 'º' ∉ name.toList) :
    foldOrdinals name = name := by
  unfold foldOrdinals
  have hkept : name.toList.map (fun c => if c = 'ª' then 'a' else if c = 'º' then 'o' else c) =
      name.toList := by
    refine (List.map_congr_left fun c hc => ?_).trans (List.map_id' _)
    have hne : c ≠ 'ª' ∧ c ≠ 'º' := ⟨fun heq => h.1 (heq ▸ hc), fun heq => h.2 (heq ▸ hc)⟩
    rw [if_neg hne.1, if_neg hne.2]
  rw [hkept, String.ofList_toList]

/-- A type whose parameters have the names that a wrapper would add. -/
def adversarial : LogicalType :=
  typeWith [("widen", ["span", "_set_tag", "span_"]), ("shift", ["_span_source", "step"])]

theorem adversarial_nameable :
    ∀ m ∈ adversarial.forwardedMembers, m.kind = .method → m.Nameable foldOrdinals := by
  intro m hm _
  have hnames : ∀ m ∈ adversarial.forwardedMembers, Text.isIdentifier m.name = true ∧
      Text.isIdentifier (receiverName m) = true ∧
        ('ª' ∉ (receiverName m).toList ∧ 'º' ∉ (receiverName m).toList) ∧
          ∀ x ∈ m.parameterNames, Text.isIdentifier x = true ∧ 'ª' ∉ x.toList ∧ 'º' ∉ x.toList := by
    decide +kernel
  obtain ⟨hname, hreceiver, hreceiver', hparameters⟩ := hnames m hm
  have hfixed : ∀ x, m.Involves x → foldOrdinals x = x := by
    rintro x (rfl | hx | ⟨base, hbase, count, rfl⟩)
    · exact foldOrdinals_eq hreceiver'
    · exact foldOrdinals_eq (hparameters x hx).2
    · have hplain : ∀ base ∈ ["span", "_span_source", "_set_tag"],
          'ª' ∉ base.toList ∧ 'º' ∉ base.toList := by decide
      apply foldOrdinals_eq
      rw [toList_underscored]
      simp only [List.mem_append, List.mem_replicate, not_or, not_and]
      exact ⟨⟨(hplain base hbase).1, fun _ => by decide⟩, (hplain base hbase).2, fun _ => by decide⟩
  refine ⟨hname, hreceiver, fun x hx => (hparameters x hx).1, ?_⟩
  intro x y hx hy heq
  rw [hfixed x hx, hfixed y hy] at heq
  exact heq

set_option maxRecDepth 100000 in
/-- The overrides of the adversarial type hand both methods on. -/
theorem assemble_handsOn_adversarial :
    ∃ (w : WrapperModule) (members : CollectedMembers) (node : WrapperNode),
      (assemble { currentYear := 2024 } (some adversarial)).result = .ok (.eligible, some w) ∧
        adversarial.collect.result = .ok members ∧ members.methods.length = 2 ∧
          List.Forall₂ (fun c e => MethodNode.HandsOn foldOrdinals node.binding c.member e)
            members.methods node.body.methods := by
  -- only what can be compared is evaluated: that there is a wrapper, and how many methods it has
  have hassembled : (assemble { currentYear := 2024 } (some adversarial)).result.toOption.any
      (fun p => p.1 = .eligible && p.2.isSome) = true := by decide +kernel
  have hcollected : adversarial.collect.result.toOption.any
      (fun members => members.methods.length = 2) = true := by decide +kernel
  cases hresult : (assemble { currentYear := 2024 } (some adversarial)).result with
  | error e =>
    rw [hresult] at hassembled
    cases hassembled
  | ok p =>
    obtain ⟨verdict, w?⟩ := p
    rw [hresult] at hassembled
    simp only [Except.toOption, Option.any_some, Bool.and_eq_true, decide_eq_true_eq] at hassembled
    obtain ⟨rfl, hsome⟩ := hassembled
    obtain ⟨w, rfl⟩ := Option.isSome_iff_exists.mp hsome
    obtain ⟨members, node, hcollect, -, -, hall⟩ := assemble_handsOn { currentYear := 2024 }
      adversarial w foldOrdinals rfl adversarial_nameable hresult
    rw [hcollect] at hcollected
    exact ⟨w, members, node, rfl, hcollect, of_decide_eq_true hcollected, hall⟩

/-- A type whose only parameter is the name of a span but for an ordinal indicator. -/
def ordinal : LogicalType := typeWith [("f", ["spªn"])]

set_option maxRecDepth 100000 in
/-- Where ordinal indicators count as letters, the span hides the parameter of this name, and the
override hands the span on. -/
theorem assemble_hides_ordinal :
    (∀ m ∈ ordinal.forwardedMembers, Text.isIdentifier m.name = true ∧
        Text.isIdentifier (receiverName m) = true ∧
          ∀ x ∈ m.parameterNames, Text.isIdentifier x = true) ∧
      ∃ members node c e,
        (assemble { currentYear := 2024 } (some ordinal)).result =
            .ok (.eligible, some (moduleOf { currentYear := 2024 } ordinal members node)) ∧
          ordinal.collect.result = .ok members ∧
            parts { currentYear := 2024 } ordinal members = .ok node ∧
              members.methods = [c] ∧ node.body.methods = [e] ∧
                (e.effect? (e.scope foldOrdinals node.binding c.member id)).map Effect.arguments =
                  some [some .span] := by
  have hmade : (ordinal.collect.result.toOption.any fun members =>
      (parts { currentYear := 2024 } ordinal members).toOption.any fun node =>
        members.methods.length == 1 && node.body.methods.length == 1 &&
          (members.methods.zip node.body.methods).all fun p =>
            (p.2.effect? (p.2.scope foldOrdinals node.binding p.1.member id)).map
              Effect.arguments == some [some .span]) = true := by decide +kernel
  refine ⟨by decide +kernel, ?_⟩
  cases hcollect : ordinal.collect.result with
  | error e =>
    rw [hcollect] at hmade
    cases hmade
  | ok members =>
    cases hparts : parts { currentYear := 2024 } ordinal members with
    | error e =>
      simp [hcollect, hparts, Except.toOption] at hmade
    | ok node =>
      simp only [hcollect, hparts, Except.toOption, Option.any_some, Bool.and_eq_true,
        beq_iff_eq] at hmade
      obtain ⟨⟨hmethods, hoverrides⟩, hspan⟩ := hmade
      obtain ⟨c, hmethods⟩ := List.length_eq_one_iff.mp hmethods
      obtain ⟨e, hoverrides⟩ := List.length_eq_one_iff.mp hoverrides
      simp only [hmethods, hoverrides, List.zip_cons_cons, List.zip_nil_right, List.all_cons,
        List.all_nil, Bool.and_true, beq_iff_eq] at hspan
      refine ⟨members, node, c, e, ?_, rfl, hparts, hmethods, hoverrides, hspan⟩
      exact assemble_result_eq_ok.mpr
        ⟨by decide +kernel, wrap_result_eq_ok.mpr ⟨members, node, hcollect, hparts, rfl⟩⟩

end Assembler

end SpanWeave
