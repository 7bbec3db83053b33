import SpanWeave.Proofs.ItemByItem
import SpanWeave.Proofs.Wrapper.ForwardingLists
import SpanWeave.Wrapper.Members

/-!
# What collecting members comes to

The members that a wrapper is about are the forwarded ones of all fragments, each at the first
place where its origin occurs. Collecting them ends with the first method among them that cannot be
handed on. If there is none, every method is collected with its signature and every property as it
is, and there is one warning for each member whose name has been declared before.
-/

set_option autoImplicit false

namespace SpanWeave

/-- The members whose origin no earlier member has. -/
def firstOfOrigins (members : List Member) : List Member :=
  ((withEarlier members).filter fun p => ∀ m ∈ p.1, m.origin ≠ p.2.origin).map Prod.snd

theorem firstByOrigin_eq (seen : List Location) (members : List Member) :
    firstByOrigin seen members =
      ((withEarlier members).filter fun p =>
        p.2.origin ∉ seen ∧ ∀ m ∈ p.1, m.origin ≠ p.2.origin).map Prod.snd := by
  induction members generalizing seen with
  | nil => rfl
  | cons m ms ih =>
    -- behind `m`, an origin is new if it is neither seen nor that of `m`
    have hrest : ∀ seen' : List Location, (∀ o, o ∉ seen' ↔ o ∉ seen ∧ m.origin ≠ o) →
        (((withEarlier ms).map fun p => (m :: p.1, p.2)).filter fun p =>
            p.2.origin ∉ seen ∧ ∀ m ∈ p.1, m.origin ≠ p.2.origin).map Prod.snd =
          firstByOrigin seen' ms := by
      intro seen' hnew
      rw [ih, List.filter_map, List.map_map]
      apply congrArg (List.map Prod.snd)
      apply List.filter_congr
      intro p _
      simp only [Function.comp_apply, List.forall_mem_cons, hnew, and_assoc]
    rw [firstByOrigin, withEarlier_cons, List.filter_cons]
    by_cases hseen : m.origin ∈ seen
    · have hold : ∀ o, o ∉ seen ↔ o ∉ seen ∧ m.origin ≠ o := by
        intro o
        constructor
        · intro ho
          exact ⟨ho, fun heq => ho (heq ▸ hseen)⟩
        · exact And.left
      rw [if_pos (List.contains_iff_mem.mpr hseen), if_neg (by simp [hseen]), hrest seen hold]
    · have hold : ∀ o, o ∉ m.origin :: seen ↔ o ∉ seen ∧ m.origin ≠ o := by
        intro o
        rw [List.mem_cons, not_or, and_comm, ne_comm]
      rw [if_neg (by simpa using hseen), if_pos (by simp [hseen]), List.map_cons, hrest _ hold]

/-- The members of a type that a wrapper is about, told by origins. -/
theorem LogicalType.forwardedMembers_eq (t : LogicalType) :
    t.forwardedMembers =
      firstOfOrigins ((t.fragments.flatMap Fragment.members).filter Member.isForwarded) := by
  unfold forwardedMembers firstOfOrigins
  rw [firstByOrigin_eq]
  simp

/-- What a wrapper is about is a forwarded member of one of the fragments. -/
theorem declared_of_mem_forwardedMembers {t : LogicalType} {m : Member}
    (h : m ∈ t.forwardedMembers) :
    m ∈ t.fragments.flatMap Fragment.members ∧ m.isForwarded = true := by
  rw [t.forwardedMembers_eq] at h
  obtain ⟨p, hp, rfl⟩ := List.mem_map.mp h
  obtain ⟨⟨m, i⟩, hi, rfl⟩ := List.mem_map.mp (List.mem_filter.mp hp).1
  exact List.mem_filter.mp (List.fst_mem_of_mem_zipIdx hi)

/-! ## Methods that cannot be handed on -/

/-- The failures of a method of a type that cannot be handed on. An asynchronous method fails for
that reason whatever its parameters are. -/
inductive Member.FailsWith (typeName : String) (m : Member) : GenerationError → Prop
  | async (hmethod : m.kind = .method) (hasync : m.isAsync = true) :
    FailsWith typeName m (.asyncMethod m.name typeName m.origin)
  | defective {p : ParameterList} {d : Defect} (hmethod : m.kind = .method)
    (hsync : m.isAsync = false) (hparameters : m.parameters = some p) (hdefect : p.defect = some d)
    (hreason : d.reason ≠ "") :
    FailsWith typeName m (.unforwardableMethod m.name typeName p.text d m.origin)

/-- A member that cannot be handed on: a method that is asynchronous, or against whose parameters
something stands. -/
def Member.IsUnforwardable (m : Member) : Prop :=
  m.kind = .method ∧ (m.isAsync = true ∨
    ∃ p d, m.parameters = some p ∧ p.defect = some d ∧ d.reason ≠ "")

variable {m : Member} {typeName : String}

theorem Member.isUnforwardable_iff : m.IsUnforwardable ↔ ∃ e, m.FailsWith typeName e := by
  constructor
  · rintro ⟨hmethod, hcause⟩
    cases hasync : m.isAsync with
    | true => exact ⟨_, .async hmethod hasync⟩
    | false =>
      rw [hasync] at hcause
      obtain ⟨p, d, hp, hd, hreason⟩ := hcause.resolve_left (by decide)
      exact ⟨_, .defective hmethod hasync hp hd hreason⟩
  · rintro ⟨e, hfails⟩
    cases hfails with
    | async hmethod hasync => exact ⟨hmethod, Or.inl hasync⟩
    | defective hmethod _ hp hd hreason => exact ⟨hmethod, Or.inr ⟨_, _, hp, hd, hreason⟩⟩

/-- A failure of a method knows the origin of the method, and its code tells the two causes apart. -/
theorem Member.FailsWith.report {e : GenerationError} (h : m.FailsWith typeName e) :
    e.origin? = some m.origin ∧
      e.code = if m.isAsync then "unsupported-member" else "malformed-signature" := by
  cases h with
  | async _ hasync => exact ⟨rfl, by rw [hasync]; rfl⟩
  | defective _ hsync => exact ⟨rfl, by rw [hsync]; rfl⟩

theorem ParameterList.flaw?_eq_some_iff {p : ParameterList} {d : Defect} :
    p.flaw? = some d ↔ p.defect = some d ∧ d.reason ≠ "" := by
  unfold flaw?
  rw [Option.filter_eq_some_iff]
  simp

/-- A method that cannot be handed on is not collected, and any other one is. -/
theorem CollectedMethod.ofMember_cases (typeName : String) (hmethod : m.kind = .method) :
    (∃ e, m.FailsWith typeName e ∧ ofMember typeName m = .error e) ∨
      ¬ m.IsUnforwardable ∧ ∃ s, Signature.ofParameters m.parameters = .ok s ∧
        ofMember typeName m = .ok ⟨m, s⟩ := by
  unfold ofMember
  cases hasync : m.isAsync with
  | true => exact Or.inl ⟨_, .async hmethod hasync, rfl⟩
  | false =>
    cases hp : m.parameters with
    | none =>
      refine Or.inr ⟨?_, _, rfl, rfl⟩
      rintro ⟨-, hcause⟩
      simp [hasync, hp] at hcause
    | some p =>
      cases hflaw : p.flaw? with
      | some d =>
        obtain ⟨hd, hreason⟩ := ParameterList.flaw?_eq_some_iff.mp hflaw
        refine Or.inl ⟨_, .defective hmethod hasync hp hd hreason, ?_⟩
        simp [Signature.ofParameters, hflaw]
      | none =>
        have hnone : ¬ m.IsUnforwardable := by
          rintro ⟨-, hcause⟩
          rw [hasync] at hcause
          obtain ⟨p', d, hp', hd⟩ := hcause.resolve_left (by decide)
          rw [hp, Option.some.injEq] at hp'
          subst hp'
          rw [← ParameterList.flaw?_eq_some_iff, hflaw] at hd
          cases hd
        refine Or.inr ⟨hnone, ⟨p.text, joinForwarding (trimmedNames
          (p.parameters.map Parameter.name))⟩, ?_, ?_⟩
        · simp [Signature.ofParameters, hflaw]
        · simp [Signature.ofParameters, hflaw]

/-! ## Names that are declared again -/

/-- The warning about a member whose name an earlier member has. -/
def redeclared (typeName : String) (m previous : Member) : Record :=
  ⟨.warning, memberSpeaker,
    typeName ++ " declares '" ++ m.name ++ "' at " ++ previous.origin.text ++ " and "
      ++ m.origin.text ++ "; the later declaration wins"⟩

/-- The warnings about members behind some earlier ones, the latest of which come first. -/
def redeclarationsAfter (typeName : String) (earlier members : List Member) : List Record :=
  (withEarlier members).filterMap fun p =>
    ((p.1.reverse ++ earlier).find? fun m => m.name == p.2.name).map (redeclared typeName p.2)

/-- The warnings about members: one for each member whose name has been declared before, and it
names the closest earlier declaration. -/
def redeclarations (typeName : String) (members : List Member) : List Record :=
  (withEarlier members).filterMap fun p =>
    (p.1.reverse.find? fun m => m.name == p.2.name).map (redeclared typeName p.2)

theorem noteRepeated_eq (typeName : String) (m : Member) (earlier : List Member) :
    noteRepeated typeName m earlier =
      ⟨((earlier.find? fun e => e.name == m.name).map (redeclared typeName m)).toList, .ok ()⟩ := by
  unfold noteRepeated previousOf
  cases earlier.find? fun e => e.name == m.name <;> rfl

theorem redeclarationsAfter_cons (typeName : String) (earlier : List Member) (m : Member)
    (ms : List Member) :
    redeclarationsAfter typeName earlier (m :: ms) =
      (noteRepeated typeName m earlier).log ++ redeclarationsAfter typeName (m :: earlier) ms := by
  rw [redeclarationsAfter, withEarlier_cons, List.filterMap_cons, List.filterMap_map,
    noteRepeated_eq]
  have hrest : (withEarlier ms).filterMap ((fun p =>
        ((p.1.reverse ++ earlier).find? fun m => m.name == p.2.name).map
          (redeclared typeName p.2)) ∘ fun p : List Member × Member => (m :: p.1, p.2)) =
      redeclarationsAfter typeName (m :: earlier) ms := by
    apply List.filterMap_congr
    intro p _
    simp only [Function.comp_apply, List.reverse_cons, List.append_assoc, List.singleton_append]
  rw [hrest]
  cases hprevious : earlier.find? fun e => e.name == m.name <;> simp [hprevious]

/-! ## Signatures -/

/-- The signature of a method with a parameter list, or without one. A list against which nothing
stands is repeated word for word, and the names in it that are not blank are handed on in order,
trimmed. Without a list there is nothing to hand on. -/
inductive Signature.Repeats : Option ParameterList → Signature → Prop
  | nothing : Repeats none ⟨"()", ""⟩
  | list {p : ParameterList} (h : ∀ d, p.defect = some d → d.reason = "") :
    Repeats (some p) ⟨p.text, String.intercalate ", "
      (((p.parameters.map Parameter.name).filter fun n => !Text.isBlankText n).map Text.strip)⟩

theorem Signature.repeats_iff {p? : Option ParameterList} {s : Signature} :
    s.Repeats p? ↔ ofParameters p? = .ok s := by
  have hflaw : ∀ {p : ParameterList}, p.flaw? = none ↔ ∀ d, p.defect = some d → d.reason = "" := by
    intro p
    rw [Option.eq_none_iff_forall_ne_some]
    simp only [Ne, ParameterList.flaw?_eq_some_iff, not_and, not_not]
  constructor
  · intro h
    cases h with
    | nothing => rfl
    | list h => rw [ofParameters_of_flaw?_eq_none (hflaw.mpr h), trimmedNames_eq, joinForwarding]
  · intro h
    cases p? with
    | none =>
      cases h
      exact .nothing
    | some p =>
      cases hp : p.flaw? with
      | some d =>
        unfold ofParameters at h
        simp only [hp] at h
        cases h
      | none =>
        rw [ofParameters_of_flaw?_eq_none hp, trimmedNames_eq, joinForwarding] at h
        cases h
        exact .list (hflaw.mp hp)

/-! ## Collecting -/

/-- A method with the signature that its parameters give. -/
def IsCollectedAs (m : Member) (c : CollectedMethod) : Prop :=
  c.member = m ∧ c.signature.Repeats m.parameters

/-- Collecting forwarded members fails at the first one that cannot be handed on, or collects them
all. -/
theorem collectFrom_cases (typeName : String) (members : List Member)
    (hforwarded : ∀ m ∈ members, m.isForwarded = true) (earlier : List Member) :
    (∃ before m after e, members = before ++ m :: after ∧ (∀ b ∈ before, ¬ b.IsUnforwardable) ∧
        m.FailsWith typeName e ∧ (collectFrom typeName earlier members).result = .error e) ∨
      (∀ m ∈ members, ¬ m.IsUnforwardable) ∧ ∃ methods,
        (collectFrom typeName earlier members).result =
            .ok (methods, members.filter fun m => m.kind = .property) ∧
          List.Forall₂ IsCollectedAs (members.filter fun m => m.kind = .method) methods ∧
            (collectFrom typeName earlier members).log =
              redeclarationsAfter typeName earlier members := by
  induction members generalizing earlier with
  | nil => exact Or.inr ⟨by simp, [], rfl, .nil, rfl⟩
  | cons m ms ih =>
    obtain ⟨hm, hms⟩ := List.forall_mem_cons.mp hforwarded
    have hnote := noteRepeated_eq typeName m earlier
    have hnoted : (noteRepeated typeName m earlier).result = .ok () := by rw [hnote]
    cases hkind : m.kind with
    | method =>
      have hmethod : m.isForwardedMethod = true := by
        simpa [Member.isForwarded, Member.isForwardedProperty, hkind] using hm
      rw [collectFrom, if_pos hmethod]
      rcases CollectedMethod.ofMember_cases typeName hkind with
        ⟨e, hfails, herror⟩ | ⟨hfine, s, hs, hok⟩
      · refine Or.inl ⟨[], m, ms, e, rfl, by simp, hfails, ?_⟩
        exact Traced.result_bind_of_error herror _
      · have hfirst : (Traced.ofExcept (CollectedMethod.ofMember typeName m)).result =
            .ok ⟨m, s⟩ := hok
        rw [Traced.result_bind_of_ok hfirst, Traced.result_bind_of_ok hnoted,
          Traced.log_bind_of_ok hfirst, Traced.log_bind_of_ok hnoted]
        rcases ih hms (m :: earlier) with
          ⟨before, m', after, e, rfl, hbefore, hfails, herror⟩ |
            ⟨hall, methods, hresult, hmethods, hlog⟩
        · refine Or.inl ⟨m :: before, m', after, e, rfl, ?_, hfails, ?_⟩
          · exact List.forall_mem_cons.mpr ⟨hfine, hbefore⟩
          · exact Traced.result_bind_of_error herror _
        · refine Or.inr ⟨List.forall_mem_cons.mpr ⟨hfine, hall⟩, ⟨m, s⟩ :: methods, ?_, ?_, ?_⟩
          · rw [Traced.result_bind_of_ok hresult, List.filter_cons_of_neg (by simp [hkind])]
            rfl
          · rw [List.filter_cons_of_pos (by simp [hkind])]
            exact .cons ⟨rfl, Signature.repeats_iff.mpr hs⟩ hmethods
          · rw [Traced.log_bind_of_ok hresult, hlog, redeclarationsAfter_cons]
            simp [Traced.ofExcept, pure, Traced.done]
    | property =>
      have hproperty : ¬ m.isForwardedMethod = true := by
        simp [Member.isForwardedMethod, hkind]
      have hfine : ¬ m.IsUnforwardable := by
        rintro ⟨hmethod, -⟩
        rw [hkind] at hmethod
        cases hmethod
      rw [collectFrom, if_neg hproperty, Traced.result_bind_of_ok hnoted,
        Traced.log_bind_of_ok hnoted]
      rcases ih hms (m :: earlier) with
        ⟨before, m', after, e, rfl, hbefore, hfails, herror⟩ |
          ⟨hall, methods, hresult, hmethods, hlog⟩
      · refine Or.inl ⟨m :: before, m', after, e, rfl, ?_, hfails, ?_⟩
        · exact List.forall_mem_cons.mpr ⟨hfine, hbefore⟩
        · exact Traced.result_bind_of_error herror _
      · refine Or.inr ⟨List.forall_mem_cons.mpr ⟨hfine, hall⟩, methods, ?_, ?_, ?_⟩
        · rw [Traced.result_bind_of_ok hresult, List.filter_cons_of_pos (by simp [hkind])]
          rfl
        · rw [List.filter_cons_of_neg (by simp [hkind])]
          exact hmethods
        · rw [Traced.log_bind_of_ok hresult, hlog, redeclarationsAfter_cons]
          simp [pure, Traced.done]

theorem redeclarationsAfter_nil (typeName : String) (members : List Member) :
    redeclarationsAfter typeName [] members = redeclarations typeName members := by
  unfold redeclarationsAfter redeclarations
  simp only [List.append_nil]

/-- Every record about repeated names is a warning, and the summary at the end is not. -/
theorem warnings_of_collect_log (typeName : String) (members : List Member) (summary : String) :
    (redeclarations typeName members ++
        [(⟨.debug, memberSpeaker, summary⟩ : Record)]).filter (fun r => r.level = .warning) =
      redeclarations typeName members := by
  rw [List.filter_append, List.filter_cons_of_neg (by simp), List.filter_nil, List.append_nil,
    List.filter_eq_self]
  intro r hr
  obtain ⟨p, -, hp⟩ := List.mem_filterMap.mp hr
  obtain ⟨previous, -, rfl⟩ := Option.map_eq_some_iff.mp hp
  rfl

namespace LogicalType

/-- A type is collected if all its members can be handed on, and otherwise it fails for the first
one that cannot. -/
theorem collect_cases (t : LogicalType) :
    (∃ before m after e, t.forwardedMembers = before ++ m :: after ∧
        (∀ b ∈ before, ¬ b.IsUnforwardable) ∧ m.FailsWith t.name e ∧
          t.collect.result = .error e) ∨
      (∀ m ∈ t.forwardedMembers, ¬ m.IsUnforwardable) ∧ ∃ collected,
        t.collect.result = .ok collected ∧
          List.Forall₂ IsCollectedAs (t.forwardedMembers.filter fun m => m.kind = .method)
            collected.methods ∧
          collected.properties = t.forwardedMembers.filter (fun m => m.kind = .property) ∧
            t.collect.log.filter (fun r => r.level = .warning) =
              redeclarations t.name t.forwardedMembers := by
  have hforwarded : ∀ m ∈ t.forwardedMembers, m.isForwarded = true :=
    fun m hm => (declared_of_mem_forwardedMembers hm).2
  unfold collect
  rcases collectFrom_cases t.name t.forwardedMembers hforwarded [] with
    ⟨before, m, after, e, hsplit, hbefore, hfails, herror⟩ |
      ⟨hall, methods, hresult, hmethods, hlog⟩
  · exact Or.inl ⟨before, m, after, e, hsplit, hbefore, hfails,
      Traced.result_bind_of_error herror _⟩
  · rw [Traced.result_bind_of_ok hresult, Traced.log_bind_of_ok hresult, hlog,
      redeclarationsAfter_nil]
    dsimp only
    exact Or.inr ⟨hall, _, rfl, hmethods, rfl, warnings_of_collect_log _ _ _⟩

/-- What is collected are the forwarded methods with their signatures and the forwarded properties. -/
theorem collected_of_collect {t : LogicalType} {collected : CollectedMembers}
    (h : t.collect.result = .ok collected) :
    List.Forall₂ IsCollectedAs (t.forwardedMembers.filter fun m => m.kind = .method)
        collected.methods ∧
      collected.properties = t.forwardedMembers.filter fun m => m.kind = .property := by
  rcases t.collect_cases with ⟨_, _, _, _, -, -, -, herror⟩ |
      ⟨-, collected', hcollected, hmethods, hproperties, -⟩
  · rw [h] at herror
    cases herror
  · rw [h] at hcollected
    cases hcollected
    exact ⟨hmethods, hproperties⟩

/-- Every collected method is one of the forwarded methods. -/
theorem exists_isCollectedAs {t : LogicalType} {collected : CollectedMembers}
    (h : t.collect.result = .ok collected) :
    ∀ c ∈ collected.methods, ∃ m ∈ t.forwardedMembers, m.kind = .method ∧ IsCollectedAs m c := by
  intro c hc
  obtain ⟨m, hm, hcm⟩ := exists_left_of_forall₂ (collected_of_collect h).1 hc
  obtain ⟨hforwarded, hkind⟩ := List.mem_filter.mp hm
  exact ⟨m, hforwarded, of_decide_eq_true hkind, hcm⟩

/-- Let `kept` be the forwarded members of all fragments in order, without those whose origin occurs
earlier among them. Collecting fails exactly if one of them cannot be handed on. It then fails for
the first such method, at the origin of that method, and as an asynchronous one if it is
asynchronous at all. Otherwise it collects the kept methods with their signatures and the kept
properties, both in order, and the warnings that it leaves are one for each kept member whose name
has been declared before. -/
theorem collect_spec (t : LogicalType) :
    let kept := firstOfOrigins ((t.fragments.flatMap Fragment.members).filter Member.isForwarded)
    ((∃ e, t.collect.result = .error e) ↔ ∃ m ∈ kept, m.IsUnforwardable) ∧
      (∀ e, t.collect.result = .error e → ∃ before m after, kept = before ++ m :: after ∧
        (∀ b ∈ before, ¬ b.IsUnforwardable) ∧ m.FailsWith t.name e ∧
          e.origin? = some m.origin ∧
            e.code = if m.isAsync then "unsupported-member" else "malformed-signature") ∧
        ∀ collected, t.collect.result = .ok collected →
          List.Forall₂ IsCollectedAs (kept.filter fun m => m.kind = .method) collected.methods ∧
            collected.properties = kept.filter (fun m => m.kind = .property) ∧
              t.collect.log.filter (fun r => r.level = .warning) = redeclarations t.name kept := by
  intro kept
  have hkept : t.forwardedMembers = kept := t.forwardedMembers_eq
  have hcases := t.collect_cases
  rw [hkept] at hcases
  rcases hcases with ⟨before, m, after, e, hsplit, hbefore, hfails, herror⟩ |
      ⟨hall, collected, hresult, hmethods, hproperties, hlog⟩
  · rw [herror]
    refine ⟨⟨fun _ => ⟨m, ?_, Member.isUnforwardable_iff.mpr ⟨e, hfails⟩⟩, fun _ => ⟨e, rfl⟩⟩,
      ?_, ?_⟩
    · rw [hsplit]
      simp
    · intro e' he'
      cases he'
      exact ⟨before, m, after, hsplit, hbefore, hfails, hfails.report⟩
    · intro collected hcollected
      cases hcollected
  · rw [hresult]
    refine ⟨⟨?_, ?_⟩, ?_, ?_⟩
    · rintro ⟨e, he⟩
      cases he
    · rintro ⟨m, hm, hunforwardable⟩
      exact absurd hunforwardable (hall m hm)
    · intro e he
      cases he
    · intro collected' hcollected
      cases hcollected
      exact ⟨hmethods, hproperties, hlog⟩

/-- A list of two parameters, one of which is named with blanks around it. -/
def spacedList : ParameterList :=
  ⟨"(self, a: int, b=1)", some "self", [⟨"a", some "int", 0⟩, ⟨" b ", none, 1⟩], none⟩

/-- A type whose first fragment occurs twice. A private method shares its origin with a method of
the last fragment, and that method has the name of a property. The parameters of a method are given
with blanks, or not at all. -/
def overlapping : LogicalType :=
  let origin (line : Nat) : Location := ⟨"m.py", line, 5⟩
  let member (kind : MemberKind) (name : String) (isPublic : Bool) (line : Nat)
      (parameters : Option ParameterList) : Member :=
    ⟨kind, name, none, ⟨isPublic, true, false⟩, origin line, parameters, false, false⟩
  let worded : ParameterList := ⟨"(self, *, c)", some "self", [⟨"c", none, 0⟩], some .keywordOnly⟩
  let first : Fragment :=
    ⟨"m", "m.py", origin 1,
      [member .method "f" true 2 (some spacedList), member .method "_g" false 3 (some worded),
        member .property "size" true 4 none], []⟩
  let last : Fragment := ⟨"m", "m.py", origin 8, [member .method "size" true 3 none], []⟩
  ⟨"T", "", "m", origin 1, [first, first, last], true, true⟩

/-- The overlapping type is collected: three members are kept, the two methods among them with their
signatures, and the last one is reported. What stands against the private method does not matter. -/
theorem collect_spec_overlapping :
    ∃ collected, overlapping.collect.result = .ok collected ∧
      collected.properties.map Member.origin = [⟨"m.py", 4, 5⟩] ∧
        collected.methods.map CollectedMethod.signature =
          [⟨"(self, a: int, b=1)", "a, b"⟩, ⟨"()", ""⟩] ∧
          (overlapping.collect.log.filter fun r => r.level = .warning).map Record.message =
            ["T declares 'size' at m.py:4:5 and m.py:3:5; the later declaration wins"] := by
  obtain ⟨hfails, -, hcollects⟩ := collect_spec overlapping
  cases hresult : overlapping.collect.result with
  | error e =>
    obtain ⟨m, hm, -, hcause⟩ := hfails.mp ⟨e, hresult⟩
    have hsound : ∀ m ∈ firstOfOrigins ((overlapping.fragments.flatMap Fragment.members).filter
        Member.isForwarded), m.isAsync = false ∧ (m.parameters.bind ParameterList.defect) = none := by
      decide +kernel
    obtain ⟨hsync, hsoundly⟩ := hsound m hm
    obtain ⟨p, d, hp, hd, -⟩ := hcause.resolve_left (by simp [hsync])
    rw [hp, Option.bind_some, hd] at hsoundly
    cases hsoundly
  | ok collected =>
    obtain ⟨hmethods, hproperties, hlog⟩ := hcollects collected hresult
    have hlists : ((firstOfOrigins ((overlapping.fragments.flatMap Fragment.members).filter
        Member.isForwarded)).filter fun m => m.kind = .method).map Member.parameters =
          [some spacedList, none] := by
      decide +kernel
    have hsignatures : List.Forall₂ (fun p? s => Signature.ofParameters p? = .ok s)
        [some spacedList, none] (collected.methods.map CollectedMethod.signature) := by
      rw [← hlists, List.forall₂_map_left_iff, List.forall₂_map_right_iff]
      exact hmethods.imp fun _ _ h => Signature.repeats_iff.mp h.2
    refine ⟨collected, rfl, ?_, ?_, ?_⟩
    · rw [hproperties]
      decide +kernel
    · generalize collected.methods.map CollectedMethod.signature = signatures at hsignatures ⊢
      obtain _ | ⟨hboth, _ | ⟨hnone, _ | _⟩⟩ := hsignatures
      rw [← Except.ok.inj hboth, ← Except.ok.inj hnone]
      decide +kernel
    · rw [hlog]
      decide +kernel

end LogicalType

end SpanWeave
