import Mathlib.Data.Set.Function
import SpanWeave.Proofs.ItemByItem
import SpanWeave.Proofs.Wrapper.AssemblyResults
import SpanWeave.Proofs.Wrapper.MemberResults

/-!
# Members that stand elsewhere

The place of a member tells it apart from the other members of its type, and a failure is reported
there. For the rest of a wrapper it does not matter where its members stand, nor whether a property
has a setter. So two types are compared here whose members correspond one by one, with other places
and other setters. As long as different places stay different, the wrapper of one is that of the
other to the letter, or both fail with the same words.
-/

set_option autoImplicit false

namespace SpanWeave

/-! ## Corresponding types -/

/-- A member that was moved, and that may have got or lost a setter. -/
def Member.MovedBy (move : Location → Location) (m n : Member) : Prop :=
  ∃ hasSetter, n = { m with origin := move m.origin, hasSetter }

/-- A fragment whose members were moved. Its imports stay; its own place is not asked for. -/
structure Fragment.MovedBy (move : Location → Location) (f g : Fragment) : Prop where
  members : List.Forall₂ (Member.MovedBy move) f.members g.members
  imports : g.imports = f.imports

/-- A type whose members were moved. -/
structure LogicalType.MovedBy (move : Location → Location) (t u : LogicalType) : Prop where
  fragments : List.Forall₂ (Fragment.MovedBy move) t.fragments u.fragments
  same : u = { t with fragments := u.fragments }

/-- The places of the members of a type. -/
def LogicalType.places (t : LogicalType) : Set Location :=
  { l | ∃ f ∈ t.fragments, ∃ m ∈ f.members, m.origin = l }

/-- The same failure of a member that was moved. -/
def GenerationError.movedBy (move : Location → Location) : GenerationError → GenerationError
  | unforwardableMethod method type text defect origin =>
    unforwardableMethod method type text defect (move origin)
  | asyncMethod method type origin => asyncMethod method type (move origin)
  | e => e

/-- A moved failure is of the same class and has the same words; only its place is another one. -/
theorem GenerationError.movedBy_report (move : Location → Location) (e : GenerationError) :
    (e.movedBy move).code = e.code ∧ (e.movedBy move).message = e.message ∧
      (e.movedBy move).origin? = e.origin?.map move := by
  cases e <;> exact ⟨rfl, rfl, rfl⟩

/-- Two computations that both succeed with related results, or both fail with the same failure but
for its place. -/
inductive Corresponds {α β : Type} (move : Location → Location) (R : α → β → Prop) :
    Except GenerationError α → Except GenerationError β → Prop
  | ok {a : α} {b : β} (h : R a b) : Corresponds move R (.ok a) (.ok b)
  | error (e : GenerationError) : Corresponds move R (.error e) (.error (e.movedBy move))

section

variable {α β γ δ : Type} {move : Location → Location} {R : α → β → Prop} {S : γ → δ → Prop}

theorem Corresponds.bind {x : Except GenerationError α} {y : Except GenerationError β}
    {f : α → Except GenerationError γ} {g : β → Except GenerationError δ}
    (h : Corresponds move R x y) (hnext : ∀ a b, R a b → Corresponds move S (f a) (g b)) :
    Corresponds move S (x >>= f) (y >>= g) := by
  cases h with
  | ok h => exact hnext _ _ h
  | error e => exact .error e

/-- Steps that correspond item by item correspond as a whole. -/
theorem Corresponds.mapM {as : List α} {bs : List β} {f : α → Except GenerationError γ}
    {g : β → Except GenerationError δ} (h : List.Forall₂ R as bs)
    (hstep : ∀ a b, R a b → Corresponds move S (f a) (g b)) :
    Corresponds move (List.Forall₂ S) (as.mapM f) (bs.mapM g) := by
  induction h with
  | nil => exact .ok .nil
  | cons hab _ ih =>
    rw [List.mapM_cons, List.mapM_cons]
    refine (hstep _ _ hab).bind fun c d hcd => ih.bind fun cs ds hrest => ?_
    exact .ok (.cons hcd hrest)

end

/-! ## Members -/

variable {move : Location → Location} {m n : Member} {ms ns : List Member}

theorem Member.MovedBy.isForwardedMethod_eq (h : m.MovedBy move n) :
    n.isForwardedMethod = m.isForwardedMethod := by
  obtain ⟨_, rfl⟩ := h
  rfl

theorem Member.MovedBy.isForwarded_eq (h : m.MovedBy move n) :
    n.isForwarded = m.isForwarded := by
  obtain ⟨_, rfl⟩ := h
  rfl

/-- The first members of their places correspond if different places stay different. -/
theorem firstByOrigin_moved {places : Set Location} (hinj : Set.InjOn move places)
    (h : List.Forall₂ (Member.MovedBy move) ms ns) (hms : ∀ m ∈ ms, m.origin ∈ places)
    {seen : List Location} (hseen : ∀ l ∈ seen, l ∈ places) :
    List.Forall₂ (Member.MovedBy move) (firstByOrigin seen ms)
      (firstByOrigin (seen.map move) ns) := by
  induction h generalizing seen with
  | nil => exact .nil
  | @cons m n ms ns hfirst _ ih =>
    obtain ⟨hm, hrest⟩ := List.forall_mem_cons.mp hms
    have horigin : n.origin = move m.origin := by
      obtain ⟨_, rfl⟩ := hfirst
      rfl
    have hmem : n.origin ∈ seen.map move ↔ m.origin ∈ seen := by
      rw [horigin, List.mem_map]
      constructor
      · rintro ⟨l, hl, heq⟩
        rwa [← hinj (hseen l hl) hm heq]
      · intro hold
        exact ⟨_, hold, rfl⟩
    have hcontains : (seen.map move).contains n.origin = seen.contains m.origin := by
      rw [Bool.eq_iff_iff, List.contains_iff_mem, List.contains_iff_mem]
      exact hmem
    rw [firstByOrigin, firstByOrigin, hcontains]
    split
    · exact ih hrest hseen
    · rw [horigin]
      exact .cons hfirst (ih hrest (List.forall_mem_cons.mpr ⟨hm, hseen⟩))

/-- A collected method of a member that was moved. -/
def CollectedMethod.MovedBy (move : Location → Location) (c d : CollectedMethod) : Prop :=
  c.member.MovedBy move d.member ∧ d.signature = c.signature

theorem ofMember_corresponds (typeName : String) (h : m.MovedBy move n) :
    Corresponds move (CollectedMethod.MovedBy move) (CollectedMethod.ofMember typeName m)
      (CollectedMethod.ofMember typeName n) := by
  obtain ⟨kind, name, type, modifiers, origin, parameters, isAsync, _⟩ := m
  obtain ⟨hasSetter, rfl⟩ := h
  unfold CollectedMethod.ofMember Signature.ofParameters
  dsimp only
  split
  · exact .error _
  · cases parameters with
    | none => exact .ok ⟨⟨hasSetter, rfl⟩, rfl⟩
    | some p =>
      dsimp only
      cases p.flaw? with
      | none => exact .ok ⟨⟨hasSetter, rfl⟩, rfl⟩
      | some defect => exact .error (.unforwardableMethod ..)

/-- Methods and properties that are collected from members that were moved. -/
def CollectedMovedBy (move : Location → Location) (p q : List CollectedMethod × List Member) :
    Prop :=
  List.Forall₂ (CollectedMethod.MovedBy move) p.1 q.1 ∧ List.Forall₂ (Member.MovedBy move) p.2 q.2

/-- Collecting corresponding members, in step. Which members came earlier matters for the records
only. -/
theorem collectFrom_corresponds (typeName : String)
    (h : List.Forall₂ (Member.MovedBy move) ms ns) (earlier earlier' : List Member) :
    Corresponds move (CollectedMovedBy move) (collectFrom typeName earlier ms).result
      (collectFrom typeName earlier' ns).result := by
  induction h generalizing earlier earlier' with
  | nil => exact .ok ⟨.nil, .nil⟩
  | @cons m n ms ns hfirst _ ih =>
    have hnote : ∀ (m : Member) (earlier : List Member),
        (noteRepeated typeName m earlier).result = .ok () := by
      intro m earlier
      unfold noteRepeated
      split <;> rfl
    rw [collectFrom, collectFrom, hfirst.isForwardedMethod_eq]
    split
    · rw [Traced.result_bind, Traced.result_bind]
      refine (ofMember_corresponds typeName hfirst).bind ?_
      intro c d hcd
      rw [Traced.result_bind_of_ok (hnote _ _), Traced.result_bind_of_ok (hnote _ _),
        Traced.result_bind, Traced.result_bind]
      refine (ih _ _).bind ?_
      rintro ⟨methods, properties⟩ ⟨methods', properties'⟩ ⟨hmethods, hproperties⟩
      exact .ok ⟨.cons hcd hmethods, hproperties⟩
    · rw [Traced.result_bind_of_ok (hnote _ _), Traced.result_bind_of_ok (hnote _ _),
        Traced.result_bind, Traced.result_bind]
      refine (ih _ _).bind ?_
      rintro ⟨methods, properties⟩ ⟨methods', properties'⟩ ⟨hmethods, hproperties⟩
      exact .ok ⟨hmethods, .cons hfirst hproperties⟩

/-! ## Types -/

/-- Collected members of which those of a type were moved; the imports are the same. -/
structure CollectedMembers.MovedBy (move : Location → Location) (c d : CollectedMembers) : Prop where
  methods : List.Forall₂ (CollectedMethod.MovedBy move) c.methods d.methods
  properties : List.Forall₂ (Member.MovedBy move) c.properties d.properties
  imports : d.imports = c.imports

namespace LogicalType

variable {t u : LogicalType}

theorem MovedBy.forwardedMembers (h : t.MovedBy move u) (hinj : Set.InjOn move t.places) :
    List.Forall₂ (Member.MovedBy move) t.forwardedMembers u.forwardedMembers := by
  have hmembers : List.Forall₂ (Member.MovedBy move) (t.fragments.flatMap Fragment.members)
      (u.fragments.flatMap Fragment.members) :=
    List.rel_flatMap h.fragments fun _ _ hfragment => hfragment.members
  have hforwarded := List.rel_filter (p := Member.isForwarded) (q := Member.isForwarded)
    (fun _ _ hmoved => Bool.eq_iff_iff.mp hmoved.isForwarded_eq.symm) hmembers
  refine firstByOrigin_moved hinj hforwarded ?_ (List.forall_mem_nil _)
  intro m hm
  obtain ⟨f, hf, hmem⟩ := List.mem_flatMap.mp (List.mem_filter.mp hm).1
  exact ⟨f, hf, m, hmem, rfl⟩

theorem MovedBy.imports (h : t.MovedBy move u) :
    mergeImports u.fragments = mergeImports t.fragments := by
  have himports : t.fragments.map Fragment.imports = u.fragments.map Fragment.imports :=
    map_eq_of_forall₂ h.fragments fun _ _ hfragment => hfragment.imports.symm
  unfold mergeImports
  rw [List.flatMap_def, List.flatMap_def, himports]

theorem MovedBy.collect (h : t.MovedBy move u) (hinj : Set.InjOn move t.places) :
    Corresponds move (CollectedMembers.MovedBy move) t.collect.result u.collect.result := by
  have hname : u.name = t.name := by rw [h.same]
  unfold LogicalType.collect
  rw [Traced.result_bind, Traced.result_bind, hname]
  refine (collectFrom_corresponds t.name (h.forwardedMembers hinj) [] []).bind ?_
  rintro ⟨methods, properties⟩ ⟨methods', properties'⟩ ⟨hmethods, hproperties⟩
  exact .ok ⟨hmethods, hproperties, h.imports⟩

end LogicalType

/-! ## Wrappers -/

namespace Assembler

variable {t u : LogicalType} {c d : CollectedMembers}

/-- The names that methods hand on are those of the moved methods. -/
theorem takenNames_moved {methods methods' : List CollectedMethod}
    (h : List.Forall₂ (CollectedMethod.MovedBy move) methods methods') :
    takenNames methods' = takenNames methods := by
  unfold takenNames
  rw [List.flatMap_def, List.flatMap_def]
  refine congrArg List.flatten (map_eq_of_forall₂ h ?_).symm
  rintro c d ⟨-, hsignature⟩
  rw [hsignature]

/-- An override has no place, and neither has the failure to make one. -/
theorem override_corresponds (aliases : Aliases) {c d : CollectedMethod} (h : c.MovedBy move d) :
    Corresponds move (· = ·)
      (aliases.override c.member.name c.member.type c.signature (receiverName c.member))
      (aliases.override d.member.name d.member.type d.signature (receiverName d.member)) := by
  obtain ⟨member, signature⟩ := d
  obtain ⟨⟨hasSetter, rfl⟩, rfl⟩ := h
  unfold Aliases.override receiverName
  dsimp only
  split
  · exact .error _
  · split
    · exact .error _
    · exact .ok rfl

theorem parts_corresponds (a : Assembler) (h : t.MovedBy move u) (hmembers : c.MovedBy move d) :
    Corresponds move (· = ·) (a.parts t c) (a.parts u d) := by
  have hproperties : d.properties.map (fun p => PropertyNode.mk p.name p.type) =
      c.properties.map fun p => ⟨p.name, p.type⟩ := by
    refine (map_eq_of_forall₂ hmembers.properties ?_).symm
    rintro m _ ⟨hasSetter, rfl⟩
    rfl
  unfold parts
  rw [h.same, takenNames_moved hmembers.methods, hproperties, hmembers.imports]
  refine (Corresponds.mapM hmembers.methods fun _ _ => override_corresponds _).bind ?_
  intro methods methods' hmethods
  rw [List.forall₂_eq_eq_eq] at hmethods
  subst hmethods
  exact .ok rfl

/-- The wrapper of a type whose members were moved is the same wrapper. -/
theorem wrap_corresponds (a : Assembler) (h : t.MovedBy move u)
    (hinj : Set.InjOn move t.places) :
    Corresponds move (· = ·) (a.wrap t).result (a.wrap u).result := by
  unfold wrap
  rw [Traced.result_bind, Traced.result_bind]
  refine (h.collect hinj).bind ?_
  intro c d hcd
  rw [Traced.result_bind, Traced.result_bind]
  refine (a.parts_corresponds h hcd).bind ?_
  rintro node _ rfl
  refine .ok ?_
  unfold moduleOf
  rw [h.same, hcd.imports]
  rfl

/-- Let the members of an eligible type be moved to other places, different ones to different ones,
and let its properties get or lose setters. Either assembling fails for both types, with the same
class and words of failure, or it yields the same wrapper for both. -/
theorem assemble_moved (a : Assembler) (t u : LogicalType) (move : Location → Location)
    (heligible : Verdict.ofType? (some t) = .eligible) (h : t.MovedBy move u)
    (hinj : Set.InjOn move t.places) :
    (∃ e e', (a.assemble (some t)).result = .error e ∧ (a.assemble (some u)).result = .error e' ∧
        e'.code = e.code ∧ e'.message = e.message ∧ e'.origin? = e.origin?.map move) ∨
      ∃ w, (a.assemble (some t)).result = .ok (.eligible, some w) ∧
        (a.assemble (some u)).result = .ok (.eligible, some w) := by
  have heligible' : Verdict.ofType? (some u) = .eligible := by
    rw [h.same]
    exact heligible
  rw [assemble_result_of_eligible heligible, assemble_result_of_eligible heligible']
  have hwraps := a.wrap_corresponds h hinj
  revert hwraps
  generalize (a.wrap t).result = wraps, (a.wrap u).result = wraps'
  rintro (⟨rfl⟩ | e)
  · exact Or.inr ⟨_, rfl, rfl⟩
  · exact Or.inl ⟨e, e.movedBy move, rfl, rfl, e.movedBy_report move⟩

/-- A type turned upside down, with a setter for each property that had none. -/
def upsideDown (t : LogicalType) : LogicalType :=
  let turn (m : Member) : Member :=
    { m with
      origin := { m.origin with line := 100 - m.origin.line }
      hasSetter := !m.hasSetter }
  { t with fragments := t.fragments.map fun f => { f with members := f.members.map turn } }

theorem movedBy_upsideDown (t : LogicalType) :
    t.MovedBy (fun l => { l with line := 100 - l.line }) (upsideDown t) := by
  refine ⟨?_, rfl⟩
  unfold upsideDown
  rw [List.forall₂_map_right_iff, List.forall₂_same]
  intro f _
  refine ⟨?_, rfl⟩
  rw [List.forall₂_map_right_iff, List.forall₂_same]
  intro m _
  exact ⟨!m.hasSetter, rfl⟩

/-- The overlapping type has the same wrapper when it is turned upside down, although its members
then stand elsewhere. -/
theorem assemble_moved_overlapping :
    ∃ w, (assemble { currentYear := 2024 } (some .overlapping)).result = .ok (.eligible, some w) ∧
      (assemble { currentYear := 2024 } (some (upsideDown .overlapping))).result =
        .ok (.eligible, some w) ∧
      (upsideDown .overlapping).forwardedMembers.map (fun m => m.origin.line) = [98, 96, 97] := by
  have hplaces : ∀ f ∈ LogicalType.overlapping.fragments, ∀ m ∈ f.members,
      m.origin.line ≤ 100 := by decide +kernel
  have hinj : Set.InjOn (fun l : Location => { l with line := 100 - l.line })
      LogicalType.overlapping.places := by
    rintro _ ⟨f, hf, m, hm, rfl⟩ _ ⟨g, hg, n, hn, rfl⟩ heq
    have hm := hplaces f hf m hm
    have hn := hplaces g hg n hn
    obtain ⟨hpath, hline, hcolumn⟩ := Location.mk.inj heq
    have hline : m.origin.line = n.origin.line := by omega
    cases hmo : m.origin
    cases hno : n.origin
    simp_all
  obtain ⟨w, hw⟩ : ∃ w, (assemble { currentYear := 2024 } (some .overlapping)).result =
      .ok (.eligible, some w) := exists_wrapper_of_any (by decide +kernel)
  rcases assemble_moved { currentYear := 2024 } .overlapping (upsideDown .overlapping) _ rfl
      (movedBy_upsideDown _) hinj with ⟨e, -, he, -⟩ | ⟨w', hw', hmoved⟩
  · rw [hw] at he
    cases he
  · exact ⟨w', hw', hmoved, by decide +kernel⟩

end Assembler

end SpanWeave
