import SpanWeave.Proofs.Wrapper.Fidelity

/-!
# When the parts of a wrapper cannot be built

A wrapper chooses its aliases among the names that no method hands on, so no argument hides an alias
and only one thing stands against an override: a name that its method hands on twice. The first
method of which this is true is the one that the failure is about.
-/

set_option autoImplicit false

namespace SpanWeave

/-! ## Repeated names -/

theorem nodup_eraseDups (names : List String) : names.eraseDups.Nodup := by
  induction hlength : names.length using Nat.strongRecOn generalizing names with
  | _ length ih =>
    cases names with
    | nil => exact List.nodup_nil
    | cons name rest =>
      have hshorter : (rest.filter fun n => !n == name).length < length := by
        rw [← hlength, List.length_cons]
        exact Nat.lt_succ_of_le (List.length_filter_le _ _)
      rw [List.eraseDups_cons, List.nodup_cons, List.mem_eraseDups]
      exact ⟨by simp, ih _ hshorter _ rfl⟩

theorem mem_sortedDistinct {name : String} {names : List String} :
    name ∈ sortedDistinct names ↔ name ∈ names := by
  unfold sortedDistinct
  rw [List.mem_mergeSort, List.mem_eraseDups]

/-- Distinct names come in ascending order. -/
theorem pairwise_sortedDistinct (names : List String) :
    (sortedDistinct names).Pairwise (· < ·) := by
  have hsorted : (sortedDistinct names).Pairwise fun a b => decide (a ≤ b) = true := by
    apply List.pairwise_mergeSort
    · intro a b c hab hbc
      exact decide_eq_true (String.le_trans (of_decide_eq_true hab) (of_decide_eq_true hbc))
    · intro a b
      simpa using String.le_total a b
  have hdistinct : (sortedDistinct names).Nodup :=
    (nodup_eraseDups names).perm (List.mergeSort_perm _ _).symm
  apply (hsorted.and hdistinct).imp
  rintro a b ⟨hle, hne⟩
  by_contra hnot
  exact hne (String.le_antisymm (of_decide_eq_true hle) (String.not_lt.mp hnot))

/-- What is reported as repeated is what occurs more than once. -/
theorem mem_repeatedNames {name : String} {names : List String} :
    name ∈ repeatedNames names ↔ 1 < names.count name := by
  unfold repeatedNames
  rw [mem_sortedDistinct, List.mem_filter, decide_eq_true_eq]
  constructor
  · exact And.right
  · intro hcount
    exact ⟨List.count_pos_iff.mp (Nat.lt_trans Nat.one_pos hcount), hcount⟩

theorem pairwise_repeatedNames (names : List String) :
    (repeatedNames names).Pairwise (· < ·) := by
  unfold repeatedNames
  exact pairwise_sortedDistinct _

/-- Names in ascending order are known by what is among them. -/
theorem eq_of_pairwise_lt {names others : List String} (h : names.Pairwise (· < ·))
    (h' : others.Pairwise (· < ·)) (hsame : ∀ name, name ∈ names ↔ name ∈ others) :
    names = others := by
  have hnodup : ∀ {names : List String}, names.Pairwise (· < ·) → names.Nodup := by
    intro names hnames
    apply hnames.imp
    rintro a b hlt rfl
    exact String.lt_irrefl _ hlt
  have hperm := (List.perm_ext_iff_of_nodup (hnodup h) (hnodup h')).mpr hsame
  exact hperm.eq_of_pairwise (fun a b _ _ hab hba => absurd hba (String.lt_asymm hab)) h h'

/-! ## Overrides under aliases that avoid all arguments -/

/-- The names that a collected method hands on, read back from its signature. -/
def CollectedMethod.arguments (c : CollectedMethod) : List String :=
  splitForwarding c.signature.forwarding

/-- Aliases that avoid some names are none of them. -/
theorem Aliases.avoiding_not_mem (a : Aliases) (taken : List String) :
    (a.avoiding taken).spanSource ∉ taken ∧ (a.avoiding taken).setTag ∉ taken := by
  obtain ⟨j, hsource, hfreeSource, -⟩ := uniqueName_spec a.spanSource taken
  obtain ⟨k, htag, hfreeTag, -⟩ := uniqueName_spec a.setTag taken
  unfold avoiding
  rw [hsource, htag]
  exact ⟨hfreeSource, hfreeTag⟩

/-- Under aliases that are none of its arguments, a method has an override if it hands on different
names, and otherwise the names that it repeats stand against it. -/
theorem Aliases.override_of_not_mem {a : Aliases} {signature : Signature} {receiver : String}
    (name : String) (type : Option String)
    (hsource : a.spanSource ∉ splitForwarding signature.forwarding)
    (htag : a.setTag ∉ splitForwarding signature.forwarding) :
    ((splitForwarding signature.forwarding).Nodup →
      ∃ e, a.override name type signature receiver = .ok e) ∧
    (¬ (splitForwarding signature.forwarding).Nodup →
      a.override name type signature receiver =
        .error (.repeatedParameters name (repeatedNames (splitForwarding signature.forwarding)))) := by
  have hshadowed : (sortedDistinct ([a.spanSource, a.setTag].filter
      (splitForwarding signature.forwarding).contains)).isEmpty = true := by
    rw [sortedDistinct_isEmpty_iff, List.filter_eq_nil_iff]
    simp [hsource, htag]
  unfold override
  dsimp only
  rw [← repeatedNames_isEmpty_iff, hshadowed]
  constructor
  · intro hdistinct
    rw [hdistinct]
    exact ⟨_, rfl⟩
  · intro hrepeated
    rw [if_pos (by simpa using hrepeated)]

namespace Assembler

variable {a : Assembler} {members : CollectedMembers}

/-- An override of a method under the aliases of the whole wrapper. -/
theorem override_of_mem {c : CollectedMethod} (hc : c ∈ members.methods) :
    let made := (a.aliases.avoiding (takenNames members.methods)).override c.member.name
      c.member.type c.signature (receiverName c.member)
    (c.arguments.Nodup → ∃ e, made = .ok e) ∧
      (¬ c.arguments.Nodup →
        made = .error (.repeatedParameters c.member.name (repeatedNames c.arguments))) := by
  obtain ⟨hsource, htag⟩ := a.aliases.avoiding_not_mem (takenNames members.methods)
  have htaken : ∀ x ∈ c.arguments, x ∈ takenNames members.methods := fun x hx =>
    List.mem_flatMap.mpr ⟨c, hc, hx⟩
  exact Aliases.override_of_not_mem c.member.name c.member.type
    (fun hmem => hsource (htaken _ hmem)) (fun hmem => htag (htaken _ hmem))

/-- The parts fail to be built exactly for the first method whose override is refused. -/
theorem parts_eq_error_iff {t : LogicalType} {e : GenerationError} :
    a.parts t members = .error e ↔ ∃ before c after, members.methods = before ++ c :: after ∧
      (∀ b ∈ before, b.arguments.Nodup) ∧ ¬ c.arguments.Nodup ∧
        e = .repeatedParameters c.member.name (repeatedNames c.arguments) := by
  have hmethods : a.parts t members = .error e ↔
      members.methods.mapM (fun m => (a.aliases.avoiding (takenNames members.methods)).override
        m.member.name m.member.type m.signature (receiverName m.member)) = .error e := by
    unfold parts
    rw [Traced.except_bind_eq_error, or_iff_left]
    rintro ⟨methods, -, h⟩
    cases h
  rw [hmethods, mapM_eq_error_iff]
  refine exists_congr fun before => exists_congr fun c => exists_congr fun after =>
    and_congr_right fun hsplit => ?_
  have hmem : ∀ b ∈ before, b ∈ members.methods := fun b hb => by simp [hsplit, hb]
  have hc := override_of_mem (a := a) (c := c) (show c ∈ members.methods by simp [hsplit])
  have hbefore : (∀ b ∈ before, ∃ made, (a.aliases.avoiding (takenNames members.methods)).override
      b.member.name b.member.type b.signature (receiverName b.member) = .ok made) ↔
        ∀ b ∈ before, b.arguments.Nodup := by
    refine forall₂_congr fun b hb => ?_
    have hb := override_of_mem (a := a) (hmem b hb)
    constructor
    · rintro ⟨made, hmade⟩
      by_contra hrepeated
      rw [hb.2 hrepeated] at hmade
      cases hmade
    · exact hb.1
  rw [hbefore]
  refine and_congr_right fun _ => ?_
  constructor
  · intro hfails
    by_cases hdistinct : c.arguments.Nodup
    · obtain ⟨made, hmade⟩ := hc.1 hdistinct
      rw [hmade] at hfails
      cases hfails
    · rw [hc.2 hdistinct] at hfails
      cases hfails
      exact ⟨hdistinct, rfl⟩
  · rintro ⟨hrepeated, rfl⟩
    exact hc.2 hrepeated

/-- Whatever the aliases, the type and the collected members are, building the parts of a wrapper
fails exactly if a method hands a name on twice. It fails for the first such method, by a malformed
signature without a location, and the failure lists the names that this method repeats in ascending
order, each once. That a parameter hides an alias is never the reason. -/
theorem parts_fails_on_repetition (a : Assembler) (t : LogicalType) (members : CollectedMembers) :
    ((∃ e, a.parts t members = .error e) ↔ ∃ c ∈ members.methods, ¬ c.arguments.Nodup) ∧
      (∀ e, a.parts t members = .error e ↔
        ∃ before c after names, members.methods = before ++ c :: after ∧
          (∀ b ∈ before, b.arguments.Nodup) ∧ ¬ c.arguments.Nodup ∧ names.Pairwise (· < ·) ∧
            (∀ name, name ∈ names ↔ 1 < c.arguments.count name) ∧
              e = .repeatedParameters c.member.name names) ∧
        (∀ e, a.parts t members = .error e →
          e.code = "malformed-signature" ∧ e.origin? = none) ∧
          ∀ method names, a.parts t members ≠ .error (.shadowedNames method names) := by
  refine ⟨?_, ?_, ?_, ?_⟩
  · constructor
    · rintro ⟨e, he⟩
      obtain ⟨before, c, after, hsplit, -, hrepeated, -⟩ := parts_eq_error_iff.mp he
      exact ⟨c, by simp [hsplit], hrepeated⟩
    · rintro ⟨c, hc, hrepeated⟩
      cases hparts : a.parts t members with
      | error e => exact ⟨e, rfl⟩
      | ok node =>
        -- in a wrapper that is built, every method has an override
        obtain ⟨-, -, -, hoverrides⟩ := parts_eq_ok hparts
        obtain ⟨made, -, hmade⟩ := exists_right_of_forall₂ hoverrides hc
        exact absurd (Aliases.override_eq_ok hmade).1 hrepeated
  · intro e
    rw [parts_eq_error_iff]
    constructor
    · rintro ⟨before, c, after, hsplit, hbefore, hrepeated, rfl⟩
      exact ⟨before, c, after, repeatedNames c.arguments, hsplit, hbefore, hrepeated,
        pairwise_repeatedNames _, fun _ => mem_repeatedNames, rfl⟩
    · rintro ⟨before, c, after, names, hsplit, hbefore, hrepeated, hascending, hnames, rfl⟩
      have hsame : names = repeatedNames c.arguments :=
        eq_of_pairwise_lt hascending (pairwise_repeatedNames _) fun name =>
          (hnames name).trans mem_repeatedNames.symm
      exact ⟨before, c, after, hsplit, hbefore, hrepeated, by rw [hsame]⟩
  · intro e he
    obtain ⟨-, c, -, -, -, -, rfl⟩ := parts_eq_error_iff.mp he
    exact ⟨rfl, rfl⟩
  · intro method names h
    obtain ⟨-, c, -, -, -, -, hother⟩ := parts_eq_error_iff.mp h
    cases hother

/-- Methods that hand on names, given by forwarding lists. The first one hands on the name of an
alias, and the other two repeat names. -/
def repeatingMembers : CollectedMembers :=
  let method (name forwarding : String) : CollectedMethod :=
    ⟨⟨.method, name, none, ⟨true, true, false⟩, ⟨"m.py", 3, 5⟩, none, false, false⟩,
      ⟨"(self, " ++ forwarding ++ ")", forwarding⟩⟩
  ⟨[method "f" "x, x_", method "g" "b, a,b , c, a", method "h" "a, a"], [], []⟩

/-- Of the methods that repeat names, the first one is reported, even if both aliases were the name
that another method hands on. -/
theorem parts_fails_on_repetition_repeatingMembers :
    ∃ e, parts { aliases := ⟨"x", "x", "_impl"⟩, currentYear := 2024 } adversarial
        repeatingMembers = .error e ∧ e = .repeatedParameters "g" ["a", "b"] ∧
      e.code = "malformed-signature" ∧ e.origin? = none := by
  obtain ⟨-, hfails, hreport, -⟩ := parts_fails_on_repetition
    { aliases := ⟨"x", "x", "_impl"⟩, currentYear := 2024 } adversarial repeatingMembers
  have harguments : repeatingMembers.methods.map CollectedMethod.arguments =
      [["x", "x_"], ["b", "a", "b", "c", "a"], ["a", "a"]] := by decide +kernel
  obtain ⟨f, g, h, hmethods⟩ : ∃ f g h, repeatingMembers.methods = [f, g, h] := ⟨_, _, _, rfl⟩
  rw [hmethods] at harguments
  simp only [List.map_cons, List.map_nil, List.cons.injEq, and_true] at harguments
  obtain ⟨hf, hg, -⟩ := harguments
  have hname : g.member.name = "g" := by
    cases hmethods
    rfl
  have hnames : ∀ name, name ∈ ["a", "b"] ↔ 1 < g.arguments.count name := by
    intro name
    rw [hg]
    by_cases ha : "a" = name
    · simp [← ha]
    · by_cases hb : "b" = name
      · simp [← hb]
      · have hcount : ["b", "a", "b", "c", "a"].count name ≤ 1 := by
          simp only [List.count_cons, ha, hb, beq_iff_eq, if_false, List.count_nil]
          split <;> omega
        simp only [List.mem_cons, List.not_mem_nil, or_false]
        constructor
        · rintro (rfl | rfl)
          · exact absurd rfl ha
          · exact absurd rfl hb
        · intro hlt
          omega
  have herror := (hfails (.repeatedParameters "g" ["a", "b"])).mpr
    ⟨[f], g, [h], ["a", "b"], hmethods, by simp [hf], by simp [hg], by decide, hnames,
      by rw [hname]⟩
  exact ⟨_, herror, rfl, hreport _ herror⟩

end Assembler

end SpanWeave
