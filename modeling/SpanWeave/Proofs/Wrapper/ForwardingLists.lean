import SpanWeave.Proofs.Wrapper.BodyMeaning

/-!
# Forwarding lists

The names of parameters travel as one text, and splitting the text gives them back: each name that
is not blank, trimmed, in the order of the list. What splitting gives is trimmed already and free of
commas, so joining and splitting it again changes nothing (`splitForwarding_ofParameters`).
-/

set_option autoImplicit false

namespace SpanWeave

variable {names : List String} {name : String}

theorem trimmedNames_eq (names : List String) :
    trimmedNames names = (names.filter fun n => !Text.isBlankText n).map Text.strip := by
  have hkept : ∀ n : String, (Text.strip n != "") = !Text.isBlankText n := by
    intro n
    rw [Bool.eq_iff_iff, bne_iff_ne, Ne, Text.strip_eq_empty_iff, Bool.not_eq_true',
      Bool.not_eq_true]
  unfold trimmedNames
  rw [List.filter_map]
  exact congrArg (List.map Text.strip) (List.filter_congr fun n _ => hkept n)

theorem trimmedNames_trimmedNames (names : List String) :
    trimmedNames (trimmedNames names) = trimmedNames names := by
  have hstrip : (trimmedNames names).map Text.strip = trimmedNames names := by
    rw [trimmedNames_eq, List.map_map]
    exact List.map_congr_left fun n _ => Text.strip_strip n
  have hfilter : (trimmedNames names).filter (· != "") = trimmedNames names := by
    unfold trimmedNames
    rw [List.filter_filter]
    simp only [Bool.and_self]
  calc trimmedNames (trimmedNames names)
      = ((trimmedNames names).map Text.strip).filter (· != "") := rfl
    _ = trimmedNames names := by rw [hstrip, hfilter]

theorem comma_not_mem_trimmedNames (h : ∀ n ∈ names, ',' ∉ n.toList)
    (hname : name ∈ trimmedNames names) : ',' ∉ name.toList := by
  rw [trimmedNames_eq] at hname
  obtain ⟨n, hn, rfl⟩ := List.mem_map.mp hname
  exact Text.not_mem_strip (h n (List.mem_of_mem_filter hn))

/-- Trimmed names without commas are what their forwarding list is split into. -/
theorem splitForwarding_join_trimmedNames (h : ∀ n ∈ names, ',' ∉ n.toList) :
    splitForwarding (joinForwarding (trimmedNames names)) = trimmedNames names := by
  rw [splitForwarding_join fun n hn => comma_not_mem_trimmedNames h hn, trimmedNames_trimmedNames]

theorem Signature.ofParameters_of_flaw?_eq_none {p : ParameterList} (h : p.flaw? = none) :
    Signature.ofParameters (some p) =
      .ok ⟨p.text, joinForwarding (trimmedNames (p.parameters.map Parameter.name))⟩ := by
  unfold ofParameters
  simp only [h]

/-- The forwarding list of parameters without commas in their names is split into the names that are
not blank, trimmed and in order. Any text is split into names that are split off again when they are
joined. -/
theorem splitForwarding_ofParameters (p : ParameterList) (text : String) :
    (p.flaw? = none → (∀ q ∈ p.parameters, ',' ∉ q.name.toList) →
      ∃ s, Signature.ofParameters (some p) = .ok s ∧
        splitForwarding s.forwarding =
          ((p.parameters.map Parameter.name).filter fun n => !Text.isBlankText n).map Text.strip ∧
        ((∀ q ∈ p.parameters, Text.isBlankText q.name = false) →
          (splitForwarding s.forwarding).length = p.parameters.length)) ∧
    splitForwarding (joinForwarding (splitForwarding text)) = splitForwarding text := by
  refine ⟨?_, splitForwarding_join_trimmedNames fun _ hpart => Text.not_mem_of_mem_parts hpart⟩
  intro hflaw hcomma
  have hnames : ∀ n ∈ p.parameters.map Parameter.name, ',' ∉ n.toList :=
    List.forall_mem_map.mpr hcomma
  have hsplit := splitForwarding_join_trimmedNames hnames
  refine ⟨_, Signature.ofParameters_of_flaw?_eq_none hflaw, ?_, ?_⟩
  · rw [hsplit, trimmedNames_eq]
  · intro hblank
    rw [hsplit, trimmedNames_eq, List.length_map, List.filter_eq_self.mpr, List.length_map]
    intro n hn
    obtain ⟨q, hq, rfl⟩ := List.mem_map.mp hn
    rw [hblank q hq]
    rfl

/-- Parameters with blanks of several kinds around their names, and one without a name. -/
def blankedParameters : ParameterList where
  text := "(self, a, b)"
  receiver := some "self"
  parameters := [⟨" a\t", none, 0⟩, ⟨"\u2003", none, 1⟩, ⟨"\u00a0b\u3000", some "int", 2⟩]
  defect := some (.described "")

theorem splitForwarding_ofParameters_blanked :
    blankedParameters.flaw? = none ∧ (∀ q ∈ blankedParameters.parameters, ',' ∉ q.name.toList) ∧
    ∃ s, Signature.ofParameters (some blankedParameters) = .ok s ∧
      splitForwarding s.forwarding = ["a", "b"] := by
  have hflaw : blankedParameters.flaw? = none := by decide
  have hcomma : ∀ q ∈ blankedParameters.parameters, ',' ∉ q.name.toList := by decide
  obtain ⟨s, hs, hsplit, -⟩ := (splitForwarding_ofParameters blankedParameters "").1 hflaw hcomma
  have hnames : ((blankedParameters.parameters.map Parameter.name).filter fun n =>
      !Text.isBlankText n).map Text.strip = ["a", "b"] := by decide
  exact ⟨hflaw, hcomma, s, hs, hsplit.trans hnames⟩

end SpanWeave
