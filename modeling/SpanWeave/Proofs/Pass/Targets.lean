import SpanWeave.Proofs.Pass.Conservation
import SpanWeave.Proofs.Text.IdentifierNames

/-!
# The targets of wrappers

A wrapper goes to a file of a proper name in a directory: the output directory, or the folder of its
module. So the place of a target is the place of that directory with the file name behind it, and
targets that are different paths are different places.
-/

set_option autoImplicit false

namespace SpanWeave

open SpanWeave.Path (joined)

/-- The directory that a wrapper goes to. -/
def Destination.directoryFor (d : Destination) (w : WrapperModule) : Path :=
  d.output.getD (d.root.below w.directory)

/-- A wrapper with a proper file name, for a module in a folder of the tree below the root. -/
structure WrapperModule.FitsBelow (tree : FileTree) (root : Path) (w : WrapperModule) : Prop where
  fileName : IsName w.fileName
  folder : ∃ names, (∀ name ∈ names, IsName name) ∧
    root.below w.directory = ⟨root.anchor, root.names ++ names⟩ ∧
      tree.entryAt? (root.names ++ names) = some .folder

/-- A text that does not start like a file name of a wrapper is none. -/
theorem companionName_append_ne {name suffix s : String} (h : s.toList.head? ≠ some 'I') :
    Assembler.companionName name ++ suffix ≠ s := by
  rintro rfl
  apply h
  unfold Assembler.companionName
  simp [String.toList_append]

/-- No slash is in the name of a wrapper. -/
theorem slash_not_mem_companionName {name : String} (h : Text.isIdentifier name = true) :
    '/' ∉ (Assembler.companionName name).toList := by
  have hslash : '/' ∉ name.toList := Text.not_mem_of_isIdentifier (by decide) (by decide) h
  unfold Assembler.companionName
  simp [String.toList_append, hslash]

/-- A file name that is made for a wrapper is a proper name, unless the ending has a slash. -/
theorem isName_companionName {name suffix : String} (hname : Text.isIdentifier name = true)
    (hsuffix : '/' ∉ suffix.toList) : IsName (Assembler.companionName name ++ suffix) := by
  refine ⟨companionName_append_ne (by decide), companionName_append_ne (by decide),
    companionName_append_ne (by decide), ?_⟩
  rw [String.toList_append, List.mem_append, not_or]
  exact ⟨slash_not_mem_companionName hname, hsuffix⟩

/-! ## Places of targets -/

namespace Destination

variable {d : Destination} {w : WrapperModule}

/-- A target is a file of a proper name in the directory of its wrapper. -/
theorem target_eq (h : IsName w.fileName) :
    d.target w = ⟨(d.directoryFor w).anchor, (d.directoryFor w).names ++ [w.fileName]⟩ := by
  unfold target
  exact Path.below_name h _

theorem target_parent (h : IsName w.fileName) : (d.target w).parent = d.directoryFor w := by
  rw [target_eq h, Path.parent, List.dropLast_concat]

theorem target_place (h : IsName w.fileName) :
    (d.target w).place = (d.directoryFor w).place ++ [w.fileName] := by
  rw [target_eq h]
  exact Path.place_append_name h

/-- Wrappers whose targets are at one place have one target. -/
theorem target_eq_of_place {tree : FileTree} {v : WrapperModule} (hroot : d.root.IsPlain)
    (hv : v.FitsBelow tree d.root) (hw : w.FitsBelow tree d.root)
    (h : (d.target v).place = (d.target w).place) : d.target v = d.target w := by
  rw [target_place hv.fileName, target_place hw.fileName] at h
  obtain ⟨hplace, hname⟩ := List.append_inj' h rfl
  have hdirectory : d.directoryFor v = d.directoryFor w := by
    cases houtput : d.output with
    | some output => simp [directoryFor, houtput]
    | none =>
      obtain ⟨names, hnames, hbelow, -⟩ := hv.folder
      obtain ⟨names', hnames', hbelow', -⟩ := hw.folder
      have hnamed := List.forall_mem_append.mpr ⟨hroot.named, hnames⟩
      have hnamed' := List.forall_mem_append.mpr ⟨hroot.named, hnames'⟩
      unfold directoryFor at hplace ⊢
      rw [houtput, Option.getD_none, Option.getD_none, hbelow, hbelow',
        Path.place_of_named hnamed, Path.place_of_named hnamed'] at hplace
      rw [houtput, Option.getD_none, Option.getD_none, hbelow, hbelow', hplace]
  rw [target_eq hv.fileName, target_eq hw.fileName, hdirectory]
  simpa using hname

end Destination

/-! ## The wrappers of a pass -/

/-- A marked declaration of a faithful index has an identifier for its name and stands in a module
below the root. -/
theorem SourceIndex.Faithful.candidate_spec {tree : FileTree} {root : Path} {index : SourceIndex}
    (h : index.Faithful tree root) {c : Candidate} (hc : c ∈ index.candidates) :
    Text.isIdentifier c.name = true ∧ ∃ names, names ≠ [] ∧ (∀ name ∈ names, IsName name) ∧
      c.origin.path = joined names ∧
        ∃ content, tree.entryAt? (root.names ++ names) = some (.file content) := by
  obtain ⟨entry, hentry, -, rfl⟩ := SourceIndex.mem_candidates.mp hc
  have hdeclared := h.declared entry hentry
  obtain ⟨names, hne, hnames, hpath, hfile⟩ := hdeclared.found
  exact ⟨hdeclared.identifier, names, hne, hnames, hdeclared.origin_path.trans hpath, hfile⟩

namespace PassRequest

variable {r : PassRequest} {survey : Survey} {tree : FileTree} {p : PlacedWrapper}

/-- The wrappers that a pass assembles are those that its kept declarations come to. -/
theorem mem_assembled {w : WrapperModule} :
    w ∈ (r.outcomesOf survey).filterMap Outcome.wrapper? ↔ ∃ c ∈ keptOf survey,
      Outcome.reached survey.index (r.assemblerFor survey.settings) c = .wrapper w := by
  unfold outcomesOf
  rw [List.filterMap_map, List.mem_filterMap]
  constructor
  · rintro ⟨c, hc, hw⟩
    exact ⟨c, hc, Outcome.wrapper?_eq_some.mp hw⟩
  · rintro ⟨c, hc, hreached⟩
    exact ⟨c, hc, Outcome.wrapper?_eq_some.mpr hreached⟩

/-- A placed wrapper is what a kept declaration comes to. -/
theorem reached_of_mem_placed (h : p ∈ (r.placementOf survey).placed) : ∃ c ∈ keptOf survey,
    Outcome.reached survey.index (r.assemblerFor survey.settings) c = .wrapper p.wrapper := by
  have hsorted := Placement.mem_of_mem_placed h
  unfold sortWrappers at hsorted
  rw [List.mem_mergeSort] at hsorted
  exact mem_assembled.mp hsorted

/-- A placed wrapper stands at its target and was asked for by a marked declaration. -/
theorem askedBy_of_mem_placed (h : p ∈ (r.placementOf survey).placed) :
    p.target = (r.destination survey.settings).target p.wrapper ∧
      ∃ c ∈ survey.index.candidates,
        p.wrapper.AskedBy (r.assemblerFor survey.settings).suffix c := by
  obtain ⟨c, hc, hreached⟩ := reached_of_mem_placed h
  exact ⟨(Placement.ofWrappers_progress _ _).targets p h, c, mem_candidates_of_mem_keptOf hc,
    (Outcome.askedBy_of_reached hreached).2⟩

/-- The placed wrappers of a pass have proper file names and belong into folders of the tree. -/
theorem fitsBelow_of_mem_placed (htree : tree.WellFormed)
    (hindex : survey.index.Faithful tree r.root)
    (hsuffix : '/' ∉ (r.assemblerFor survey.settings).suffix.toList)
    (h : p ∈ (r.placementOf survey).placed) : p.wrapper.FitsBelow tree r.root := by
  obtain ⟨-, c, hc, hasked⟩ := askedBy_of_mem_placed h
  obtain ⟨hname, names, hne, hnames, hpath, content, hfile⟩ := hindex.candidate_spec hc
  refine ⟨?_, names.dropLast, ?_, ?_, ?_⟩
  · rw [hasked.fileName]
    exact isName_companionName hname hsuffix
  · intro name hmem
    exact hnames name (List.dropLast_subset names hmem)
  · rw [hasked.directory, hpath, Path.ofText_joined hnames]
    exact Path.below_text (fun n hn => hnames n (List.dropLast_subset names hn)) _
  · obtain ⟨front, last, rfl⟩ := List.eq_nil_or_concat names |>.resolve_left hne
    rw [List.concat_eq_append, ← List.append_assoc] at hfile
    rw [List.concat_eq_append, List.dropLast_concat]
    exact htree.folder_of_append_singleton hfile

/-- The placed wrappers of a pass go to different places. -/
theorem nodup_places (htree : tree.WellFormed) (hroot : r.root.IsPlain)
    (hindex : survey.index.Faithful tree r.root)
    (hsuffix : '/' ∉ (r.assemblerFor survey.settings).suffix.toList) :
    ((r.placementOf survey).placed.map fun p => p.target.place).Nodup := by
  have hprogress := Placement.ofWrappers_progress (r.destination survey.settings)
    (sortWrappers ((r.outcomesOf survey).filterMap Outcome.wrapper?))
  have hdistinct : (r.placementOf survey).placed.Pairwise fun p q => p.target ≠ q.target :=
    List.pairwise_map.mp hprogress.distinct
  rw [List.Nodup, List.pairwise_map]
  apply hdistinct.imp_of_mem
  intro p q hp hq hne hplace
  rw [hprogress.targets p hp, hprogress.targets q hq] at hplace hne
  exact hne (Destination.target_eq_of_place hroot
    (fitsBelow_of_mem_placed htree hindex hsuffix hp)
    (fitsBelow_of_mem_placed htree hindex hsuffix hq) hplace)

end PassRequest

end SpanWeave
