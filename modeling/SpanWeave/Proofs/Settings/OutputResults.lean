import SpanWeave.Proofs.Files.PathNames
import SpanWeave.Proofs.TracedResult
import SpanWeave.Settings.Loading

/-!
# The output settings of a project

However the settings of a project come about, wrapper files end with something, and the output
directory is a path below the root of the project. So it is as ordinary as this root, and if the
root is absolute, it leads to the same place from everywhere.
-/

set_option autoImplicit false

namespace SpanWeave

/-- What holds of all output settings at a root. -/
structure OutputSettings.Sensible (root : Path) (output : OutputSettings) : Prop where
  suffix_ne : output.suffix ≠ ""
  below : ∀ directory, output.directory = some directory → ∃ text, directory = root.below text

namespace Settings

/-- The output settings that are there without a document are sensible. -/
theorem sensible_default (root : Path) : OutputSettings.Sensible root {} :=
  ⟨by decide, fun _ hdirectory => by cases hdirectory⟩

/-- The output settings that entries settle are sensible. -/
theorem sensible_of_readOutput {root : Path} {entries : List (Datum × Datum)}
    {output : OutputSettings} (h : readOutput root entries = .ok output) :
    output.Sensible root := by
  have hbelow : ∀ (text : Option String) directory,
      (text.filter (· != "")).map root.below = some directory →
        ∃ text, directory = root.below text := by
    intro text directory hdirectory
    obtain ⟨s, -, rfl⟩ := Option.map_eq_some_iff.mp hdirectory
    exact ⟨s, rfl⟩
  unfold readOutput at h
  obtain ⟨text, -, h⟩ := Traced.except_bind_eq_ok.mp h
  obtain ⟨suffix?, -, h⟩ := Traced.except_bind_eq_ok.mp h
  cases suffix? with
  | none =>
    cases h
    exact ⟨(sensible_default root).suffix_ne, hbelow text⟩
  | some suffix =>
    dsimp only at h
    split at h
    · rename_i hends
      cases h
      refine ⟨?_, hbelow text⟩
      rintro rfl
      exact absurd hends (by decide)
    · cases h

/-- The settings that entries settle have the output settings of their section. -/
theorem readOutput_of_ofEntries {root : Path} {entries : List (Datum × Datum)}
    {settings : Settings} (h : ofEntries root entries = .ok settings) :
    readOutput root (section? "output" entries) = .ok settings.output := by
  unfold ofEntries at h
  obtain ⟨marker, -, h⟩ := Traced.except_bind_eq_ok.mp h
  obtain ⟨workers, -, h⟩ := Traced.except_bind_eq_ok.mp h
  obtain ⟨excludePaths, -, h⟩ := Traced.except_bind_eq_ok.mp h
  obtain ⟨output, houtput, h⟩ := Traced.except_bind_eq_ok.mp h
  obtain ⟨header, -, h⟩ := Traced.except_bind_eq_ok.mp h
  obtain ⟨runtimeModule, -, h⟩ := Traced.except_bind_eq_ok.mp h
  cases h
  exact houtput

/-- The output settings of a project are sensible at the directory of its settings file. -/
theorem sensible_of_load {tree : FileTree} {path : Path} {settings : Settings}
    (h : load tree path = .ok settings) :
    settings.output.Sensible (fileFor tree path).parent := by
  unfold load at h
  dsimp only at h
  split at h
  · obtain ⟨content, -, h⟩ := Traced.except_bind_eq_ok.mp h
    obtain ⟨text, -, h⟩ := Traced.except_bind_eq_ok.mp h
    obtain ⟨datum, -, h⟩ := Traced.except_bind_eq_ok.mp h
    cases datum with
    | dict entries => exact sensible_of_readOutput (readOutput_of_ofEntries h)
    | _ => cases h
  · cases h
    exact sensible_default _

/-! ## The output directory -/

/-- The settings file of an ordinary path is ordinary. -/
theorem isOrdinary_fileFor (tree : FileTree) {path : Path} (h : path.IsOrdinary) :
    (fileFor tree path).IsOrdinary := by
  unfold fileFor
  split
  · exact (h.below _).direct
  · split
    · exact (h.parent.below _).direct
    · exact h.direct

/-- The settings file of an absolute path is absolute. -/
theorem fileFor_anchor_ne (tree : FileTree) {path : Path} (h : path.anchor ≠ .here) :
    (fileFor tree path).anchor ≠ .here := by
  unfold fileFor
  split
  · exact Path.below_anchor_ne h _
  · split
    · exact Path.below_anchor_ne (p := path.parent) h _
    · exact h

variable {tree : FileTree} {path directory : Path} {settings : Settings}

/-- The output directory of a project is an ordinary path. -/
theorem isOrdinary_directory_of_load (hpath : path.IsOrdinary)
    (h : load tree path = .ok settings) (hdirectory : settings.output.directory = some directory) :
    directory.IsOrdinary := by
  obtain ⟨text, rfl⟩ := (sensible_of_load h).below directory hdirectory
  exact (isOrdinary_fileFor tree hpath).parent.below text

/-- The output directory of a project at an absolute path is the same from everywhere. -/
theorem resolve_directory_of_load (hpath : path.anchor ≠ .here)
    (h : load tree path = .ok settings) (hdirectory : settings.output.directory = some directory)
    (base : Path) : Path.resolve base directory = directory.direct := by
  obtain ⟨text, rfl⟩ := (sensible_of_load h).below directory hdirectory
  have hanchor := Path.below_anchor_ne (p := (fileFor tree path).parent)
    (fileFor_anchor_ne tree hpath) text
  unfold Path.resolve
  rw [Path.join, if_neg hanchor]

end Settings

end SpanWeave
