import SpanWeave.Proofs.Settings.DocumentValues
import SpanWeave.Proofs.Settings.LoadingResults
import SpanWeave.Proofs.Text.Parts

/-!
# Which settings are refused

A document is refused exactly if its value is no mapping or one of four entries says something that
is not allowed (`Refused`). Every other document makes settings that a project can use, and each
setting goes by what the value under its keys says. The value of a document may be any nested value;
only whole numbers that are too long to be written out are left aside, since they break the reading
off. A file of blanks never becomes a value: it stands for an empty mapping.
-/

set_option autoImplicit false

namespace SpanWeave

namespace Settings

/-! ## Refused values -/

/-- Why a value of a document makes no settings. -/
inductive Refused (d : Datum) : Prop
  | notMapping (h : ∀ entries, d ≠ .dict entries)
  | marker {v : Datum} {name : String} (found : d.at? ["marker"] = some v) (written : v.Writes name)
    (no : Text.isIdentifier name = false)
  | workers {v : Datum} {n : Int} (found : d.at? ["workers"] = some v) (counted : v.Counts n)
    (no : n < 1)
  | suffix {v : Datum} {suffix : String} (found : d.at? ["output", "suffix"] = some v)
    (written : v.Writes suffix) (no : ¬ ∃ front, suffix = front ++ ".py")
  | license {v : Datum} {name : String} (found : d.at? ["header", "license"] = some v)
    (written : v.Writes name)
    (no : Text.lowerAscii name ≠ "apache-2.0" ∧ Text.lowerAscii name ≠ "none")

/-- The settings of a project without a document. -/
def defaults (root : Path) : Settings := { root }

/-- Settings go by the value of a document, each one by the value under its own keys. -/
structure GoBy (s : Settings) (d : Datum) : Prop where
  marker : d.GoesBy ["marker"] Datum.Writes id (defaults s.root).marker s.marker
  workers : d.GoesBy ["workers"] Datum.Counts id (defaults s.root).workers s.workers
  directory : d.GoesBy ["output", "directory"] Datum.WritesSome
    (fun name => some (s.root.below name)) (defaults s.root).output.directory s.output.directory
  suffix : d.GoesBy ["output", "suffix"] Datum.Writes id (defaults s.root).output.suffix
    s.output.suffix
  holder : d.GoesBy ["header", "copyright_holder"] Datum.Writes some
    (defaults s.root).header.holder s.header.holder
  year : d.GoesBy ["header", "year"] Datum.Counts some (defaults s.root).header.year s.header.year
  license : d.GoesBy ["header", "license"] Datum.NamesLicense id (defaults s.root).header.license
    s.header.license
  runtimeModule : d.GoesBy ["tracing", "runtime_module"] Datum.WritesSome id
    (defaults s.root).runtimeModule s.runtimeModule

/-- Settings that a project can use; the licence is a known one by its type. -/
structure AreUsable (s : Settings) : Prop where
  marker : Text.isIdentifier s.marker = true
  workers : 1 ≤ s.workers
  suffix : ∃ front, s.output.suffix = front ++ ".py"
  runtimeModule : s.runtimeModule ≠ ""

theorem ofName?_eq_none_iff {name : String} :
    License.ofName? name = none ↔
      Text.lowerAscii name ≠ "apache-2.0" ∧ Text.lowerAscii name ≠ "none" := by
  unfold License.ofName?
  split <;> simp_all

section

variable {d : Datum}

theorem isIdentifier_of_not_refused {name : String} (h : ¬ Refused d)
    (hname : d.textAt? ["marker"] = some name) : Text.isIdentifier name = true := by
  obtain ⟨v, hfound, hwritten⟩ := Datum.textAt?_eq_some_iff.mp hname
  by_contra hno
  exact h (.marker hfound hwritten (Bool.eq_false_iff.mpr hno))

theorem one_le_of_not_refused {n : Int} (h : ¬ Refused d) (hn : d.wholeAt? ["workers"] = some n) :
    1 ≤ n := by
  obtain ⟨v, hfound, hcounted⟩ := Datum.wholeAt?_eq_some_iff.mp hn
  by_contra hno
  exact h (.workers hfound hcounted (Int.not_le.mp hno))

theorem suffix_of_not_refused {suffix : String} (h : ¬ Refused d)
    (hsuffix : d.textAt? ["output", "suffix"] = some suffix) :
    ∃ front, suffix = front ++ ".py" := by
  obtain ⟨v, hfound, hwritten⟩ := Datum.textAt?_eq_some_iff.mp hsuffix
  by_contra hno
  exact h (.suffix hfound hwritten hno)

theorem license_of_not_refused {name : String} (h : ¬ Refused d)
    (hname : d.textAt? ["header", "license"] = some name) : License.ofName? name ≠ none := by
  obtain ⟨v, hfound, hwritten⟩ := Datum.textAt?_eq_some_iff.mp hname
  intro hno
  exact h (.license hfound hwritten (ofName?_eq_none_iff.mp hno))

end

section

variable {entries : List (Datum × Datum)} {root : Path}

/-! ## Refusing -/

/-- Nothing that reading the entries writes out is too long. -/
theorem written_of_isWritable (h : (Datum.dict entries).IsWritable) :
    ∀ demand ∈ demands entries, demand.written.any Datum.isEndless = false := by
  have htext : ∀ {es : List (Datum × Datum)} {key : String} {refuse},
      (Datum.dict es).IsWritable →
        (textDemand es key refuse).written.any Datum.isEndless = false := by
    intro es key refuse hes
    unfold textDemand
    cases hentry : Datum.entryAt? key es with
    | none => rfl
    | some v => simpa using hes.entry hentry v .itself
  have htexts : (((Datum.entryAt? "exclude_paths" entries).map Datum.sequence).getD []).any
      Datum.isEndless = false := by
    cases hentry : Datum.entryAt? "exclude_paths" entries with
    | none => rfl
    | some v => simpa using (h.entry hentry).sequence
  unfold demands
  simp only [List.forall_mem_cons, List.not_mem_nil, false_imp_iff, implies_true, and_true]
  exact ⟨htext h, rfl, htexts, htext (h.section? _), htext (h.section? _), htext (h.section? _),
    htext (h.section? _), htext (h.section? _)⟩

/-- Entries of which some demand refuses what they say make no settings. -/
theorem ofEntries_of_refusal (h : (Datum.dict entries).IsWritable) {demand : Demand}
    {e : SettingsError} (hmem : demand ∈ demands entries) (he : demand.refusal? = some e) :
    ∃ e, ofEntries root entries = .error e ∧ e.isInvalid = true := by
  have hwritten := written_of_isWritable h
  have hfound : (demands entries).findSome? Demand.complaint? ≠ none := by
    intro hnone
    have := List.findSome?_eq_none_iff.mp hnone demand hmem
    rw [Demand.complaint?_of_writable (hwritten demand hmem), he] at this
    cases this
  obtain ⟨complaint, hcomplaint⟩ := Option.ne_none_iff_exists'.mp hfound
  obtain ⟨other, hother, hrefusal⟩ := List.exists_of_findSome?_eq_some hcomplaint
  rw [Demand.complaint?_of_writable (hwritten other hother)] at hrefusal
  have hfails : failure? (ofEntries root entries) = _ := failure?_ofEntries root
  rw [hcomplaint] at hfails
  cases hresult : ofEntries root entries with
  | ok s =>
    rw [hresult] at hfails
    cases hfails
  | error e' =>
    rw [hresult] at hfails
    cases hfails
    exact ⟨_, rfl, isInvalid_of_refusal entries other hother _ hrefusal⟩

/-- A refused value makes no settings, and the failure is that of an invalid configuration. -/
theorem ofDatum_of_refused {d : Datum} (h : d.IsWritable) (hrefused : Refused d) :
    ∃ e, ofDatum root d = .error e ∧ e.isInvalid = true := by
  cases d with
  | dict entries =>
    show ∃ e, ofEntries root entries = .error e ∧ _
    have htext : ∀ {es : List (Datum × Datum)} {key name : String} {v : Datum} {refuse},
        Datum.entryAt? key es = some v → v.Writes name →
          (textDemand es key refuse).refusal? = refuse name := by
      intro es key name v refuse hfound hmeans
      unfold textDemand
      dsimp only
      rw [hfound, Option.bind_some, Datum.writes_iff.mp hmeans, Option.bind_some]
    cases hrefused with
    | notMapping h => exact absurd rfl (h entries)
    | @marker v name found written no =>
      refine ofEntries_of_refusal h (e := .marker name) List.mem_cons_self ?_
      refine (htext (Datum.at?_key ▸ found) written).trans ?_
      exact if_neg (by simp [no])
    | workers found counted no =>
      rw [Datum.at?_key] at found
      refine ofEntries_of_refusal h (e := .workers) (List.mem_cons_of_mem _ List.mem_cons_self) ?_
      show (entryWhole? "workers" entries).bind _ = _
      unfold entryWhole?
      rw [found, Option.bind_some, Datum.counts_iff.mp counted, Option.bind_some, if_pos no]
    | suffix found written no =>
      rw [Datum.at?_section] at found
      refine ofEntries_of_refusal h (e := .suffix) (List.mem_of_getElem? (i := 4) rfl) ?_
      refine (htext found written).trans ?_
      exact if_neg fun hends => no (Text.endsWith_iff.mp hends)
    | license found written no =>
      rw [Datum.at?_section] at found
      refine ofEntries_of_refusal h (e := .license) (List.mem_of_getElem? (i := 6) rfl) ?_
      refine (htext found written).trans ?_
      exact if_neg (by simp [ofName?_eq_none_iff.mpr no])
  | _ => exact ⟨_, rfl, rfl⟩

/-! ## Reading what is allowed -/

theorem entryText_of_isWritable (key : String) (h : (Datum.dict entries).IsWritable) :
    entryText key entries = .ok ((Datum.entryAt? key entries).bind Datum.asText?) := by
  unfold entryText
  cases hentry : Datum.entryAt? key entries with
  | none => rfl
  | some v => simp [h.entry hentry v .itself]

theorem entryTexts_of_isWritable (key : String) (h : (Datum.dict entries).IsWritable) :
    ∃ texts, entryTexts key entries = .ok texts := by
  unfold entryTexts
  cases hentry : Datum.entryAt? key entries with
  | none => exact ⟨_, rfl⟩
  | some v =>
    have hnone : v.sequence.any Datum.isEndless = false := by
      simpa using (h.entry hentry).sequence
    exact ⟨v.asTexts, by simp [hnone]⟩

theorem readMarker_of_isWritable (h : (Datum.dict entries).IsWritable)
    (hno : ∀ name, (Datum.entryAt? "marker" entries).bind Datum.asText? = some name →
      Text.isIdentifier name = true) :
    readMarker entries = .ok ((Datum.entryAt? "marker" entries).bind Datum.asText?) := by
  unfold readMarker
  rw [entryText_of_isWritable _ h]
  cases hname : (Datum.entryAt? "marker" entries).bind Datum.asText? with
  | none => rfl
  | some name => simp [bind, Except.bind, hno name hname, pure, Except.pure]

theorem readWorkers_of_allowed (hno : ∀ n, entryWhole? "workers" entries = some n → 1 ≤ n) :
    readWorkers entries = .ok (entryWhole? "workers" entries) := by
  unfold readWorkers
  cases hn : entryWhole? "workers" entries with
  | none => rfl
  | some n => simp [Int.not_lt.mpr (hno n hn)]

theorem readOutput_of_isWritable (root : Path) (h : (Datum.dict entries).IsWritable)
    (hno : ∀ suffix, (Datum.entryAt? "suffix" entries).bind Datum.asText? = some suffix →
      Text.endsWith suffix ".py" = true) :
    readOutput root entries = .ok
      { directory := (((Datum.entryAt? "directory" entries).bind Datum.asText?).filter
          (· != "")).map root.below
        suffix := ((Datum.entryAt? "suffix" entries).bind Datum.asText?).getD
          (defaults root).output.suffix } := by
  unfold readOutput
  rw [entryText_of_isWritable _ h, entryText_of_isWritable _ h]
  cases hsuffix : (Datum.entryAt? "suffix" entries).bind Datum.asText? with
  | none => rfl
  | some suffix => simp [bind, Except.bind, hno suffix hsuffix, pure, Except.pure]

theorem readHeader_of_isWritable (root : Path) (h : (Datum.dict entries).IsWritable)
    (hno : ∀ name, (Datum.entryAt? "license" entries).bind Datum.asText? = some name →
      License.ofName? name ≠ none) :
    readHeader entries = .ok
      { holder := (Datum.entryAt? "copyright_holder" entries).bind Datum.asText?
        year := entryWhole? "year" entries
        license := (((Datum.entryAt? "license" entries).bind Datum.asText?).bind
          License.ofName?).getD (defaults root).header.license } := by
  unfold readHeader
  rw [entryText_of_isWritable _ h, entryText_of_isWritable _ h]
  cases hname : (Datum.entryAt? "license" entries).bind Datum.asText? with
  | none => rfl
  | some name =>
    obtain ⟨license, hlicense⟩ := Option.ne_none_iff_exists'.mp (hno name hname)
    simp [bind, Except.bind, hlicense, pure, Except.pure]

end

/-- The settings that a value makes if nothing in it is refused, without the paths that are left out
of scans. -/
def settled (root : Path) (excludePaths : List String) (d : Datum) : Settings where
  root
  marker := (d.textAt? ["marker"]).getD (defaults root).marker
  workers := (d.wholeAt? ["workers"]).getD (defaults root).workers
  excludePaths
  output :=
    { directory := ((d.textAt? ["output", "directory"]).filter (· != "")).map root.below
      suffix := (d.textAt? ["output", "suffix"]).getD (defaults root).output.suffix }
  header :=
    { holder := d.textAt? ["header", "copyright_holder"]
      year := d.wholeAt? ["header", "year"]
      license := ((d.textAt? ["header", "license"]).bind License.ofName?).getD
        (defaults root).header.license }
  runtimeModule := ((d.textAt? ["tracing", "runtime_module"]).filter (· != "")).getD
    (defaults root).runtimeModule

section

variable {root : Path} {excludePaths : List String} {d : Datum}

theorem settled_goBy : (settled root excludePaths d).GoBy d := by
  have hgetD : ∀ {α : Type} {found : Option α} {default : α},
      found.getD default = (found.map id).getD default := by
    intro α found default
    rw [Option.map_id_fun, id]
  have hsome : ∀ {α β : Type} {found : Option α} {make : α → β},
      found.map make = (found.map fun a => some (make a)).getD none := by
    intro α β found make
    cases found <;> rfl
  exact {
    marker := .of_found (fun _ => Datum.textAt?_eq_some_iff) hgetD
    workers := .of_found (fun _ => Datum.wholeAt?_eq_some_iff) hgetD
    directory := .of_found (fun _ => Datum.filter_textAt?_eq_some_iff) hsome
    suffix := .of_found (fun _ => Datum.textAt?_eq_some_iff) hgetD
    holder := .of_found (fun _ => Datum.textAt?_eq_some_iff) (Option.map_id'.symm.trans hsome)
    year := .of_found (fun _ => Datum.wholeAt?_eq_some_iff) (Option.map_id'.symm.trans hsome)
    license := .of_found (fun _ => Datum.bind_textAt?_eq_some_iff) hgetD
    runtimeModule := .of_found (fun _ => Datum.filter_textAt?_eq_some_iff) hgetD }

/-- Every default is allowed. -/
theorem defaults_areUsable : (defaults root).AreUsable where
  marker := by
    show Text.isIdentifier "Instrumentation" = true
    decide
  workers := Int.le_refl 1
  suffix := ⟨"_g", rfl⟩
  runtimeModule := by
    show "instrumentgen.runtime" ≠ ""
    decide

theorem settled_areUsable (h : ¬ Refused d) : (settled root excludePaths d).AreUsable where
  marker := by
    show Text.isIdentifier ((d.textAt? ["marker"]).getD _) = true
    cases hname : d.textAt? ["marker"] with
    | none => exact defaults_areUsable.marker
    | some name => exact isIdentifier_of_not_refused h hname
  workers := by
    show 1 ≤ (d.wholeAt? ["workers"]).getD _
    cases hn : d.wholeAt? ["workers"] with
    | none => exact defaults_areUsable.workers
    | some n => exact one_le_of_not_refused h hn
  suffix := by
    show ∃ front, (d.textAt? ["output", "suffix"]).getD _ = front ++ ".py"
    cases hsuffix : d.textAt? ["output", "suffix"] with
    | none => exact defaults_areUsable.suffix
    | some suffix => exact suffix_of_not_refused h hsuffix
  runtimeModule := by
    show ((d.textAt? ["tracing", "runtime_module"]).filter (· != "")).getD _ ≠ ""
    cases hname : (d.textAt? ["tracing", "runtime_module"]).filter (· != "") with
    | none => exact defaults_areUsable.runtimeModule
    | some name => simpa using (Option.filter_eq_some_iff.mp hname).2

/-- A value that is not refused makes the settings that it settles. -/
theorem ofDatum_of_not_refused (root : Path) (h : d.IsWritable) (hno : ¬ Refused d) :
    ∃ excludePaths, ofDatum root d = .ok (settled root excludePaths d) := by
  obtain ⟨entries, rfl⟩ : ∃ entries, d = .dict entries := by
    by_contra hdict
    exact hno (.notMapping fun entries he => hdict ⟨entries, he⟩)
  obtain ⟨texts, htexts⟩ := entryTexts_of_isWritable "exclude_paths" h
  have hmarker := readMarker_of_isWritable h fun name hname =>
    isIdentifier_of_not_refused hno (Datum.textAt?_key.trans hname)
  have hworkers : readWorkers entries = _ := readWorkers_of_allowed fun n hn =>
    one_le_of_not_refused hno (Datum.wholeAt?_key.trans hn)
  have houtput := readOutput_of_isWritable root (h.section? "output")
    fun suffix hsuffix => Text.endsWith_iff.mpr
      (suffix_of_not_refused hno (Datum.textAt?_section.trans hsuffix))
  have hheader := readHeader_of_isWritable root (h.section? "header")
    fun name hname => license_of_not_refused hno (Datum.textAt?_section.trans hname)
  have htracing := entryText_of_isWritable "runtime_module" (h.section? "tracing")
  refine ⟨texts, ?_⟩
  show ofEntries root entries = _
  unfold ofEntries settled
  simp only [hmarker, hworkers, htexts, houtput, hheader, htracing, Datum.textAt?_key,
    Datum.textAt?_section, Datum.wholeAt?_key, Datum.wholeAt?_section]
  rfl

end

/-! ## Loading -/

/-- A settings file of blanks loads as if it said nothing. Any other file that is a text of which a
value can be made, where an absent value stands for an empty mapping, is refused as an invalid
configuration exactly if its value is refused, and else makes usable settings that go by the value.
-/
theorem load_refuses_iff (tree : FileTree) (path : Path) (content : List UInt8) (text : String)
    (hread : tree.read (fileFor tree path) = .ok content) (htext : Text.decode content = .ok text) :
    let root := (fileFor tree path).parent
    let document := String.ofList (Text.foldLineEnds text.toList)
    (Text.isBlankText document = true → load tree path = .ok (defaults root)) ∧
    (Text.isBlankText document = false → ∀ v, Yaml.valueOf document = .ok v → v.IsWritable →
      let d := if v.isPresent then v else .dict []
      ((∃ e, load tree path = .error e ∧ e.isInvalid = true) ↔ Refused d) ∧
      (¬ Refused d → ∃ settings, load tree path = .ok settings ∧ settings.root = root ∧
        settings.AreUsable ∧ settings.GoBy d)) := by
  intro root document
  have hload : load tree path = settingsDatum document >>= ofDatum root := by
    rw [load_of_read hread, htext]
    rfl
  unfold settingsDatum at hload
  constructor
  · intro hblank
    rw [hload, if_pos hblank]
    rfl
  · intro hwords v hv hwritable d
    rw [if_neg (by simp [hwords]), hv] at hload
    change load tree path = ofDatum root d at hload
    have hd : d.IsWritable := by
      unfold d
      split
      · exact hwritable
      · exact Datum.isWritable_empty
    rw [hload]
    by_cases hrefused : Refused d
    · exact ⟨iff_of_true (ofDatum_of_refused hd hrefused) hrefused, fun h => absurd hrefused h⟩
    · obtain ⟨excludePaths, hsettled⟩ := ofDatum_of_not_refused root hd hrefused
      rw [hsettled]
      refine ⟨iff_of_false ?_ hrefused, fun _ => ⟨_, rfl, rfl, settled_areUsable hrefused,
        settled_goBy⟩⟩
      rintro ⟨e, he, -⟩
      cases he

/-- The texts of a value that is a text, or has one entry that is a text under a text. -/
def bareTexts : Datum → List String
  | .text s => [s]
  | .dict [(.text key, .text s)] => [key, s]
  | _ => []

theorem eq_text_of_bareTexts {d : Datum} {s : String} (h : bareTexts d = [s]) : d = .text s := by
  unfold bareTexts at h
  split at h <;> cases h
  rfl

theorem eq_dict_of_bareTexts {d : Datum} {key s : String} (h : bareTexts d = [key, s]) :
    d = .dict [(.text key, .text s)] := by
  unfold bareTexts at h
  split at h <;> cases h
  rfl

/-- A text that spells the number of workers counts, and the marker is left as it is. -/
theorem load_refuses_iff_spelt :
    let tree := settledProject (Text.encode "workers: '3'\n")
    ∃ settings, load tree ⟨.root, ["p"]⟩ = .ok settings ∧ settings.workers = 3 ∧
      settings.marker = "Instrumentation" := by
  intro tree
  have hload : load tree ⟨.root, ["p"]⟩ = .ok { root := ⟨.root, ["p"]⟩, workers := 3 } := by
    decide +kernel
  have htexts : (Yaml.valueOf "workers: '3'\n").toOption.map bareTexts =
      some ["workers", "3"] := by
    decide +kernel
  obtain ⟨v, hv, hbare⟩ := Option.map_eq_some_iff.mp htexts
  replace hv := Traced.eq_ok_of_toOption hv
  obtain rfl := eq_dict_of_bareTexts hbare
  have hwritable : (Datum.dict [(.text "workers", .text "3")]).IsWritable := by
    intro x hx
    cases hx with
    | itself => rfl
    | key mem h =>
      obtain ⟨rfl, -⟩ := Prod.mk.inj (List.mem_singleton.mp mem)
      cases h
      rfl
    | value mem h =>
      obtain ⟨-, rfl⟩ := Prod.mk.inj (List.mem_singleton.mp mem)
      cases h
      rfl
  obtain ⟨-, hvalue⟩ := load_refuses_iff tree ⟨.root, ["p"]⟩ (Text.encode "workers: '3'\n")
    "workers: '3'\n" (by decide +kernel) (by decide +kernel)
  obtain ⟨hrefused, hsettles⟩ := hvalue (by decide +kernel) _
    ((congrArg Yaml.valueOf (by decide +kernel)).trans hv) hwritable
  obtain ⟨settings, hsettings, -, -, hgo⟩ := hsettles fun h => by
    obtain ⟨e, he, -⟩ := hrefused.mpr h
    cases hload.symm.trans he
  refine ⟨settings, hsettings, hgo.workers.said (.text "3") 3 rfl (.text (by decide)), ?_⟩
  apply hgo.marker.unsaid
  intro v name hv
  cases hv

/-- The value of a settings file of one no-break space is a text and thus refused, but the file loads
as if it said nothing. -/
theorem load_passes_over_space :
    let tree := settledProject (Text.encode "\u00a0\n")
    Yaml.valueOf "\u00a0\n" = .ok (.text "\u00a0") ∧ (Datum.text "\u00a0").isPresent = true ∧
      (Datum.text "\u00a0").IsWritable ∧ Refused (.text "\u00a0") ∧
      tree.read (fileFor tree ⟨.root, ["p"]⟩) = .ok (Text.encode "\u00a0\n") ∧
      ¬ ∃ e, load tree ⟨.root, ["p"]⟩ = .error e ∧ e.isInvalid = true := by
  intro tree
  have htexts : (Yaml.valueOf "\u00a0\n").toOption.map bareTexts = some ["\u00a0"] := by
    decide +kernel
  obtain ⟨v, hv, hbare⟩ := Option.map_eq_some_iff.mp htexts
  replace hv := Traced.eq_ok_of_toOption hv
  obtain rfl := eq_text_of_bareTexts hbare
  have hload : load tree ⟨.root, ["p"]⟩ = .ok (defaults ⟨.root, ["p"]⟩) := by
    decide +kernel
  refine ⟨hv, by decide, ?_, .notMapping (by simp), by decide +kernel, ?_⟩
  · intro x hx
    cases hx
    rfl
  · rintro ⟨e, he, -⟩
    cases hload.symm.trans he

end Settings

end SpanWeave
