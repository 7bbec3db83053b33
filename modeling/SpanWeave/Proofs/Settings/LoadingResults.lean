import SpanWeave.CommandLine.Session
import SpanWeave.Proofs.ItemByItem
import SpanWeave.Proofs.Pass.PlanResults

/-!
# How loading settings ends

Reading the entries of a document is a row of demands: each writes out some values as texts and may
then refuse what they say, and none of them hangs on what another one has found. So the reading ends
with the first complaint (`failure?_ofEntries`). A refusal is an invalid configuration, which a
command reports and exits with; but a value that cannot be written out is none, and neither are
bytes that are no text. What a settings file has to be for these not to happen is `Legible`.
-/

set_option autoImplicit false

namespace SpanWeave

/-! ## Failures -/

section

variable {ε α β : Type}

/-- The error that steps end with, if they fail. -/
def failure? : Except ε α → Option ε
  | .ok _ => none
  | .error e => some e

/-- Two steps end with the first error, if that of the second one does not hang on the first. -/
theorem failure?_bind {x : Except ε α} {f : α → Except ε β} {later : Option ε}
    (h : ∀ a, failure? (f a) = later) : failure? (x >>= f) = (failure? x).or later := by
  cases x with
  | ok a => exact h a
  | error e => rfl

end

namespace Settings

/-! ## Demands -/

/-- A step of reading entries: the values that it writes out, and the error with which it refuses
what they say. -/
structure Demand where
  written : List Datum
  refusal? : Option SettingsError := none

/-- What a step complains about: a value that cannot be written out before what the values say. -/
def Demand.complaint? (d : Demand) : Option SettingsError :=
  if d.written.any Datum.isEndless then some .endless else d.refusal?

theorem Demand.complaint?_of_endless {d : Demand} (h : d.written.any Datum.isEndless = true) :
    d.complaint? = some .endless :=
  if_pos h

theorem Demand.complaint?_of_writable {d : Demand} (h : d.written.any Datum.isEndless = false) :
    d.complaint? = d.refusal? :=
  if_neg (by simp [h])

/-- Whether all values that come up to the first refusal can be written out. -/
def Writable (demands : List Demand) : Prop :=
  ∀ p ∈ withEarlier demands, (∀ d ∈ p.1, d.refusal? = none) →
    p.2.written.any Datum.isEndless = false

theorem writable_cons {d : Demand} {ds : List Demand} :
    Writable (d :: ds) ↔
      d.written.any Datum.isEndless = false ∧ (d.refusal? = none → Writable ds) := by
  unfold Writable
  rw [withEarlier_cons, List.forall_mem_cons, List.forall_mem_map]
  simp only [List.forall_mem_cons, List.not_mem_nil, false_imp_iff, implies_true, true_imp_iff]
  apply and_congr_right
  intro _
  constructor
  · intro h hd p hp hearlier
    exact h p hp ⟨hd, hearlier⟩
  · rintro h p hp ⟨hd, hearlier⟩
    exact h hd p hp hearlier

/-- The first complaint is a refusal, if there is any, exactly if all values before the first
refusal can be written out. -/
theorem writable_iff {ds : List Demand}
    (h : ∀ d ∈ ds, ∀ e, d.refusal? = some e → e.isInvalid = true) :
    Writable ds ↔ ∀ e, ds.findSome? Demand.complaint? = some e → e.isInvalid = true := by
  induction ds with
  | nil => simp [Writable, withEarlier]
  | cons d ds ih =>
    obtain ⟨hd, hds⟩ := List.forall_mem_cons.mp h
    rw [writable_cons, List.findSome?_cons]
    cases hendless : d.written.any Datum.isEndless with
    | true =>
      rw [d.complaint?_of_endless hendless]
      simp [SettingsError.isInvalid]
    | false =>
      rw [d.complaint?_of_writable hendless]
      cases hrefusal : d.refusal? with
      | none => simpa using ih hds
      | some e => simpa using hd e hrefusal

/-! ## Entries -/

/-- An entry that is read as a text and may be refused for what it says. -/
def textDemand (entries : List (Datum × Datum)) (key : String)
    (refuse : String → Option SettingsError) : Demand :=
  ⟨(Datum.entryAt? key entries).toList,
    ((Datum.entryAt? key entries).bind Datum.asText?).bind refuse⟩

/-- What reading the entries of a document demands, in order. -/
def demands (entries : List (Datum × Datum)) : List Demand :=
  let output := section? "output" entries
  let header := section? "header" entries
  [textDemand entries "marker" fun name =>
      if Text.isIdentifier name then none else some (.marker name),
    ⟨[], (entryWhole? "workers" entries).bind fun n => if n < 1 then some .workers else none⟩,
    ⟨((Datum.entryAt? "exclude_paths" entries).map Datum.sequence).getD [], none⟩,
    textDemand output "directory" fun _ => none,
    textDemand output "suffix" fun suffix =>
      if Text.endsWith suffix ".py" then none else some .suffix,
    textDemand header "copyright_holder" fun _ => none,
    textDemand header "license" fun name =>
      if (License.ofName? name).isSome then none else some .license,
    textDemand (section? "tracing" entries) "runtime_module" fun _ => none]

section

variable {entries : List (Datum × Datum)} {key : String} {refuse : String → Option SettingsError}
  {later : Option SettingsError} {β : Type}

/-- Reading an entry as a text and going on with it ends with the complaint about the text, or as
what follows does in any case. -/
theorem failure?_entryText_bind {next : Option String → Except SettingsError β}
    (hnext : ∀ text, failure? (next text) = (text.bind refuse).or later) :
    failure? (entryText key entries >>= next) =
      (textDemand entries key refuse).complaint?.or later := by
  unfold entryText textDemand
  cases hentry : Datum.entryAt? key entries with
  | none => exact hnext none
  | some d =>
    cases hendless : d.isEndless with
    | true =>
      rw [Demand.complaint?_of_endless (by simp [hendless])]
      simp [hendless, failure?, bind, Except.bind]
    | false =>
      rw [Demand.complaint?_of_writable (by simp [hendless])]
      simp only [hendless]
      exact hnext d.asText?

/-- The same if what follows can only fail by refusing the text. -/
theorem failure?_entryText_check {next : Option String → Except SettingsError β}
    (hnext : ∀ text, failure? (next text) = text.bind refuse) :
    failure? (entryText key entries >>= next) = (textDemand entries key refuse).complaint? := by
  refine (failure?_entryText_bind fun text => ?_).trans Option.or_none
  rw [hnext, Option.or_none]

theorem failure?_readMarker : failure? (readMarker entries) =
    (textDemand entries "marker" fun name =>
      if Text.isIdentifier name then none else some (.marker name)).complaint? := by
  apply failure?_entryText_check
  intro text
  cases text with
  | none => rfl
  | some name =>
    dsimp only [Option.bind_some]
    split <;> rfl

theorem failure?_readWorkers : failure? (readWorkers entries) =
    (entryWhole? "workers" entries).bind fun n => if n < 1 then some .workers else none := by
  unfold readWorkers
  cases entryWhole? "workers" entries with
  | none => rfl
  | some n =>
    dsimp only [Option.bind_some]
    split <;> rfl

theorem failure?_entryTexts : failure? (entryTexts key entries) =
    Demand.complaint? ⟨((Datum.entryAt? key entries).map Datum.sequence).getD [], none⟩ := by
  unfold entryTexts Demand.complaint?
  cases Datum.entryAt? key entries with
  | none => rfl
  | some d =>
    dsimp only [Option.map_some, Option.getD_some]
    split <;> rfl

theorem failure?_readOutput (root : Path) : failure? (readOutput root entries) =
    (textDemand entries "directory" fun _ => none).complaint?.or
      (textDemand entries "suffix" fun suffix =>
        if Text.endsWith suffix ".py" then none else some .suffix).complaint? := by
  apply failure?_entryText_bind
  intro directory
  rw [Option.bind_fun_none, Option.none_or]
  apply failure?_entryText_check
  intro suffix
  cases suffix with
  | none => rfl
  | some suffix =>
    dsimp only [Option.bind_some]
    split <;> rfl

theorem failure?_readHeader : failure? (readHeader entries) =
    (textDemand entries "copyright_holder" fun _ => none).complaint?.or
      (textDemand entries "license" fun name =>
        if (License.ofName? name).isSome then none else some .license).complaint? := by
  apply failure?_entryText_bind
  intro holder
  rw [Option.bind_fun_none, Option.none_or]
  apply failure?_entryText_check
  intro name
  cases name with
  | none => rfl
  | some name =>
    dsimp only [Option.bind_some]
    cases License.ofName? name <;> rfl

/-- Reading the entries of a document ends with the first complaint. -/
theorem failure?_ofEntries (root : Path) :
    failure? (ofEntries root entries) = (demands entries).findSome? Demand.complaint? := by
  have hcons : ∀ (d : Demand) (ds : List Demand), (d :: ds).findSome? Demand.complaint? =
      d.complaint?.or (ds.findSome? Demand.complaint?) := by
    intro d ds
    rw [List.findSome?_cons]
    cases d.complaint? <;> rfl
  have hmodule : ∀ next : Option String → Settings,
      failure? (entryText "runtime_module" (section? "tracing" entries) >>= fun text =>
        .ok (next text)) =
          (textDemand (section? "tracing" entries) "runtime_module" fun _ => none).complaint? := by
    intro next
    apply failure?_entryText_check
    intro text
    rw [Option.bind_fun_none]
    rfl
  -- no step hangs on what another one has found
  have hsteps : failure? (ofEntries root entries) = (failure? (readMarker entries)).or
      ((failure? (readWorkers entries)).or
        ((failure? (entryTexts "exclude_paths" entries)).or
          ((failure? (readOutput root (section? "output" entries))).or
            ((failure? (readHeader (section? "header" entries))).or
              (textDemand (section? "tracing" entries) "runtime_module"
                fun _ => none).complaint?)))) :=
    failure?_bind fun _ => failure?_bind fun _ => failure?_bind fun _ => failure?_bind fun _ =>
      failure?_bind fun _ => hmodule _
  rw [hsteps, failure?_readMarker, failure?_readWorkers, failure?_entryTexts, failure?_readOutput,
    failure?_readHeader]
  unfold demands
  simp only [hcons, List.findSome?_nil, Option.or_none, Option.or_assoc]
  rfl

end

/-- Every refusal is that of an invalid configuration. -/
theorem isInvalid_of_refusal (entries : List (Datum × Datum)) :
    ∀ d ∈ demands entries, ∀ e, d.refusal? = some e → e.isInvalid = true := by
  have hbind : ∀ {α : Type} {said : Option α} {refuse : α → Option SettingsError},
      (∀ a e, refuse a = some e → e.isInvalid = true) →
        ∀ e, said.bind refuse = some e → e.isInvalid = true := by
    intro α said refuse hrefuse e he
    obtain ⟨a, -, ha⟩ := Option.bind_eq_some_iff.mp he
    exact hrefuse a e ha
  have hcheck : ∀ {allowed : Prop} [Decidable allowed] {refusal e : SettingsError},
      refusal.isInvalid = true → (if allowed then none else some refusal) = some e →
        e.isInvalid = true := by
    intro allowed _ refusal e hrefusal he
    split at he
    · cases he
    · cases he
      exact hrefusal
  have hnone : ∀ {e : SettingsError}, none = some e → e.isInvalid = true := by
    intro e he
    cases he
  unfold demands
  simp only [List.forall_mem_cons, List.not_mem_nil, false_imp_iff, implies_true, and_true]
  refine ⟨hbind fun _ _ => hcheck rfl, hbind fun n e he => ?_, fun _ => hnone,
    hbind fun _ _ => hnone, hbind fun _ _ => hcheck rfl, hbind fun _ _ => hnone,
    hbind fun _ _ => hcheck rfl, hbind fun _ _ => hnone⟩
  split at he
  · cases he
    rfl
  · cases he

/-! ## Documents -/

/-- The settings that the value of a document makes. -/
def ofDatum (root : Path) : Datum → Except SettingsError Settings
  | .dict entries => ofEntries root entries
  | _ => throw .notMapping

/-- Loading a settings file that is there reads its content as a text, the text as a value, and the
entries of the value. -/
theorem load_of_read {tree : FileTree} {path : Path} {content : List UInt8}
    (hread : tree.read (fileFor tree path) = .ok content) :
    load tree path = (do
      let text ← (Text.decode content).mapError .undecodable
      let d ← settingsDatum (String.ofList (Text.foldLineEnds text.toList))
      ofDatum (fileFor tree path).parent d) := by
  have hholds : tree.holds (fileFor tree path) = true := by
    obtain ⟨place, hplace, hentry⟩ := Traced.except_bind_eq_ok.mp hread
    unfold FileTree.holds FileTree.at?
    rw [hplace]
    dsimp only
    cases hat : tree.entryAt? place with
    | some entry => rfl
    | none =>
      rw [hat] at hentry
      cases hentry
  unfold load
  dsimp only
  rw [if_pos hholds, hread]
  rfl

/-- A settings file that can be read up to what it says: it is a text, of which a value can be made
unless it is not well formed, and the values that are written out up to the first refusal have no
more digits than can be written. -/
def Legible (content : List UInt8) : Prop :=
  ∃ text, Text.decode content = .ok text ∧
    let document := String.ofList (Text.foldLineEnds text.toList)
    (Text.isBlankText document = false →
      ∀ fault, Yaml.valueOf document = .error fault → fault = .malformed) ∧
    ∀ entries, settingsDatum document = .ok (.dict entries) → Writable (demands entries)

/-- A document fails as an invalid configuration exactly if it only fails for not being well
formed. -/
theorem settingsDatum_fails_iff {document : String} :
    (∀ e, settingsDatum document = .error e → e.isInvalid = true) ↔
      (Text.isBlankText document = false →
        ∀ fault, Yaml.valueOf document = .error fault → fault = .malformed) := by
  unfold settingsDatum
  cases hblank : Text.isBlankText document with
  | true => simp
  | false =>
    cases hvalue : Yaml.valueOf document with
    | ok d => simp
    | error fault => cases fault <;> simp [SettingsError.isInvalid]

/-- A value fails as an invalid configuration exactly if the values in it that are written out can
be. -/
theorem ofDatum_fails_iff {root : Path} {d : Datum} :
    (∀ e, ofDatum root d = .error e → e.isInvalid = true) ↔
      ∀ entries, d = .dict entries → Writable (demands entries) := by
  cases d with
  | dict entries =>
    simp only [ofDatum, Datum.dict.injEq, forall_eq']
    rw [writable_iff (isInvalid_of_refusal entries), ← failure?_ofEntries root]
    cases ofEntries root entries <;> simp [failure?]
  | _ =>
    constructor
    · intro _ entries h
      cases h
    · intro _ e he
      cases he
      rfl

/-- A settings file leads to settings or to an invalid configuration exactly if it is legible. -/
theorem load_fails_iff {tree : FileTree} {path : Path} {content : List UInt8}
    (hread : tree.read (fileFor tree path) = .ok content) :
    (∀ e, load tree path = .error e → e.isInvalid = true) ↔ Legible content := by
  unfold Legible
  rw [load_of_read hread]
  cases hdecode : Text.decode content with
  | error u =>
    constructor
    · intro h
      exact absurd (h _ rfl) Bool.false_ne_true
    · rintro ⟨text, htext, -⟩
      cases htext
  | ok text =>
    simp only [Except.ok.injEq, exists_eq_left', ← settingsDatum_fails_iff]
    show (∀ e, (settingsDatum _ >>= _) = Except.error e → _) ↔ _
    cases settingsDatum (String.ofList (Text.foldLineEnds text.toList)) with
    | error e => simp [bind, Except.bind]
    | ok d =>
      constructor
      · intro h
        refine ⟨fun e he => ?_, fun entries hd => ?_⟩
        · cases he
        · exact ofDatum_fails_iff.mp h entries (Except.ok.inj hd)
      · rintro ⟨-, h⟩
        exact ofDatum_fails_iff.mpr fun entries hd => h entries (congrArg Except.ok hd)

end Settings

/-! ## Commands -/

namespace TaskResult

variable {s : Surroundings} {tree : FileTree}

/-- The root of the project that a task is about. -/
def rootOf (s : Surroundings) : CommandTask → Path
  | .generate path _ _ => Path.resolve s.directory (Path.ofText path)
  | .check path => Path.resolve s.directory (Path.ofText path)

/-- A task whose settings cannot be loaded comes to that error and leaves the tree as it is. -/
theorem ofTask_of_load_error {task : CommandTask} {e : SettingsError}
    (h : Settings.load tree (rootOf s task) = .error e) :
    ∃ log, ofTask s tree task = ofError tree log (.settings e) := by
  cases task with
  | generate path output dryRun =>
    let request : PassRequest :=
      { root := Path.resolve s.directory (Path.ofText path)
        output := (output.filter (· != "")).map fun text =>
          Path.resolve s.directory (Path.ofText text)
        currentYear := s.currentYear
        rehearsal := dryRun }
    have hplan : (request.plan tree).result = .error (.settings e) := by
      apply PassRequest.plan_of_load_error
      exact h
    obtain ⟨hleft, hresult⟩ : (request.run tree).1 = tree ∧
        (request.run tree).2.result = .error (.settings e) :=
      request.conclude_of_error tree hplan
    refine ⟨(request.run tree).2.log, ?_⟩
    have hpass : ofPass s tree path output dryRun =
        ofError (request.run tree).1 (request.run tree).2.log (.settings e) := by
      unfold ofPass
      dsimp only
      split
      · rename_i e' he'
        cases hresult.symm.trans he'
        rfl
      · rename_i r hr
        cases hresult.symm.trans hr
    rw [hleft] at hpass
    exact hpass
  | check path =>
    have hsurvey : (Survey.ofTree tree (Path.resolve s.directory (Path.ofText path)) none).result =
        .error (.settings e) := by
      apply PassRequest.ofTree_of_load_error
      exact h
    refine ⟨(Survey.ofTree tree (Path.resolve s.directory (Path.ofText path)) none).log, ?_⟩
    unfold ofTask ofCheck
    dsimp only
    rw [hsurvey]

/-- A task reports an invalid configuration and exits with status 1. -/
theorem ofError_of_isInvalid {log : List Record} {e : SettingsError} (h : e.isInvalid = true) :
    ofError tree log (.settings e) =
      { tree, log, ending := .exit 1,
        reported := "instrumentgen: invalid configuration: " ++ e.message ++ "\n" } := by
  unfold ofError PassError.report?
  dsimp only
  rw [if_pos h]

end TaskResult

namespace Settings

/-- A settings file that is there leads to settings or to an invalid configuration exactly if it is
legible. Every task on a project whose configuration is invalid reports so, exits with status 1 and
leaves the tree as it is. -/
theorem load_settles_or_refuses (tree : FileTree) (path : Path) (content : List UInt8)
    (hread : tree.read (fileFor tree path) = .ok content) :
    (((∃ settings, load tree path = .ok settings) ∨
      ∃ e, load tree path = .error e ∧ e.isInvalid = true) ↔ Legible content) ∧
    ∀ e, load tree path = .error e → e.isInvalid = true →
      ∀ (s : Surroundings) (task : CommandTask), TaskResult.rootOf s task = path →
        ∃ log, TaskResult.ofTask s tree task =
          { tree, log, ending := .exit 1,
            reported := "instrumentgen: invalid configuration: " ++ e.message ++ "\n" } := by
  constructor
  · rw [← load_fails_iff hread]
    cases load tree path <;> simp
  · intro e hload hinvalid s task hroot
    obtain ⟨log, hresult⟩ := TaskResult.ofTask_of_load_error (hroot ▸ hload)
    exact ⟨log, hresult.trans (TaskResult.ofError_of_isInvalid hinvalid)⟩

/-- A project with a settings file of the given content. -/
def settledProject (content : List UInt8) : FileTree :=
  ⟨[(["p", settingsFileName], .file content), (["p"], .folder)]⟩

/-- A settings file that asks for no workers is legible and an invalid configuration. -/
theorem load_settles_or_refuses_noWorkers :
    Legible (Text.encode "workers: 0\n") ∧
      ∃ log, TaskResult.ofTask ⟨⟨.root, ["p"]⟩, 2024, ""⟩
          (settledProject (Text.encode "workers: 0\n")) (.check ".") =
        { tree := settledProject (Text.encode "workers: 0\n"), log, ending := .exit 1,
          reported := "instrumentgen: invalid configuration: workers must be at least 1\n" } := by
  have hload : load (settledProject (Text.encode "workers: 0\n")) ⟨.root, ["p"]⟩ =
      .error .workers := by
    decide +kernel
  obtain ⟨hlegible, hreports⟩ := load_settles_or_refuses
    (settledProject (Text.encode "workers: 0\n")) ⟨.root, ["p"]⟩ (Text.encode "workers: 0\n")
    (by decide +kernel)
  refine ⟨hlegible.mp (Or.inr ⟨_, hload, rfl⟩), ?_⟩
  exact hreports _ hload rfl _ _ (by decide +kernel)

/-- A settings file of one byte that begins no character leads neither to settings nor to an invalid
configuration, and a task breaks off with the error. -/
theorem load_breaks_off :
    (settledProject [0xFF]).read (fileFor (settledProject [0xFF]) ⟨.root, ["p"]⟩) = .ok [0xFF] ∧
      ¬ ((∃ settings, load (settledProject [0xFF]) ⟨.root, ["p"]⟩ = .ok settings) ∨
        ∃ e, load (settledProject [0xFF]) ⟨.root, ["p"]⟩ = .error e ∧ e.isInvalid = true) ∧
      ∃ u, (TaskResult.ofTask ⟨⟨.root, ["p"]⟩, 2024, ""⟩ (settledProject [0xFF])
        (.check ".")).ending = .broken (.settings (.undecodable u)) := by
  have hload : load (settledProject [0xFF]) ⟨.root, ["p"]⟩ =
      .error (.undecodable ⟨0xFF, 0, 1, .start⟩) := by
    decide +kernel
  refine ⟨by decide +kernel, ?_, ⟨0xFF, 0, 1, .start⟩, ?_⟩
  · rw [hload]
    rintro (⟨settings, hsettings⟩ | ⟨e, he, hinvalid⟩)
    · cases hsettings
    · cases he
      exact absurd hinvalid (by decide)
  · obtain ⟨log, hresult⟩ : ∃ log, TaskResult.ofTask ⟨⟨.root, ["p"]⟩, 2024, ""⟩
        (settledProject [0xFF]) (.check ".") =
          .ofError (settledProject [0xFF]) log (.settings (.undecodable ⟨0xFF, 0, 1, .start⟩)) :=
      TaskResult.ofTask_of_load_error hload
    rw [hresult]
    rfl

end Settings

end SpanWeave
