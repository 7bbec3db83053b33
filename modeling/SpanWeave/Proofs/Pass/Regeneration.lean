import SpanWeave.Proofs.Pass.Effect
import SpanWeave.Proofs.Scan.Rescan
import SpanWeave.Proofs.Settings.OutputResults

/-!
# Passing over a tree again

The wrappers that a pass writes are of no concern to the next one. It loads the same settings, finds
the same modules and comes to the same plan; and what it writes is there already. So a pass whose
directories exist is a fixed point: running it again yields the same result and changes no file.
-/

set_option autoImplicit false

namespace SpanWeave

open FileTree (AddsFiles)

/-! ## Settings -/

namespace Settings

/-- The settings of a project are the same when only wrappers were added. -/
theorem load_eq {t u : FileTree} {suffix : String} (h : AddsFiles (IsWrapperPlace suffix) t u)
    {root : Path} (hroot : root.IsPlain) (hfolder : t.holdsFolder root = true) :
    load u root = load t root := by
  have hname : IsName settingsFileName := by decide
  have hnamed : ∀ n ∈ (root.below settingsFileName).names, IsName n := by
    rw [Path.below_name hname]
    exact named_append hroot.named hname
  have hfile : fileFor t root = root.below settingsFileName := by
    unfold fileFor
    rw [if_pos hfolder, Path.direct_of_named hnamed]
  have hfile' : fileFor u root = root.below settingsFileName := by
    unfold fileFor
    rw [h.holdsFolder_eq, if_pos hfolder, Path.direct_of_named hnamed]
  have hholds := holds_below_eq h hname (by decide) root
  unfold load
  dsimp only
  rw [hfile, hfile', hholds]
  split
  · rename_i hthere
    have hplace : ¬ IsWrapperPlace suffix (root.below settingsFileName).place := by
      rw [Path.below_name hname, Path.place_append_name hname]
      exact not_isWrapperPlace_of_head (by decide) _
    rw [h.read_eq hplace hthere]
  · rfl

end Settings

/-- The survey of a tree is the same when only wrappers were added. -/
theorem Survey.ofTree_again {t u : FileTree} {root : Path} {survey : Survey} (ht : t.WellFormed)
    (hu : u.WellFormed) (hroot : root.IsPlain)
    (hsurvey : (Survey.ofTree t root none).result = .ok survey)
    (h : AddsFiles (IsWrapperPlace survey.settings.output.suffix) t u) :
    (Survey.ofTree u root none).result = .ok survey := by
  obtain ⟨hload, hunder⟩ := PassRequest.ofTree_result_eq_ok.mp hsurvey
  obtain ⟨hfolder, rules, hrules, hindex⟩ := (underSettings_result_eq_ok hroot).mp hunder
  have hholds : t.holdsFolder root = true := by
    unfold FileTree.holdsFolder
    rw [hfolder]
    rfl
  have hholds' : u.at? root = some .folder := by
    have hsame := h.holdsFolder_eq root
    rw [hholds] at hsame
    unfold FileTree.holdsFolder at hsame
    exact eq_of_beq hsame
  refine PassRequest.ofTree_result_eq_ok.mpr ⟨?_, (underSettings_result_eq_ok hroot).mpr ?_⟩
  · rw [Settings.load_eq h hroot hholds]
    exact hload
  · refine ⟨hholds', rules, (scanRules_eq h root _ _).trans hrules, ?_⟩
    have hsuffix := (Settings.sensible_of_load hload).suffix_ne
    rw [Option.getD_none, indexUnder_eq ht hu hsuffix h hroot rules]
    exact hindex

namespace PassRequest

variable {r : PassRequest} {tree : FileTree} {survey : Survey} {p : PlacedWrapper}

/-- A placed wrapper with a proper file name of its suffix, and with a directory that exists. -/
structure Grounded (suffix : String) (tree : FileTree) (p : PlacedWrapper) : Prop where
  fileName : IsName p.wrapper.fileName
  wrapper : ∃ typeName, p.wrapper.fileName = Assembler.companionName typeName ++ suffix
  place : p.target.place = p.target.parent.place ++ [p.wrapper.fileName]
  folder : tree.holdsFolder p.target.parent = true

/-- The placed wrappers of a pass are grounded if the output directory exists. -/
theorem grounded_of_mem_placed (htree : tree.WellFormed)
    (hindex : survey.index.Faithful tree r.root)
    (hsuffix : '/' ∉ (r.assemblerFor survey.settings).suffix.toList)
    (houtput : ∀ output, (r.destination survey.settings).output = some output →
      tree.holdsFolder output = true)
    (h : p ∈ (r.placementOf survey).placed) :
    Grounded (r.assemblerFor survey.settings).suffix tree p := by
  obtain ⟨htarget, c, -, hasked⟩ := askedBy_of_mem_placed h
  have hfits := fitsBelow_of_mem_placed htree hindex hsuffix h
  have hparent := Destination.target_parent (d := r.destination survey.settings) hfits.fileName
  refine ⟨hfits.fileName, ⟨c.name, hasked.fileName⟩, ?_, ?_⟩
  · rw [htarget, hparent]
    exact Destination.target_place hfits.fileName
  · rw [htarget, hparent]
    unfold Destination.directoryFor
    cases hdirectory : (r.destination survey.settings).output with
    | some output => exact houtput output hdirectory
    | none =>
      obtain ⟨names, hnames, hbelow, hfolder⟩ := hfits.folder
      rw [Option.getD_none]
      show tree.holdsFolder (r.root.below p.wrapper.directory) = true
      unfold FileTree.holdsFolder
      rw [hbelow, htree.at?_of_entry hfolder]
      rfl

/-! ## The first pass -/

/-- A grounded wrapper is written as one file, and no folder is made. -/
theorem writeOne_of_folder {u : FileTree} (hfolder : tree.holdsFolder p.target.parent = true)
    (h : writeOne tree p = .ok u) :
    tree.entryAt? p.target.place ≠ some .folder ∧
      u = tree.set p.target.place (.file (Text.encode p.wrapper.text)) := by
  unfold writeOne at h
  rw [FileTree.ensureFolders_of_holdsFolder hfolder] at h
  exact (FileTree.write_eq_ok.mp h).2

/-- Writing grounded wrappers adds nothing but wrappers to a tree. -/
theorem addsFiles_writeAll {suffix : String} {placed : List PlacedWrapper} {now : FileTree}
    (hgrounded : ∀ p ∈ placed, Grounded suffix tree p)
    (hadded : AddsFiles (IsWrapperPlace suffix) tree now) (hnow : now.WellFormed)
    (h : (writeAll now placed).2.result = .ok ()) :
    AddsFiles (IsWrapperPlace suffix) tree (writeAll now placed).1 ∧
      (writeAll now placed).1.WellFormed := by
  induction placed generalizing now with
  | nil => exact ⟨hadded, hnow⟩
  | cons p rest ih =>
    obtain ⟨grown, hone, hrest, hfinal⟩ := writeAll_cons_eq_ok h
    obtain ⟨hname, ⟨typeName, hwrapper⟩, hplace, hfolder⟩ := hgrounded p List.mem_cons_self
    have hfolder' : now.holdsFolder p.target.parent = true := by
      rw [hadded.holdsFolder_eq]
      exact hfolder
    obtain ⟨hfree, hgrown⟩ := writeOne_of_folder hfolder' hone
    subst hgrown
    have hentry := (FileTree.holdsFolder_iff.mp hfolder').2
    rw [hfinal]
    refine ih (fun q hq => hgrounded q (List.mem_cons_of_mem _ hq)) ?_ ?_ hrest
    · refine hadded.set ⟨p.target.parent.place, typeName, ?_⟩ hfree _
      rw [hplace, hwrapper]
    · rw [hplace] at hfree ⊢
      exact hnow.set hname hentry hfree _

/-! ## The second pass -/

/-- Writing wrappers that are there already succeeds and changes nothing. -/
theorem writeAll_again {placed : List PlacedWrapper}
    (h : ∀ p ∈ placed, tree.holdsFolder p.target.parent = true ∧
      tree.at? p.target = some (.file (Text.encode p.wrapper.text))) :
    (writeAll tree placed).2.result = .ok () ∧
      ∀ q, (writeAll tree placed).1.entryAt? q = tree.entryAt? q := by
  induction placed generalizing tree with
  | nil => exact ⟨rfl, fun _ => rfl⟩
  | cons p rest ih =>
    obtain ⟨hfolder, hthere⟩ := h p List.mem_cons_self
    obtain ⟨hlocate, hentry⟩ := FileTree.at?_eq_some.mp hthere
    have hone : writeOne tree p =
        .ok (tree.set p.target.place (.file (Text.encode p.wrapper.text))) := by
      unfold writeOne
      rw [FileTree.ensureFolders_of_holdsFolder hfolder]
      exact FileTree.write_eq_ok.mpr ⟨hlocate, by rw [hentry]; simp, rfl⟩
    have hsame := FileTree.entryAt?_set_same hentry
    -- nothing has changed, so the other wrappers are there as before
    have hrest : ∀ q ∈ rest,
        (tree.set p.target.place (.file (Text.encode p.wrapper.text))).holdsFolder
            q.target.parent = true ∧
          (tree.set p.target.place (.file (Text.encode p.wrapper.text))).at? q.target =
            some (.file (Text.encode q.wrapper.text)) := by
      intro q hq
      have hadds : AddsFiles (fun _ => False) tree
          (tree.set p.target.place (.file (Text.encode p.wrapper.text))) :=
        fun place => Or.inl (hsame place)
      rw [hadds.holdsFolder_eq, hadds.at?_eq not_false]
      exact h q (List.mem_cons_of_mem _ hq)
    obtain ⟨hresult, hentries⟩ := ih hrest
    rw [writeAll, hone]
    dsimp only
    rw [Traced.result_note_bind]
    exact ⟨hresult, fun q => (hentries q).trans (hsame q)⟩

/-- A pass that writes what can be written yields its plan. -/
theorem carryOut_of_written {plan : PassPlan} (hrehearsal : r.rehearsal = false)
    (h : (writeAll tree plan.placed).2.result = .ok ()) :
    (r.carryOut tree plan).1 = (writeAll tree plan.placed).1 ∧
      (r.carryOut tree plan).2.result = .ok ⟨plan.placed.map PlacedWrapper.wrapper, plan.findings,
        plan.placed.map PlacedWrapper.target⟩ := by
  unfold carryOut
  dsimp only
  rw [if_neg (by simp [hrehearsal])]
  refine ⟨rfl, ?_⟩
  rw [Traced.result_bind_of_ok h, Traced.result_note_bind]
  rfl

/-- A pass with the assembler and the suffix of the settings is a fixed point. If its output
directory exists, or if there is none, and if it yields a result, then the same pass over the tree
that it leaves yields the same result and leaves everything as it is. -/
theorem run_again (r : PassRequest) (tree : FileTree) (result : PassResult)
    (htree : tree.WellFormed) (hroot : r.root.IsPlain) (hassembler : r.assembler = none)
    (hscan : r.scanSuffix = none)
    (hsettings : ∀ settings, Settings.load tree r.root = .ok settings →
      '/' ∉ settings.output.suffix.toList ∧
        ∀ output, r.output.or settings.output.directory = some output →
          tree.holdsFolder output = true)
    (hrun : (r.run tree).2.result = .ok result) :
    let final := (r.run tree).1
    (r.run final).2.result = .ok result ∧
      ∀ place, (r.run final).1.entryAt? place = final.entryAt? place := by
  intro final
  cases hrehearsal : r.rehearsal with
  | true =>
    -- a rehearsal leaves the tree as it is
    have hsame : { r with rehearsal := true } = r := by rw [← hrehearsal]
    have hfinal : (r.run tree).1 = tree := by
      rw [← hsame]
      exact run_rehearsal_fst r tree
    have hleft : final = tree := hfinal
    rw [hleft, hfinal]
    exact ⟨hrun, fun _ => rfl⟩
  | false =>
    have hsame : { r with rehearsal := false } = r := by rw [← hrehearsal]
    rw [← hsame] at hrun
    obtain ⟨survey, hsurvey, hquiet, hwritten, hfinal, rfl⟩ := written_of_run hrun
    rw [hsame] at hfinal
    obtain ⟨hload, -⟩ := ofTree_result_eq_ok.mp hsurvey
    obtain ⟨hslash, houtput⟩ := hsettings _ hload
    have hindex := Survey.faithful_of_ofTree htree hroot hsurvey
    have hmade : (r.assemblerFor survey.settings).suffix = survey.settings.output.suffix := by
      unfold assemblerFor
      rw [hassembler]
      rfl
    have hsuffix : '/' ∉ (r.assemblerFor survey.settings).suffix.toList := by
      rw [hmade]
      exact hslash
    have hgrounded := fun p hp =>
      grounded_of_mem_placed (p := p) htree hindex hsuffix houtput hp
    have hplaces := nodup_places (r := r) htree hroot hindex hsuffix
    obtain ⟨-, hreads⟩ := writeAll_spec hwritten hplaces
    obtain ⟨hadds, hwell⟩ := addsFiles_writeAll hgrounded (AddsFiles.refl _ tree) htree hwritten
    rw [← show final = _ from hfinal] at hreads hadds hwell
    -- the second pass comes to the same plan
    rw [hmade] at hadds
    rw [hscan] at hsurvey
    have hsurvey' := Survey.ofTree_again htree hwell hroot hsurvey hadds
    rw [← hscan] at hsurvey'
    obtain ⟨hfst, hsnd⟩ := run_of_quiet hsurvey' hquiet
    -- and finds all that it writes
    have hthere : ∀ p ∈ (r.planOf survey).placed, final.holdsFolder p.target.parent = true ∧
        final.at? p.target = some (.file (Text.encode p.wrapper.text)) := by
      intro p hp
      refine ⟨?_, FileTree.read_eq_ok.mp (hreads p hp)⟩
      rw [hadds.holdsFolder_eq]
      exact (hgrounded p hp).folder
    obtain ⟨hagain, hentries⟩ := writeAll_again hthere
    obtain ⟨hleft, hresult⟩ := carryOut_of_written hrehearsal hagain
    exact ⟨hsnd.trans hresult, fun place => by rw [hfst, hleft]; exact hentries place⟩

/-- The pass over the mixed project, which has an output directory, is a fixed point. -/
theorem run_again_mixedProject :
    ∃ result, (mixedRequest.run mixedProject).2.result = .ok result ∧
      result.wrappers.length = 2 ∧
        (mixedRequest.run (mixedRequest.run mixedProject).1).2.result = .ok result := by
  obtain ⟨-, -, result, hrun, htwo, -⟩ := mixedRequest_run
  have hsettings : ∀ settings, Settings.load mixedProject mixedRequest.root = .ok settings →
      '/' ∉ settings.output.suffix.toList ∧
        ∀ output, mixedRequest.output.or settings.output.directory = some output →
          mixedProject.holdsFolder output = true := by
    intro settings hload
    rw [mixedProject_load] at hload
    cases hload
    refine ⟨by decide, fun output houtput => ?_⟩
    cases houtput
    decide +kernel
  exact ⟨result, hrun, htwo, (run_again mixedRequest mixedProject result mixedProject_wellFormed
    mixedRequest_plain rfl rfl hsettings hrun).1⟩

end PassRequest

end SpanWeave
