import ApiDesign.Proofs.Cli.Agreement
import ApiDesign.Proofs.Cli.FanOut
import ApiDesign.Proofs.Files.System

/-!
# What a generation leaves behind

A generation plans its files before it writes any of them, and writes them one after the other.  So
nothing happens to the file system unless the workers started and all locales went through; but when
a file cannot be written, the files before it have been, and they stay.

* `Wrote` — files are at their paths, and nothing else has changed;
* `writeFiles_cases` — files are written in their order, each with its event, up to the first that cannot
  be;
* `writeFiles_spec` — all files are written, or those before one that cannot be;
* `generate_writes_up_to_failure` — what is left of the file system by any run.
-/

namespace ApiDesign.Cli

open FileSystem

variable {location : Location} {fs gs hs : FileSystem} {f : GeneratedFile}
  {files more : List GeneratedFile} {e : GenerateError}

/-! ### Files that were written -/

/-- The files can be read under their paths, the directories are still there, and every other file is
what it was. -/
structure Wrote (location : Location) (files : List GeneratedFile) (fs gs : FileSystem) : Prop where
  directories : KeepsDirectories fs gs
  contents : ∀ f ∈ files, gs.read location f.path = .ok f.contents
  others : ∀ full, (∀ f ∈ files, ¬gs.Leads location f.path full) → gs.fileAt full = fs.fileAt full

theorem Wrote.of_addsDirectories (h : AddsDirectories fs gs) : Wrote location [] fs gs where
  directories := h.directories
  contents := fun _ hf => absurd hf List.not_mem_nil
  others := fun full _ => h.files full

/-- What is written later takes nothing away from files whose paths are apart. -/
theorem Wrote.append (h : Wrote location files fs gs) (h' : Wrote location more gs hs)
    (hapart : ∀ f ∈ files, ∀ g ∈ more, Apart f.path g.path) :
    Wrote location (files ++ more) fs hs where
  directories := h.directories.trans h'.directories
  contents := by
    intro f hf
    rcases List.mem_append.1 hf with hf | hf
    · refine read_of_unchanged h'.directories (h.contents f hf) fun full hfull => h'.others full ?_
      intro g hg
      exact hapart f hf g hg hs location full (hfull.mono h'.directories)
    · exact h'.contents f hf
  others := by
    intro full hnone
    rw [List.forall_mem_append] at hnone
    rw [h'.others full hnone.2]
    refine h.others full fun f hf hfull => ?_
    exact hnone.1 f hf (hfull.mono h'.directories)

/-- Nothing has changed exactly if every file was there already, with the same contents. -/
theorem Wrote.sameFiles_iff (h : Wrote location files fs gs) :
    SameFiles fs gs ↔
      ∀ f ∈ files, ∃ full, gs.Leads location f.path full ∧ fs.fileAt full = some f.contents := by
  constructor
  · intro hsame f hf
    obtain ⟨full, hleads, hfile⟩ := exists_leads_of_read (h.contents f hf)
    exact ⟨full, hleads, by rw [← hsame full, hfile]⟩
  · intro hthere full
    by_cases hany : ∃ f ∈ files, gs.Leads location f.path full
    · obtain ⟨f, hf, hleads⟩ := hany
      obtain ⟨fullBefore, hleadsBefore, hbefore⟩ := hthere f hf
      obtain ⟨fullAfter, hleadsAfter, hafter⟩ := exists_leads_of_read (h.contents f hf)
      obtain rfl := hleads.unique hleadsBefore
      obtain rfl := hleads.unique hleadsAfter
      rw [hafter, hbefore]
    · exact h.others full fun f hf hleads => hany ⟨f, hf, hleads⟩

/-! ### Writing one file -/

theorem writeFile_of_ok {written : Written} (h : writeFile location fs f = (.ok (), written)) :
    Wrote location [f] fs written.files := by
  unfold writeFile at h
  dsimp only at h
  split at h
  · cases h
  · rename_i gs hparents
    split at h
    · cases h
    · rename_i hs hwrite
      obtain rfl : _ = written := congrArg Prod.snd h
      have hdirectories := createDirectories_spec hparents
      obtain ⟨hkeeps, hread, hothers⟩ := write_spec hwrite
      have hfile : Wrote location [f] gs hs := by
        refine ⟨hkeeps, by simpa using hread, fun full hnone => hothers full ?_⟩
        exact hnone f List.mem_cons_self
      exact (Wrote.of_addsDirectories hdirectories).append hfile
        fun _ hg => absurd hg List.not_mem_nil

/-- A file that cannot be written leaves no trace but directories. -/
theorem writeFile_of_error {written : Written} (h : writeFile location fs f = (.error e, written)) :
    AddsDirectories fs written.files ∧ written.events = [] ∧ ∃ path fault, e = .write path fault := by
  unfold writeFile at h
  dsimp only at h
  split at h
  · cases h
    exact ⟨.refl fs, rfl, _, _, rfl⟩
  · rename_i gs hparents
    split at h
    · cases h
      exact ⟨createDirectories_spec hparents, rfl, _, _, rfl⟩
    · cases h

/-! ### Writing all files -/

/-- The event of a file that was written. -/
def GeneratedFile.written (f : GeneratedFile) : Event :=
  .fileWritten f.path f.contents.utf8ByteSize

theorem writeFile_events {written : Written} (h : writeFile location fs f = (.ok (), written)) :
    written.events = [GeneratedFile.written f] := by
  unfold writeFile at h
  dsimp only at h
  split at h
  · cases h
  · split at h
    · cases h
    · obtain rfl : _ = written := congrArg Prod.snd h
      rfl

/-- Files that are written one after the other lead from one state of the file system to another. -/
inductive Writes (location : Location) :
    FileSystem → List GeneratedFile → FileSystem → Prop where
  | nil (fs : FileSystem) : Writes location fs [] fs
  | cons {fs hs : FileSystem} {f : GeneratedFile} {files : List GeneratedFile} {written : Written}
      (first : writeFile location fs f = (.ok (), written))
      (rest : Writes location written.files files hs) : Writes location fs (f :: files) hs

/-- **The files are written in their order, each with its event, up to the first that cannot be.** -/
theorem writeFiles_cases (location : Location) (fs : FileSystem) (files : List GeneratedFile) :
    match writeFiles location fs files with
    | (.ok (), written) =>
      Writes location fs files written.files ∧ written.events = files.map GeneratedFile.written
    | (.error e, written) =>
      ∃ before f after reached, files = before ++ f :: after ∧ Writes location fs before reached ∧
        writeFile location reached f = (.error e, ⟨written.files, []⟩) ∧
        written.events = before.map GeneratedFile.written := by
  induction files generalizing fs with
  | nil => exact ⟨.nil fs, rfl⟩
  | cons f files ih =>
    rw [writeFiles]
    rcases hwrite : writeFile location fs f with ⟨_ | ⟨⟨⟩⟩, written⟩
    · rename_i e
      have hevents : written.events = [] := (writeFile_of_error hwrite).2.1
      refine ⟨[], f, files, fs, rfl, .nil fs, ?_, hevents⟩
      rw [hwrite, ← hevents]
    · have hevents : written.events = [GeneratedFile.written f] := writeFile_events hwrite
      have hrest := ih written.files
      dsimp only
      rcases hrun : writeFiles location written.files files with ⟨_ | ⟨⟨⟩⟩, final⟩
      · rw [hrun] at hrest
        obtain ⟨before, g, after, reached, rfl, hbefore, hstop, hmore⟩ := hrest
        refine ⟨f :: before, g, after, reached, rfl, .cons hwrite hbefore, hstop, ?_⟩
        rw [hevents, hmore]
        rfl
      · rw [hrun] at hrest
        obtain ⟨hall, hmore⟩ := hrest
        refine ⟨.cons hwrite hall, ?_⟩
        rw [hevents, hmore]
        rfl

/-- Files whose paths are apart are all there after the last of them was written. -/
theorem Writes.wrote (h : Writes location fs files gs)
    (hapart : files.Pairwise fun f g => Apart f.path g.path) : Wrote location files fs gs := by
  induction h with
  | nil fs => exact .of_addsDirectories (.refl fs)
  | @cons fs hs f files written first rest ih =>
    obtain ⟨hfirst, hrest⟩ := List.pairwise_cons.1 hapart
    have hone : Wrote location [f] fs written.files := writeFile_of_ok first
    refine hone.append (ih hrest) fun g hg k hk => ?_
    rw [List.mem_singleton.1 hg]
    exact hfirst k hk

/-- All these files were written, and then the file `f` could not be. -/
def StopsAt (location : Location) (before : List GeneratedFile) (f : GeneratedFile)
    (e : GenerateError) (fs gs : FileSystem) : Prop :=
  ∃ reached, Wrote location before fs reached ∧
    writeFile location reached f = (.error e, ⟨gs, []⟩)

theorem StopsAt.wrote (h : StopsAt location files f e fs gs) : Wrote location files fs gs := by
  obtain ⟨reached, hwrote, hstop⟩ := h
  have hnothing : Wrote location [] reached gs := .of_addsDirectories (writeFile_of_error hstop).1
  have happend := hwrote.append hnothing fun _ _ _ hg => absurd hg List.not_mem_nil
  rwa [List.append_nil] at happend

theorem StopsAt.exists_write (h : StopsAt location files f e fs gs) :
    ∃ path fault, e = .write path fault := by
  obtain ⟨reached, -, hstop⟩ := h
  exact (writeFile_of_error hstop).2.2

/-- **All files are written, or those before one that cannot be.** -/
theorem writeFiles_spec (location : Location) (fs : FileSystem)
    (hapart : files.Pairwise fun f g => Apart f.path g.path) :
    match writeFiles location fs files with
    | (.ok (), written) => Wrote location files fs written.files
    | (.error e, written) =>
      ∃ before f after, files = before ++ f :: after ∧
        StopsAt location before f e fs written.files := by
  have hcases := writeFiles_cases location fs files
  rcases hrun : writeFiles location fs files with ⟨_ | ⟨⟨⟩⟩, written⟩
  · rw [hrun] at hcases
    obtain ⟨before, f, after, reached, rfl, hbefore, hstop, -⟩ := hcases
    have hwrote : Wrote location before fs reached :=
      hbefore.wrote (List.pairwise_append.1 hapart).1
    exact ⟨before, f, after, rfl, reached, hwrote, hstop⟩
  · rw [hrun] at hcases
    exact hcases.1.wrote hapart

/-! ### The run -/

/-- The files that a run comes to, once the configuration and the design are read, the workers have
started and all locales went through. -/
def Planned (pools : WorkerPools) (w : Workspace) (o : GenerateOptions)
    (environment : Option String) (files : List GeneratedFile) : Prop :=
  ∃ c d, configure w o environment = .ok c ∧ readDesign w o.design = .ok d ∧
    pools.Starts c.locales.size ∧ outputFiles c.output (generateAll c.locales d) = .ok files

/-- The files of a run are entries of one directory with different names. -/
theorem pairwise_apart {dir : String} {locales : LocaleSet} {d : Design}
    (h : outputFiles dir (generateAll locales d) = .ok files) :
    files.Pairwise fun f g => Apart f.path g.path := by
  obtain ⟨-, rfl⟩ := outputFiles_eq_ok_iff.1 h
  have hplain : ∀ o ∈ generateAll locales d, Plain o.stem := fun _ ho => plain_stem_of_mem ho
  have hstems : ((generateAll locales d).map (·.stem)).Nodup := by
    rw [map_stem_generateAll]
    exact locales.nodup_stems
  have hpaths : (((generateAll locales d).flatMap (·.documentFiles dir)).map (·.path)).Nodup :=
    nodup_paths hplain hstems
  refine (List.pairwise_map.1 hpaths).imp_of_mem fun {f g} hf hg hne => ?_
  obtain ⟨name, hname, hpath⟩ := exists_name_of_mem hplain hf
  obtain ⟨name', hname', hpath'⟩ := exists_name_of_mem hplain hg
  rw [hpath, hpath'] at hne ⊢
  refine apart_of_directChild (FilePath.directChild_join hname)
    (FilePath.directChild_join hname') ?_
  rintro rfl
  exact hne rfl

/-- **What a run leaves behind.**  A run that goes through has written exactly the planned files, and
every other file is what it was.  A run that fails before writing leaves the file system as it is.  A
run that cannot write one of the planned files has written exactly those before it: all files are what
they were only if these were there already, with the same contents. -/
theorem generate_writes_up_to_failure (pools : WorkerPools) (w : Workspace) (o : GenerateOptions)
    (environment : Option String) :
    let result := generate pools w o environment
    match result.outcome with
    | .ok paths =>
      ∃ files, Planned pools w o environment files ∧ paths = files.map (·.path) ∧
        Wrote w.location files w.files result.files
    | .error (.write path fault) =>
      ∃ before f after, Planned pools w o environment (before ++ f :: after) ∧
        StopsAt w.location before f (.write path fault) w.files result.files ∧
        Wrote w.location before w.files result.files ∧
        (SameFiles w.files result.files ↔
          ∀ g ∈ before, ∃ full, result.files.Leads w.location g.path full ∧
            w.files.fileAt full = some g.contents)
    | .error _ => result.files = w.files := by
  dsimp only
  cases hc : configure w o environment with
  | error e => simp only [generate_of_unconfigured hc]
  | ok c =>
    cases hd : readDesign w o.design with
    | error errors => simp only [generate_of_rejected hc hd]
    | ok d =>
      cases hpool : pools.start c.locales.size with
      | error reason => simp only [generate_of_unstarted hc hd hpool]
      | ok started =>
        rw [generate_of_accepted hc hd hpool]
        unfold writeOutputs
        cases hfiles : outputFiles c.output (generateAll c.locales d) with
        | error e => rfl
        | ok files =>
          have hplanned : Planned pools w o environment files := ⟨c, d, hc, hd, hpool, hfiles⟩
          have hspec := writeFiles_spec w.location w.files (pairwise_apart hfiles)
          dsimp only
          rcases hwritten : writeFiles w.location w.files files with ⟨e | ⟨⟨⟩⟩, written⟩
          · rw [hwritten] at hspec
            obtain ⟨before, f, after, rfl, hstops⟩ := hspec
            obtain ⟨path, fault, rfl⟩ := hstops.exists_write
            exact ⟨before, f, after, hplanned, hstops, hstops.wrote, hstops.wrote.sameFiles_iff⟩
          · rw [hwritten] at hspec
            exact ⟨files, hplanned, rfl, hspec⟩

/-! ### A directory in the way -/

/-- The directory of the design, in which a directory is where the YAML document is to be written. -/
def blockedKiosk : Workspace :=
  { kiosk with files := kiosk.files.addFile ["kiosk", "out", "openapi.yaml", "keep"] "x" }

/-- Not all documents or none: on a machine that starts every worker, the JSON document of the first
locale is written, and stays. -/
theorem not_all_or_nothing :
    ¬∀ (pools : WorkerPools) (w : Workspace) (o : GenerateOptions) (environment : Option String)
      (e : GenerateError), (generate pools w o environment).outcome = .error e →
        SameFiles w.files (generate pools w o environment).files := by
  intro h
  let o : GenerateOptions := ⟨"design.yaml", none, some "en", some "out"⟩
  obtain ⟨hfails, hchanged⟩ : (generate .ready blockedKiosk o none).outcome.toOption = none ∧
      (generate .ready blockedKiosk o none).files.fileAt "/kiosk/out/openapi.json" ≠
        blockedKiosk.files.fileAt "/kiosk/out/openapi.json" := by decide +kernel
  cases houtcome : (generate .ready blockedKiosk o none).outcome with
  | ok paths =>
    rw [houtcome] at hfails
    cases hfails
  | error e => exact hchanged (h .ready blockedKiosk o none e houtcome "/kiosk/out/openapi.json")

end ApiDesign.Cli
