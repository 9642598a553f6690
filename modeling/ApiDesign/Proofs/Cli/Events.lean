import ApiDesign.Proofs.Cli.Writing

/-!
# What the events of a generation tell

A generation tells its events from four places, and leaves by six exits.  The passes for the locales
are told one by one; but a pass fails, or has no document, for a reason that does not hang on the
locale, so that all of them tell the same.  The passes need workers, and the beginning of a run is
told before these have started.

* `Tells` — the events and the exit code of a run, one rule for each way that a run can go;
* `map_eventOf_of_failure`, `map_eventOf_of_no_routes`, `map_eventOf_of_documents` — the events of
  the passes in the three cases;
* `events_tell_the_truth` — the events of every run are those of a rule, and completion is told
  exactly with success.
-/

namespace ApiDesign.Cli

open OpenApi

variable {pools : WorkerPools} {w : Workspace} {o : GenerateOptions} {environment : Option String}
  {c : Configuration} {d : Design} {locales : LocaleSet}

/-! ### The events of a run -/

/-- The event that a run begins with. -/
def startOf (o : GenerateOptions) (c : Configuration) : Event :=
  .generationStarted o.design c.locales.display c.output

/-- The events of passes that made documents, in the order of the locales. -/
def documentEvents (locales : LocaleSet) : List Event :=
  List.zipWith Event.localeCompleted locales.codes locales.stems

/-- The events that a run tells and the code that it exits with, one rule for each way that it can
go. -/
inductive Tells (pools : WorkerPools) (w : Workspace) (o : GenerateOptions)
    (environment : Option String) : List Event → Nat → Prop where
  /-- Without a working directory, a manifest that can be read and locales, nothing is told. -/
  | unconfigured {e : SetupError} (setup : configure w o environment = .error e) :
    Tells pools w o environment [] 1
  /-- A design that is rejected is told with the number of its errors, and nothing else is. -/
  | rejected {c : Configuration} {errors : List DesignError}
      (setup : configure w o environment = .ok c) (design : readDesign w o.design = .error errors) :
    Tells pools w o environment [.designInvalid o.design errors.length] 1
  /-- Without workers, only the beginning of the run is told. -/
  | unstarted {c : Configuration} {d : Design} {reason : String}
      (setup : configure w o environment = .ok c) (design : readDesign w o.design = .ok d)
      (refused : pools.start c.locales.size = .error reason) :
    Tells pools w o environment [startOf o c] 1
  /-- If assembly fails, it does for every locale, and nothing is written. -/
  | failed {c : Configuration} {d : Design} {e : CompileError}
      (setup : configure w o environment = .ok c) (design : readDesign w o.design = .ok d)
      (workers : pools.Starts c.locales.size)
      (failure : ∀ locale, assemble d locale = .error e) :
    Tells pools w o environment
      (startOf o c :: c.locales.codes.map fun locale => .assemblyFailed locale e.message) 1
  /-- Without routes every locale is skipped, and the run ends without files. -/
  | skipped {c : Configuration} {d : Design} (setup : configure w o environment = .ok c)
      (design : readDesign w o.design = .ok d) (workers : pools.Starts c.locales.size)
      (noRoutes : d.routes = []) :
    Tells pools w o environment
      (startOf o c :: (c.locales.codes.map .documentSkipped ++ [.generationCompleted 0])) 0
  /-- The files before the first that cannot be written are told, and then no more. -/
  | stopped {c : Configuration} {d : Design} {before after : List GeneratedFile}
      {f : GeneratedFile} {reached : FileSystem} {e : GenerateError}
      (setup : configure w o environment = .ok c) (design : readDesign w o.design = .ok d)
      (workers : pools.Starts c.locales.size)
      (documents : ∀ locale, ∃ document, assemble d locale = .ok (some document))
      (planned : outputFiles c.output (generateAll c.locales d) = .ok (before ++ f :: after))
      (written : Writes w.location w.files before reached)
      (stop : (writeFile w.location reached f).1 = .error e) :
    Tells pools w o environment
      (startOf o c :: (documentEvents c.locales ++ before.map GeneratedFile.written)) 1
  /-- All files are told in their order, and then the end of the run. -/
  | completed {c : Configuration} {d : Design} {files : List GeneratedFile} {after : FileSystem}
      (setup : configure w o environment = .ok c) (design : readDesign w o.design = .ok d)
      (workers : pools.Starts c.locales.size)
      (documents : ∀ locale, ∃ document, assemble d locale = .ok (some document))
      (planned : outputFiles c.output (generateAll c.locales d) = .ok files)
      (written : Writes w.location w.files files after) :
    Tells pools w o environment
      (startOf o c :: (documentEvents c.locales ++ files.map GeneratedFile.written ++
        [.generationCompleted files.length])) 0

/-! ### The passes -/

/-- What the event of a pass says without its stem is said once for every locale. -/
theorem map_generateAll_eq {α : Type} {f : LocaleOutput → α} {g : String → α}
    (h : ∀ locale stem, f (generateOne d locale stem) = g locale) :
    (generateAll locales d).map f = locales.codes.map g := by
  have hlength : locales.codes.length ≤ locales.stems.length :=
    Nat.le_of_eq locales.length_stems.symm
  have hpair : f ∘ Function.uncurry (generateOne d) = g ∘ Prod.fst := by
    funext p
    exact h p.1 p.2
  rw [generateAll, ← List.map_uncurry_zip_eq_zipWith, List.map_map, hpair, ← List.map_map,
    List.map_fst_zip hlength]

theorem map_eventOf_of_failure {e : CompileError} (h : ∀ locale, assemble d locale = .error e) :
    (generateAll locales d).map eventOf =
      locales.codes.map fun locale => .assemblyFailed locale e.message := by
  apply map_generateAll_eq
  intro locale stem
  simp only [eventOf, generateOne, h locale, Except.map]

theorem map_eventOf_of_no_routes (h : d.routes = []) :
    (generateAll locales d).map eventOf = locales.codes.map .documentSkipped := by
  apply map_generateAll_eq
  intro locale stem
  have hnone : assemble d locale = .ok none := assemble_eq_ok_none_iff.2 h
  simp only [eventOf, generateOne, hnone, Except.map, Option.map]

theorem map_eventOf_of_documents
    (h : ∀ locale, ∃ document, assemble d locale = .ok (some document)) :
    (generateAll locales d).map eventOf = documentEvents locales := by
  rw [generateAll, List.map_zipWith, documentEvents]
  congr 1
  funext locale stem
  obtain ⟨document, hdocument⟩ := h locale
  simp only [eventOf, generateOne, hdocument, Except.map, Option.map]

/-- Without routes there are no files. -/
theorem outputFiles_of_no_routes (dir : String) (h : d.routes = []) :
    outputFiles dir (generateAll locales d) = .ok [] := by
  have hnone : ∀ o ∈ generateAll locales d, o.result = .ok none := by
    intro o ho
    obtain ⟨locale, stem, rfl⟩ := exists_of_mem_generateAll ho
    rw [generateOne, assemble_eq_ok_none_iff.2 h]
    rfl
  have hfiles : (generateAll locales d).flatMap (·.documentFiles dir) = [] := by
    rw [List.flatMap_eq_nil_iff]
    intro o ho
    rw [LocaleOutput.documentFiles, hnone o ho]
  exact outputFiles_eq_ok_iff.2 ⟨fun o ho => ⟨none, hnone o ho⟩, hfiles.symm⟩

/-- A design fails for all locales, has no routes, or has a document for every locale. -/
theorem assemble_goes_together (d : Design) :
    (∃ e, ∀ locale, assemble d locale = .error e) ∨ d.routes = [] ∨
      ∀ locale, ∃ document, assemble d locale = .ok (some document) := by
  rcases assemble_fails_together d with hfail | hok
  · exact .inl hfail
  · by_cases hroutes : d.routes = []
    · exact .inr (.inl hroutes)
    · refine .inr (.inr fun locale => ?_)
      obtain ⟨_ | document, hdocument⟩ := hok locale
      · exact absurd (assemble_eq_ok_none_iff.1 hdocument) hroutes
      · exact ⟨document, hdocument⟩

/-! ### The run -/

/-- At the end of a run all files are written, or those before one that cannot be. -/
theorem writeOutputs_cases (w : Workspace) (output : String) {outputs : List LocaleOutput}
    {files : List GeneratedFile} (h : outputFiles output outputs = .ok files) :
    (∃ after, Writes w.location w.files files after ∧
      (writeOutputs w output outputs).exitCode = 0 ∧
      (writeOutputs w output outputs).events =
        files.map GeneratedFile.written ++ [.generationCompleted files.length]) ∨
    ∃ before f after reached e, files = before ++ f :: after ∧
      Writes w.location w.files before reached ∧
      (writeFile w.location reached f).1 = .error e ∧
      (writeOutputs w output outputs).exitCode = 1 ∧
      (writeOutputs w output outputs).events = before.map GeneratedFile.written := by
  have hcases := writeFiles_cases w.location w.files files
  unfold writeOutputs
  rw [h]
  dsimp only
  rcases hrun : writeFiles w.location w.files files with ⟨e | ⟨⟨⟩⟩, written⟩
  · rw [hrun] at hcases
    obtain ⟨before, f, after, reached, hfiles, hbefore, hstop, hevents⟩ := hcases
    have houtcome := congrArg Prod.fst hstop
    exact .inr ⟨before, f, after, reached, e, hfiles, hbefore, houtcome, rfl, hevents⟩
  · rw [hrun] at hcases
    obtain ⟨hall, hevents⟩ := hcases
    refine .inl ⟨written.files, hall, rfl, ?_⟩
    rw [← hevents]

theorem generate_tells (pools : WorkerPools) (w : Workspace) (o : GenerateOptions)
    (environment : Option String) :
    Tells pools w o environment (generate pools w o environment).events
      (generate pools w o environment).exitCode := by
  cases hc : configure w o environment with
  | error e =>
    rw [generate_of_unconfigured hc]
    exact .unconfigured hc
  | ok c =>
    cases hd : readDesign w o.design with
    | error errors =>
      rw [generate_of_rejected hc hd]
      exact .rejected hc hd
    | ok d =>
      cases hpool : pools.start c.locales.size with
      | error reason =>
        rw [generate_of_unstarted hc hd hpool]
        exact .unstarted hc hd hpool
      | ok started =>
        rw [generate_of_accepted hc hd hpool]
        show Tells pools w o environment (startOf o c ::
          ((generateAll c.locales d).map eventOf ++
            (writeOutputs w c.output (generateAll c.locales d)).events))
          (writeOutputs w c.output (generateAll c.locales d)).exitCode
        rcases assemble_goes_together d with ⟨e, hfail⟩ | hroutes | hdocuments
        · have hend : writeOutputs w c.output (generateAll c.locales d) =
              ⟨.error (.compile e), [], w.files⟩ := by
            rw [writeOutputs, outputFiles_of_failure c.locales c.output hfail]
          rw [map_eventOf_of_failure hfail, hend, List.append_nil]
          exact .failed hc hd hpool hfail
        · have hend : writeOutputs w c.output (generateAll c.locales d) =
              ⟨.ok [], [.generationCompleted 0], w.files⟩ := by
            rw [writeOutputs, outputFiles_of_no_routes c.output hroutes]
            rfl
          rw [map_eventOf_of_no_routes hroutes, hend]
          exact .skipped hc hd hpool hroutes
        · have hok : ∀ locale, ∃ document, assemble d locale = .ok document := by
            intro locale
            obtain ⟨document, hdocument⟩ := hdocuments locale
            exact ⟨some document, hdocument⟩
          obtain ⟨files, hfiles⟩ := outputFiles_of_success c.locales c.output hok
          rw [map_eventOf_of_documents hdocuments]
          rcases writeOutputs_cases w c.output hfiles with
            ⟨after, hall, hcode, hevents⟩ |
            ⟨before, f, after, reached, e, rfl, hbefore, hstop, hcode, hevents⟩
          · rw [hcode, hevents, ← List.append_assoc]
            exact .completed hc hd hpool hdocuments hfiles hall
          · rw [hcode, hevents]
            exact .stopped hc hd hpool hdocuments hfiles hbefore hstop

/-- The completion of a run is told exactly if the run exits with success. -/
theorem Tells.completed_iff {events : List Event} {code : Nat}
    (h : Tells pools w o environment events code) :
    (∃ files, .generationCompleted files ∈ events) ↔ code = 0 := by
  have hdocuments (locales : LocaleSet) (files : Nat) :
      Event.generationCompleted files ∉ documentEvents locales := by
    intro hmem
    rw [documentEvents, ← List.map_uncurry_zip_eq_zipWith] at hmem
    obtain ⟨p, -, hp⟩ := List.mem_map.1 hmem
    cases hp
  cases h with
  | unconfigured => simp
  | rejected => simp
  | unstarted => simp [startOf]
  | failed => simp [startOf]
  | skipped => simp
  | stopped => simp [startOf, hdocuments, GeneratedFile.written]
  | completed => exact iff_of_true ⟨_, List.mem_cons_of_mem _ List.mem_concat_self⟩ rfl

/-- **The events of a run tell the truth.**  Before levels are filtered, a run tells its events as
one of the rules says, and it tells that it went through exactly if the command succeeds. -/
theorem events_tell_the_truth (pools : WorkerPools) (w : Workspace) (o : GenerateOptions)
    (env : Environment) (log : LogConfig) (filter : LogFilter) :
    let events := (generate pools w o env.locales).events
    let code := (runGenerate pools w env log filter o).exitCode
    Tells pools w o env.locales events code ∧
      ((∃ files, .generationCompleted files ∈ events) ↔ code = 0) :=
  ⟨generate_tells pools w o env.locales, (generate_tells pools w o env.locales).completed_iff⟩

end ApiDesign.Cli
