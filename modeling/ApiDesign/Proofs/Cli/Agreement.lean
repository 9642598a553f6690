import ApiDesign.Cli.Run
import ApiDesign.Proofs.Builder.Runs
import ApiDesign.Proofs.Cli.Outputs

/-!
# Validating and generating agree

A design is validated by one assembly, for a locale that no translation is written for, and
generated by one assembly for every configured locale.  Both reject the same designs and tell the
same problems: what is wrong with a file is found before any locale counts, and an assembly fails
for all locales or for none.  The generation needs one thing more than the validation: that its
workers start.

* `generate_of_accepted`, `generate_of_unstarted` — what becomes of a design that was read, with
  workers and without;
* `generate_cases` — a generation succeeds without issues, or fails and tells exactly the issues;
* `validate_agrees_with_generate` — the reports and the exit codes of the two commands;
* `generation_needs_workers` — without workers a generation fails for any design.
-/

namespace ApiDesign

/-- A text that is refused as a design is refused with an error. -/
theorem Design.parse_errors_ne_nil {text : String} {errors : List DesignError}
    (h : Design.parse text = .error errors) : errors ≠ [] := by
  unfold parse at h
  split at h
  · cases h
    exact List.cons_ne_nil _ _
  · rename_i f _
    unfold DesignFile.evaluate Builder.finish at h
    split at h
    · cases h
    · rename_i hne
      cases h
      exact fun hnil => hne (List.isEmpty_iff.2 hnil)

namespace Cli

variable {pools : WorkerPools} {w : Workspace} {o : GenerateOptions} {environment : Option String}
  {c : Configuration}

theorem readDesign_errors_ne_nil {path : String} {errors : List DesignError}
    (h : readDesign w path = .error errors) : errors ≠ [] := by
  unfold readDesign at h
  split at h
  · exact Design.parse_errors_ne_nil h
  · cases h
    exact List.cons_ne_nil _ _

/-- All files that a generation comes to can be written. -/
def Writable (w : Workspace) (o : GenerateOptions) (c : Configuration) : Prop :=
  ∀ d files, readDesign w o.design = .ok d →
    outputFiles c.output (generateAll c.locales d) = .ok files →
      (writeFiles w.location w.files files).1 = .ok ()

instance : Decidable (Writable w o c) :=
  match hd : readDesign w o.design with
  | .error _ => isTrue fun d _ h _ => by
    rw [hd] at h
    cases h
  | .ok d =>
    match hfiles : outputFiles c.output (generateAll c.locales d) with
    | .error _ => isTrue fun d' _ h hok => by
      rw [hd] at h
      cases h
      rw [hfiles] at hok
      cases hok
    | .ok files =>
      match hwritten : (writeFiles w.location w.files files).1 with
      | .ok () => isTrue fun d' _ h hok => by
        rw [hd] at h
        cases h
        rw [hfiles] at hok
        cases hok
        exact hwritten
      | .error _ => isFalse fun h => by
        rw [h d files hd hfiles] at hwritten
        cases hwritten

/-! ### What a validation comes to -/

section Issues

variable {path : String} {d : Design}

theorem issues_of_rejected {errors : List DesignError} (h : readDesign w path = .error errors) :
    (validate w path).issues = errors.map fun e => ⟨e.code, e.message⟩ := by
  rw [validate, h]
  rfl

theorem issues_of_failure {e : CompileError} (h : readDesign w path = .ok d)
    (he : OpenApi.assemble d "" = .error e) :
    (validate w path).issues = [⟨e.code, e.message⟩] := by
  rw [validate, h]
  simp only [issuesOf, he]

theorem issues_of_success {document : Option OpenApi.Document} (h : readDesign w path = .ok d)
    (hdocument : OpenApi.assemble d "" = .ok document) : (validate w path).issues = [] := by
  rw [validate, h]
  simp only [issuesOf, hdocument]

end Issues

/-! ### What a generation comes to -/

theorem generate_of_unconfigured {e : SetupError} (hc : configure w o environment = .error e) :
    generate pools w o environment = ⟨.error (.config e), [], w.files⟩ := by
  simp only [generate, hc]

theorem generate_of_rejected (hc : configure w o environment = .ok c) {errors : List DesignError}
    (h : readDesign w o.design = .error errors) :
    generate pools w o environment =
      ⟨.error (.design errors), [.designInvalid o.design errors.length], w.files⟩ := by
  simp only [generate, hc, h]

/-- With workers, the documents of all locales are made and written. -/
theorem generate_of_accepted (hc : configure w o environment = .ok c) {d : Design}
    (h : readDesign w o.design = .ok d) (hpool : pools.Starts c.locales.size) :
    generate pools w o environment =
      { writeOutputs w c.output (generateAll c.locales d) with
        events := .generationStarted o.design c.locales.display c.output
          :: (generateAll c.locales d).map eventOf
            ++ (writeOutputs w c.output (generateAll c.locales d)).events } := by
  simp only [generate, hc, h, runPasses_of_starts hpool]

/-- Without workers, no document is made. -/
theorem generate_of_unstarted (hc : configure w o environment = .ok c) {d : Design}
    (h : readDesign w o.design = .ok d) {reason : String}
    (hpool : pools.start c.locales.size = .error reason) :
    generate pools w o environment =
      ⟨.error (.config (.workerPool reason)),
        [.generationStarted o.design c.locales.display c.output], w.files⟩ := by
  simp only [generate, hc, h, runPasses_of_unstarted hpool]

theorem writeOutputs_of_failure (output : String) {outputs : List LocaleOutput} {e : CompileError}
    (h : outputFiles output outputs = .error e) :
    (writeOutputs w output outputs).outcome = .error (.compile e) := by
  simp only [writeOutputs, h]

theorem writeOutputs_of_success (output : String) {outputs : List LocaleOutput}
    {files : List GeneratedFile} (h : outputFiles output outputs = .ok files)
    (hw : (writeFiles w.location w.files files).1 = .ok ()) :
    (writeOutputs w output outputs).outcome = .ok (files.map (·.path)) := by
  rw [writeOutputs, h]
  dsimp only
  split
  · rename_i heq
    rw [heq] at hw
    cases hw
  · rfl

/-- Validation and generation come to the same: there are no issues and the documents are written,
or there are issues and the generation fails with exactly these. -/
theorem generate_cases (hc : configure w o environment = .ok c) (hpool : pools.Starts c.locales.size)
    (hw : Writable w o c) :
    ((validate w o.design).issues = [] ∧
      ∃ paths, (generate pools w o environment).outcome = .ok paths) ∨
    ((validate w o.design).issues ≠ [] ∧ ∃ e, (generate pools w o environment).outcome = .error e ∧
      e.lines = (validate w o.design).issues.map (·.message)) := by
  cases hd : readDesign w o.design with
  | error errors =>
    refine .inr ⟨?_, .design errors, by rw [generate_of_rejected hc hd], ?_⟩
    · rw [issues_of_rejected hd]
      exact mt List.map_eq_nil_iff.1 (readDesign_errors_ne_nil hd)
    · rw [issues_of_rejected hd, List.map_map]
      rfl
  | ok d =>
    rcases OpenApi.assemble_fails_together d with ⟨e, he⟩ | hok
    · have hfiles := outputFiles_of_failure c.locales c.output he
      refine .inr ⟨?_, .compile e, ?_, ?_⟩
      · rw [issues_of_failure hd (he "")]
        exact List.cons_ne_nil _ _
      · rw [generate_of_accepted hc hd hpool]
        exact writeOutputs_of_failure c.output hfiles
      · rw [issues_of_failure hd (he "")]
        rfl
    · obtain ⟨files, hfiles⟩ := outputFiles_of_success c.locales c.output hok
      obtain ⟨document, hdocument⟩ := hok ""
      refine .inl ⟨issues_of_success hd hdocument, files.map (·.path), ?_⟩
      rw [generate_of_accepted hc hd hpool]
      exact writeOutputs_of_success c.output hfiles (hw d files hd hfiles)

/-! ### The two commands -/

/-- **Validation and generation agree.**  For any contents of the design file, any locales and any
output directory, as long as the machine starts a worker for each locale and files can be written: a
design is reported as valid exactly if the generation exits with success, and otherwise the lines of
the generation are the messages of the reported issues, one by one.  The commands exit with the same
code. -/
theorem validate_agrees_with_generate (env : Environment) (log log' : LogConfig) (filter : LogFilter)
    (format : String) (hc : configure w o env.locales = .ok c)
    (hpool : pools.Starts c.locales.size) (hw : Writable w o c) :
    ((validate w o.design).isValid = true ↔
      (runGenerate pools w env log filter o).exitCode = 0) ∧
    ((validate w o.design).isValid = false →
      (runGenerate pools w env log filter o).stderr =
        (validate w o.design).issues.map fun i => "error: " ++ i.message) ∧
    (runValidate w log' ⟨[o.design], format⟩).exitCode =
      (runGenerate pools w env log filter o).exitCode := by
  have hcode : (runValidate w log' ⟨[o.design], format⟩).exitCode =
      if (validate w o.design).isValid = true then 0 else 1 := by
    unfold runValidate
    simp only [List.map_cons, List.map_nil, List.all_cons, List.all_nil, Bool.and_true]
    split <;> rfl
  have hvalid : (validate w o.design).isValid = true ↔ (validate w o.design).issues = [] :=
    List.isEmpty_iff
  rcases generate_cases hc hpool hw with ⟨hnil, paths, houtcome⟩ | ⟨hne, e, houtcome, hlines⟩
  · have hexit : (runGenerate pools w env log filter o).exitCode = 0 := by
      simp only [runGenerate, Generated.exitCode, houtcome]
    rw [hcode, hexit, if_pos (hvalid.2 hnil)]
    refine ⟨iff_of_true (hvalid.2 hnil) rfl, fun hinvalid => ?_, rfl⟩
    rw [hvalid.2 hnil] at hinvalid
    cases hinvalid
  · have hexit : (runGenerate pools w env log filter o).exitCode = 1 := by
      simp only [runGenerate, Generated.exitCode, houtcome]
    rw [hcode, hexit, if_neg (mt hvalid.1 hne)]
    refine ⟨iff_of_false (mt hvalid.1 hne) Nat.one_ne_zero, fun _ => ?_, rfl⟩
    simp only [runGenerate, Generated.lines, houtcome, hlines, List.map_map]
    rfl

/-- Without workers a generation fails, be the design valid or not: it tells the reason and leaves the
files as they are. -/
theorem generation_needs_workers (env : Environment) (log : LogConfig) (filter : LogFilter)
    {d : Design} {reason : String} (hc : configure w o env.locales = .ok c)
    (hd : readDesign w o.design = .ok d) (hpool : pools.start c.locales.size = .error reason) :
    (runGenerate pools w env log filter o).exitCode = 1 ∧
    (runGenerate pools w env log filter o).stderr =
      ["error: " ++ ("E4003: cannot start worker pool: " ++ reason)] ∧
    (runGenerate pools w env log filter o).files = w.files := by
  rw [runGenerate, generate_of_unstarted hc hd hpool]
  exact ⟨rfl, rfl, rfl⟩

/-! ### A directory with two designs -/

/-- A design whose only method has one route, as the last thing in the file. -/
def kioskDesign : String :=
  "api:\n  name: kiosk\nservices:\n- name: kiosk\n  methods:\n  - name: open\n    routes:\n"
    ++ "    - verb: GET\n      path: /open\n"

/-- The directory of the design, and of another one in which the route is written twice. -/
def kiosk : Workspace where
  files := (FileSystem.addFile ⟨.empty⟩ ["kiosk", "design.yaml"] kioskDesign).addFile
    ["kiosk", "clash.yaml"] (kioskDesign ++ "    - verb: GET\n      path: /open\n")
  directory := "/kiosk"

/-- Generates a design of the directory in two languages. -/
def kioskOptions (design : String) : GenerateOptions := ⟨design, none, some "en, de", some "out"⟩

/-- What the options come to in the directory, which has no manifest. -/
def kioskConfiguration : Configuration where
  locales := ⟨["en", "de"], by decide, by decide, by decide⟩
  output := "out"

theorem configure_kiosk (design : String) :
    configure kiosk (kioskOptions design) none = .ok kioskConfiguration := rfl

/-- A machine that has threads for four workers. -/
def kioskPools : WorkerPools where
  start workers :=
    if workers ≤ 4 then .ok () else .error "Resource temporarily unavailable (os error 11)"

/-- On the machine the design is generated, and of the other one the clash is told. -/
theorem kiosk_commands_agree :
    (runGenerate kioskPools kiosk ⟨none, none⟩ .initial ⟨[]⟩
      (kioskOptions "design.yaml")).exitCode = 0 ∧
    (runGenerate kioskPools kiosk ⟨none, none⟩ .initial ⟨[]⟩
      (kioskOptions "clash.yaml")).stderr =
      ["error: E3001: routing conflict: GET /open is bound to both kiosk#open and kiosk#open"] := by
  -- The files are read once each: what is evaluated together shares the reading.
  obtain ⟨hdesignWritable, hvalid⟩ :
      Writable kiosk (kioskOptions "design.yaml") kioskConfiguration ∧
        (validate kiosk "design.yaml").isValid = true := by decide +kernel
  obtain ⟨hclashWritable, hissues⟩ :
      Writable kiosk (kioskOptions "clash.yaml") kioskConfiguration ∧
        (validate kiosk "clash.yaml").issues = [⟨"E3001",
          "E3001: routing conflict: GET /open is bound to both kiosk#open and kiosk#open"⟩] := by
    decide +kernel
  have hpool : kioskPools.Starts kioskConfiguration.locales.size := rfl
  have hdesign := validate_agrees_with_generate ⟨none, none⟩ .initial .initial ⟨[]⟩ "text"
    (configure_kiosk "design.yaml") hpool hdesignWritable
  have hclash := validate_agrees_with_generate ⟨none, none⟩ .initial .initial ⟨[]⟩ "text"
    (configure_kiosk "clash.yaml") hpool hclashWritable
  have hinvalid : (validate kiosk "clash.yaml").isValid = false := by
    rw [Validation.isValid, hissues]
    rfl
  refine ⟨hdesign.1.1 hvalid, ?_⟩
  rw [hclash.2.1 hinvalid]
  show (validate kiosk "clash.yaml").issues.map _ = _
  rw [hissues]
  rfl

end Cli

end ApiDesign
