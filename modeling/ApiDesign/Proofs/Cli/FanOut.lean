import ApiDesign.Proofs.Cli.Outputs
import ApiDesign.Proofs.Files.Path
import ApiDesign.Proofs.OpenApi.Operations

/-!
# One output and two files for every locale

The names of the files are made far from the place where locale codes are checked.  Codes are
different and have no slash, so that the stems are different and plain; an ending behind a plain stem
makes the name of an entry of the directory, and stem and ending can be read off it again.

* `getElem?_generateAll` — the output for the locale at a position, with its two texts;
* `LocaleSet.nodup_stems`, `LocaleSet.plain_stems` — what the checks of locale codes give for stems;
* `outputFiles_eq_ok_iff` — all files of all outputs, unless an output has failed;
* `nodup_paths`, `directChild_of_mem` — where the files are;
* `outputs_follow_locales` — all of this for the passes of a locale set.
-/

namespace ApiDesign

open OpenApi

variable {d : Design} {locales : LocaleSet} {dir : String} {outputs : List LocaleOutput}

/-! ### Stems -/

/-- A text that can stand in a file name. -/
def Plain (s : String) : Prop := '/' ∉ s.toList

theorem Plain.append {s t : String} (hs : Plain s) (ht : Plain t) : Plain (s ++ t) := by
  rw [Plain, String.toList_append, List.mem_append, not_or]
  exact ⟨hs, ht⟩

theorem plain_of_isLocaleCode {code : String} (h : isLocaleCode code) : Plain code := by
  intro hslash
  rw [isLocaleCode, Bool.and_eq_true, List.all_eq_true] at h
  have hchar : isLocaleChar '/' = true := h.2 '/' hslash
  exact absurd hchar (by decide)

theorem LocaleSet.stemOf_injective {code code' : String}
    (h : LocaleSet.stemOf code = LocaleSet.stemOf code') : code = code' :=
  String.append_right_inj (LocaleSet.outputStem ++ "_") |>.1 h

/-- The stem of the main locale is shorter than all others. -/
theorem LocaleSet.stemOf_ne_outputStem (code : String) :
    LocaleSet.stemOf code ≠ LocaleSet.outputStem := by
  intro h
  have hlength : (LocaleSet.stemOf code).length = LocaleSet.outputStem.length := by rw [h]
  rw [LocaleSet.stemOf, String.length_append, String.length_append] at hlength
  have hunderscore : ("_" : String).length = 1 := rfl
  omega

theorem LocaleSet.nodup_stems (locales : LocaleSet) : locales.stems.Nodup := by
  rw [LocaleSet.stems, List.nodup_cons]
  constructor
  · intro hmem
    obtain ⟨code, -, hcode⟩ := List.mem_map.1 hmem
    exact LocaleSet.stemOf_ne_outputStem code hcode
  · have htail : locales.codes.tail.Nodup := locales.nodup.sublist (List.tail_sublist _)
    exact htail.map fun _ _ hstem => LocaleSet.stemOf_injective hstem

theorem LocaleSet.plain_stems (locales : LocaleSet) : ∀ stem ∈ locales.stems, Plain stem := by
  intro stem hstem
  have hmain : Plain LocaleSet.outputStem := by
    unfold Plain
    decide
  rw [LocaleSet.stems, List.mem_cons] at hstem
  rcases hstem with rfl | hstem
  · exact hmain
  · obtain ⟨code, hcode, rfl⟩ := List.mem_map.1 hstem
    have hvalid : isLocaleCode code := locales.valid code (List.mem_of_mem_tail hcode)
    have hunderscore : Plain "_" := by
      unfold Plain
      decide
    exact (hmain.append hunderscore).append (plain_of_isLocaleCode hvalid)

theorem LocaleSet.getElem?_stems {i : Nat} {code : String} (h : locales.codes[i]? = some code) :
    locales.stems[i]? = some (if i = 0 then "openapi" else "openapi_" ++ code) := by
  cases i with
  | zero => rfl
  | succ i =>
    rw [LocaleSet.stems, List.getElem?_cons_succ, List.getElem?_map, List.getElem?_tail, h]
    rfl

/-- The output for the locale at a position. -/
theorem getElem?_generateAll {i : Nat} {code : String} (h : locales.codes[i]? = some code) :
    (generateAll locales d)[i]? = some
      { locale := code
        stem := if i = 0 then "openapi" else "openapi_" ++ code
        result := (assemble d code).map fun document => document.map fun document =>
          { json := Json.pretty document.toJson, yaml := Yaml.print document.toJson } } := by
  rw [generateAll, List.getElem?_zipWith, h, LocaleSet.getElem?_stems h]
  rfl

theorem map_stem_generateAll (locales : LocaleSet) (d : Design) :
    (generateAll locales d).map (·.stem) = locales.stems := by
  have hstem : (fun o : LocaleOutput => o.stem) ∘ Function.uncurry (generateOne d) = Prod.snd := rfl
  have hlength : locales.stems.length ≤ locales.codes.length :=
    Nat.le_of_eq locales.length_stems
  rw [generateAll, ← List.map_uncurry_zip_eq_zipWith, List.map_map, hstem,
    List.map_snd_zip hlength]

theorem plain_stem_of_mem {o : LocaleOutput} (h : o ∈ generateAll locales d) : Plain o.stem := by
  apply locales.plain_stems
  rw [← map_stem_generateAll locales d]
  exact List.mem_map_of_mem h

/-! ### Files of an output -/

namespace LocaleOutput

/-- The files of the document of an output, JSON first; there are none without a document. -/
def documentFiles (dir : String) (o : LocaleOutput) : List GeneratedFile :=
  match o.result with
  | .ok (some document) =>
    [⟨FilePath.join dir (o.stem ++ ".json"), document.json⟩,
      ⟨FilePath.join dir (o.stem ++ ".yaml"), document.yaml⟩]
  | _ => []

theorem error?_eq_none_iff {o : LocaleOutput} :
    o.error? = none ↔ ∃ document, o.result = .ok document := by
  unfold error?
  cases o.result with
  | error e => simp
  | ok document => simp

theorem error?_eq_some_iff {o : LocaleOutput} {e : CompileError} :
    o.error? = some e ↔ o.result = .error e := by
  unfold error?
  cases o.result with
  | error err => simp
  | ok document => simp

theorem files_eq_ok_iff {o : LocaleOutput} {files : List GeneratedFile} :
    o.files dir = .ok files ↔
      (∃ document, o.result = .ok document) ∧ files = o.documentFiles dir := by
  unfold LocaleOutput.files documentFiles
  rcases o.result with e | _ | document
  · simp
  · simp [eq_comm]
  · simp [eq_comm, jsonName, yamlName]

/-- The ending of a file name. -/
def IsEnding (ending : String) : Prop := ending = ".json" ∨ ending = ".yaml"

theorem exists_ending_of_mem {o : LocaleOutput} {file : GeneratedFile}
    (h : file ∈ o.documentFiles dir) :
    ∃ ending, IsEnding ending ∧ file.path = FilePath.join dir (o.stem ++ ending) := by
  unfold documentFiles at h
  split at h
  · rw [List.mem_cons, List.mem_singleton] at h
    rcases h with rfl | rfl
    · exact ⟨".json", .inl rfl, rfl⟩
    · exact ⟨".yaml", .inr rfl, rfl⟩
  · cases h

theorem IsEnding.length_eq {ending : String} (h : IsEnding ending) : ending.length = 5 := by
  rcases h with rfl | rfl <;> rfl

theorem IsEnding.plain {ending : String} (h : IsEnding ending) : Plain ending := by
  unfold Plain
  rcases h with rfl | rfl <;> decide

/-- A plain stem with an ending is the name of an entry of a directory. -/
theorem isName_of_plain {stem ending : String} (hstem : Plain stem) (h : IsEnding ending) :
    FilePath.IsName (stem ++ ending) := by
  have hlength : 5 ≤ (stem ++ ending).length := by
    rw [String.length_append, h.length_eq]
    omega
  have hne (short : String) (hshort : short.length < 5) : stem ++ ending ≠ short := by
    intro heq
    rw [heq] at hlength
    omega
  exact ⟨hne "" (by decide), hstem.append h.plain, hne "." (by decide), hne ".." (by decide)⟩

/-- A file name tells its stem and its ending. -/
theorem stem_ending_injective {stem stem' ending ending' : String} (h : IsEnding ending)
    (h' : IsEnding ending') (heq : stem ++ ending = stem' ++ ending') :
    stem = stem' ∧ ending = ending' := by
  have hchars : stem.toList ++ ending.toList = stem'.toList ++ ending'.toList := by
    rw [← String.toList_append, ← String.toList_append, heq]
  have hlength : ending.toList.length = ending'.toList.length := by
    rw [String.length_toList, String.length_toList, h.length_eq, h'.length_eq]
  obtain ⟨hstems, hendings⟩ := List.append_inj' hchars hlength
  exact ⟨String.toList_inj.1 hstems, String.toList_inj.1 hendings⟩

/-- A path of a file of a plain stem tells the stem and the ending. -/
theorem path_injective {stem stem' ending ending' : String} (hstem : Plain stem)
    (hstem' : Plain stem') (h : IsEnding ending) (h' : IsEnding ending')
    (heq : FilePath.join dir (stem ++ ending) = FilePath.join dir (stem' ++ ending')) :
    stem = stem' ∧ ending = ending' := by
  have hname := (isName_of_plain hstem h).not_absolute
  have hname' := (isName_of_plain hstem' h').not_absolute
  exact stem_ending_injective h h' (FilePath.join_injective hname hname' heq)

theorem nodup_paths_documentFiles {o : LocaleOutput} (h : Plain o.stem) :
    ((o.documentFiles dir).map (·.path)).Nodup := by
  unfold documentFiles
  split
  · rw [List.map_cons, List.map_singleton, List.nodup_cons, List.mem_singleton]
    refine ⟨?_, List.nodup_singleton _⟩
    intro heq
    have hending := (path_injective h h (.inl rfl) (.inr rfl) heq).2
    exact absurd hending (by decide)
  · exact List.nodup_nil

end LocaleOutput

/-! ### Files of all outputs -/

/-- The first failed output decides. -/
theorem outputFiles_eq_error_iff_first {e : CompileError} :
    outputFiles dir outputs = .error e ↔
      ∃ before o after, outputs = before ++ o :: after ∧
        (∀ p ∈ before, ∃ document, p.result = .ok document) ∧ o.result = .error e := by
  rw [outputFiles_eq_error_iff, List.findSome?_eq_some_iff]
  simp only [LocaleOutput.error?_eq_none_iff, LocaleOutput.error?_eq_some_iff]
  constructor
  · intro h
    obtain ⟨before, o, after, heq, herror, hbefore⟩ := h
    exact ⟨before, o, after, heq, hbefore, herror⟩
  · intro h
    obtain ⟨before, o, after, heq, hbefore, herror⟩ := h
    exact ⟨before, o, after, heq, herror, hbefore⟩

/-- Without a failed output there are the files of all of them, in their order. -/
theorem outputFiles_eq_ok_iff {files : List GeneratedFile} :
    outputFiles dir outputs = .ok files ↔
      (∀ o ∈ outputs, ∃ document, o.result = .ok document) ∧
        files = outputs.flatMap (·.documentFiles dir) := by
  induction outputs generalizing files with
  | nil => simp [outputFiles, eq_comm]
  | cons o outputs ih =>
    rw [outputFiles, bind_eq_ok_iff, List.forall_mem_cons, List.flatMap_cons]
    constructor
    · intro h
      obtain ⟨first, hfirst, hrest⟩ := h
      obtain ⟨rest, hmore, hfiles⟩ := bind_eq_ok_iff.1 hrest
      obtain ⟨hok, rfl⟩ := LocaleOutput.files_eq_ok_iff.1 hfirst
      obtain ⟨hall, rfl⟩ := ih.1 hmore
      exact ⟨⟨hok, hall⟩, (Except.ok.inj hfiles).symm⟩
    · intro h
      obtain ⟨⟨hok, hall⟩, hfiles⟩ := h
      refine ⟨_, LocaleOutput.files_eq_ok_iff.2 ⟨hok, rfl⟩, bind_eq_ok_iff.2 ?_⟩
      exact ⟨_, ih.2 ⟨hall, rfl⟩, congrArg Except.ok hfiles.symm⟩

/-- Different plain stems give files with different paths. -/
theorem nodup_paths (hplain : ∀ o ∈ outputs, Plain o.stem) (h : (outputs.map (·.stem)).Nodup) :
    ((outputs.flatMap (·.documentFiles dir)).map (·.path)).Nodup := by
  rw [List.map_flatMap, List.nodup_flatMap]
  constructor
  · intro o ho
    exact LocaleOutput.nodup_paths_documentFiles (hplain o ho)
  · have hstems : outputs.Pairwise fun o p => o.stem ≠ p.stem := List.pairwise_map.1 h
    refine hstems.imp_of_mem fun {o p} ho hp hne => ?_
    -- a common path would have one stem only
    intro path hpath hpath'
    obtain ⟨file, hfile, rfl⟩ := List.mem_map.1 hpath
    obtain ⟨file', hfile', heq⟩ := List.mem_map.1 hpath'
    obtain ⟨ending, hending, hjoin⟩ := LocaleOutput.exists_ending_of_mem hfile
    obtain ⟨ending', hending', hjoin'⟩ := LocaleOutput.exists_ending_of_mem hfile'
    rw [hjoin, hjoin'] at heq
    have hstem := (LocaleOutput.path_injective (hplain p hp) (hplain o ho) hending' hending heq).1
    exact hne hstem.symm

/-- Every file of a plain stem has a name in the directory. -/
theorem exists_name_of_mem (hplain : ∀ o ∈ outputs, Plain o.stem) {file : GeneratedFile}
    (h : file ∈ outputs.flatMap (·.documentFiles dir)) :
    ∃ name, FilePath.IsName name ∧ file.path = FilePath.join dir name := by
  obtain ⟨o, ho, hfile⟩ := List.mem_flatMap.1 h
  obtain ⟨ending, hending, hpath⟩ := LocaleOutput.exists_ending_of_mem hfile
  exact ⟨_, LocaleOutput.isName_of_plain (hplain o ho) hending, hpath⟩

/-- Every file of a plain stem is an entry of the directory. -/
theorem directChild_of_mem (hplain : ∀ o ∈ outputs, Plain o.stem) {file : GeneratedFile}
    (h : file ∈ outputs.flatMap (·.documentFiles dir)) :
    ∃ name, FilePath.DirectChild dir name file.path := by
  obtain ⟨name, hname, hpath⟩ := exists_name_of_mem hplain h
  rw [hpath]
  exact ⟨name, FilePath.directChild_join hname⟩

/-! ### Outputs of a locale set -/

/-- **Every locale gets its output and its files.**  Once the workers have started, there is one
output for each locale, in the order of the locales.  Its result is what became of the assembly for
that locale, with the document written as JSON and as YAML.  Whatever became of the single locales,
the files are refused with the error of the first that has failed; otherwise they are the two files
of every document, in the order of the locales, with different paths that all lead to entries of the
directory itself. -/
theorem outputs_follow_locales (pools : WorkerPools) (locales : LocaleSet) (d : Design)
    (hpool : pools.Starts locales.size) :
    ∃ outputs, runPasses pools locales d = .ok outputs ∧
      outputs.length = locales.size ∧
      (∀ (i : Nat) (code : String), locales.codes[i]? = some code →
        outputs[i]? = some
          { locale := code
            stem := if i = 0 then "openapi" else "openapi_" ++ code
            result := (assemble d code).map fun document => document.map fun document =>
              { json := Json.pretty document.toJson, yaml := Yaml.print document.toJson } }) ∧
      ∀ (dir : String) (results : List LocaleOutput),
        results.map (·.stem) = outputs.map (·.stem) →
        (∀ e, outputFiles dir results = .error e ↔
          ∃ before o after, results = before ++ o :: after ∧
            (∀ p ∈ before, ∃ document, p.result = .ok document) ∧ o.result = .error e) ∧
        (∀ files, outputFiles dir results = .ok files ↔
          (∀ o ∈ results, ∃ document, o.result = .ok document) ∧
            files = results.flatMap (·.documentFiles dir)) ∧
        ((results.flatMap (·.documentFiles dir)).map (·.path)).Nodup ∧
        ∀ file ∈ results.flatMap (·.documentFiles dir),
          ∃ name, FilePath.DirectChild dir name file.path := by
  refine ⟨generateAll locales d, runPasses_of_starts hpool d, length_generateAll locales d,
    fun i code hcode => getElem?_generateAll hcode, ?_⟩
  intro dir results hstems
  rw [map_stem_generateAll] at hstems
  have hplain : ∀ o ∈ results, Plain o.stem := by
    intro o ho
    apply locales.plain_stems
    rw [← hstems]
    exact List.mem_map_of_mem ho
  have hnodup : (results.map (·.stem)).Nodup := by
    rw [hstems]
    exact locales.nodup_stems
  exact ⟨fun e => outputFiles_eq_error_iff_first, fun files => outputFiles_eq_ok_iff,
    nodup_paths hplain hnodup, fun file hfile => directChild_of_mem hplain hfile⟩

/-- Two locales, English first. -/
def bilingual : LocaleSet := ⟨["en", "nl"], by decide, by decide, by decide⟩

/-- On a machine that starts every pool, both locales of a design with a document get their files. -/
theorem bilingual_outputs_follow :
    ∃ outputs, runPasses .ready bilingual shop = .ok outputs ∧
      outputs[1]? = some
        { locale := "nl"
          stem := "openapi_nl"
          result := (assemble shop "nl").map fun document => document.map fun document =>
            { json := Json.pretty document.toJson, yaml := Yaml.print document.toJson } } ∧
      ∃ files, outputFiles "out" outputs = .ok files ∧
        files.map (·.path) =
          ["out/openapi.json", "out/openapi.yaml", "out/openapi_nl.json", "out/openapi_nl.yaml"] ∧
        (files.map (·.path)).Nodup ∧
        ∀ file ∈ files, ∃ name, FilePath.DirectChild "out" name file.path := by
  obtain ⟨outputs, houtputs, -, houtput, hfiles⟩ :=
    outputs_follow_locales .ready bilingual shop (WorkerPools.ready_starts bilingual.size)
  obtain rfl : generateAll bilingual shop = outputs := Except.ok.inj houtputs
  obtain ⟨-, hok, hnodup, hchild⟩ := hfiles "out" (generateAll bilingual shop) rfl
  have hall : ∀ o ∈ generateAll bilingual shop, ∃ document, o.result = .ok document := by
    intro o ho
    have hlist : generateAll bilingual shop =
        [generateOne shop "en" "openapi", generateOne shop "nl" "openapi_nl"] := rfl
    rw [hlist, List.mem_cons, List.mem_singleton] at ho
    rcases ho with rfl | rfl
    · exact ⟨_, rfl⟩
    · exact ⟨_, rfl⟩
  exact ⟨_, houtputs, houtput 1 "nl" rfl, _, (hok _).2 ⟨hall, rfl⟩, rfl, hnodup, hchild⟩

end ApiDesign
