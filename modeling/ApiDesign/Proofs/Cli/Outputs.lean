import ApiDesign.Generation
import ApiDesign.Proofs.OpenApi.Assembly

/-!
# The outputs for all locales

Every locale gets its own run of the assembly.  Whether a run fails, and with which error, does not
hang on the locale, so the runs of a design fail together and with one error, or none of them fails.

* `assemble_fails_together` — either all runs fail with one error or none fails;
* `outputFiles_eq_error_iff` — the files are refused exactly with the error of the first failed
  output;
* `outputFiles_of_failure`, `outputFiles_of_success` — the files of all locales, in these two cases.
-/

namespace ApiDesign

open OpenApi

variable {d : Design} {locales : LocaleSet} {dir : String}

/-- Assembly fails for all locales with one error, or for none. -/
theorem OpenApi.assemble_fails_together (d : Design) :
    (∃ e, ∀ locale, assemble d locale = .error e) ∨
      ∀ locale, ∃ document, assemble d locale = .ok document := by
  cases h : assemble d "" with
  | error e => exact .inl ⟨e, fun locale => assemble_eq_error_iff.2 (assemble_eq_error_iff.1 h)⟩
  | ok document =>
    refine .inr fun locale => ?_
    cases hlocale : assemble d locale with
    | error e =>
      have herror : assemble d "" = .error e :=
        assemble_eq_error_iff.2 (assemble_eq_error_iff.1 hlocale)
      rw [h] at herror
      cases herror
    | ok document => exact ⟨document, rfl⟩

/-! ### Outputs -/

/-- Every output is that of some locale. -/
theorem exists_of_mem_generateAll {o : LocaleOutput} (h : o ∈ generateAll locales d) :
    ∃ locale stem, o = generateOne d locale stem := by
  rw [generateAll, ← List.map_uncurry_zip_eq_zipWith] at h
  obtain ⟨⟨locale, stem⟩, -, rfl⟩ := List.mem_map.1 h
  exact ⟨locale, stem, rfl⟩

/-- Every locale has a stem. -/
theorem LocaleSet.length_stems (locales : LocaleSet) :
    locales.stems.length = locales.codes.length := by
  have hpos : 0 < locales.codes.length := List.length_pos_iff.2 locales.nonempty
  rw [stems, List.length_cons, List.length_map, List.length_tail]
  omega

theorem length_generateAll (locales : LocaleSet) (d : Design) :
    (generateAll locales d).length = locales.size := by
  rw [generateAll, List.length_zipWith, locales.length_stems, Nat.min_self, LocaleSet.size]

theorem generateAll_ne_nil (locales : LocaleSet) (d : Design) : generateAll locales d ≠ [] := by
  have hlength := length_generateAll locales d
  intro hnil
  rw [hnil, LocaleSet.size] at hlength
  exact locales.nonempty (List.length_eq_zero_iff.1 hlength.symm)

/-! ### Files -/

/-- The error of an output that has failed. -/
def LocaleOutput.error? (o : LocaleOutput) : Option CompileError :=
  match o.result with
  | .error e => some e
  | .ok _ => none

theorem error?_generateOne (d : Design) (locale stem : String) :
    (generateOne d locale stem).error? =
      match assemble d locale with
      | .error e => some e
      | .ok _ => none := by
  rw [LocaleOutput.error?, generateOne]
  cases assemble d locale <;> rfl

theorem LocaleOutput.files_eq_error_iff {o : LocaleOutput} {e : CompileError} :
    o.files dir = .error e ↔ o.error? = some e := by
  unfold files error?
  split
  · rename_i heq
    simp [heq]
  · rename_i heq
    simp [heq]
  · rename_i heq
    simp [heq]

/-- The files are refused exactly if some output has failed, and with the error of the first that
has. -/
theorem outputFiles_eq_error_iff {outputs : List LocaleOutput} {e : CompileError} :
    outputFiles dir outputs = .error e ↔ outputs.findSome? (·.error?) = some e := by
  induction outputs with
  | nil => simp [outputFiles]
  | cons o outputs ih =>
    have hhead (err : CompileError) : o.files dir = .error err ↔ o.error? = some err :=
      LocaleOutput.files_eq_error_iff
    rw [outputFiles, List.findSome?_cons]
    cases hfiles : o.files dir with
    | error err =>
      rw [(hhead err).1 hfiles]
      show Except.error err = Except.error e ↔ _
      simp
    | ok files =>
      have hnone : o.error? = none := by
        cases herror : o.error? with
        | none => rfl
        | some err =>
          rw [(hhead err).2 herror] at hfiles
          cases hfiles
      rw [hnone]
      dsimp only
      rw [← ih]
      cases outputFiles dir outputs with
      | error err => exact Iff.rfl
      | ok more => exact iff_of_false (by rintro ⟨⟩) (by rintro ⟨⟩)

variable (locales dir)

/-- If assembly fails for all locales, the files are refused with its error. -/
theorem outputFiles_of_failure {e : CompileError} (h : ∀ locale, assemble d locale = .error e) :
    outputFiles dir (generateAll locales d) = .error e := by
  obtain ⟨o, outputs, houtputs⟩ := List.exists_cons_of_ne_nil (generateAll_ne_nil locales d)
  have hmem : o ∈ generateAll locales d := houtputs ▸ List.mem_cons_self
  obtain ⟨locale, stem, rfl⟩ := exists_of_mem_generateAll hmem
  rw [outputFiles_eq_error_iff, houtputs, List.findSome?_cons, error?_generateOne, h locale]

/-- If assembly fails for no locale, there are files. -/
theorem outputFiles_of_success (h : ∀ locale, ∃ document, assemble d locale = .ok document) :
    ∃ files, outputFiles dir (generateAll locales d) = .ok files := by
  cases hfiles : outputFiles dir (generateAll locales d) with
  | ok files => exact ⟨files, rfl⟩
  | error e =>
    exfalso
    obtain ⟨o, ho, herror⟩ :=
      List.exists_of_findSome?_eq_some (outputFiles_eq_error_iff.1 hfiles)
    obtain ⟨locale, stem, rfl⟩ := exists_of_mem_generateAll ho
    obtain ⟨document, hdocument⟩ := h locale
    rw [error?_generateOne, hdocument] at herror
    cases herror

end ApiDesign
