import ApiDesign.Locale
import ApiDesign.Proofs.Basics
import ApiDesign.Proofs.Text.Blank

/-!
# Which lists make a locale set

The codes of a list are looked at one by one: blank ones and repetitions are passed over, and the
first other one that is no code ends the matter.  All in all this is the same as trimming every
entry, dropping the blank ones, looking for one that is no code, and keeping the first of each.

* `LocaleSet.written` — the entries of a list, trimmed, without the blank ones;
* `LocaleSet.collect_eq` — what the codes come to, given those that were seen before;
* `LocaleSet.canonical` — the codes that a list comes to, or why it makes no set;
* `LocaleSet.locale_sets_canonical` — the sets that lists make, lists with commas, and a set as the
  list of its own codes.
-/

namespace ApiDesign

/-! ### Texts between commas -/

namespace Text

/-- Words without separators are found again between the separators. -/
theorem splitAt_intercalate {sep : Char} {words : List (List Char)} (hne : words ≠ [])
    (h : ∀ word ∈ words, sep ∉ word) : splitAt sep ([sep].intercalate words) = words := by
  induction words with
  | nil => exact absurd rfl hne
  | cons word words ih =>
    obtain ⟨hword, hwords⟩ := List.forall_mem_cons.1 h
    by_cases hlast : words = []
    · rw [hlast, List.intercalate_singleton, splitAt_of_not_mem hword]
    · rw [List.intercalate_cons_of_ne_nil hlast, List.append_assoc, List.singleton_append,
        splitAt_append, splitAt_of_not_mem hword, ih hlast hwords]
      rfl

theorem splitText_intercalate {words : List String} (hne : words ≠ [])
    (h : ∀ word ∈ words, ',' ∉ word.toList) : splitText ',' (",".intercalate words) = words := by
  have hsplit : splitAt ',' ([','].intercalate (words.map String.toList)) =
      words.map String.toList :=
    splitAt_intercalate (mt List.map_eq_nil_iff.1 hne) (List.forall_mem_map.2 h)
  rw [splitText, String.toList_intercalate]
  show (splitAt ',' ([','].intercalate _)).map _ = _
  rw [hsplit, List.map_map]
  exact List.map_id'' (fun _ => String.ofList_toList) words

end Text

/-- No blank belongs to a locale code. -/
theorem isBlank_of_isLocaleChar {c : Char} (h : isLocaleChar c = true) :
    Text.isBlank c = false := by
  unfold isLocaleChar Char.isAlphanum Char.isAlpha Char.isUpper Char.isLower Char.isDigit at h
  simp only [Bool.or_eq_true, Bool.and_eq_true, decide_eq_true_eq, ← Char.val_inj,
    ← UInt32.toNat_inj, ge_iff_le, UInt32.le_iff_toNat_le, Char.reduceVal, UInt32.reduceToNat] at h
  exact Text.isBlank_of_visible (by omega) (by omega)

namespace LocaleSet

open Text

variable {code : String} {codes seen : List String}

/-- The entries of a list, trimmed, without those that are blank. -/
def written (codes : List String) : List String :=
  (codes.map trim).filter fun code => !code.isEmpty

/-- A text with a character that no locale code has. -/
def isStrange (code : String) : Bool := !code.toList.all isLocaleChar

theorem written_cons_of_blank (h : (trim code).isEmpty = true) :
    written (code :: codes) = written codes := by
  rw [written, List.map_cons, List.filter_cons_of_neg (by simp [h])]
  rfl

theorem written_cons (h : (trim code).isEmpty = false) :
    written (code :: codes) = trim code :: written codes := by
  rw [written, List.map_cons, List.filter_cons_of_pos (by simp [h])]
  rfl

/-! ### Collecting codes -/

theorem collect_cons_of_passed (h : (trim code).isEmpty = true ∨ trim code ∈ seen) :
    collect seen (code :: codes) = collect seen codes := by
  rw [collect, if_pos (by simpa using h)]

/-- What is neither blank nor a repetition is kept or refused. -/
theorem collect_cons (hblank : (trim code).isEmpty = false) (hnew : trim code ∉ seen) :
    collect seen (code :: codes) =
      if isStrange (trim code) then .error (.invalidLocale (trim code))
      else collect (seen ++ [trim code]) codes := by
  rw [collect, if_neg (by simp [hblank, hnew]), isStrange]
  cases (trim code).toList.all isLocaleChar <;> rfl

/-- The entries that are new after one more was seen. -/
theorem filter_not_mem_concat (x : String) (codes : List String) :
    (codes.filter fun code => code ∉ seen ++ [x]) =
      (codes.filter fun code => code ∉ seen).filter fun code => !code == x := by
  rw [List.filter_filter]
  refine List.filter_congr fun code _ => ?_
  rw [Bool.eq_iff_iff]
  simp [and_comm]

/-- The first of the entries that are no codes is refused; without one, the first of each entry that
was not seen before is kept, in order. -/
theorem collect_eq (hseen : ∀ code ∈ seen, isStrange code = false) (codes : List String) :
    collect seen codes =
      match (written codes).find? isStrange with
      | some code => .error (.invalidLocale code)
      | none => .ok (seen ++ ((written codes).filter fun code => code ∉ seen).eraseDups) := by
  induction codes generalizing seen with
  | nil =>
    show Except.ok seen = Except.ok (seen ++ [])
    rw [List.append_nil]
  | cons code codes ih =>
    cases hblank : (trim code).isEmpty with
    | true => rw [collect_cons_of_passed (.inl hblank), written_cons_of_blank hblank, ih hseen]
    | false =>
      rw [written_cons hblank]
      by_cases hmem : trim code ∈ seen
      -- What was seen is a code, so that it is not the one to be refused.
      · have hfine : isStrange (trim code) = false := hseen _ hmem
        rw [collect_cons_of_passed (.inr hmem), ih hseen, List.find?_cons_of_neg (by simp [hfine]),
          List.filter_cons_of_neg (by simpa using hmem)]
      · rw [collect_cons hblank hmem]
        cases hstrange : isStrange (trim code) with
        | true =>
          rw [List.find?_cons_of_pos hstrange]
          rfl
        | false =>
          have hseen' : ∀ other ∈ seen ++ [trim code], isStrange other = false :=
            forall_mem_concat hseen hstrange
          rw [if_neg Bool.false_ne_true, ih hseen', List.find?_cons_of_neg (by simp [hstrange]),
            List.filter_cons_of_pos (by simpa using hmem), List.eraseDups_cons,
            filter_not_mem_concat, List.append_assoc]
          rfl

theorem eraseDups_eq_nil_iff : codes.eraseDups = [] ↔ codes = [] := by
  cases codes with
  | nil => exact Iff.rfl
  | cons code codes =>
    rw [List.eraseDups_cons]
    exact iff_of_false (List.cons_ne_nil _ _) (List.cons_ne_nil _ _)

theorem eraseDups_of_nodup (h : codes.Nodup) : codes.eraseDups = codes := by
  induction codes with
  | nil => rfl
  | cons code codes ih =>
    obtain ⟨hnew, hcodes⟩ := List.nodup_cons.1 h
    have hall : (codes.filter fun other => !other == code) = codes := by
      refine List.filter_eq_self.2 fun other hother => ?_
      have hne : other ≠ code := fun heq => hnew (heq ▸ hother)
      simpa using hne
    rw [List.eraseDups_cons, hall, ih hcodes]

/-- What the entries of a list come to all together. -/
def canonical (codes : List String) : Except ConfigError (List String) :=
  match (written codes).find? isStrange with
  | some code => .error (.invalidLocale code)
  | none => if written codes = [] then .error .missingLocales else .ok (written codes).eraseDups

theorem map_codes_ofCodes (codes : List String) :
    (ofCodes codes).map (·.codes) = canonical codes := by
  have hcollect := collect_eq (List.forall_mem_nil (isStrange · = false)) codes
  have hnew : ((written codes).filter fun code => code ∉ []) = written codes := by simp
  rw [hnew, List.nil_append] at hcollect
  unfold ofCodes canonical
  split
  · rename_i e he
    rw [he] at hcollect
    cases hfind : (written codes).find? isStrange with
    | some code =>
      rw [hfind] at hcollect
      exact congrArg _ (Except.error.inj hcollect)
    | none =>
      rw [hfind] at hcollect
      cases hcollect
  · rename_i out hout
    rw [hout] at hcollect
    cases hfind : (written codes).find? isStrange with
    | some code =>
      rw [hfind] at hcollect
      cases hcollect
    | none =>
      rw [hfind] at hcollect
      obtain rfl : out = (written codes).eraseDups := Except.ok.inj hcollect
      simp only [eraseDups_eq_nil_iff]
      split <;> rfl

theorem ofCodes_eq_ok_iff {s : LocaleSet} :
    ofCodes codes = .ok s ↔ canonical codes = .ok s.codes := by
  rw [← map_codes_ofCodes]
  cases ofCodes codes with
  | error e => exact iff_of_false nofun nofun
  | ok t =>
    show _ ↔ Except.ok t.codes = Except.ok s.codes
    obtain ⟨codes, _, _, _⟩ := s
    obtain ⟨codes', _, _, _⟩ := t
    rw [Except.ok.injEq, Except.ok.injEq, mk.injEq]

/-- The main locale is the first entry that is not blank. -/
theorem head?_written {s : LocaleSet} (h : ofCodes codes = .ok s) :
    (written codes).head? = some s.main := by
  have hmain : s.codes.head? = some s.main := List.head?_eq_some_head s.nonempty
  rw [ofCodes_eq_ok_iff, canonical] at h
  split at h
  · cases h
  · split at h
    · cases h
    · rw [← hmain, ← Except.ok.inj h]
      cases written codes with
      | nil => rfl
      | cons code codes =>
        rw [List.eraseDups_cons]
        rfl

/-! ### Lists with commas -/

/-- A list without commas in its entries is read between commas as it is. -/
theorem parse_intercalate (h : ∀ code ∈ codes, ',' ∉ code.toList) :
    parse (",".intercalate codes) = ofCodes codes := by
  by_cases hempty : codes = []
  -- Nothing between commas is one blank entry.
  · rw [hempty]
    rfl
  · rw [parse, splitText_intercalate hempty h]

/-! ### The codes of a set -/

section Codes

variable {s : LocaleSet}

theorem isStrange_of_mem (h : code ∈ s.codes) : isStrange code = false := by
  have hvalid := s.valid code h
  rw [isLocaleCode, Bool.and_eq_true] at hvalid
  rw [isStrange, hvalid.2]
  rfl

/-- A code of a set is not blank, and has no blanks around it. -/
theorem trim_of_mem (h : code ∈ s.codes) : code.isEmpty = false ∧ trim code = code := by
  have hvalid := s.valid code h
  rw [isLocaleCode, Bool.and_eq_true, Bool.not_eq_true'] at hvalid
  obtain ⟨hempty, hchars⟩ := hvalid
  have hplain : ∀ c ∈ code.toList, isBlank c = false := fun c hc =>
    isBlank_of_isLocaleChar (List.all_eq_true.1 hchars c hc)
  have htrimmed : Trimmed code.toList :=
    ⟨fun c hc => hplain c (List.mem_of_head? hc), fun c hc => hplain c (List.mem_of_getLast? hc)⟩
  have hcore := trimChars_append Blanks.nil htrimmed Blanks.nil
  rw [List.nil_append, List.append_nil] at hcore
  rw [trim, hcore, String.ofList_toList]
  exact ⟨hempty, rfl⟩

theorem comma_not_mem (h : code ∈ s.codes) : ',' ∉ code.toList := by
  intro hcomma
  have hvalid := s.valid code h
  rw [isLocaleCode, Bool.and_eq_true, List.all_eq_true] at hvalid
  exact absurd (hvalid.2 ',' hcomma) (by decide)

theorem written_codes (s : LocaleSet) : written s.codes = s.codes := by
  have htrim : s.codes.map trim = s.codes.map id :=
    List.map_congr_left fun code hcode => (trim_of_mem hcode).2
  rw [written, htrim, List.map_id]
  refine List.filter_eq_self.2 fun code hcode => ?_
  rw [(trim_of_mem hcode).1]
  rfl

/-- A set is what its codes make. -/
theorem ofCodes_codes (s : LocaleSet) : ofCodes s.codes = .ok s := by
  have hfind : s.codes.find? isStrange = none :=
    List.find?_eq_none.2 fun code hcode => by simp [isStrange_of_mem hcode]
  rw [ofCodes_eq_ok_iff, canonical, written_codes, hfind, eraseDups_of_nodup s.nodup]
  exact if_neg s.nonempty

end Codes

/-- **Locale sets are canonical.**  A list makes the set of its trimmed entries that are not blank,
each once, in the order in which they come first; it makes none if one of these has a strange
character, of which the first is reported, or if there are none of them.  A set has a code, has no
code twice and is led by the first entry.  A list with commas is read as the list of what stands
between them, and a set is read back from its codes, with commas or without. -/
theorem locale_sets_canonical :
    (∀ codes, (ofCodes codes).map (·.codes) =
      match (written codes).find? isStrange with
      | some code => .error (.invalidLocale code)
      | none =>
        if written codes = [] then .error .missingLocales else .ok (written codes).eraseDups) ∧
    (∀ codes s, ofCodes codes = .ok s →
      s.codes ≠ [] ∧ s.codes.Nodup ∧ (written codes).head? = some s.main) ∧
    (∀ codes : List String, (∀ code ∈ codes, ',' ∉ code.toList) →
      parse (",".intercalate codes) = ofCodes codes) ∧
    ∀ s : LocaleSet, parse s.display = .ok s ∧ ofCodes s.codes = .ok s := by
  refine ⟨map_codes_ofCodes, ?_, fun codes => parse_intercalate, ?_⟩
  · intro codes s h
    exact ⟨s.nonempty, s.nodup, head?_written h⟩
  · intro s
    have hdisplay : parse s.display = ofCodes s.codes :=
      parse_intercalate fun code hcode => comma_not_mem hcode
    exact ⟨hdisplay.trans (ofCodes_codes s), ofCodes_codes s⟩

/-- English comes first, although it is written with a blank before it and once more at the end. -/
theorem english_first :
    parse " en,pt-BR ,,en" = ofCodes [" en", "pt-BR ", "", "en"] ∧
    ∃ s, ofCodes [" en", "pt-BR ", "", "en"] = .ok s ∧ s.codes = ["en", "pt-BR"] ∧
      s.codes.Nodup ∧ s.main = "en" := by
  obtain ⟨hcodes, hset, hcommas, -⟩ := locale_sets_canonical
  have hplain : ∀ code ∈ [" en", "pt-BR ", "", "en"], ',' ∉ code.toList := by decide
  have hmap : (ofCodes [" en", "pt-BR ", "", "en"]).map (·.codes) = .ok ["en", "pt-BR"] :=
    (hcodes _).trans rfl
  refine ⟨hcommas _ hplain, ?_⟩
  cases h : ofCodes [" en", "pt-BR ", "", "en"] with
  | error e =>
    rw [h] at hmap
    cases hmap
  | ok s =>
    rw [h] at hmap
    obtain ⟨-, hnodup, hmain⟩ := hset _ s h
    exact ⟨s, rfl, Except.ok.inj hmap, hnodup, (Option.some.inj hmain).symm⟩

end LocaleSet

end ApiDesign
