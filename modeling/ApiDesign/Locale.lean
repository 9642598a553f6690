import ApiDesign.ConfigError
import ApiDesign.Text.Blank
import ApiDesign.Text.Split

/-!
# Locale sets

The locales that documents are made for: codes without repetition, the main one first.  A code ends
up in file names, so that only ASCII letters, digits, `-` and `_` are allowed.

* `LocaleSet.ofCodes` — trims codes, drops blank and repeated ones and refuses others that are none;
* `LocaleSet.parse` — the same for a list with commas;
* `LocaleSet.stems` — the names of the documents without their endings.
-/

namespace ApiDesign

/-- A character of a locale code. -/
def isLocaleChar (c : Char) : Bool := c.isAlphanum || c = '-' || c = '_'

/-- A text that can be a locale code. -/
def isLocaleCode (s : String) : Bool := !s.isEmpty && s.toList.all isLocaleChar

/-- The locales that documents are made for, the main one first. -/
structure LocaleSet where
  codes : List String
  nonempty : codes ≠ []
  nodup : codes.Nodup
  valid : ∀ code ∈ codes, isLocaleCode code

namespace LocaleSet

/-- Adds codes to those that were seen before. -/
def collect (seen : List String) : List String → Except ConfigError (List String)
  | [] => .ok seen
  | code :: r =>
    let code := Text.trim code
    if code.isEmpty || seen.contains code then collect seen r
    else if code.toList.all isLocaleChar then collect (seen ++ [code]) r
    else .error (.invalidLocale code)

theorem nodup_collect {seen codes out : List String} (h : collect seen codes = .ok out)
    (hs : seen.Nodup) : out.Nodup := by
  induction codes generalizing seen with
  | nil =>
    simp only [collect, Except.ok.injEq] at h
    exact h ▸ hs
  | cons code r ih =>
    simp only [collect, Bool.or_eq_true, List.contains_eq_mem, decide_eq_true_eq] at h
    split at h
    · exact ih h hs
    · rename_i hc
      split at h
      · refine ih h (List.nodup_append.2 ⟨hs, by simp, ?_⟩)
        intro a ha b hb hab
        simp only [List.mem_singleton] at hb
        exact hc (.inr (hb ▸ hab ▸ ha))
      · simp at h

theorem valid_collect {seen codes out : List String} (h : collect seen codes = .ok out)
    (hs : ∀ code ∈ seen, isLocaleCode code) : ∀ code ∈ out, isLocaleCode code := by
  induction codes generalizing seen with
  | nil =>
    simp only [collect, Except.ok.injEq] at h
    exact h ▸ hs
  | cons code r ih =>
    simp only [collect, Bool.or_eq_true] at h
    split at h
    · exact ih h hs
    · rename_i hc
      split at h
      · rename_i hv
        refine ih h fun x hx => ?_
        rcases List.mem_append.1 hx with hx | hx
        · exact hs x hx
        · simp only [List.mem_singleton] at hx
          subst hx
          simp only [not_or, Bool.not_eq_true] at hc
          simp [isLocaleCode, hc.1, hv]
      · simp at h

/-- The set of a list of codes. -/
def ofCodes (codes : List String) : Except ConfigError LocaleSet :=
  match h : collect [] codes with
  | .error e => .error e
  | .ok out =>
    if hn : out = [] then .error .missingLocales
    else .ok ⟨out, hn, nodup_collect h List.nodup_nil, valid_collect h (by simp)⟩

/-- The set of a list with commas. -/
def parse (list : String) : Except ConfigError LocaleSet := ofCodes (Text.splitText ',' list)

/-- The main locale. -/
def main (s : LocaleSet) : String := s.codes.head s.nonempty

/-- The number of locales. -/
def size (s : LocaleSet) : Nat := s.codes.length

/-- The codes with commas between them. -/
def display (s : LocaleSet) : String := ",".intercalate s.codes

/-- The name of every document without its ending. -/
def outputStem : String := "openapi"

/-- The name of a document of a locale that is not the main one, without its ending. -/
def stemOf (locale : String) : String := outputStem ++ "_" ++ locale

/-- The names of the documents without their endings, in the order of the locales. -/
def stems (s : LocaleSet) : List String := outputStem :: s.codes.tail.map stemOf

end LocaleSet

end ApiDesign
