import ApiDesign.Proofs.PathTemplate
import Mathlib.Data.List.Nodup

/-!
# The grammar of path templates

A path template begins with a slash and is a row of pieces whose wildcards have different names.  The
check reads a text character by character and remembers the names that it has seen; the names are
read off by another pass, which knows nothing of the check.

* `IsTemplate` — the grammar, without a reader;
* `scan_written` — the step: the scanner accepts a row of pieces exactly if the names in it are
  different and were not seen before;
* `template_grammar` — the check accepts exactly the texts of the grammar, and the names that are
  read off a template are those of its wildcards.
-/

namespace ApiDesign.PathTemplate

/-! ### The names in a row of pieces -/

/-- The characters of the name of a piece that is a wildcard. -/
def Piece.word? : Piece → Option (List Char)
  | .literal _ _ => none
  | .wildcard _ name => some name.chars

/-- The characters of the names in a row of pieces, in order. -/
def words (pieces : List Piece) : List (List Char) := pieces.filterMap Piece.word?

/-- The names in a row of pieces, in order. -/
def names (pieces : List Piece) : List String := pieces.filterMap Piece.name?

theorem words_literal {c : Char} (plain : c ≠ '{' ∧ c ≠ '}') (pieces : List Piece) :
    words (.literal c plain :: pieces) = words pieces := rfl

theorem words_wildcard (stars : Nat) (name : WildcardName) (pieces : List Piece) :
    words (.wildcard stars name :: pieces) = name.chars :: words pieces := rfl

theorem names_eq_map (pieces : List Piece) : names pieces = (words pieces).map String.ofList := by
  induction pieces with
  | nil => rfl
  | cons piece pieces ih =>
    cases piece with
    | literal c plain => exact ih
    | wildcard stars name => exact congrArg (String.ofList name.chars :: ·) ih

theorem nodup_names_iff (pieces : List Piece) : (names pieces).Nodup ↔ (words pieces).Nodup := by
  rw [names_eq_map]
  refine List.nodup_map_iff ?_
  intro cs cs' h
  simpa using congrArg String.toList h

/-- A word is made of the characters of names, and of at least one. -/
theorem of_mem_words {pieces : List Piece} {word : List Char} (h : word ∈ words pieces) :
    word ≠ [] ∧ ∀ c ∈ word, isNameChar c = true := by
  obtain ⟨piece, -, hword⟩ := List.mem_filterMap.1 h
  cases piece with
  | literal c plain => cases hword
  | wildcard stars name =>
    have hname : name.chars = word := Option.some.inj hword
    rw [← hname]
    exact ⟨name.nonempty, name.valid⟩

/-- Every wildcard has one opening brace, and nothing else has any. -/
theorem count_written (pieces : List Piece) :
    (written pieces).count '{' = (words pieces).length := by
  induction pieces with
  | nil => rfl
  | cons piece pieces ih =>
    rw [written_cons, List.count_append, ih]
    cases piece with
    | literal c plain =>
      have hnone : [c].count '{' = 0 := List.count_eq_zero.2 (by simpa using plain.1.symm)
      rw [words_literal]
      show [c].count '{' + _ = _
      omega
    | wildcard stars name =>
      have hinside : (List.replicate stars '*' ++ name.chars ++ ['}']).count '{' = 0 := by
        rw [List.count_eq_zero]
        simp only [List.mem_append, List.mem_singleton, not_or]
        refine ⟨⟨?_, ?_⟩, by decide⟩
        · intro hmem
          exact absurd (List.eq_of_mem_replicate hmem) (by decide)
        · intro hmem
          exact (isNameChar_ne (name.valid _ hmem)).1 rfl
      rw [words_wildcard, List.length_cons]
      show ('{' :: (List.replicate stars '*' ++ name.chars ++ ['}'])).count '{' + _ = _
      rw [List.count_cons_self]
      omega

/-! ### The scanner on a row of pieces -/

/-- Stars before the name are passed over. -/
theorem scan_stars (seen : List (List Char)) (stars : Nat) (rest : List Char) :
    scan seen (some []) (List.replicate stars '*' ++ rest) = scan seen (some []) rest := by
  induction stars with
  | zero => rfl
  | succ stars ih =>
    show scan seen (some []) ('*' :: (List.replicate stars '*' ++ rest)) = _
    rw [scan]
    simpa using ih

/-- The characters of a name are collected up to the closing brace, where the name must be new. -/
theorem scan_word (seen : List (List Char)) (name : List Char) {word : List Char}
    (hword : ∀ c ∈ word, isNameChar c = true) (hne : name.reverse ++ word ≠ []) (rest : List Char) :
    scan seen (some name) (word ++ '}' :: rest) = .ok () ↔
      name.reverse ++ word ∉ seen ∧ scan ((name.reverse ++ word) :: seen) none rest = .ok () := by
  induction word generalizing name with
  | nil =>
    rw [List.append_nil] at hne ⊢
    have hname : name.isEmpty = false := by simpa using hne
    show scan seen (some name) ('}' :: rest) = .ok () ↔ _
    rw [scan]
    by_cases hseen : name.reverse ∈ seen
    · simp [hname, hseen]
    · simp [hname, hseen]
  | cons c word ih =>
    have hc : isNameChar c = true := hword c List.mem_cons_self
    have hrest : ∀ c ∈ word, isNameChar c = true := fun c h => hword c (List.mem_cons_of_mem _ h)
    obtain ⟨hopen, hclose, hstar⟩ := isNameChar_ne hc
    have hshift : name.reverse ++ c :: word = (c :: name).reverse ++ word := by simp
    have hstep : scan seen (some name) (c :: (word ++ '}' :: rest)) =
        scan seen (some (c :: name)) (word ++ '}' :: rest) := by
      rw [scan]
      simp [hopen, hclose, hstar, hc]
    show scan seen (some name) (c :: (word ++ '}' :: rest)) = .ok () ↔ _
    rw [hstep, hshift]
    exact ih (c :: name) hrest (by simp)

/-- **The step.**  A row of pieces is accepted exactly if its names are different, and different from
those that were seen before. -/
theorem scan_written (seen : List (List Char)) (pieces : List Piece) :
    scan seen none (written pieces) = .ok () ↔
      (words pieces).Nodup ∧ ∀ word ∈ words pieces, word ∉ seen := by
  induction pieces generalizing seen with
  | nil => simp [written, words, scan]
  | cons piece pieces ih =>
    rw [written_cons]
    cases piece with
    | literal c plain =>
      show scan seen none (c :: written pieces) = .ok () ↔ _
      rw [scan, if_neg plain.1, if_neg plain.2, words_literal]
      exact ih seen
    | wildcard stars name =>
      have hchars : (Piece.wildcard stars name).chars ++ written pieces =
          '{' :: (List.replicate stars '*' ++ (name.chars ++ '}' :: written pieces)) := by
        simp [Piece.chars]
      have hword := scan_word seen [] name.valid (by simpa using name.nonempty) (written pieces)
      rw [List.reverse_nil, List.nil_append] at hword
      rw [hchars, scan, if_pos rfl, scan_stars, hword, ih, words_wildcard, List.nodup_cons,
        List.forall_mem_cons]
      -- later names must differ from this one, which the scanner has put among those it has seen
      simp only [List.mem_cons, not_or]
      constructor
      · rintro ⟨hnew, hnodup, hrest⟩
        refine ⟨⟨?_, hnodup⟩, hnew, fun word hmem => (hrest word hmem).2⟩
        intro hmem
        exact (hrest _ hmem).1 rfl
      · rintro ⟨⟨hnotin, hnodup⟩, hnew, hrest⟩
        refine ⟨hnew, hnodup, fun word hmem => ⟨?_, hrest word hmem⟩⟩
        intro heq
        exact hnotin (heq ▸ hmem)

/-! ### The grammar -/

/-- A text is written in pieces, begins with a slash, and has no wildcard name twice. -/
structure IsTemplate (path : String) (pieces : List Piece) : Prop where
  slash : path.toList.head? = some '/'
  written : path.toList = written pieces
  distinct : (names pieces).Nodup

/-- The leading slash is a piece like any other once it was found. -/
theorem check_eq_ok_iff (path : String) :
    check path = .ok () ↔
      path.toList.head? = some '/' ∧ scan [] none path.toList = .ok () := by
  have hcheck : check path = .ok () ↔ checkChars path.toList = .ok () := by
    unfold check
    split
    · rename_i h
      simp [h]
    · rename_i h
      simp [h]
  rw [hcheck]
  cases path.toList with
  | nil => simp [checkChars]
  | cons c cs =>
    by_cases hslash : c = '/'
    · subst hslash
      show scan [] none cs = .ok () ↔ _ ∧ scan [] none ('/' :: cs) = .ok ()
      simp [scan]
    · simp [checkChars, hslash]

theorem exists_isTemplate_iff (path : String) :
    check path = .ok () ↔ ∃ pieces, IsTemplate path pieces := by
  constructor
  · intro h
    obtain ⟨pieces, hwritten⟩ := exists_pieces_of_check h
    obtain ⟨hslash, hscan⟩ := (check_eq_ok_iff path).1 h
    rw [hwritten, scan_written] at hscan
    exact ⟨pieces, hslash, hwritten, (nodup_names_iff pieces).2 hscan.1⟩
  · rintro ⟨pieces, hslash, hwritten, hdistinct⟩
    refine (check_eq_ok_iff path).2 ⟨hslash, ?_⟩
    rw [hwritten, scan_written]
    exact ⟨(nodup_names_iff pieces).1 hdistinct, by simp⟩

theorem IsTemplate.wildcards_eq {path : String} {pieces : List Piece} (h : IsTemplate path pieces) :
    wildcards path = names pieces := by
  rw [wildcards, h.written, collect_written, names]

/-- **The grammar of path templates.**  A text is accepted exactly if it begins with a slash and is
written in characters that are no braces and in wildcards with different names.  However it is
written so, the names that are read off it are the names of these wildcards, in their order: all of
them different, none of them empty, without braces and stars, and one for each opening brace. -/
theorem template_grammar (path : String) :
    (check path = .ok () ↔ ∃ pieces, IsTemplate path pieces) ∧
    ∀ pieces, IsTemplate path pieces →
      wildcards path = names pieces ∧
      (wildcards path).Nodup ∧
      (∀ name ∈ wildcards path, name ≠ "" ∧ ∀ c ∈ name.toList, c ≠ '{' ∧ c ≠ '}' ∧ c ≠ '*') ∧
      (wildcards path).length = path.toList.count '{' := by
  refine ⟨exists_isTemplate_iff path, ?_⟩
  intro pieces h
  have hnames : wildcards path = names pieces := h.wildcards_eq
  rw [hnames]
  refine ⟨rfl, h.distinct, ?_, ?_⟩
  · intro name hname
    rw [names_eq_map] at hname
    obtain ⟨word, hword, rfl⟩ := List.mem_map.1 hname
    obtain ⟨hne, hvalid⟩ := of_mem_words hword
    refine ⟨?_, ?_⟩
    · simpa using hne
    · rw [String.toList_ofList]
      exact fun c hc => isNameChar_ne (hvalid c hc)
  · rw [h.written, count_written, names_eq_map, List.length_map]

/-- A path with a plain wildcard and a catch-all is a template, and these are its names. -/
theorem drive_grammar :
    check "/drives/{owner}/{**path.to}" = .ok () ∧
      wildcards "/drives/{owner}/{**path.to}" = ["owner", "path.to"] ∧
      (wildcards "/drives/{owner}/{**path.to}").Nodup := by
  obtain ⟨hiff, hnames⟩ := template_grammar "/drives/{owner}/{**path.to}"
  have hcheck : check "/drives/{owner}/{**path.to}" = .ok () := by decide +kernel
  obtain ⟨pieces, hpieces⟩ := hiff.1 hcheck
  obtain ⟨-, hnodup, -, -⟩ := hnames pieces hpieces
  exact ⟨hcheck, by decide +kernel, hnodup⟩

end ApiDesign.PathTemplate
