import ApiDesign.PathTemplate
import Mathlib.Data.List.Basic

/-!
# The wildcards of a path template

A path template is a row of pieces: characters that are no braces, and wildcards.  A wildcard is
written between braces, with stars before its name if it is a catch-all.

* `Piece`, `written` — the pieces, and how a row of them is written;
* `exists_pieces_of_check` — what the check accepts is written in pieces;
* `collect_written` — the names that are read off a row of pieces are those of its wildcards;
* `hasWildcard_of_mem_wildcards` — every name of a template stands in it between braces.
-/

namespace ApiDesign.PathTemplate

/-! ### Pieces -/

/-- The name of a wildcard. -/
structure WildcardName where
  chars : List Char
  nonempty : chars ≠ []
  valid : ∀ c ∈ chars, isNameChar c = true

/-- A piece of a path template. -/
inductive Piece where
  | literal (c : Char) (plain : c ≠ '{' ∧ c ≠ '}')
  /-- A wildcard; a catch-all has stars before its name. -/
  | wildcard (stars : Nat) (name : WildcardName)

namespace Piece

/-- How a piece is written. -/
def chars : Piece → List Char
  | .literal c _ => [c]
  | .wildcard stars name => '{' :: (List.replicate stars '*' ++ name.chars) ++ ['}']

/-- The name of a piece that is a wildcard. -/
def name? : Piece → Option String
  | .literal _ _ => none
  | .wildcard _ name => some (String.ofList name.chars)

end Piece

/-- How a row of pieces is written. -/
def written (pieces : List Piece) : List Char := pieces.flatMap Piece.chars

theorem written_cons (piece : Piece) (pieces : List Piece) :
    written (piece :: pieces) = piece.chars ++ written pieces := List.flatMap_cons

/-- The characters of a name are none of those that stand around it. -/
theorem isNameChar_ne {c : Char} (h : isNameChar c = true) : c ≠ '{' ∧ c ≠ '}' ∧ c ≠ '*' := by
  refine ⟨?_, ?_, ?_⟩
  · rintro rfl
    exact absurd h (by decide)
  · rintro rfl
    exact absurd h (by decide)
  · rintro rfl
    exact absurd h (by decide)

/-! ### What the check accepts -/

/-- By induction on the text, for both places at which the scanner can be.  Outside a wildcard the
rest of the text is written in pieces.  Inside one, the rest ends the wildcard first: with stars as
long as the name has not begun, and with what is left of the name. -/
theorem exists_pieces_of_scan (cs : List Char) :
    (∀ seen, scan seen none cs = .ok () → ∃ pieces, cs = written pieces) ∧
    (∀ seen name, scan seen (some name) cs = .ok () → ∃ stars more pieces,
      cs = List.replicate stars '*' ++ more ++ '}' :: written pieces ∧
        name.reverse ++ more ≠ [] ∧ (∀ c ∈ more, isNameChar c = true) ∧
        (name ≠ [] → stars = 0)) := by
  induction cs with
  | nil =>
    refine ⟨fun _ _ => ⟨[], rfl⟩, fun _ _ h => ?_⟩
    cases h
  | cons c cs ih =>
    obtain ⟨outside, inside⟩ := ih
    constructor
    · intro seen h
      rw [scan] at h
      split at h
      · rename_i hopen
        obtain ⟨stars, more, pieces, hcs, hne, hvalid, -⟩ := inside seen [] h
        refine ⟨.wildcard stars ⟨more, hne, hvalid⟩ :: pieces, ?_⟩
        rw [written_cons, hopen, hcs]
        simp [Piece.chars]
      · rename_i hopen
        split at h
        · cases h
        · rename_i hclose
          obtain ⟨pieces, hcs⟩ := outside seen h
          refine ⟨.literal c ⟨hopen, hclose⟩ :: pieces, ?_⟩
          rw [written_cons, hcs]
          rfl
    · intro seen name h
      rw [scan] at h
      split at h
      · cases h
      · split at h
        · -- the wildcard ends here
          rename_i hclose
          split at h
          · cases h
          · rename_i hne
            split at h
            · cases h
            · obtain ⟨pieces, hcs⟩ := outside _ h
              refine ⟨0, [], pieces, ?_, ?_, by simp, fun _ => rfl⟩
              · rw [hclose, hcs]
                rfl
              · simpa using hne
        · split at h
          · -- a star before the name
            rename_i hstar
            have hstar : c = '*' ∧ name = [] := by simpa using hstar
            obtain ⟨stars, more, pieces, hcs, hne, hvalid, -⟩ := inside seen name h
            refine ⟨stars + 1, more, pieces, ?_, hne, hvalid, fun hname => absurd hstar.2 hname⟩
            rw [hstar.1, hcs, List.replicate_succ]
            rfl
          · split at h
            · -- a character of the name, after which there are no stars
              rename_i hchar
              obtain ⟨stars, more, pieces, hcs, -, hvalid, hstars⟩ := inside seen (c :: name) h
              have hnone : stars = 0 := hstars (List.cons_ne_nil c name)
              refine ⟨0, c :: more, pieces, ?_, by simp, ?_, fun _ => rfl⟩
              · rw [hcs, hnone]
                rfl
              · exact List.forall_mem_cons.2 ⟨hchar, hvalid⟩
            · cases h

/-- What the check accepts is written in pieces. -/
theorem exists_pieces_of_check {path : String} (h : check path = .ok ()) :
    ∃ pieces, path.toList = written pieces := by
  have hchars : checkChars path.toList = .ok () := by
    unfold check at h
    split at h
    · assumption
    · cases h
  unfold checkChars at hchars
  split at hchars
  · rename_i cs hpath
    obtain ⟨pieces, hcs⟩ := (exists_pieces_of_scan cs).1 [] hchars
    refine ⟨.literal '/' (by decide) :: pieces, ?_⟩
    rw [hpath, written_cons, hcs]
    rfl
  · cases hchars

/-! ### The names that are read off -/

theorem nameOf_wildcard (stars : Nat) (name : WildcardName) :
    nameOf (List.replicate stars '*' ++ name.chars).reverse = [String.ofList name.chars] := by
  have hdrop : (List.replicate stars '*' ++ name.chars).dropWhile (· = '*') = name.chars := by
    rw [List.dropWhile_append_of_pos (by simp)]
    cases hname : name.chars with
    | nil => exact absurd hname name.nonempty
    | cons c cs =>
      have hc : c ≠ '*' := (isNameChar_ne (name.valid c (by simp [hname]))).2.2
      simp [hc]
  have hne : name.chars.isEmpty = false := by simpa using name.nonempty
  simp only [nameOf, List.reverse_reverse, hdrop, hne, Bool.false_eq_true, if_false]

/-- Inside a wildcard the characters are collected up to the brace that closes it. -/
theorem collect_inside (inside : List Char) {cs : List Char} (h : ∀ c ∈ cs, c ≠ '}')
    (rest : List Char) :
    collect (some inside) (cs ++ '}' :: rest) =
      nameOf (cs.reverse ++ inside) ++ collect none rest := by
  induction cs generalizing inside with
  | nil => simp [collect]
  | cons c cs ih =>
    have hc : c ≠ '}' := h c List.mem_cons_self
    have hcs : ∀ c ∈ cs, c ≠ '}' := fun c hmem => h c (List.mem_cons_of_mem _ hmem)
    show collect (some inside) (c :: (cs ++ '}' :: rest)) = _
    rw [collect, if_neg hc, ih _ hcs, List.reverse_cons, List.append_assoc]
    rfl

theorem collect_wildcard (stars : Nat) (name : WildcardName) (rest : List Char) :
    collect none ((Piece.wildcard stars name).chars ++ rest) =
      String.ofList name.chars :: collect none rest := by
  have hclosed : ∀ c ∈ List.replicate stars '*' ++ name.chars, c ≠ '}' := by
    intro c hc
    rcases List.mem_append.1 hc with hc | hc
    · rw [List.eq_of_mem_replicate hc]
      decide
    · exact (isNameChar_ne (name.valid c hc)).2.1
  have hchars : (Piece.wildcard stars name).chars ++ rest
      = '{' :: ((List.replicate stars '*' ++ name.chars) ++ '}' :: rest) := by
    simp [Piece.chars]
  rw [hchars, collect, if_pos rfl, collect_inside [] hclosed, List.append_nil, nameOf_wildcard]
  rfl

/-- The names that are read off a row of pieces are those of its wildcards. -/
theorem collect_written (pieces : List Piece) :
    collect none (written pieces) = pieces.filterMap Piece.name? := by
  induction pieces with
  | nil => rfl
  | cons piece pieces ih =>
    rw [written_cons, List.filterMap_cons]
    cases piece with
    | literal c plain =>
      show collect none (c :: written pieces) = _
      rw [collect, if_neg plain.1, ih]
      rfl
    | wildcard stars name =>
      rw [collect_wildcard, ih]
      rfl

/-- A wildcard of a name stands in a path: the name between braces, after the stars that mark it as
a catch-all, if there are any. -/
def HasWildcard (path : String) (stars : Nat) (name : String) : Prop :=
  '{' :: (List.replicate stars '*' ++ name.toList) ++ ['}'] <:+: path.toList

instance (path : String) (stars : Nat) (name : String) :
    Decidable (HasWildcard path stars name) :=
  inferInstanceAs (Decidable (_ <:+: path.toList))

/-- Every name of a template is that of a wildcard which stands in it. -/
theorem hasWildcard_of_mem_wildcards {path name : String} (h : check path = .ok ())
    (hname : name ∈ wildcards path) :
    (∀ c ∈ name.toList, isNameChar c = true) ∧ ∃ stars, HasWildcard path stars name := by
  obtain ⟨pieces, hpath⟩ := exists_pieces_of_check h
  rw [wildcards, hpath, collect_written] at hname
  obtain ⟨piece, hpiece, hname⟩ := List.mem_filterMap.1 hname
  cases piece with
  | literal c plain => cases hname
  | wildcard stars wildcardName =>
    have hchars : name.toList = wildcardName.chars := by
      rw [← Option.some.inj hname, String.toList_ofList]
    have hinfix : (Piece.wildcard stars wildcardName).chars <:+: written pieces := by
      rw [written, List.flatMap_def]
      exact List.infix_of_mem_flatten (List.mem_map_of_mem hpiece)
    unfold HasWildcard
    rw [hchars, hpath]
    exact ⟨wildcardName.valid, stars, hinfix⟩

end ApiDesign.PathTemplate
