/-!
# Splitting at a separator

`splitAt sep cs` is the list of the words between separators: one more than there are separators,
of which any may be empty.
-/

namespace ApiDesign.Text

/-- The words between separators. -/
def splitAt (sep : Char) : List Char → List (List Char)
  | [] => [[]]
  | c :: r =>
    if c = sep then [] :: splitAt sep r
    else
      match splitAt sep r with
      | [] => [[c]]
      | word :: words => (c :: word) :: words

theorem splitAt_ne_nil (sep : Char) (cs : List Char) : splitAt sep cs ≠ [] := by
  cases cs with
  | nil => simp [splitAt]
  | cons c r =>
    simp only [splitAt]
    split
    · simp
    · split <;> simp

theorem splitAt_of_not_mem {sep : Char} {cs : List Char} (h : sep ∉ cs) :
    splitAt sep cs = [cs] := by
  induction cs with
  | nil => rfl
  | cons c r ih =>
    rw [List.mem_cons, not_or] at h
    rw [splitAt, if_neg (Ne.symm h.1), ih h.2]

/-- A separator ends the words before it. -/
theorem splitAt_append (sep : Char) (xs ys : List Char) :
    splitAt sep (xs ++ sep :: ys) = splitAt sep xs ++ splitAt sep ys := by
  induction xs with
  | nil =>
    show splitAt sep (sep :: ys) = [] :: splitAt sep ys
    rw [splitAt, if_pos rfl]
  | cons c r ih =>
    rw [List.cons_append, splitAt, splitAt, ih]
    split
    · rfl
    · cases hr : splitAt sep r with
      | nil => exact absurd hr (splitAt_ne_nil sep r)
      | cons word words => rfl

/-- The words of a text between separators. -/
def splitText (sep : Char) (s : String) : List String :=
  (splitAt sep s.toList).map String.ofList

end ApiDesign.Text
