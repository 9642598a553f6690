/-!
# Blank characters

The characters that separate words, and the trimming of a text at both ends.

* `isBlank` — the property `White_Space` of the character database;
* `trim` — a text without the blanks it starts and ends with.
-/

namespace ApiDesign.Text

/-- A character with the property `White_Space`. -/
def isBlank (c : Char) : Bool :=
  (0x09 ≤ c.val && c.val ≤ 0x0D) || c.val == 0x20 || c.val == 0x85 || c.val == 0xA0
    || c.val == 0x1680 || (0x2000 ≤ c.val && c.val ≤ 0x200A) || c.val == 0x2028
    || c.val == 0x2029 || c.val == 0x202F || c.val == 0x205F || c.val == 0x3000

/-- The characters without the blanks at their end. -/
def trimEnd (cs : List Char) : List Char := (cs.reverse.dropWhile isBlank).reverse

/-- The characters without the blanks at both ends. -/
def trimChars (cs : List Char) : List Char := trimEnd (cs.dropWhile isBlank)

theorem length_trimChars_le (cs : List Char) : (trimChars cs).length ≤ cs.length := by
  have h : ∀ l : List Char, (l.dropWhile isBlank).length ≤ l.length := fun l =>
    (List.dropWhile_sublist isBlank).length_le
  have h₁ := h (cs.dropWhile isBlank).reverse
  have h₂ := h cs
  simp only [trimChars, trimEnd, List.length_reverse] at *
  omega

/-- The text without the blanks it starts and ends with. -/
def trim (s : String) : String := String.ofList (trimChars s.toList)

end ApiDesign.Text
