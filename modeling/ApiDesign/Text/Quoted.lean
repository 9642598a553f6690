import ApiDesign.Text.Digits
import ApiDesign.Text.Printable

/-!
# Quoted texts in messages

A message shows a text between quotation marks, with escapes for the marks, for backslashes and for
every character that would not be seen as itself.

* `escaped` — the form of one character;
* `quoted` — the form of a text.
-/

namespace ApiDesign.Text

/-- The form of a character inside a quoted text. -/
def escaped (c : Char) : List Char :=
  if c = '\x00' then ['\\', '0']
  else if c = '\t' then ['\\', 't']
  else if c = '\r' then ['\\', 'r']
  else if c = '\n' then ['\\', 'n']
  else if c = '"' then ['\\', '"']
  else if c = '\\' then ['\\', '\\']
  else if isPrintable c && !extendsGrapheme c then [c]
  else '\\' :: 'u' :: '\x7b' :: hexDigits c.toNat ++ ['\x7d']

/-- The text between quotation marks. -/
def quoted (s : String) : String := String.ofList ('"' :: s.toList.flatMap escaped ++ ['"'])

end ApiDesign.Text
