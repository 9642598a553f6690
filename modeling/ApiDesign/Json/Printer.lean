import ApiDesign.Decimal.Notation
import ApiDesign.Json.Basic
import ApiDesign.Text.Quoted

/-!
# JSON text

* `Json.floatStyle` — how the numbers that are no whole numbers are spelled;
* `Json.quote` — a text as a JSON string;
* `Json.pretty` — two blanks of indentation per level, one entry per line;
* `Json.compact` — everything on one line.
-/

namespace ApiDesign.Json

/-- Leading digits from 10⁻⁵ to 10¹⁵ are written positionally; elsewhere the exponent carries its
sign. -/
def floatStyle : Decimal.Style := ⟨-5, 15, true⟩

/-- The form of a character inside a string: only the mark, the backslash and the control
characters below U+0020 are escaped. -/
def escape (c : Char) : List Char :=
  if c = '"' then ['\\', '"']
  else if c = '\\' then ['\\', '\\']
  else if c = '\n' then ['\\', 'n']
  else if c = '\r' then ['\\', 'r']
  else if c = '\t' then ['\\', 't']
  else if c = '\x08' then ['\\', 'b']
  else if c = '\x0c' then ['\\', 'f']
  else if c.toNat < 0x20 then
    '\\' :: 'u' :: '0' :: '0' :: (if c.toNat < 0x10 then ['0'] else []) ++ Text.hexDigits c.toNat
  else [c]

/-- A text as a JSON string. -/
def quote (s : String) : String := String.ofList ('"' :: s.toList.flatMap escape ++ ['"'])

/-- The text of a whole number. -/
def intText (i : Int) : String := toString i

/-- The line break before an entry at a depth. -/
def lineBreak (depth : Nat) : String := String.ofList ('\n' :: List.replicate (2 * depth) ' ')

mutual

/-- The indented text of a value that stands at a depth. -/
def prettyAt (depth : Nat) : Json → String
  | .null => "null"
  | .bool b => if b then "true" else "false"
  | .int i => intText i
  | .float x => floatText floatStyle x
  | .str s => quote s
  | .arr [] => "[]"
  | .arr (x :: r) =>
    "[" ++ lineBreak (depth + 1) ++ prettyAt (depth + 1) x ++ prettyItems (depth + 1) r
      ++ lineBreak depth ++ "]"
  | .obj [] => "\x7b\x7d"
  | .obj ((k, x) :: r) =>
    "\x7b" ++ lineBreak (depth + 1) ++ quote k ++ ": " ++ prettyAt (depth + 1) x
      ++ prettyEntries (depth + 1) r ++ lineBreak depth ++ "\x7d"

/-- The items of a list after the first one. -/
def prettyItems (depth : Nat) : List Json → String
  | [] => ""
  | x :: r => "," ++ lineBreak depth ++ prettyAt depth x ++ prettyItems depth r

/-- The entries of an object after the first one. -/
def prettyEntries (depth : Nat) : List (String × Json) → String
  | [] => ""
  | (k, x) :: r =>
    "," ++ lineBreak depth ++ quote k ++ ": " ++ prettyAt depth x ++ prettyEntries depth r

end

/-- The indented text of a value, without a final line break. -/
def pretty (v : Json) : String := prettyAt 0 v

mutual

/-- The text of a value on one line, without blanks. -/
def compact : Json → String
  | .null => "null"
  | .bool b => if b then "true" else "false"
  | .int i => intText i
  | .float x => floatText floatStyle x
  | .str s => quote s
  | .arr [] => "[]"
  | .arr (x :: r) => "[" ++ compact x ++ compactItems r ++ "]"
  | .obj [] => "\x7b\x7d"
  | .obj ((k, x) :: r) => "\x7b" ++ quote k ++ ":" ++ compact x ++ compactEntries r ++ "\x7d"

/-- The items of a list after the first one. -/
def compactItems : List Json → String
  | [] => ""
  | x :: r => "," ++ compact x ++ compactItems r

/-- The entries of an object after the first one. -/
def compactEntries : List (String × Json) → String
  | [] => ""
  | (k, x) :: r => "," ++ quote k ++ ":" ++ compact x ++ compactEntries r

end

end ApiDesign.Json
