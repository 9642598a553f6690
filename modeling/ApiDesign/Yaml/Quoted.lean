import ApiDesign.Yaml.Gap
import ApiDesign.Yaml.Scalar

/-!
# Quoted scalars

* `readSingle` — between single quotes, where a quote is written twice;
* `readDouble` — between double quotes, with escapes.

Both begin after the opening quote and return the text and what follows the closing quote.
-/

namespace ApiDesign.Yaml

/-- Reads on between single quotes.  The text so far is given in reverse, then the gap after it. -/
def readSingleFrom (text : List Char) (gap : Gap) :
    List Char → Except SyntaxError (String × List Char)
  | [] => .error .unclosedQuote
  | '\'' :: '\'' :: r => readSingleFrom ('\'' :: gap.append text) .empty r
  | c :: r =>
    if isWhite c then readSingleFrom text (gap.addBlank c) r
    else if isBreak c then readSingleFrom text (gap.addBreak c) r
    else if gap.atLineStart && startsDocumentMark (c :: r) then .error .documentMarkInQuotes
    else if c = '\'' then .ok (String.ofList (gap.append text).reverse, r)
    else readSingleFrom (c :: gap.append text) .empty r

/-- Reads a scalar between single quotes. -/
def readSingle (cs : List Char) : Except SyntaxError (String × List Char) :=
  readSingleFrom [] .empty cs

/-- Where the reader stands between double quotes. -/
inductive DoubleState where
  /-- In the text, after a gap. -/
  | text (gap : Gap)
  /-- After a backslash. -/
  | escape
  /-- In the hexadecimal digits of an escape. -/
  | code (missing value : Nat)

/-- The character that a simple escape stands for. -/
def simpleEscape? (c : Char) : Option Char :=
  match c with
  | '0' => some '\x00'
  | 'a' => some '\x07'
  | 'b' => some '\x08'
  | 't' | '\t' => some '\t'
  | 'n' => some '\n'
  | 'v' => some '\x0b'
  | 'f' => some '\x0c'
  | 'r' => some '\r'
  | 'e' => some '\x1b'
  | ' ' => some ' '
  | '"' => some '"'
  | '/' => some '/'
  | '\\' => some '\\'
  | 'N' => some '\u0085'
  | '_' => some '\u00a0'
  | 'L' => some '\u2028'
  | 'P' => some '\u2029'
  | _ => none

/-- The number of hexadecimal digits that an escape takes. -/
def codeLength? (c : Char) : Option Nat :=
  match c with
  | 'x' => some 2
  | 'u' => some 4
  | 'U' => some 8
  | _ => none

/-- The character with a code; surrogates and numbers beyond the last character have none. -/
def charOfCode? (n : Nat) : Option Char :=
  if 0xD800 ≤ n ∧ n ≤ 0xDFFF ∨ 0x10FFFF < n then none else some (Char.ofNat n)

/-- Reads on between double quotes.  The text so far is given in reverse. -/
def readDoubleFrom (text : List Char) : DoubleState → List Char →
    Except SyntaxError (String × List Char)
  | _, [] => .error .unclosedQuote
  | .text gap, c :: r =>
    if isWhite c then readDoubleFrom text (.text (gap.addBlank c)) r
    else if isBreak c then readDoubleFrom text (.text (gap.addBreak c)) r
    else if gap.atLineStart && startsDocumentMark (c :: r) then .error .documentMarkInQuotes
    else if c = '"' then .ok (String.ofList (gap.append text).reverse, r)
    else if c = '\\' then readDoubleFrom (gap.append text) .escape r
    else readDoubleFrom (c :: gap.append text) (.text .empty) r
  | .escape, c :: r =>
    if isBreak c then readDoubleFrom text (.text .escaped) r
    else
      match simpleEscape? c, codeLength? c with
      | some d, _ => readDoubleFrom (d :: text) (.text .empty) r
      | none, some length => readDoubleFrom text (.code length 0) r
      | none, none => .error .unknownEscape
  | .code missing value, c :: r =>
    match Text.digitValue? 16 c with
    | none => .error .malformedEscape
    | some d =>
      if missing ≤ 1 then
        match charOfCode? (16 * value + d) with
        | some e => readDoubleFrom (e :: text) (.text .empty) r
        | none => .error .malformedEscape
      else readDoubleFrom text (.code (missing - 1) (16 * value + d)) r

/-- Reads a scalar between double quotes. -/
def readDouble (cs : List Char) : Except SyntaxError (String × List Char) :=
  readDoubleFrom [] (.text .empty) cs

end ApiDesign.Yaml
