import ApiDesign.Decimal.Reading
import ApiDesign.Json.Basic
import ApiDesign.Text.Digits

/-!
# Reading JSON text

* `Json.parse?` — the value of a text.  Whole numbers of at most 64 bits are exact and all others
  are doubles; an object is held in the order of its keys, with the last value of each;
* `Json.scale` — how such a double is found, to within a few units of its last place.

Every reader takes the remaining characters and returns what it has read and what remains.
-/

namespace ApiDesign.Json

/-- A blank between the parts of a text. -/
def isBlank (c : Char) : Bool := c = ' ' || c = '\n' || c = '\r' || c = '\t'

/-- What remains after blanks. -/
def skipBlanks (cs : List Char) : List Char := cs.dropWhile isBlank

/-! ### Strings -/

/-- The character that an escape of one letter stands for. -/
def simpleEscape? (c : Char) : Option Char :=
  match c with
  | '"' | '\\' | '/' => some c
  | 'b' => some '\x08'
  | 'f' => some '\x0c'
  | 'n' => some '\n'
  | 'r' => some '\r'
  | 't' => some '\t'
  | _ => none

/-- The first half of a character that takes two escapes. -/
def isHighHalf (n : Nat) : Bool := 0xd800 ≤ n && n < 0xdc00

/-- The second half of a character that takes two escapes. -/
def isLowHalf (n : Nat) : Bool := 0xdc00 ≤ n && n < 0xe000

/-- The character of two halves. -/
def joinHalves (high low : Nat) : Char :=
  Char.ofNat (0x10000 + 0x400 * (high - 0xd800) + (low - 0xdc00))

/-- Reads what remains of a string.  The text so far is given in reverse, and so is the first half
of a character whose second half must follow. -/
def readString (text : List Char) (high : Option Nat) : List Char → Option (String × List Char)
  | '\\' :: 'u' :: a :: b :: c :: d :: r => do
    let n ← Text.readNumber? 16 [a, b, c, d]
    match high with
    | some h => if isLowHalf n then readString (joinHalves h n :: text) none r else none
    | none =>
      if isHighHalf n then readString text (some n) r
      else if isLowHalf n then none
      else readString (Char.ofNat n :: text) none r
  | '\\' :: c :: r =>
    match simpleEscape? c, high with
    | some d, none => readString (d :: text) none r
    | _, _ => none
  | c :: r =>
    if high.isSome || c.toNat < 0x20 || c = '\\' then none
    else if c = '"' then some (String.ofList text.reverse, r)
    else readString (c :: text) none r
  | [] => none

/-! ### Numbers -/

/-- A character of a number. -/
def isNumberChar (c : Char) : Bool :=
  c.isDigit || c = '-' || c = '+' || c = '.' || c = 'e' || c = 'E'

/-- Whether digits stand before any point, without needless zeros, and after every point. -/
def hasDigits (cs : List Char) : Bool :=
  let unsigned := match cs with
    | '-' :: r => r
    | r => r
  let whole := unsigned.takeWhile Char.isDigit
  (whole = ['0'] || (!whole.isEmpty && whole.head? ≠ some '0'))
    && match unsigned.drop whole.length with
      | '.' :: r => (r.head?.map Char.isDigit).getD false
      | _ => true

/-- The whole number that digits with a sign stand for. -/
def readInt? : List Char → Option Int
  | '-' :: r => (Text.readNumber? 10 r).map fun n => -(n : Int)
  | r => (Text.readNumber? 10 r).map Int.ofNat

/-- Whether a whole number has at most 64 bits, with or without a sign. -/
def isWord (i : Int) : Bool := -(Nat.pow 2 63 : Nat) ≤ i && i < (Nat.pow 2 64 : Nat)

/-- The first digits that make a number of 64 bits, and how many digits are left out after them. -/
def leadingWord (digits : List Char) : Nat × Nat :=
  digits.foldl
    (fun (n, omitted) c =>
      let next := Decimal.readDigits n [c]
      if omitted = 0 && next < Nat.pow 2 64 then (next, 0) else (n, omitted + 1))
    (0, 0)

/-- The greatest power of ten that is a double. -/
def maxPower : Nat := 308

/-- The double nearest to a power of ten. -/
def powerOfTen (n : Nat) : Float := Float.ofScientific 1 false n

/-- A double times a power of ten: a product or a quotient of doubles, or two quotients where the
power is not a double. -/
def scale (x : Float) (exponent : Int) : Float :=
  let power := exponent.natAbs
  if x == 0.0 then x
  else if 0 ≤ exponent then if power ≤ maxPower then x * powerOfTen power else 1.0 / 0.0
  else if power ≤ maxPower then x / powerOfTen power
  else x / powerOfTen maxPower / powerOfTen (min maxPower (power - maxPower))

/-- Reads a number without sign as a double. -/
def readUnsigned? (cs : List Char) : Option Float := do
  let (digits, exponent) ← Decimal.readParts? cs
  let (n, omitted) := leadingWord digits
  let x := scale (Float.ofScientific n false 0) (exponent + omitted)
  if x.isFinite then return x else failure

/-- Reads a number as a double. -/
def readFloat? : List Char → Option Float
  | '-' :: r => (readUnsigned? r).map fun x => -x
  | r => readUnsigned? r

/-- The number that characters stand for; zero has a sign only as a double. -/
def readNumber? (cs : List Char) : Option Json :=
  if hasDigits cs then
    match readInt? cs with
    | some i =>
      if isWord i && cs ≠ ['-', '0'] then some (.int i) else (readFloat? cs).map .float
    | none => (readFloat? cs).map .float
  else none

/-! ### Values -/

/-- Reads a word that stands for a value. -/
def readWord (word : List Char) (value : Json) (cs : List Char) : Option (Json × List Char) :=
  if word.isPrefixOf cs then some (value, cs.drop word.length) else none

mutual

/-- Reads a value.  The fuel bounds the number of steps. -/
def readValue : Nat → List Char → Option (Json × List Char)
  | 0, _ => none
  | fuel + 1, cs =>
    match skipBlanks cs with
    | '\x7b' :: r =>
      match skipBlanks r with
      | '\x7d' :: r => some (.obj [], r)
      | r => readEntries fuel [] r
    | '[' :: r =>
      match skipBlanks r with
      | ']' :: r => some (.arr [], r)
      | r => readItems fuel [] r
    | '"' :: r => (readString [] none r).map fun s => (.str s.1, s.2)
    | 't' :: r => readWord ['r', 'u', 'e'] (.bool true) r
    | 'f' :: r => readWord ['a', 'l', 's', 'e'] (.bool false) r
    | 'n' :: r => readWord ['u', 'l', 'l'] .null r
    | cs => (readNumber? (cs.takeWhile isNumberChar)).map fun n => (n, cs.dropWhile isNumberChar)

/-- Reads the items of a list and its end.  The items so far are given in reverse. -/
def readItems : Nat → List Json → List Char → Option (Json × List Char)
  | 0, _, _ => none
  | fuel + 1, items, cs => do
    let (item, r) ← readValue fuel cs
    match skipBlanks r with
    | ',' :: r => readItems fuel (item :: items) r
    | ']' :: r => some (.arr (item :: items).reverse, r)
    | _ => none

/-- Reads the entries of an object and its end.  The entries so far are given in reverse. -/
def readEntries : Nat → List (String × Json) → List Char → Option (Json × List Char)
  | 0, _, _ => none
  | fuel + 1, entries, cs =>
    match skipBlanks cs with
    | '"' :: r => do
      let (key, r) ← readString [] none r
      match skipBlanks r with
      | ':' :: r =>
        let (value, r) ← readValue fuel r
        match skipBlanks r with
        | ',' :: r => readEntries fuel ((key, value) :: entries) r
        | '\x7d' :: r => some (object ((key, value) :: entries).reverse, r)
        | _ => none
      | _ => none
    | _ => none

end

/-- The value of a text.  Every step takes a character, apart from the one that opens a value in a
list or an object. -/
def parse? (s : String) : Option Json :=
  match readValue (2 * s.length + 1) s.toList with
  | some (value, r) => if (skipBlanks r).isEmpty then some value else none
  | none => none

end ApiDesign.Json
