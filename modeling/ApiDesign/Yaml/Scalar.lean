import ApiDesign.Decimal.Reading
import ApiDesign.Text.Digits

/-!
# Scalars and their types

A scalar is a text with a style and perhaps a tag.  A plain scalar without a tag has the type that
its text suggests.

* `Tag` — the tag of a node;
* `Scalar` — a scalar as it stands in a stream;
* `Plain.ofText` — the type and value that a plain text suggests;
* `isPaddedNumber` — digits with a needless leading zero, which stay text.
-/

namespace ApiDesign.Yaml

/-! ### Tags -/

/-- A tag is an address.  Escapes may put any octets into it, so that it need not be a text. -/
structure Tag where
  octets : List UInt8
  deriving DecidableEq, Repr, Inhabited

namespace Tag

/-- The tag of a text. -/
def ofText (s : String) : Tag := ⟨s.toUTF8.data.toList⟩

/-- The text of a tag, if it is one. -/
def text? (t : Tag) : Option String := String.fromUTF8? ⟨t.octets.toArray⟩

/-- One tag after the other. -/
def append (t u : Tag) : Tag := ⟨t.octets ++ u.octets⟩

instance : Append Tag := ⟨append⟩

/-- The tag of a type that every document knows. -/
def core (type : String) : Tag := ofText ("tag:yaml.org,2002:" ++ type)

/-- A tag that belongs to its document: it begins with an exclamation mark. -/
def isLocal (t : Tag) : Bool := t.octets.head? = some 0x21

/-- The name of a tag that belongs to its document, if it is a text. -/
def localName? (t : Tag) : Option String :=
  match t.text?.map String.toList with
  | some ('!' :: []) => some "!"
  | some ('!' :: name) => some (String.ofList name)
  | _ => none

end Tag

/-! ### Scalars -/

/-- How a scalar is written. -/
inductive ScalarStyle where
  | plain | singleQuoted | doubleQuoted | literal | folded
  deriving DecidableEq, Repr, Inhabited

/-- A scalar of a stream. -/
structure Scalar where
  tag : Option Tag
  style : ScalarStyle
  text : String
  deriving DecidableEq, Repr, Inhabited

/-- The value that a plain text suggests. -/
inductive Plain where
  | null
  | bool (value : Bool)
  /-- A whole number of at most 64 bits. -/
  | whole (value : Int)
  /-- A whole number of at most 128 bits; the flag tells whether it is negative. -/
  | wide (value : Int) (negative : Bool)
  | float (value : Float)
  | text
  deriving Inhabited

/-- The spellings of null. -/
def isNull (s : String) : Bool := s = "null" || s = "Null" || s = "NULL" || s = "~"

/-- The truth value that a text spells. -/
def readBool? (s : String) : Option Bool :=
  if s = "true" || s = "True" || s = "TRUE" then some true
  else if s = "false" || s = "False" || s = "FALSE" then some false
  else none

/-- The text without one leading sign. -/
def withoutSign : List Char → List Char
  | '+' :: r => r
  | '-' :: r => r
  | r => r

/-- Two or more digits that begin with a zero. -/
def isPaddedNumber (cs : List Char) : Bool :=
  match withoutSign cs with
  | '0' :: c :: r => (c :: r).all Char.isDigit
  | _ => false

/-- The absolute value of a whole number without its sign: decimal without needless zeros, or with
the mark of another base. -/
def readWhole? : List Char → Option Nat
  | '0' :: 'x' :: r => Text.readNumber? 16 r
  | '0' :: 'o' :: r => Text.readNumber? 8 r
  | '0' :: 'b' :: r => Text.readNumber? 2 r
  | r => if isPaddedNumber r then none else Text.readNumber? 10 r

/-- A whole number without a minus sign, by its size. -/
def Plain.ofNat? (n : Nat) : Option Plain :=
  if n < Nat.pow 2 64 then some (.whole n) else if n < Nat.pow 2 128 then some (.wide n false) else none

/-- A whole number with a minus sign, by its size. -/
def Plain.ofNeg? (n : Nat) : Option Plain :=
  if n ≤ Nat.pow 2 63 then some (.whole (-(n : Int)))
  else if n ≤ Nat.pow 2 127 then some (.wide (-(n : Int)) true)
  else none

/-- The whole number that a text spells. -/
def readInt? : List Char → Option Plain
  | '-' :: r => (readWhole? r).bind Plain.ofNeg?
  | '+' :: r => (readWhole? r).bind Plain.ofNat?
  | r => (readWhole? r).bind Plain.ofNat?

/-- The floating-point number that a text spells. -/
def readFloat? (cs : List Char) : Option Float :=
  let s := String.ofList cs
  if s = "-.inf" || s = "-.Inf" || s = "-.INF" then some (-(1.0 / 0.0))
  else if s = ".nan" || s = ".NaN" || s = ".NAN" then some (0.0 / 0.0)
  else
    let cs := match cs with
      | '+' :: r => if r.head? = some '-' then [] else r
      | r => r
    let s := String.ofList cs
    if s = ".inf" || s = ".Inf" || s = ".INF" then some (1.0 / 0.0)
    else Decimal.parseFloat? cs

/-- The type and value that a plain text suggests. -/
def Plain.ofText (s : String) : Plain :=
  if s.isEmpty || isNull s then .null
  else
    match readBool? s with
    | some b => .bool b
    | none =>
      match readInt? s.toList with
      | some p => p
      | none =>
        if isPaddedNumber s.toList then .text
        else
          match readFloat? s.toList with
          | some x => .float x
          | none => .text

end ApiDesign.Yaml
