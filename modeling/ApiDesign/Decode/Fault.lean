import ApiDesign.Json.Printer

/-!
# What a typed reader finds wrong

A typed reader takes a value apart according to what it expects.  A `Fault` names what it found in
place of that; its message depends on the `Format` of the value only in the word for an absent value
and in the spelling of doubles.
-/

namespace ApiDesign.Decode

/-- What a reader found. -/
inductive Found where
  | text (value : String)
  | whole (value : Int)
  /-- A whole number of more than 64 bits; the flag tells whether it may be negative. -/
  | wide (value : Int) (signed : Bool)
  | float (value : Float)
  | boolean (value : Bool)
  | nothing
  | sequence
  | mapping
  | tagged
  /-- A name of a variant that needs contents. -/
  | bareVariant
  deriving Inhabited

/-- Why a value cannot be read. -/
inductive Fault where
  | invalidType (found : Found) (expected : String)
  | invalidValue (found : Found) (expected : String)
  | invalidLength (length : Nat) (expected : String)
  | unknownField (name : String) (known : List String)
  | unknownVariant (name : String) (known : List String)
  | missingField (name : String)
  | duplicateField (name : String)
  | numberOutOfRange
  | noVariant (type : String)
  /-- A tag where a value of one of several types is expected. -/
  | taggedVariant
  deriving Inhabited

/-- The format of a value. -/
inductive Format where
  | yaml | json
  deriving DecidableEq, Repr, Inhabited

namespace Format

/-- The word for an absent value. -/
def nothing : Format → String
  | .yaml => "unit value"
  | .json => "null"

/-- How doubles are spelled. -/
def floatStyle : Format → Decimal.Style
  | .yaml => ⟨-400, 400, false⟩
  | .json => Json.floatStyle

/-- The text of a double. -/
def floatText (f : Format) (x : Float) : String :=
  if x.isNaN then "NaN"
  else if x.isInf then (if x < 0 then "-inf" else "inf")
  else ApiDesign.floatText f.floatStyle x

end Format

/-- A name between backticks. -/
def ticked (s : String) : String := "`" ++ s ++ "`"

/-- How a message calls what was found. -/
def Found.describe (f : Format) : Found → String
  | .text s => "string " ++ Text.quoted s
  | .whole i => "integer " ++ ticked (toString i)
  | .wide i signed => "integer " ++ ticked (toString i) ++ (if signed then " as i128" else " as u128")
  | .float x => "floating point " ++ ticked (f.floatText x)
  | .boolean b => "boolean " ++ ticked (if b then "true" else "false")
  | .nothing => f.nothing
  | .sequence => "sequence"
  | .mapping => "map"
  | .tagged => "enum"
  | .bareVariant => "unit variant"

/-- An enumeration of the accepted names. -/
def oneOf : List String → String
  | [] => ""
  | [a] => ticked a
  | [a, b] => ticked a ++ " or " ++ ticked b
  | names => "one of " ++ ", ".intercalate (names.map ticked)

/-- The message of a fault. -/
def Fault.message (f : Format) : Fault → String
  | .invalidType found expected =>
    "invalid type: " ++ found.describe f ++ ", expected " ++ expected
  | .invalidValue found expected =>
    "invalid value: " ++ found.describe f ++ ", expected " ++ expected
  | .invalidLength n expected => "invalid length " ++ toString n ++ ", expected " ++ expected
  | .unknownField name known => "unknown field " ++ ticked name ++ ", expected " ++ oneOf known
  | .unknownVariant name known => "unknown variant " ++ ticked name ++ ", expected " ++ oneOf known
  | .missingField name => "missing field " ++ ticked name
  | .duplicateField name => "duplicate field " ++ ticked name
  | .numberOutOfRange => "JSON number out of range"
  | .noVariant type => "data did not match any variant of untagged enum " ++ type
  | .taggedVariant => "untagged and internally tagged enums do not support enum input"

end ApiDesign.Decode
