import ApiDesign.Localized

/-!
# Attributes and their types

* `Primitive` — the primitive types and their keywords;
* `AttributeType`, `Attribute` — types of any nesting: an object type has attributes of its own;
* `SecurityRole` — marks an attribute that carries a credential.
-/

namespace ApiDesign

/-- A primitive type. -/
inductive Primitive where
  | string | bytes | boolean | int | int32 | int64 | uint | uint32 | uint64 | float32 | float64
  | any
  deriving DecidableEq, Repr, Inhabited

namespace Primitive

/-- All primitive types. -/
def all : List Primitive :=
  [.string, .bytes, .boolean, .int, .int32, .int64, .uint, .uint32, .uint64, .float32, .float64,
    .any]

/-- The keyword of a primitive type. -/
def name : Primitive → String
  | .string => "string"
  | .bytes => "bytes"
  | .boolean => "boolean"
  | .int => "int"
  | .int32 => "int32"
  | .int64 => "int64"
  | .uint => "uint"
  | .uint32 => "uint32"
  | .uint64 => "uint64"
  | .float32 => "float32"
  | .float64 => "float64"
  | .any => "any"

/-- The primitive type with a keyword in lower case; `bool` is short for `boolean`. -/
def ofKeyword? (keyword : String) : Option Primitive :=
  if keyword = "bool" then some .boolean else all.find? fun p => p.name = keyword

/-- The primitive type that a word names in any letter case.  Only ASCII letters have a case here:
no other letter has a lower-case form that occurs in a keyword. -/
def parse? (word : String) : Option Primitive := ofKeyword? word.toLower

end Primitive

/-- The credential that an attribute carries. -/
inductive SecurityRole where
  | username
  | password
  /-- The key of the named API key scheme. -/
  | apiKey (scheme : String)
  | accessToken
  | token
  deriving DecidableEq, Repr, Inhabited

/-- How a role is shown. -/
def SecurityRole.display : SecurityRole → String
  | .username => "security:username"
  | .password => "security:password"
  | .apiKey scheme => "security:apikey:" ++ scheme
  | .accessToken => "security:accesstoken"
  | .token => "security:token"

mutual

/-- The type of an attribute. -/
inductive AttributeType where
  | primitive (type : Primitive)
  | array (element : AttributeType)
  | object (fields : List Attribute)

/-- A field of an object type, or of a payload or result. -/
structure Attribute where
  name : String
  type : AttributeType
  required : Bool
  description : Option (Localized String)
  example? : Option (Localized Json)
  role : Option SecurityRole

end

instance : Inhabited AttributeType := ⟨.primitive .any⟩

/-- Whether a type is an array type. -/
def AttributeType.isArray : AttributeType → Bool
  | .array _ => true
  | _ => false

namespace Attribute

/-- An optional attribute without texts and role. -/
def ofType (name : String) (type : AttributeType) : Attribute :=
  ⟨name, type, false, none, none, none⟩

instance : Inhabited Attribute := ⟨ofType "" default⟩

/-- The attribute with a security role in place of any former one. -/
def withRole (a : Attribute) (role : SecurityRole) : Attribute := { a with role := some role }

end Attribute

end ApiDesign
