import ApiDesign.Attribute

/-!
# Schemas of attribute types

* `Schema` — the part of JSON Schema that documents use;
* `Schema.ofType` — the schema of an attribute type;
* `Schema.toJson` — the written form, without absent and empty parts.
-/

namespace ApiDesign

/-- A schema; everything that is absent or empty leaves the values free. -/
structure Schema where
  type : Option String
  format : Option String
  items : Option Schema
  /-- The schemas of the properties, by name. -/
  properties : List (String × Schema)
  required : List String

namespace Schema

/-- The schema that every value satisfies. -/
def any : Schema := ⟨none, none, none, [], []⟩

instance : Inhabited Schema := ⟨any⟩

/-- The schema of a simple type. -/
def simple (type : String) (format : Option String) : Schema := ⟨some type, format, none, [], []⟩

/-- The schema of a primitive type. -/
def ofPrimitive : Primitive → Schema
  | .string => simple "string" none
  | .bytes => simple "string" (some "byte")
  | .boolean => simple "boolean" none
  | .int | .uint => simple "integer" none
  | .int32 | .uint32 => simple "integer" (some "int32")
  | .int64 | .uint64 => simple "integer" (some "int64")
  | .float32 => simple "number" (some "float")
  | .float64 => simple "number" (some "double")
  | .any => any

mutual

/-- The schema of a type.  Of several fields with one name the last gives the property. -/
def ofType : AttributeType → Schema
  | .primitive p => ofPrimitive p
  | .array element => ⟨some "array", none, some (ofType element), [], []⟩
  | .object fields =>
    ⟨some "object", none, none, Entries.sort (ofFields fields),
      (fields.filter (·.required)).map (·.name)⟩

/-- The schemas of fields, by name. -/
def ofFields : List Attribute → List (String × Schema)
  | [] => []
  | ⟨name, type, _, _, _, _⟩ :: r => (name, ofType type) :: ofFields r

end

mutual

/-- The written form of a schema. -/
def toJson : Schema → Json
  | ⟨type, format, items, properties, required⟩ =>
    .record [
      ("type", type.map .str),
      ("format", format.map .str),
      ("items", itemsJson items),
      ("properties", if properties.isEmpty then none else some (.obj (propertiesJson properties))),
      ("required", if required.isEmpty then none else some (.texts required))]

/-- The written form of the schema of the items, if there is one. -/
def itemsJson : Option Schema → Option Json
  | none => none
  | some s => some s.toJson

/-- The written forms of the properties. -/
def propertiesJson : List (String × Schema) → List (String × Json)
  | [] => []
  | (name, s) :: r => (name, s.toJson) :: propertiesJson r

end

end Schema

end ApiDesign
