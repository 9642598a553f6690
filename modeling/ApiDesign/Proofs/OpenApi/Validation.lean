import ApiDesign.Proofs.OpenApi.Schema

/-!
# Values of a type and values of its schema

A schema tells the clients of an API which JSON values a parameter takes.  The type of the attribute
says so in the words of the design.  Both are stated on their own here, the schema by the rules of
JSON Schema and the type by what its parts ask for, and they take the same values, however deep the
type is nested.

* `Schema.accepts` — validation, with `Schema.accepts_iff` for its rules one by one;
* `AttributeType.Admits` — the values of a type;
* `Schema.mem_properties_iff` — the property of a name is that of the last field of this name;
* `schema_keeps_meaning` — the two sides agree.
-/

namespace ApiDesign

/-! ### Validation -/

/-- The names that JSON Schema has for the type of a value.  A whole number is one that is written
without fraction and exponent, and it is a number as well. -/
def Json.typeNames : Json → List String
  | .null => ["null"]
  | .bool _ => ["boolean"]
  | .int _ => ["integer", "number"]
  | .float _ => ["number"]
  | .str _ => ["string"]
  | .arr _ => ["array"]
  | .obj _ => ["object"]

namespace Schema

/-- An object has all the required keys; any other value needs none. -/
def hasRequired (required : List String) : Json → Bool
  | .obj entries => required.all fun key => (Entries.lookup key entries).isSome
  | _ => true

mutual

/-- The value satisfies the schema: by its type, by the items if it is a list, and by the properties
and the required keys if it is an object.  The format is a hint and not checked. -/
def accepts : Schema → Json → Bool
  | ⟨type, _, items, properties, required⟩, v =>
    type.all (fun t => v.typeNames.contains t) && acceptsItems items v &&
      acceptsProperties properties v && hasRequired required v

/-- The items of a list satisfy the schema for them; any other value has no items. -/
def acceptsItems : Option Schema → Json → Bool
  | some s, .arr items => items.all fun v => s.accepts v
  | _, _ => true

/-- What stands under the names of the properties satisfies their schemas. -/
def acceptsProperties : List (String × Schema) → Json → Bool
  | [], _ => true
  | (name, s) :: r, v => (v.get? name).all (fun w => s.accepts w) && acceptsProperties r v

end

theorem hasRequired_iff (required : List String) (v : Json) :
    hasRequired required v = true ↔
      ∀ entries, v = .obj entries → ∀ key ∈ required, (v.get? key).isSome = true := by
  cases v <;> simp [hasRequired, Json.get?]

theorem acceptsItems_iff (items : Option Schema) (v : Json) :
    acceptsItems items v = true ↔
      ∀ s vs, items = some s → v = .arr vs → ∀ w ∈ vs, s.accepts w = true := by
  cases items with
  | none => simp [acceptsItems]
  | some s => cases v <;> simp [acceptsItems]

theorem acceptsProperties_iff (properties : List (String × Schema)) (v : Json) :
    acceptsProperties properties v = true ↔
      ∀ name s w, (name, s) ∈ properties → v.get? name = some w → s.accepts w = true := by
  induction properties with
  | nil => simp [acceptsProperties]
  | cons p r ih =>
    obtain ⟨key, t⟩ := p
    rw [acceptsProperties, Bool.and_eq_true, ih, Option.all_eq_true]
    constructor
    · rintro ⟨hfirst, hrest⟩ name s w hmem hget
      rcases List.mem_cons.1 hmem with heq | hmem
      · cases heq
        exact hfirst w hget
      · exact hrest name s w hmem hget
    · intro h
      exact ⟨fun w hget => h key t w List.mem_cons_self hget,
        fun name s w hmem => h name s w (List.mem_cons_of_mem _ hmem)⟩

/-- The rules of validation, one by one. -/
theorem accepts_iff (s : Schema) (v : Json) :
    s.accepts v = true ↔
      (∀ t, s.type = some t → t ∈ v.typeNames) ∧
      (∀ item vs, s.items = some item → v = .arr vs → ∀ w ∈ vs, item.accepts w = true) ∧
      (∀ name property w, (name, property) ∈ s.properties → v.get? name = some w →
        property.accepts w = true) ∧
      ∀ entries, v = .obj entries → ∀ key ∈ s.required, (v.get? key).isSome = true := by
  cases s with
  | mk type format items properties required =>
    rw [accepts, Bool.and_eq_true, Bool.and_eq_true, Bool.and_eq_true, Option.all_eq_true,
      acceptsItems_iff, acceptsProperties_iff, hasRequired_iff, and_assoc, and_assoc]
    simp only [List.contains_iff_mem]

end Schema

/-! ### The values of a type -/

/-- The value is of the primitive type. -/
def Primitive.admits : Primitive → Json → Bool
  | .any, _ => true
  | .string, .str _ | .bytes, .str _ => true
  | .boolean, .bool _ => true
  | .int, .int _ | .int32, .int _ | .int64, .int _ => true
  | .uint, .int _ | .uint32, .int _ | .uint64, .int _ => true
  | .float32, .int _ | .float32, .float _ | .float64, .int _ | .float64, .float _ => true
  | _, _ => false

/-- The last of the fields of a name. -/
def lastField? (fields : List Attribute) (name : String) : Option Attribute :=
  fields.reverse.find? fun a => a.name = name

/-- The values of a type.  An object has every key that some field of the type requires, and what it
has under the name of a field is of the type of the last field of this name. -/
inductive AttributeType.Admits : AttributeType → Json → Prop where
  | primitive {p : Primitive} {v : Json} (h : p.admits v = true) : (primitive p).Admits v
  | array {element : AttributeType} {items : List Json} (h : ∀ v ∈ items, element.Admits v) :
    (array element).Admits (.arr items)
  | object {fields : List Attribute} {entries : List (String × Json)}
    (required : ∀ a ∈ fields, a.required = true → ((Json.obj entries).get? a.name).isSome = true)
    (present : ∀ name a v, lastField? fields name = some a → (Json.obj entries).get? name = some v →
      a.type.Admits v) :
    (object fields).Admits (.obj entries)

namespace Schema

theorem accepts_ofPrimitive (p : Primitive) (v : Json) : (ofPrimitive p).accepts v = p.admits v := by
  cases p <;> cases v <;> rfl

/-- Of several fields of one name the last gives the property. -/
theorem mem_properties_iff (fields : List Attribute) (name : String) (schema : Schema) :
    (name, schema) ∈ Entries.sort (ofFields fields) ↔
      ∃ a, lastField? fields name = some a ∧ ofType a.type = schema := by
  rw [← Entries.lookup_eq_some_iff (Entries.nodup_keys (Entries.sorted_sort _)),
    Entries.lookup_sort, ofFields_eq_map, ← List.map_reverse, lastField?, ← Option.map_eq_some_iff]
  induction fields.reverse with
  | nil => rfl
  | cons a r ih =>
    rw [List.map_cons, Entries.lookup, List.find?_cons]
    by_cases h : name = a.name
    · simp [h]
    · have h' : ¬a.name = name := fun heq => h heq.symm
      simpa [h, h'] using ih

/-- The schema of an array type takes the lists whose items the schema of the element takes. -/
theorem accepts_array_iff (element : AttributeType) (v : Json) :
    (ofType (.array element)).accepts v = true ↔
      ∃ items, v = .arr items ∧ ∀ w ∈ items, (ofType element).accepts w = true := by
  rw [ofType, accepts_iff]
  constructor
  · rintro ⟨htype, hitems, -, -⟩
    obtain ⟨items, rfl⟩ : ∃ items, v = .arr items := by
      have hname := htype "array" rfl
      cases v <;> simp_all [Json.typeNames]
    exact ⟨items, rfl, hitems _ items rfl rfl⟩
  · rintro ⟨items, rfl, hitems⟩
    refine ⟨?_, ?_, by simp, by simp⟩
    · rintro _ ⟨⟩
      exact List.mem_cons_self
    · rintro _ _ ⟨⟩ ⟨⟩
      exact hitems

/-- The schema of an object type takes the objects that have the required keys, and under the name of
a field what the schema of the last field of this name takes. -/
theorem accepts_object_iff (fields : List Attribute) (v : Json) :
    (ofType (.object fields)).accepts v = true ↔
      ∃ entries, v = .obj entries ∧
        (∀ a ∈ fields, a.required = true → (v.get? a.name).isSome = true) ∧
        ∀ name a w, lastField? fields name = some a → v.get? name = some w →
          (ofType a.type).accepts w = true := by
  rw [ofType, accepts_iff]
  simp only [mem_properties_iff]
  constructor
  · rintro ⟨htype, -, hproperties, hrequired⟩
    obtain ⟨entries, rfl⟩ : ∃ entries, v = .obj entries := by
      have hname := htype "object" rfl
      cases v <;> simp_all [Json.typeNames]
    refine ⟨entries, rfl, fun a ha hreq => ?_, fun name a w hlast => ?_⟩
    · refine hrequired entries rfl a.name (List.mem_map.2 ⟨a, ?_, rfl⟩)
      exact List.mem_filter.2 ⟨ha, hreq⟩
    · exact hproperties name _ w ⟨a, hlast, rfl⟩
  · rintro ⟨entries, rfl, hrequired, hpresent⟩
    refine ⟨?_, by simp, ?_, ?_⟩
    · rintro _ ⟨⟩
      exact List.mem_cons_self
    · rintro name _ w ⟨a, hlast, rfl⟩
      exact hpresent name a w hlast
    · rintro _ - key hkey
      obtain ⟨a, ha, rfl⟩ := List.mem_map.1 hkey
      obtain ⟨ha, hreq⟩ := List.mem_filter.1 ha
      exact hrequired a ha hreq

theorem mem_of_lastField? {fields : List Attribute} {name : String} {a : Attribute}
    (h : lastField? fields name = some a) : a ∈ fields :=
  List.mem_reverse.1 (List.mem_of_find?_eq_some h)

end Schema

/-- **The schema of a type keeps its meaning.**  A value is of a type, of whatever nesting, exactly if
it satisfies the schema of the type. -/
theorem schema_keeps_meaning (type : AttributeType) (v : Json) :
    type.Admits v ↔ (Schema.ofType type).accepts v = true := by
  induction type using AttributeType.induction generalizing v with
  | primitive p =>
    rw [Schema.ofType, Schema.accepts_ofPrimitive]
    constructor
    · rintro ⟨h⟩
      exact h
    · exact .primitive
  | array element ih =>
    rw [Schema.accepts_array_iff]
    constructor
    · intro h
      cases h with
      | array hitems => exact ⟨_, rfl, fun w hw => (ih w).1 (hitems w hw)⟩
    · rintro ⟨items, rfl, hitems⟩
      exact .array fun w hw => (ih w).2 (hitems w hw)
  | object fields ih =>
    rw [Schema.accepts_object_iff]
    constructor
    · intro h
      cases h with
      | object hrequired hpresent =>
        refine ⟨_, rfl, hrequired, fun name a w hlast hget => ?_⟩
        exact (ih a (Schema.mem_of_lastField? hlast) w).1 (hpresent name a w hlast hget)
    · rintro ⟨entries, rfl, hrequired, hpresent⟩
      refine .object hrequired fun name a w hlast hget => ?_
      exact (ih a (Schema.mem_of_lastField? hlast) w).2 (hpresent name a w hlast hget)

/-- Of two fields of one name the first requires the key, and the second gives the type. -/
example :
    let fields : List Attribute :=
      [{ Attribute.ofType "q" (.primitive .string) with required := true },
        .ofType "q" (.array (.primitive .int32))]
    (Schema.ofType (.object fields)).accepts (.obj [("q", .arr [.int 1])]) = true ∧
      (Schema.ofType (.object fields)).accepts (.obj [("q", .str "a")]) = false ∧
      (Schema.ofType (.object fields)).accepts (.obj []) = false := by
  decide

end ApiDesign
