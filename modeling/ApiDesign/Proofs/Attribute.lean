import ApiDesign.Attribute

/-!
# Attributes at every depth

The types of attributes have attributes of their own.  What holds of a type is shown by induction over
them, and what is done to attributes is done at every depth.

* `AttributeType.induction` — induction over types;
* `AttributeType.revise`, `Attribute.reviseAll` — every attribute is replaced or left out, those of
  its type first;
* `AttributeType.DistinctFields` — types in which no object has two fields of one name;
* `Attribute.withoutCredentials`, `AttributeType.HasCredential` — attributes without those that carry
  credentials, and types in which such attributes occur.
-/

namespace ApiDesign

/-- Induction over types: for an object, the types of its fields come first. -/
@[elab_as_elim]
theorem AttributeType.induction {motive : AttributeType → Prop}
    (primitive : ∀ p, motive (.primitive p))
    (array : ∀ element, motive element → motive (.array element))
    (object : ∀ fields : List Attribute, (∀ a ∈ fields, motive a.type) → motive (.object fields))
    (type : AttributeType) : motive type :=
  @AttributeType.rec motive (fun a => motive a.type) (fun fields => ∀ a ∈ fields, motive a.type)
    primitive array object (fun _ _ _ _ _ _ ih => ih) (fun _ h => absurd h List.not_mem_nil)
    (fun _ _ ha has => List.forall_mem_cons.2 ⟨ha, has⟩) type

/-- No object in the type has two fields of one name. -/
inductive AttributeType.DistinctFields : AttributeType → Prop where
  | primitive {p : Primitive} : (primitive p).DistinctFields
  | array {element : AttributeType} (inside : element.DistinctFields) :
    (array element).DistinctFields
  | object {fields : List Attribute} (names : (fields.map (·.name)).Nodup)
    (inside : ∀ a ∈ fields, a.type.DistinctFields) : (object fields).DistinctFields

/-! ### Attributes that are replaced or left out -/

mutual

/-- The type in which every attribute is replaced or left out. -/
def AttributeType.revise (f : Attribute → Option Attribute) : AttributeType → AttributeType
  | .primitive p => .primitive p
  | .array element => .array (element.revise f)
  | .object fields => .object (Attribute.reviseAll f fields)

/-- The attributes, each replaced or left out after those of its type. -/
def Attribute.reviseAll (f : Attribute → Option Attribute) : List Attribute → List Attribute
  | [] => []
  | ⟨name, type, required, description, example?, role⟩ :: r =>
    (f ⟨name, type.revise f, required, description, example?, role⟩).toList ++
      Attribute.reviseAll f r

end

namespace Attribute

/-- The attribute with a revised type. -/
def reviseType (f : Attribute → Option Attribute) (a : Attribute) : Attribute :=
  { a with type := a.type.revise f }

theorem reviseType_eq_self {f : Attribute → Option Attribute} {a : Attribute}
    (h : a.type.revise f = a.type) : a.reviseType f = a := by
  cases a
  exact congrArg (fun type => Attribute.mk _ type _ _ _ _) h

/-- Every attribute is revised by itself. -/
theorem reviseAll_eq_filterMap (f : Attribute → Option Attribute) (as : List Attribute) :
    reviseAll f as = as.filterMap fun a => f (a.reviseType f) := by
  induction as with
  | nil => rfl
  | cons a as ih =>
    obtain ⟨name, type, required, description, example?, role⟩ := a
    rw [reviseAll, ih, List.filterMap_cons, reviseType]
    cases f ⟨name, type.revise f, required, description, example?, role⟩ <;> rfl

/-- Where nothing is left out, every attribute is replaced. -/
theorem reviseAll_eq_map (g : Attribute → Attribute) (as : List Attribute) :
    reviseAll (some ∘ g) as = as.map fun a => g (a.reviseType (some ∘ g)) := by
  rw [reviseAll_eq_filterMap, ← List.filterMap_eq_map]
  rfl

end Attribute

/-! ### Credentials -/

namespace Attribute

/-- The attribute, unless it carries a credential. -/
def unlessCredential (a : Attribute) : Option Attribute := if a.role.isNone then some a else none

/-- The attributes without those that carry a credential, at every depth. -/
def withoutCredentials (as : List Attribute) : List Attribute := reviseAll unlessCredential as

end Attribute

namespace AttributeType

/-- The type without the attributes that carry a credential. -/
def withoutCredentials (type : AttributeType) : AttributeType :=
  type.revise Attribute.unlessCredential

/-- An attribute that carries a credential occurs in the type. -/
inductive HasCredential : AttributeType → Prop where
  | element {element : AttributeType} (h : element.HasCredential) : (array element).HasCredential
  | field {fields : List Attribute} {a : Attribute} (ha : a ∈ fields) (h : a.role.isSome) :
    (object fields).HasCredential
  | inside {fields : List Attribute} {a : Attribute} (ha : a ∈ fields) (h : a.type.HasCredential) :
    (object fields).HasCredential

variable {element : AttributeType} {fields : List Attribute}

@[simp] theorem not_hasCredential_primitive (p : Primitive) : ¬(primitive p).HasCredential := by
  rintro ⟨⟩

@[simp] theorem hasCredential_array_iff : (array element).HasCredential ↔ element.HasCredential := by
  constructor
  · rintro ⟨h⟩
    exact h
  · exact .element

@[simp] theorem hasCredential_object_iff :
    (object fields).HasCredential ↔ ∃ a ∈ fields, a.role.isSome ∨ a.type.HasCredential := by
  constructor
  · intro h
    cases h with
    | field ha hrole => exact ⟨_, ha, .inl hrole⟩
    | inside ha htype => exact ⟨_, ha, .inr htype⟩
  · rintro ⟨a, ha, hrole | htype⟩
    · exact .field ha hrole
    · exact .inside ha htype

end AttributeType

/-- What is left are the attributes without a credential, with what is left of their types. -/
theorem Attribute.withoutCredentials_eq (as : List Attribute) :
    withoutCredentials as =
      (as.filter (·.role.isNone)).map (reviseType unlessCredential) := by
  rw [withoutCredentials, reviseAll_eq_filterMap]
  induction as with
  | nil => rfl
  | cons a as ih =>
    rw [List.filterMap_cons, List.filter_cons, ih, unlessCredential]
    cases hrole : a.role <;> simp [reviseType, hrole]

/-- A type in which no credential occurs is left as it is. -/
theorem AttributeType.withoutCredentials_of_not {type : AttributeType} (h : ¬type.HasCredential) :
    type.withoutCredentials = type := by
  induction type using AttributeType.induction with
  | primitive p => rfl
  | array element ih =>
    have helement := ih fun hmem => h (.element hmem)
    exact congrArg array helement
  | object fields ih =>
    have hfilter : fields.filter (·.role.isNone) = fields := by
      rw [List.filter_eq_self]
      intro a ha
      cases hrole : a.role with
      | none => rfl
      | some role => exact absurd (.field ha (by rw [hrole]; rfl)) h
    have hfields : Attribute.withoutCredentials fields = fields := by
      rw [Attribute.withoutCredentials_eq, hfilter, List.map_congr_left (g := id), List.map_id]
      intro a ha
      exact Attribute.reviseType_eq_self (ih a ha fun hmem => h (.inside ha hmem))
    exact congrArg object hfields

end ApiDesign
