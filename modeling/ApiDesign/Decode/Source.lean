import ApiDesign.Localized

/-!
# Typed readers

The same records are read from several kinds of values: from the tree of a document, from a value
whose type is not settled yet, and from JSON.  A `Source` is a kind of readers; a record is
described once, by its fields, for every source.

* `Source` — the readers of simple values, lists, choices and records;
* `Field`, `RecordFormat` — how a record is put together from its fields.
-/

namespace ApiDesign.Decode

/-- A field of a record. -/
structure Field (R : Type → Type) (α : Type) where
  name : String
  /-- Whether the field must be there. -/
  required : Bool
  /-- Reads what the field does to the record. -/
  read : R (α → α)

namespace Field

variable {R : Type → Type} [Functor R] {α β : Type}

/-- A field that must be there. -/
def needed (name : String) (read : R β) (set : β → α → α) : Field R α := ⟨name, true, set <$> read⟩

/-- A field that may be left out. -/
def optional (name : String) (read : R β) (set : β → α → α) : Field R α :=
  ⟨name, false, set <$> read⟩

end Field

/-- How a record is read: from its initial value, field by field. -/
structure RecordFormat (R : Type → Type) (α : Type) where
  /-- The name of the record in messages. -/
  type : String
  /-- Whether other fields are refused. -/
  strict : Bool
  initial : α
  fields : List (Field R α)

/-- The names of the fields. -/
def RecordFormat.names {R : Type → Type} {α : Type} (r : RecordFormat R α) : List String :=
  r.fields.map (·.name)

/-- A kind of readers. -/
class Source (R : Type → Type) extends Functor R where
  /-- Reads a text; the words tell messages what is expected. -/
  wording : String → R String
  /-- Reads a truth value. -/
  flag : R Bool
  /-- Reads a value that may be absent. -/
  option : {α : Type} → R α → R (Option α)
  /-- Reads a list. -/
  list : {α : Type} → R α → R (List α)
  /-- Reads one of several names. -/
  choice : {α : Type} → List (String × α) → R α
  /-- Reads a localized text. -/
  localizedText : R (Localized String)
  /-- Reads a localized JSON value. -/
  localizedJson : R (Localized Json)
  /-- Reads a record. -/
  record : {α : Type} → RecordFormat R α → R α

namespace Source

variable {R : Type → Type} [Source R]

/-- Reads a text. -/
def text : R String := wording "a string"

/-- Reads a path of a file system. -/
def path : R String := wording "path string"

end Source

/-! ### Fields in the making -/

/-- The fields that were read so far. -/
structure Filling (α : Type) where
  value : α
  /-- The names of the fields that were read. -/
  names : List String

namespace Filling

variable {R : Type → Type} {α : Type}

/-- Nothing was read yet. -/
def start (r : RecordFormat R α) : Filling α := ⟨r.initial, []⟩

/-- One more field. -/
def fill (f : Filling α) (name : String) (change : α → α) : Filling α :=
  ⟨change f.value, name :: f.names⟩

/-- The record, unless a field is missing. -/
def finish (f : Filling α) (r : RecordFormat R α) : Except Fault α :=
  match r.fields.find? fun field => field.required && !f.names.contains field.name with
  | some field => .error (.missingField field.name)
  | none => .ok f.value

end Filling

/-- What a key of a record selects. -/
inductive Selected (R : Type → Type) (α : Type) where
  | field (f : Field R α)
  /-- The key is not known and does not matter. -/
  | ignored

/-- What a key of a record selects. -/
def RecordFormat.select {R : Type → Type} {α : Type} (r : RecordFormat R α) (key : String) :
    Except Fault (Selected R α) :=
  match r.fields.find? fun field => field.name = key with
  | some field => .ok (.field field)
  | none => if r.strict then .error (.unknownField key r.names) else .ok .ignored

end ApiDesign.Decode
