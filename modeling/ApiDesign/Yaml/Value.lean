import ApiDesign.Yaml.Reader

/-!
# Values whose type is settled first

Where a value may have one of several types, its tree is first read by its own types, as a `Value`;
then the types are tried in turn.  A number in such a value is a number, and no longer a text.

* `Value.ofTree` — the value of a tree;
* `Matcher` — readers of values, which tell only whether a value fits: a `Source`.  A record may be
  given by its fields in order as well, and a field also by its number.
-/

namespace ApiDesign.Yaml

open Decode

/-- A value with its own type. -/
inductive Value where
  | null
  | bool (value : Bool)
  | whole (value : Int)
  | float (value : Float)
  | text (text : String)
  | sequence (items : List Value)
  | mapping (entries : List (Value × Value))
  deriving Inhabited

/-- The value of a scalar. -/
def Scalar.toValue (s : Scalar) : Except Fault Value := do
  match localTag? s.tag with
  | some _ => throw .taggedVariant
  | none =>
    match ← s.typed with
    | .null => return .null
    | .bool b => return .bool b
    | .whole i => return .whole i
    | .wide i negative => throw (.invalidType (.wide i negative) "any value")
    | .float x => return .float x
    | .text => return .text s.text

namespace Value

/-- Checks that a collection has no tag of a type of its own. -/
def checkTag (p : Place) (tag : Option Tag) : Reading Unit :=
  match localTag? tag with
  | some _ => p.fail .taggedVariant
  | none => pure ()

mutual

/-- The value of a tree. -/
def ofTree (p : Place) : Tree → Reading Value
  | .scalar s => p.settle s.toValue
  | .sequence tag ts => do
    checkTag p tag
    return .sequence (← ofItems (← p.enter) 0 ts)
  | .mapping tag entries => do
    checkTag p tag
    return .mapping (← ofEntries (← p.enter) entries)
  | .alias target => do
    countAlias
    ofTree p (target ())
  | .absent => pure .null

/-- The values of items; the first has the given number. -/
def ofItems (p : Place) (number : Nat) : List Tree → Reading (List Value)
  | [] => pure []
  | t :: r => do
    let first ← ofTree (p.step (.index number)) t
    return first :: (← ofItems p (number + 1) r)

/-- The values of entries. -/
def ofEntries (p : Place) : List (Tree × Tree) → Reading (List (Value × Value))
  | [] => pure []
  | (key, value) :: r => do
    let k ← ofTree p key
    let v ← ofTree (p.step (Reader.stepTo key)) value
    return (k, v) :: (← ofEntries p r)

end

mutual

/-- A value as a JSON value, if all its keys are texts. -/
def toJson? : Value → Option Json
  | .null => some .null
  | .bool b => some (.bool b)
  | .whole i => some (.int i)
  | .float x => some (.ofFloat x)
  | .text s => some (.str s)
  | .sequence items => .arr <$> toJsonItems? items
  | .mapping entries => .object <$> toJsonEntries? entries

/-- Items as JSON values. -/
def toJsonItems? : List Value → Option (List Json)
  | [] => some []
  | v :: r => do return (← toJson? v) :: (← toJsonItems? r)

/-- Entries as JSON values. -/
def toJsonEntries? : List (Value × Value) → Option (List (String × Json))
  | [] => some []
  | (k, v) :: r => do
    match k with
    | .text name => return (name, ← toJson? v) :: (← toJsonEntries? r)
    | _ => none

end

end Value

/-- A reader of values that tells only whether a value fits. -/
def Matcher (α : Type) : Type := Value → Option α

namespace Matcher

variable {α : Type}

/-- Reads a localized value. -/
def localized (read : Json → Except Fault α) : Matcher (Localized α) := fun v => do
  (Localized.ofJson read (← v.toJson?)).toOption

/-- What a key selects: a text by the name, a whole number by the place of a field. -/
def select (r : RecordFormat Matcher α) (key : Value) : Option (Selected Matcher α) :=
  match key with
  | .text name => (r.select name).toOption
  | .whole (.ofNat n) =>
    match r.fields[n]? with
    | some field => some (.field field)
    | none => if r.strict then none else some .ignored
  | _ => none

/-- Reads the entries of a record into what was read before. -/
def fill (r : RecordFormat Matcher α) (f : Filling α) :
    List (Value × Value) → Option (Filling α)
  | [] => some f
  | (key, value) :: rest => do
    match ← select r key with
    | .ignored => fill r f rest
    | .field field =>
      if f.names.contains field.name then none
      else fill r (f.fill field.name (← field.read value)) rest

/-- Reads the fields of a record in order into what was read before. -/
def fillInOrder (f : Filling α) : List (Field Matcher α) → List Value → Option (Filling α)
  | field :: fields, value :: values => do
    fillInOrder (f.fill field.name (← field.read value)) fields values
  | _, [] => some f
  | [], _ :: _ => none

/-- Reads a record from its entries. -/
def recordFrom (r : RecordFormat Matcher α) (entries : List (Value × Value)) : Option α := do
  ((← fill r (.start r) entries).finish r).toOption

/-- Reads a record. -/
def record (r : RecordFormat Matcher α) : Matcher α
  | .mapping entries => recordFrom r entries
  | .sequence values => do ((← fillInOrder (.start r) r.fields values).finish r).toOption
  | _ => none

instance : Functor Matcher where
  map f read v := f <$> read v

instance : Source Matcher where
  wording _
    | .text s => some s
    | _ => none
  flag
    | .bool b => some b
    | _ => none
  option read
    | .null => some none
    | v => some <$> read v
  list read
    | .sequence values => values.mapM read
    | _ => none
  choice variants
    | .text name => (variants.find? (·.1 = name)).map (·.2)
    | _ => none
  localizedText := localized Json.readText
  localizedJson := localized .ok
  record := record

end Matcher

end ApiDesign.Yaml
