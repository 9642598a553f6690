import ApiDesign.Decode.Source

/-!
# Typed readers of JSON values

* `Json.Reader` — the readers, a `Source`.  A record may be given by its fields in order as well.
* `Json.readVariant` — one of several names, alone or as the only key of an object.
-/

namespace ApiDesign.Json

open Decode

/-- A reader of JSON values. -/
def Reader (α : Type) : Type := Json → Except Fault α

/-- What messages call a value. -/
def found : Json → Found
  | .null => .nothing
  | .bool b => .boolean b
  | .int i => .whole i
  | .float x => .float x
  | .str s => .text s
  | .arr _ => .sequence
  | .obj _ => .mapping

/-- Says what was found in place of what was expected. -/
def mismatch {α : Type} (v : Json) (expected : String) : Except Fault α :=
  .error (.invalidType v.found expected)

/-- Reads a text; the words tell messages what is expected. -/
def readWording (expected : String) : Reader String
  | .str s => .ok s
  | v => v.mismatch expected

/-- Reads a text. -/
def readText : Reader String := readWording "a string"

/-- A name, and what stands beside it. -/
def readVariant : Reader (String × Option Json)
  | .str name => .ok (name, none)
  | .obj [(name, v)] => .ok (name, some v)
  | .obj entries => .error (.invalidValue (found (.obj entries)) "map with a single key")
  | v => v.mismatch "string or map"

/-- Checks that nothing stands beside a name. -/
def checkBare : Option Json → Except Fault Unit
  | none | some .null => .ok ()
  | some v => v.mismatch "unit"

namespace Reader

variable {α : Type}

/-- Reads a value that may be absent. -/
def option (read : Reader α) : Reader (Option α)
  | .null => .ok none
  | v => some <$> read v

/-- Reads a list. -/
def list (read : Reader α) : Reader (List α)
  | .arr items => items.mapM read
  | v => v.mismatch "a sequence"

/-- Reads one of several names. -/
def choice (variants : List (String × α)) : Reader α := fun v => do
  let (name, beside) ← readVariant v
  match variants.find? (·.1 = name) with
  | some (_, value) =>
    checkBare beside
    return value
  | none => throw (.unknownVariant name (variants.map (·.1)))

/-- Reads the entries of a record into what was read before. -/
def fill (r : RecordFormat Reader α) (f : Filling α) :
    List (String × Json) → Except Fault (Filling α)
  | [] => .ok f
  | (key, value) :: rest => do
    match ← r.select key with
    | .ignored => fill r f rest
    | .field field =>
      if f.names.contains key then throw (.duplicateField key)
      else fill r (f.fill key (← field.read value)) rest

/-- What a list of the fields of a record is called. -/
def inOrder (r : RecordFormat Reader α) : String :=
  let count := r.fields.length
  "struct " ++ r.type ++ " with " ++ toString count ++ (if count = 1 then " element" else " elements")

/-- Reads the fields of a record in order into what was read before; `length` is the length of the
whole list, and `number` the number of fields that were passed. -/
def fillInOrder (r : RecordFormat Reader α) (length : Nat) (f : Filling α) (number : Nat) :
    List (Field Reader α) → List Json → Except Fault (Filling α)
  | field :: fields, value :: values => do
    fillInOrder r length (f.fill field.name (← field.read value)) (number + 1) fields values
  | field :: fields, [] =>
    if field.required then .error (.invalidLength number (inOrder r))
    else fillInOrder r length f (number + 1) fields []
  | [], [] => .ok f
  | [], _ :: _ => .error (.invalidLength length "fewer elements in array")

/-- Reads a record. -/
def record (r : RecordFormat Reader α) : Reader α
  | .obj entries => do (← fill r (.start r) entries).finish r
  | .arr values => do
    (← fillInOrder r values.length (.start r) 0 r.fields values).finish r
  | v => v.mismatch ("struct " ++ r.type)

instance : Functor Reader where
  map f read v := f <$> read v

instance : Source Reader where
  wording := readWording
  flag
    | .bool b => .ok b
    | v => v.mismatch "a boolean"
  option := option
  list := list
  choice := choice
  localizedText := Localized.ofJson readText
  localizedJson := Localized.ofJson .ok
  record := record

end Reader

end ApiDesign.Json
