import ApiDesign.KeyMap

/-!
# JSON values

* `Json` — values; an object lists its entries in the order in which they are written;
* `Json.object` — an object with free keys, whose entries are held in the order of their keys;
* `Json.record` — an object with fixed keys, of which some may be left out.
-/

namespace ApiDesign

/-- A JSON value.  Whole numbers are exact; every other number is a double. -/
inductive Json where
  | null
  | bool (value : Bool)
  | int (value : Int)
  | float (value : Float)
  | str (text : String)
  | arr (items : List Json)
  | obj (entries : List (String × Json))
  deriving Inhabited

namespace Json

/-- An object with free keys: sorted, with the last value of each key. -/
def object (entries : List (String × Json)) : Json := .obj (Entries.sort entries)

/-- An object with fixed keys, of which the absent ones are left out. -/
def record (fields : List (String × Option Json)) : Json :=
  .obj (fields.filterMap fun f => f.2.map fun v => (f.1, v))

/-- The value of a key of an object. -/
def get? (key : String) : Json → Option Json
  | .obj entries => Entries.lookup key entries
  | _ => none

/-- The number of a double; the infinities and values that are not numbers become null. -/
def ofFloat (x : Float) : Json := if x.isFinite then .float x else .null

/-- A list of texts. -/
def texts (items : List String) : Json := .arr (items.map .str)

end Json

end ApiDesign
