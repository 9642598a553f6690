import ApiDesign.Json.Reader
import ApiDesign.Yaml.Tree

/-!
# Typed readers of documents

Readers of trees.  A reader knows the place of its tree, which messages show, and how many
collections may still be nested there.  While it reads, it counts the aliases that it follows.

* `Path.text` — how a place is shown;
* `ReadError` — why a tree cannot be read;
* `Reading` — what comes of reading;
* `Reader` — the readers, a `Source`: lists and records also show the place of what a value in them
  found wrong without telling its place;
* `readJson` — reads any tree as a JSON value;
* `readText` — reads a text.
-/

namespace ApiDesign.Yaml

open Decode

/-! ### Places -/

/-- A step from a collection to a part of it. -/
inductive PathStep where
  | key (name : String)
  | index (number : Nat)
  /-- The value of a key that is no plain text. -/
  | unknown
  deriving DecidableEq, Repr, Inhabited

/-- The way from the root to a node, the last step first. -/
abbrev Path := List PathStep

/-- How a place is shown. -/
def Path.text : Path → String
  | [] => "."
  | .index i :: p => Path.text p ++ "[" ++ toString i ++ "]"
  | .key name :: p => (if p.isEmpty then "" else Path.text p ++ ".") ++ name
  | .unknown :: p => (if p.isEmpty then "" else Path.text p ++ ".") ++ "?"

/-- The place of a node. -/
structure Place where
  /-- How many collections may be nested there. -/
  room : Nat
  path : Path

namespace Place

/-- The place of a document. -/
def root : Place := ⟨maxDepth, []⟩

/-- The place of a part of a collection. -/
def step (p : Place) (s : PathStep) : Place := { p with path := s :: p.path }

end Place

/-! ### Errors -/

/-- Why a tree cannot be read. -/
inductive ReadError where
  | tooDeep
  | tooManyAliases
  /-- There is no node. -/
  | noNode
  /-- A fault in a value, at a place if it is known. -/
  | fault (place : Option Path) (format : Format) (reason : Fault)
  deriving Inhabited

namespace ReadError

/-- The message of an error.  The root needs no mention. -/
def message : ReadError → String
  | .tooDeep => "recursion limit exceeded"
  | .tooManyAliases => "repetition limit exceeded"
  | .noNode => "EOF while parsing a value"
  | .fault (some (s :: p)) format reason => Path.text (s :: p) ++ ": " ++ reason.message format
  | .fault _ format reason => reason.message format

/-- The error with a place if it has none yet. -/
def placed (path : Path) : ReadError → ReadError
  | .fault none format reason => .fault (some path) format reason
  | e => e

end ReadError

/-- What comes of reading, given the number of aliases that may be followed: a value, with the number
of those that are left, or an error. -/
abbrev Reading : Type → Type := StateT Nat (Except ReadError)

/-- Counts an alias that is followed. -/
def countAlias : Reading Unit := do
  match ← get with
  | 0 => throw .tooManyAliases
  | left + 1 => set left

namespace Place

variable {α : Type}

/-- The outcome with a place for a fault that has none yet. -/
def locate (p : Place) (outcome : Reading α) : Reading α := fun left =>
  (outcome left).mapError (ReadError.placed p.path)

/-- A fault at a place. -/
def fail (p : Place) (fault : Fault) : Reading α := throw (.fault (some p.path) .yaml fault)

/-- The value of an outcome, with a fault at a place. -/
def settle (p : Place) : Except Fault α → Reading α
  | .ok value => pure value
  | .error fault => p.fail fault

/-- The place of the parts of a collection. -/
def enter (p : Place) : Reading Place :=
  match p.room with
  | 0 => throw .tooDeep
  | room + 1 => pure { p with room := room }

end Place

/-- The value of an outcome, with a fault that has no place. -/
def settleUnplaced {α : Type} (format : Format) : Except Fault α → Reading α
  | .ok value => pure value
  | .error fault => throw (.fault none format fault)

/-! ### Scalars -/

/-- The name of a tag that belongs to its document. -/
def localTag? (tag : Option Tag) : Option String := tag.bind Tag.localName?

namespace Scalar

/-- The value that a tag demands, if the text spells one. -/
def demand (s : Scalar) (value : Option Plain) (expected : String) : Except Fault Plain :=
  match value with
  | some value => .ok value
  | none => .error (.invalidValue (.text s.text) expected)

/-- The type and value of a scalar: as its tag demands, or as a plain text suggests. -/
def typed (s : Scalar) : Except Fault Plain :=
  let cs := s.text.toList
  match s.tag with
  | none => .ok (if s.style = .plain then .ofText s.text else .text)
  | some tag =>
    if tag = .core "bool" then s.demand ((readBool? s.text).map .bool) "a boolean"
    else if tag = .core "int" then s.demand (readInt? cs) "an integer"
    else if tag = .core "float" then s.demand ((readFloat? cs).map .float) "a float"
    else if tag = .core "null" then
      s.demand (if isNull s.text then some .null else none) "null"
    else .ok (if tag.isLocal && s.style = .plain then .ofText s.text else .text)

/-- What messages call a scalar. -/
def found (s : Scalar) : Except Fault Found := do
  match ← s.typed with
  | .null => return .nothing
  | .bool b => return .boolean b
  | .whole i => return .whole i
  | .wide i negative => return .wide i negative
  | .float x => return .float x
  | .text => return .text s.text

/-- Whether nothing is written for a scalar. -/
def isOmitted (s : Scalar) : Bool := s.text.isEmpty && s.style = .plain

/-- Whether a scalar spells a truth value: it is plain, or a literal block with the tag. -/
def flag? (s : Scalar) : Option Bool :=
  if s.style = .plain || (s.style = .literal && s.tag = some (.core "bool")) then
    readBool? s.text
  else none

/-- Whether a scalar stands for an absent value. -/
def isAbsent (s : Scalar) : Except Fault Bool :=
  if s.style ≠ .plain then .ok false
  else
    match s.tag with
    | none => .ok (s.text.isEmpty || isNull s.text)
    | some tag =>
      if tag = .core "null" then
        if isNull s.text then .ok true else .error (.invalidValue (.text s.text) "null")
      else .ok false

end Scalar

/-! ### Readers -/

/-- A reader of trees. -/
def Reader (α : Type) : Type := Place → Tree → Reading α

namespace Reader

variable {α β : Type}

/-- Says what was found in place of what was expected. -/
def mismatch (p : Place) (t : Tree) (expected : String) : Reading α :=
  match t with
  | .scalar s => do p.fail (.invalidType (← p.settle s.found) expected)
  | .sequence .. => p.fail (.invalidType .sequence expected)
  | .mapping .. => p.fail (.invalidType .mapping expected)
  | .alias _ => throw .tooManyAliases
  | .absent => throw .noNode

/-- Reads what an alias stands for in place of the alias. -/
def followed (read : Reader α) : Reader α := fun p t =>
  match t with
  | .alias target => do
    countAlias
    read p (target ())
  | t => read p t

/-- The value of a reader, changed. -/
def map (f : α → β) (read : Reader α) : Reader β := fun p t => f <$> read p t

/-- Reads a text: that of any scalar. -/
def wording (expected : String) : Reader String := followed fun p t =>
  match t with
  | .scalar s => pure s.text
  | t => mismatch p t expected

/-- Reads a truth value. -/
def flag : Reader Bool := followed fun p t =>
  match t with
  | .scalar s =>
    match s.flag? with
    | some b => pure b
    | none => mismatch p t "a boolean"
  | t => mismatch p t "a boolean"

/-- Reads a value that may be absent. -/
def option (read : Reader α) : Reader (Option α) := followed fun p t =>
  match t with
  | .scalar s => do
    if ← settleUnplaced .yaml s.isAbsent then return none else some <$> read p t
  | .absent => pure none
  | t => some <$> read p t

/-- Reads items, of which the first has the given number. -/
def items (read : Reader α) (p : Place) (number : Nat) : List Tree → Reading (List α)
  | [] => pure []
  | t :: r => do
    let first ← read (p.step (.index number)) t
    return first :: (← items read p (number + 1) r)

/-- Reads a list.  Where nothing is written, the list is empty. -/
def list (read : Reader α) : Reader (List α) := followed fun p t =>
  match t with
  | .sequence _ ts => p.locate do items read (← p.enter) 0 ts
  | .scalar s => if s.isOmitted then pure [] else mismatch p t "a sequence"
  | .absent => pure []
  | t => mismatch p t "a sequence"

/-- The value of a name. -/
def variant (variants : List (String × α)) (name : String) : Except Fault α :=
  match variants.find? (·.1 = name) with
  | some (_, value) => .ok value
  | none => .error (.unknownVariant name (variants.map (·.1)))

/-- Checks that nothing stands beside a tag. -/
def checkBare (p : Place) (t : Tree) : Reading Unit :=
  match t with
  | .scalar s =>
    if s.style = .plain && (s.text.isEmpty || isNull s.text) then pure ()
    else p.fail (.invalidValue (.text s.text) "null")
  | .absent => pure ()
  | t => mismatch p t "unit"

/-- The tag of a tree. -/
def tagOf : Tree → Option Tag
  | .scalar s => s.tag
  | .sequence tag _ => tag
  | .mapping tag _ => tag
  | _ => none

/-- Reads one of several names: the text of a scalar, or a tag beside which nothing stands. -/
def choice (variants : List (String × α)) : Reader α := followed fun p t =>
  match localTag? (tagOf t) with
  | some name => do
    let value ← settleUnplaced .yaml (variant variants name)
    checkBare p t
    return value
  | none =>
    match t with
    | .scalar s => p.settle (variant variants s.text)
    | t => mismatch p t "a YAML tag starting with '!'"

/-- The step to the value of a key. -/
def stepTo (key : Tree) : PathStep :=
  match key with
  | .scalar s => .key s.text
  | _ => .unknown

/-- Reads the entries of a record into what was read before. -/
def fill (r : RecordFormat Reader α) (p : Place) (f : Filling α) :
    List (Tree × Tree) → Reading (Filling α)
  | [] => pure f
  | (key, value) :: rest => do
    let name ← wording "field identifier" p key
    match ← p.settle (r.select name) with
    | .ignored => fill r p f rest
    | .field field =>
      if f.names.contains name then p.fail (.duplicateField name)
      else
        let change ← field.read (p.step (stepTo key)) value
        fill r p (f.fill name change) rest

/-- Reads a record from its entries. -/
def recordFrom (r : RecordFormat Reader α) (p : Place) (entries : List (Tree × Tree)) :
    Reading α := do
  let f ← fill r p (.start r) entries
  p.settle (f.finish r)

/-- Reads a record.  Where nothing is written, the record has no entries. -/
def record (r : RecordFormat Reader α) : Reader α := followed fun p t =>
  match t with
  | .mapping _ entries => p.locate do recordFrom r (← p.enter) entries
  | .scalar s =>
    if s.isOmitted then recordFrom r p [] else mismatch p t ("struct " ++ r.type)
  | .absent => recordFrom r p []
  | t => mismatch p t ("struct " ++ r.type)

end Reader

/-! ### JSON values -/

/-- A scalar as a JSON value. -/
def Scalar.toJson (s : Scalar) : Except Fault Json := do
  match localTag? s.tag with
  | some _ => throw (.invalidType .tagged "any valid JSON value")
  | none =>
    match ← s.typed with
    | .null => return .null
    | .bool b => return .bool b
    | .whole i => return .int i
    | .wide .. => throw .numberOutOfRange
    | .float x => return .ofFloat x
    | .text => return .str s.text

/-- What messages call the key of an entry that has the given number. -/
def expectedKey (number : Nat) : String := if number = 0 then "a string key" else "a string"

/-- Checks that a collection has no tag of a type of its own. -/
def checkUntagged (p : Place) (tag : Option Tag) (expected : String) : Reading Unit :=
  match localTag? tag with
  | some _ => p.fail (.invalidType .tagged expected)
  | none => pure ()

mutual

/-- Reads any tree as a JSON value. -/
def readJson (p : Place) : Tree → Reading Json
  | .scalar s => p.settle s.toJson
  | .sequence tag ts => do
    checkUntagged p tag "any valid JSON value"
    return .arr (← readJsonItems (← p.enter) 0 ts)
  | .mapping tag entries => do
    checkUntagged p tag "any valid JSON value"
    return .object (← readJsonEntries (← p.enter) 0 entries)
  | .alias target => do
    countAlias
    readJson p (target ())
  | .absent => pure .null

/-- Reads items as JSON values; the first has the given number. -/
def readJsonItems (p : Place) (number : Nat) : List Tree → Reading (List Json)
  | [] => pure []
  | t :: r => do
    let first ← readJson (p.step (.index number)) t
    return first :: (← readJsonItems p (number + 1) r)

/-- Reads entries as JSON values; the first has the given number. -/
def readJsonEntries (p : Place) (number : Nat) :
    List (Tree × Tree) → Reading (List (String × Json))
  | [] => pure []
  | (key, value) :: r => do
    let name ← Reader.wording (expectedKey number) p key
    let first ← readJson (p.step (Reader.stepTo key)) value
    return (name, first) :: (← readJsonEntries p (number + 1) r)

end

/-- Reads a localized value: what is wrong with its JSON value has no place of its own. -/
def localized {α : Type} (read : Json → Except Fault α) : Reader (Localized α) := fun p t => do
  settleUnplaced .json (Localized.ofJson read (← readJson p t))

instance : Functor Reader where
  map := Reader.map

instance : Source Reader where
  wording := Reader.wording
  flag := Reader.flag
  option := Reader.option
  list := Reader.list
  choice := Reader.choice
  localizedText := localized Json.readText
  localizedJson := localized .ok
  record := Reader.record

/-! ### Texts -/

/-- Why a text cannot be read. -/
inductive TextError where
  | malformed (e : SyntaxError)
  | unreadable (e : ReadError)
  deriving Inhabited

/-- The message of an error. -/
def TextError.message : TextError → String
  | .malformed e => e.message
  | .unreadable e => e.message

/-- Reads a text. -/
def readText {α : Type} (read : Reader α) (text : String) : Except TextError α :=
  match Document.ofText text with
  | .error e => .error (.malformed e)
  | .ok d =>
    match read .root d.tree d.aliasLimit with
    | .error e => .error (.unreadable e)
    | .ok (value, _) => .ok value

end ApiDesign.Yaml
