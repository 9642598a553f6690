import ApiDesign.Decimal.Reading
import ApiDesign.Log
import ApiDesign.Text.Pattern
import ApiDesign.Text.Split

/-!
# Filters of a log

A filter says which events are logged.  It is a list of directives, written with commas between
them: `warn`, `target=debug`, `target[{field}]=info`.

* `LogDirective.read` — the directive that a text stands for;
* `LogFilter.parse?`, `LogFilter.parse` — the filter that a text stands for, with every directive
  well formed or without those that are not;
* `LogFilter.allows` — whether an event is logged.
-/

namespace ApiDesign

/-! ### Directives -/

/-- What a directive of a filter says: the events that it is about are logged up to a rank. -/
structure LogDirective where
  /-- What the targets of these events begin with. -/
  target : String
  /-- The field that these events have. -/
  field : Option String
  /-- Whether only events within a named span are meant, or within one whose field has a value. -/
  inSpan : Bool
  rank : Nat
  deriving DecidableEq, Repr, Inhabited

/-- Why a text is no directive. -/
inductive LogDirectiveFault where
  | malformed
  | unknownLevel
  | malformedValue
  deriving DecidableEq, Repr, Inhabited

/-- The text of a fault. -/
def LogDirectiveFault.message : LogDirectiveFault → String
  | .malformed => "invalid filter directive"
  | .unknownLevel =>
    "error parsing level filter: expected one of \"off\", \"error\", \"warn\", \"info\", "
      ++ "\"debug\", \"trace\", or a number 0-5"
  | .malformedValue => "invalid field filter: error building NFA"

namespace LogDirective

/-- The target of all events. -/
def eventTarget : String := "apiforge"

/-- The rank of everything. -/
def fullRank : Nat := LogLevel.trace.rank

/-- The rank that the name or the number of a level stands for; `off` stands for none. -/
def rank? (cs : List Char) : Option Nat :=
  match (String.ofList cs).toLower with
  | "off" => some 0
  | "error" => some LogLevel.error.rank
  | "warn" => some LogLevel.warn.rank
  | "info" => some LogLevel.info.rank
  | "debug" => some LogLevel.debug.rank
  | "trace" => some LogLevel.trace.rank
  | _ =>
    let digits := match cs with
      | '+' :: digits => digits
      | _ => cs
    (Text.readNumber? 10 digits).filter (· ≤ fullRank)

/-- The rank after an equals sign; without a level everything is logged. -/
def readRank (cs : List Char) : Except LogDirectiveFault Nat :=
  if cs.isEmpty then .ok fullRank
  else
    match rank? cs with
    | some rank => .ok rank
    | none => .error .unknownLevel

/-- A character that a directive may begin with, brackets apart. -/
def isInitial (c : Char) : Bool := Text.isAlphanumeric c || c = '_' || c = ':' || c = '-'

/-- A character of a target. -/
def isTargetChar (c : Char) : Bool := c ≠ '=' && c ≠ '['

/-- What stands between brackets. -/
structure Scope where
  field : Option String
  inSpan : Bool
  /-- How many characters there are, the closing bracket included. -/
  length : Nat

/-- Whether characters are a number with a plus sign. -/
def isPositive (cs : List Char) : Bool :=
  match cs with
  | '+' :: r => (Decimal.readParts? r).isSome
    || ["inf", "infinity", "nan"].contains (String.ofList r).toLower
  | _ => false

/-- Whether a field may have a value: a number or a regular expression. -/
def isFieldValue (cs : List Char) : Bool := isPositive cs || Text.isPattern cs

/-- Reads the name of a field, with the value that it may have up to another equals sign. -/
def readField (cs : List Char) (named : Bool) (length : Nat) : Except LogDirectiveFault Scope :=
  let name := cs.takeWhile (· ≠ '=')
  match cs.drop name.length with
  | [] => .ok ⟨some (String.ofList name), named, length⟩
  | _ :: r =>
    if isFieldValue (r.takeWhile (· ≠ '=')) then .ok ⟨some (String.ofList name), true, length⟩
    else .error .malformedValue

/-- Reads what follows an opening bracket: the name of a span, or a field in braces with or without
such a name before it.  The characters of the field are taken from `whole`. -/
def readScope (text whole : List Char) : Except LogDirectiveFault Scope := do
  let span := text.takeWhile fun c => c ≠ ']' && c ≠ '\x7b'
  match text.drop span.length with
  | ']' :: _ => return ⟨none, true, span.length + 1⟩
  | '\x7b' :: r =>
    let length := (r.takeWhile (· ≠ '\x7d')).length
    if length = 0 || r.length = length then throw .malformed
    else
      let field := (whole.drop (span.length + 1)).take length
      let scope ← readField field (!span.isEmpty) (span.length + length + 3)
      if r[length + 1]? = some ']' then return scope else throw .malformed
  | _ => throw .malformed

/-- Reads a directive after its target: nothing, or a level. -/
def readEnd (target : String) (field : Option String) (inSpan : Bool) (text whole : List Char) :
    Except LogDirectiveFault LogDirective :=
  match text with
  | [] => .ok ⟨target, field, inSpan, fullRank⟩
  | '=' :: _ => (readRank (whole.drop 1)).map fun rank => ⟨target, field, inSpan, rank⟩
  | _ => .error .malformed

/-- Reads a directive after a target and an opening bracket. -/
def readScoped (target : String) (text whole : List Char) :
    Except LogDirectiveFault LogDirective := do
  let scope ← readScope text whole
  readEnd target scope.field scope.inSpan (text.drop scope.length) (whole.drop scope.length)

/-- Reads a directive: a level, a target, or a target with a level.  A target alone stands for all
its events.  The parts are found in the text without the blanks around it and are then taken from
the same places of the text with them. -/
def read (s : String) : Except LogDirectiveFault LogDirective :=
  let whole := s.toList
  match Text.trimChars whole with
  | [] => .error .malformed
  | '[' :: text => readScoped "" text (whole.drop 1)
  | c :: r =>
    if isInitial c then
      let length := (c :: r).takeWhile isTargetChar |>.length
      let target := String.ofList (whole.take length)
      match (c :: r).drop length with
      | [] =>
        match rank? whole with
        | some rank => .ok ⟨"", none, false, rank⟩
        | none => .ok ⟨s, none, false, fullRank⟩
      | '[' :: text => readScoped target text (whole.drop (length + 1))
      | text => readEnd target none false text (whole.drop length)
    else .error .malformed

/-- Whether a directive is about an event. -/
def concerns (d : LogDirective) (e : Event) : Bool :=
  !d.inSpan && d.target.toList.isPrefixOf eventTarget.toList
    && d.field.all fun name => name = "event" || (e.fields.map (·.1)).contains name

/-- Whether a directive says less than another one: by the length of its target, then by its
field. -/
def isBelow (d b : LogDirective) : Bool :=
  d.target.length < b.target.length || (d.target.length = b.target.length &&
    match d.field, b.field with
    | none, some _ => true
    | some x, some y => x < y
    | _, none => false)

end LogDirective

/-! ### Filters -/

/-- The directives of a filter. -/
structure LogFilter where
  directives : List LogDirective
  deriving DecidableEq, Repr, Inhabited

namespace LogFilter

/-- The parts of a text of directives. -/
def parts (s : String) : List String := (Text.splitText ',' s).filter (· ≠ "")

/-- Reads a text of directives, all of which must be well formed.  Without a directive nothing is
logged. -/
def parse? (s : String) : Option LogFilter :=
  LogFilter.mk <$> (parts s).mapM fun part => (LogDirective.read part).toOption

/-- Reads a text of directives and leaves out those that are not well formed.  Without a directive
only errors are logged. -/
def parse (s : String) : LogFilter :=
  let directives := (parts s).filterMap fun part => (LogDirective.read part).toOption
  ⟨if directives.isEmpty then [⟨"", none, false, LogLevel.error.rank⟩] else directives⟩

/-- What is said about the directives that are left out. -/
def complaints (s : String) : List String :=
  (parts s).filterMap fun part =>
    match LogDirective.read part with
    | .ok _ => none
    | .error fault => some ("ignoring `" ++ part ++ "`: " ++ fault.message)

/-- The directive that counts for an event: of those about it the one that says most, and of several
such the last. -/
def decisive (f : LogFilter) (e : Event) : Option LogDirective :=
  (f.directives.filter (·.concerns e)).foldl
    (fun best d =>
      match best with
      | some b => if d.isBelow b then some b else some d
      | none => some d)
    none

/-- Whether an event is logged. -/
def allows (f : LogFilter) (e : Event) : Bool :=
  match f.decisive e with
  | some d => e.level.rank ≤ d.rank
  | none => false

/-- The filter of a run, with what is said about it: that of the environment if it is well formed,
else that of the command line. -/
def choose (environment : Option String) (level : String) : LogFilter × List String :=
  match environment.bind parse? with
  | some filter => (filter, [])
  | none => (parse level, complaints level)

end LogFilter

end ApiDesign
