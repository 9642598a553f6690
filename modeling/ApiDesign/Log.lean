import ApiDesign.Json.Basic

/-!
# Logs

A run tells what happens by events.

* `Event` — the events of a run, with their names, levels and fields;
* `LogConfig` — the settings of a log.
-/

namespace ApiDesign

/-! ### Events -/

/-- How important an event is. -/
inductive LogLevel where
  | error | warn | info | debug | trace
  deriving DecidableEq, Repr, Inhabited

namespace LogLevel

/-- The name of a level. -/
def name : LogLevel → String
  | .error => "ERROR"
  | .warn => "WARN"
  | .info => "INFO"
  | .debug => "DEBUG"
  | .trace => "TRACE"

/-- The place of a level, counted from one. -/
def rank : LogLevel → Nat
  | .error => 1
  | .warn => 2
  | .info => 3
  | .debug => 4
  | .trace => 5

end LogLevel

/-- An event of a run. -/
inductive Event where
  | designInvalid (design : String) (errors : Nat)
  | generationStarted (design locales output : String)
  | localeCompleted (locale stem : String)
  | documentSkipped (locale : String)
  | assemblyFailed (locale error : String)
  | fileWritten (path : String) (bytes : Nat)
  | generationCompleted (files : Nat)
  deriving DecidableEq, Repr, Inhabited

namespace Event

/-- The name of an event. -/
def name : Event → String
  | .designInvalid .. => "design_invalid"
  | .generationStarted .. => "generation_started"
  | .localeCompleted .. => "locale_completed"
  | .documentSkipped _ => "document_skipped"
  | .assemblyFailed .. => "assembly_failed"
  | .fileWritten .. => "file_written"
  | .generationCompleted _ => "generation_completed"

/-- The level of an event. -/
def level : Event → LogLevel
  | .designInvalid .. | .assemblyFailed .. => .error
  | .documentSkipped _ => .warn
  | .fileWritten .. => .debug
  | .generationStarted .. | .localeCompleted .. | .generationCompleted _ => .info

/-- The fields of an event. -/
def fields : Event → List (String × Json)
  | .designInvalid design errors => [("design", .str design), ("errors", .int errors)]
  | .generationStarted design locales output =>
    [("design", .str design), ("locales", .str locales), ("output", .str output)]
  | .localeCompleted locale stem => [("locale", .str locale), ("stem", .str stem)]
  | .documentSkipped locale =>
    [("message", .str "design has no HTTP routes"), ("locale", .str locale)]
  | .assemblyFailed locale error => [("locale", .str locale), ("error", .str error)]
  | .fileWritten path bytes => [("path", .str path), ("bytes", .int bytes)]
  | .generationCompleted files => [("files", .int files)]

/-- An event as JSON. -/
def toJson (e : Event) : Json :=
  .obj (("level", .str e.level.name) :: ("event", .str e.name) :: e.fields)

end Event

/-! ### Settings -/

/-- How a log is written. -/
inductive LogFormat where
  | json
  | pretty
  deriving DecidableEq, Repr, Inhabited

namespace LogFormat

/-- The name of a format. -/
def name : LogFormat → String
  | .json => "Json"
  | .pretty => "Pretty"

/-- The format that a word names in any letter case. -/
def parse? (s : String) : Option LogFormat :=
  match s.toLower with
  | "json" => some .json
  | "pretty" => some .pretty
  | _ => none

end LogFormat

/-- The settings of a log. -/
structure LogConfig where
  level : String
  format : LogFormat
  deriving DecidableEq, Repr, Inhabited

namespace LogConfig

/-- Warnings are logged for people to read. -/
def initial : LogConfig := ⟨"warn", .pretty⟩

/-- The settings with what is given in place of the initial ones. -/
def ofOptions (level : Option String) (format : Option LogFormat) : LogConfig :=
  ⟨level.getD initial.level, format.getD initial.format⟩

end LogConfig

end ApiDesign
