import ApiDesign.Cli.Generate

/-!
# Validating designs

The command that reports the errors of design files and writes nothing.

* `Issue`, `Validation` — what is wrong with a file;
* `validate` — the report on a file.  Structural errors do not depend on the locale, so that one
  document tells them all;
* `reportJson`, `reportLines` — the report in both formats.
-/

namespace ApiDesign.Cli

/-- Something that is wrong with a design. -/
structure Issue where
  code : String
  message : String
  deriving DecidableEq, Repr, Inhabited

/-- The report on a file. -/
structure Validation where
  file : String
  issues : List Issue
  deriving DecidableEq, Repr, Inhabited

/-- Whether nothing is wrong with a file. -/
def Validation.isValid (v : Validation) : Bool := v.issues.isEmpty

/-- What is wrong with a design that was read, or not. -/
def issuesOf : Except (List DesignError) Design → List Issue
  | .error errors => errors.map fun e => ⟨e.code, e.message⟩
  | .ok design =>
    match OpenApi.assemble design "" with
    | .ok _ => []
    | .error e => [⟨e.code, e.message⟩]

/-- The report on a file. -/
def validate (w : Workspace) (path : String) : Validation := ⟨path, issuesOf (readDesign w path)⟩

/-- An issue as JSON. -/
def Issue.toJson (i : Issue) : Json :=
  .object [("code", .str i.code), ("message", .str i.message)]

/-- The report on a file as JSON. -/
def Validation.toJson (v : Validation) : Json :=
  .object [("file", .str v.file), ("valid", .bool v.isValid),
    ("errors", .arr (v.issues.map Issue.toJson))]

/-- The number of valid files. -/
def validCount (reports : List Validation) : Nat := (reports.filter (·.isValid)).length

/-- The whole report as JSON. -/
def reportJson (reports : List Validation) : Json :=
  let valid := validCount reports
  .object [("results", .arr (reports.map Validation.toJson)),
    ("summary", .object [("total", .int reports.length), ("valid", .int valid),
      ("invalid", .int (reports.length - valid : Nat))])]

/-- The lines on a file. -/
def Validation.lines (v : Validation) : List String :=
  (if v.isValid then "✓ " ++ v.file ++ " is valid"
    else "✗ " ++ v.file ++ " has " ++ toString v.issues.length ++ " error(s)")
    :: v.issues.map fun i => "  " ++ i.message

/-- The lines of the whole report. -/
def reportLines (reports : List Validation) : List String :=
  let valid := validCount reports
  reports.flatMap Validation.lines
    ++ ["", "validated " ++ toString reports.length ++ " design(s): " ++ toString valid
      ++ " valid, " ++ toString (reports.length - valid) ++ " invalid"]

end ApiDesign.Cli
