import ApiDesign.Cli.Validate
import ApiDesign.Log.Filter

/-!
# Running a command line

`runOn` is the whole program as a function: from a command line, the environment, the files and the
worker pools of the machine to the exit code, the output, the log and the files afterwards.  `run` is
the same on a machine that starts every pool.
-/

namespace ApiDesign.Cli

/-- The variables of the environment that matter. -/
structure Environment where
  /-- The locales, unless the command line gives them. -/
  locales : Option String
  /-- The filter of the log, which wins over the command line. -/
  logFilter : Option String

/-- What a run came to. -/
structure Outcome where
  exitCode : Nat
  stdout : String
  stderr : List String
  /-- The format of the log, and the events that were logged. -/
  logFormat : LogFormat
  events : List Event
  files : FileSystem

/-- The name and version of the program. -/
def versionLine : String := "apiforge 0.3.1\n"

/-- How to use the program. -/
def usageLine : String :=
  "Usage: apiforge [OPTIONS] <generate --design FILE | validate --design FILE...>"

/-- An outcome without log. -/
def Outcome.plain (w : Workspace) (exitCode : Nat) (stdout : String) (stderr : List String) :
    Outcome :=
  ⟨exitCode, stdout, stderr, .pretty, [], w.files⟩

/-- The lines that a generation ends with. -/
def Generated.lines (g : Generated) : List String :=
  match g.outcome with
  | .ok [] => ["warning: design has no HTTP routes, no document generated"]
  | .ok paths => paths.map ("wrote " ++ ·)
  | .error e => e.lines.map ("error: " ++ ·)

/-- The exit code of a generation. -/
def Generated.exitCode (g : Generated) : Nat :=
  match g.outcome with
  | .ok _ => 0
  | .error _ => 1

/-- Generates documents. -/
def runGenerate (pools : WorkerPools) (w : Workspace) (env : Environment) (log : LogConfig)
    (filter : LogFilter) (o : GenerateOptions) : Outcome :=
  let g := generate pools w o env.locales
  ⟨g.exitCode, "", g.lines, log.format, g.events.filter filter.allows, g.files⟩

/-- Validates designs. -/
def runValidate (w : Workspace) (log : LogConfig) (o : ValidateOptions) : Outcome :=
  let reports := o.designs.map (validate w)
  let exitCode := if reports.all (·.isValid) then 0 else 1
  if o.format = "json" then
    ⟨exitCode, Json.pretty (reportJson reports) ++ "\n", [], log.format, [], w.files⟩
  else ⟨exitCode, "", reportLines reports, log.format, [], w.files⟩

/-- Runs a command. -/
def runInvocation (pools : WorkerPools) (w : Workspace) (env : Environment) (i : Invocation) :
    Outcome :=
  let format := i.logFormat.getD "pretty"
  match LogFormat.parse? format with
  | none =>
    .plain w 1 "" ["error: invalid log format '" ++ format ++ "' (expected pretty or json)"]
  | some format =>
    let log := LogConfig.ofOptions i.logLevel (some format)
    let (filter, complaints) := LogFilter.choose env.logFilter log.level
    let outcome :=
      match i.command with
      | .generate o => runGenerate pools w env log filter o
      | .validate o => runValidate w log o
    { outcome with stderr := complaints ++ outcome.stderr }

/-- Runs a command line on a machine with such worker pools. -/
def runOn (pools : WorkerPools) (w : Workspace) (env : Environment) (arguments : List String) :
    Outcome :=
  match Request.ofArguments arguments with
  | .run invocation => runInvocation pools w env invocation
  | .help => .plain w 0 (usageLine ++ "\n") []
  | .version => .plain w 0 versionLine []
  | .misuse => .plain w 2 "" ["error: the command line cannot be understood", usageLine]

/-- Runs a command line on a machine that starts every worker pool. -/
def run (w : Workspace) (env : Environment) (arguments : List String) : Outcome :=
  runOn .ready w env arguments

end ApiDesign.Cli
