import ApiDesign.DesignError
import ApiDesign.Files.System

/-!
# Configuration errors

What can go wrong around a design, with stable codes.

* `ConfigError` — the locales or the manifest are not usable;
* `SetupError` — the same, or the machine does not give what a run needs: a working directory and
  workers.
-/

namespace ApiDesign

/-- An error in what a run is told: the locales and the manifest. -/
inductive ConfigError where
  /-- Neither the command line nor the environment nor the manifest names a locale. -/
  | missingLocales
  /-- The manifest cannot be read. -/
  | manifest (reason : String)
  /-- A locale code that cannot be a part of a file name. -/
  | invalidLocale (code : String)
  deriving DecidableEq, Repr, Inhabited

namespace ConfigError

/-- The stable code of an error. -/
def code : ConfigError → String
  | .missingLocales => "E4001"
  | .manifest _ => "E4002"
  | .invalidLocale _ => "E4004"

/-- The message without its code. -/
def reason : ConfigError → String
  | .missingLocales =>
    "no locales configured; set --locales, APIFORGE_LOCALES or `locales` in apiforge.yaml"
  | .manifest reason => "manifest error: " ++ reason
  | .invalidLocale code =>
    "invalid locale " ++ DesignError.inQuotes code
      ++ ": only ASCII letters, digits, '-' and '_' are allowed"

/-- The message of an error. -/
def message (e : ConfigError) : String := e.code ++ ": " ++ e.reason

end ConfigError

/-- Why a run cannot be set up: it is told something wrong (E4001, E4002 or E4004), its workers cannot
be started (E4003), or the machine fails it otherwise. -/
inductive SetupError where
  /-- It cannot be told what the working directory is. -/
  | directory (fault : FileFault)
  | config (e : ConfigError)
  /-- The worker pool for the locale passes cannot be started. -/
  | workerPool (reason : String)
  deriving DecidableEq, Repr, Inhabited

/-- The message of an error. -/
def SetupError.message : SetupError → String
  | .directory fault => "I/O error: " ++ fault.message
  | .config e => e.message
  | .workerPool reason => "E4003: cannot start worker pool: " ++ reason

end ApiDesign
