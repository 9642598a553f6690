/-!
# Usage errors

The errors that a declaration of a design can make, with a stable code each.

* `DesignError` — the errors by cause;
* `DesignError.code`, `DesignError.message` — what a user sees; the message begins with the code.
-/

namespace ApiDesign

/-- A usage error in a design. -/
inductive DesignError where
  /-- A declaration outside the node that it belongs to. -/
  | incompatibleContext (declaration context : String)
  | duplicateScheme (name : String)
  /-- A flow on a scheme that is not of the kind OAuth2. -/
  | invalidSchemeKind (scheme : String)
  | tooManyArguments (declaration : String)
  /-- A requirement that names a scheme which is not registered. -/
  | unknownScheme (name : String)
  /-- A required scope that no scheme of the requirement defines. -/
  | unknownScope (scope schemes : String)
  | duplicateService (name : String)
  | duplicateMethod (service method : String)
  | duplicateType (name : String)
  | unknownType (name : String)
  | invalidPathTemplate (reason : String)
  /-- A requirement without schemes. -/
  | emptyRequirement
  /-- A declaration for a service or method that does not exist. -/
  | unknownTarget (target : String)
  | invalidDesignFile (reason : String)
  /-- An OAuth2 scheme without flows. -/
  | missingFlows (scheme : String)
  deriving DecidableEq, Repr, Inhabited

namespace DesignError

/-- The stable code of an error. -/
def code : DesignError → String
  | .incompatibleContext .. => "E2001"
  | .duplicateScheme _ => "E2002"
  | .invalidSchemeKind _ => "E2003"
  | .tooManyArguments _ => "E2004"
  | .unknownScheme _ => "E2005"
  | .unknownScope .. => "E2006"
  | .duplicateService _ => "E2007"
  | .duplicateMethod .. => "E2008"
  | .duplicateType _ => "E2009"
  | .unknownType _ => "E2010"
  | .invalidPathTemplate _ => "E2011"
  | .emptyRequirement => "E2012"
  | .unknownTarget _ => "E2013"
  | .invalidDesignFile _ => "E2014"
  | .missingFlows _ => "E2015"

/-- A name between quotation marks, as it is. -/
def inQuotes (s : String) : String := "\"" ++ s ++ "\""

/-- The message without its code. -/
def reason : DesignError → String
  | .incompatibleContext declaration context => declaration ++ " cannot be used at " ++ context
  | .duplicateScheme name => "cannot redefine security scheme with name " ++ inQuotes name
  | .invalidSchemeKind scheme =>
    "cannot specify flow for non-oauth2 security scheme " ++ inQuotes scheme
  | .tooManyArguments declaration => "too many arguments to " ++ declaration
  | .unknownScheme name => "security scheme " ++ inQuotes name ++ " not found"
  | .unknownScope scope schemes =>
    "scope " ++ inQuotes scope ++ " is not defined by security scheme(s) " ++ schemes
  | .duplicateService name => "cannot redefine service " ++ inQuotes name
  | .duplicateMethod service method =>
    "cannot redefine method " ++ inQuotes method ++ " in service " ++ inQuotes service
  | .duplicateType name => "cannot redefine type " ++ inQuotes name
  | .unknownType name => "type " ++ inQuotes name ++ " not found"
  | .invalidPathTemplate reason => "invalid path template: " ++ reason
  | .emptyRequirement => "security requirement must reference at least one scheme"
  | .unknownTarget target => target ++ " not found"
  | .invalidDesignFile reason => "invalid design file: " ++ reason
  | .missingFlows scheme =>
    "oauth2 security scheme " ++ inQuotes scheme ++ " must declare at least one flow"

/-- The message of an error. -/
def message (e : DesignError) : String := e.code ++ ": " ++ e.reason

end DesignError

/-- The errors of a design in one line. -/
def DesignError.summary (errors : List DesignError) : String :=
  "design has " ++ toString errors.length ++ " error(s)"

end ApiDesign
