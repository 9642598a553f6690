import ApiDesign.Design

/-!
# Structural errors

The errors that keep a design from becoming a document, with a stable code each.
-/

namespace ApiDesign

/-- A structural error of a design. -/
inductive CompileError where
  /-- Two routes with one path and one verb, named by their operations. -/
  | conflictingRoute (path : String) (verb : Verb) (first second : String)
  /-- An operation whose requirement names a scheme that is not registered. -/
  | unknownScheme (operation scheme : String)
  deriving DecidableEq, Repr, Inhabited

namespace CompileError

/-- The stable code of an error. -/
def code : CompileError → String
  | .conflictingRoute .. => "E3001"
  | .unknownScheme .. => "E3002"

/-- The message without its code. -/
def reason : CompileError → String
  | .conflictingRoute path verb first second =>
    "routing conflict: " ++ verb.name ++ " " ++ path ++ " is bound to both " ++ first ++ " and "
      ++ second
  | .unknownScheme operation scheme =>
    "operation " ++ operation ++ " references unknown security scheme "
      ++ DesignError.inQuotes scheme

/-- The message of an error. -/
def message (e : CompileError) : String := e.code ++ ": " ++ e.reason

end CompileError

end ApiDesign
