import ApiDesign.Security.Scheme

/-!
# Security requirements

A requirement names the schemes that a caller must satisfy together, and scopes.  Requirements are
declared for the API, for services and for methods; a method may also declare that no security
applies.  Declarations at the same place are alternatives.

* `Requirement.addScope` — a required scope must be defined by a scheme of the requirement;
* `SecurityRequirements.forService`, `forMethod`, `all` — the declarations of a place, in order.
-/

namespace ApiDesign

/-- The schemes that must be satisfied together, and the required scopes. -/
structure Requirement where
  schemes : List String
  scopes : List String
  deriving DecidableEq, Repr, Inhabited

/-- The requirement with one more scope.  It is described where a scheme defines it, so it takes no
description here, and one of the requirement's schemes must define it. -/
def Requirement.addScope (r : Requirement) (schemes : List SecurityScheme) (scope : String)
    (descriptions : List String) : Except DesignError Requirement :=
  if descriptions.isEmpty then
    if schemes.any (·.hasScope scope) then .ok { r with scopes := r.scopes ++ [scope] }
    else .error (.unknownScope scope
      (", ".intercalate (schemes.map fun s => DesignError.inQuotes s.name)))
  else .error (.tooManyArguments ("Scope " ++ DesignError.inQuotes scope
    ++ " in security requirement"))

/-- A security declaration of a method. -/
inductive MethodSecurity where
  | require (requirement : Requirement)
  /-- Nothing is required, whatever the service and the API say. -/
  | noSecurity
  deriving DecidableEq, Repr, Inhabited

/-- The requirement of a method declaration, if it is one. -/
def MethodSecurity.requirement? : MethodSecurity → Option Requirement
  | .require requirement => some requirement
  | .noSecurity => none

/-- A requirement of a service. -/
structure ServiceRequirement where
  service : String
  requirement : Requirement
  deriving DecidableEq, Repr, Inhabited

/-- A security declaration of a method of a service. -/
structure MethodRequirement where
  service : String
  method : String
  security : MethodSecurity
  deriving DecidableEq, Repr, Inhabited

/-- The security declarations of a design. -/
structure SecurityRequirements where
  api : List Requirement
  services : List ServiceRequirement
  methods : List MethodRequirement
  deriving DecidableEq, Repr, Inhabited

namespace SecurityRequirements

/-- No declarations. -/
def empty : SecurityRequirements := ⟨[], [], []⟩

/-- The requirements of a service. -/
def forService (s : SecurityRequirements) (service : String) : List Requirement :=
  (s.services.filter fun r => r.service = service).map (·.requirement)

/-- The declarations of a method. -/
def forMethod (s : SecurityRequirements) (service method : String) : List MethodSecurity :=
  (s.methods.filter fun r => r.service = service ∧ r.method = method).map (·.security)

/-- Every requirement: those of the API, of the services and of the methods. -/
def all (s : SecurityRequirements) : List Requirement :=
  s.api ++ s.services.map (·.requirement) ++ s.methods.filterMap (·.security.requirement?)

/-- The declarations of both, those of the first before those of the second at each place. -/
def append (s t : SecurityRequirements) : SecurityRequirements :=
  ⟨s.api ++ t.api, s.services ++ t.services, s.methods ++ t.methods⟩

end SecurityRequirements

end ApiDesign
