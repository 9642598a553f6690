import ApiDesign.Security.Requirement

/-!
# The security in effect for a method

The most specific level at which something is declared counts: the method, then the service, then
the API.  A declaration that no security applies settles the matter for its method, whatever else is
declared there.
-/

namespace ApiDesign

/-- The security in effect for a method. -/
inductive EffectiveSecurity where
  /-- Nothing is declared at any level. -/
  | unspecified
  /-- The method declares that no security applies. -/
  | disabled
  /-- Alternatives, of which one must be met. -/
  | required (alternatives : List Requirement)
  deriving DecidableEq, Repr, Inhabited

/-- The first level with a declaration. -/
def EffectiveSecurity.ofLevels (levels : List (List Requirement)) : EffectiveSecurity :=
  match levels.find? fun level => !level.isEmpty with
  | some level => .required level
  | none => .unspecified

/-- The security in effect for a method of a service. -/
def SecurityRequirements.effective (s : SecurityRequirements) (service method : String) :
    EffectiveSecurity :=
  let declared := s.forMethod service method
  if declared.contains .noSecurity then .disabled
  else .ofLevels [declared.filterMap (·.requirement?), s.forService service, s.api]

end ApiDesign
