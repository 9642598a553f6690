import ApiDesign.DesignError
import ApiDesign.Localized

/-!
# Security schemes

* `SchemeKind`, `FlowKind` — the mechanisms and the OAuth2 grants, with the names files use;
* `Flow` — a grant with its addresses, and one constructor per grant;
* `SecurityScheme` — a named scheme with its scopes and flows.
-/

namespace ApiDesign

/-- The mechanism of a security scheme; `none` marks that no security applies. -/
inductive SchemeKind where
  | basic | apiKey | oauth2 | jwt | none
  deriving DecidableEq, Repr, Inhabited

namespace SchemeKind

/-- All kinds. -/
def all : List SchemeKind := [.basic, .apiKey, .oauth2, .jwt, .none]

/-- The name of a kind in files. -/
def name : SchemeKind → String
  | .basic => "basic"
  | .apiKey => "apikey"
  | .oauth2 => "oauth2"
  | .jwt => "jwt"
  | .none => "none"

/-- The name of the declaration that defines a scheme of a kind. -/
def declaration : SchemeKind → String
  | .basic => "BasicAuthSecurity"
  | .apiKey => "APIKeySecurity"
  | .oauth2 => "OAuth2Security"
  | .jwt => "JWTSecurity"
  | .none => "NoSecurity"

end SchemeKind

/-- An OAuth2 grant. -/
inductive FlowKind where
  | authorizationCode | implicit | password | clientCredentials
  deriving DecidableEq, Repr, Inhabited

namespace FlowKind

/-- All grants. -/
def all : List FlowKind := [.authorizationCode, .implicit, .password, .clientCredentials]

/-- The name of a grant in files. -/
def name : FlowKind → String
  | .authorizationCode => "authorizationCode"
  | .implicit => "implicit"
  | .password => "password"
  | .clientCredentials => "clientCredentials"

end FlowKind

/-- An OAuth2 flow with the addresses that its grant uses. -/
structure Flow where
  kind : FlowKind
  authorizationUrl : Option String
  tokenUrl : Option String
  refreshUrl : Option String
  deriving DecidableEq, Repr, Inhabited

namespace Flow

/-- A text that counts as absent if it is empty. -/
def nonEmpty (s : String) : Option String := if s.isEmpty then none else some s

/-- The flow of the authorization code grant. -/
def authorizationCode (authorizationUrl tokenUrl refreshUrl : String) : Flow :=
  ⟨.authorizationCode, some authorizationUrl, some tokenUrl, nonEmpty refreshUrl⟩

/-- The flow of the implicit grant, which has no token address. -/
def implicit (authorizationUrl refreshUrl : String) : Flow :=
  ⟨.implicit, some authorizationUrl, none, nonEmpty refreshUrl⟩

/-- The flow of the password grant, which has no authorization address. -/
def password (tokenUrl refreshUrl : String) : Flow :=
  ⟨.password, none, some tokenUrl, nonEmpty refreshUrl⟩

/-- The flow of the client credentials grant, which has no authorization address. -/
def clientCredentials (tokenUrl refreshUrl : String) : Flow :=
  ⟨.clientCredentials, none, some tokenUrl, nonEmpty refreshUrl⟩

/-- The flow of a grant; an address that the grant does not use is ignored. -/
def make (kind : FlowKind) (authorizationUrl tokenUrl refreshUrl : String) : Flow :=
  match kind with
  | .authorizationCode => authorizationCode authorizationUrl tokenUrl refreshUrl
  | .implicit => implicit authorizationUrl refreshUrl
  | .password => password tokenUrl refreshUrl
  | .clientCredentials => clientCredentials tokenUrl refreshUrl

theorem make_kind (kind : FlowKind) (a t r : String) : (make kind a t r).kind = kind := by
  cases kind <;> rfl

end Flow

/-- A scope that a scheme supports. -/
structure Scope where
  name : String
  description : String
  deriving DecidableEq, Repr, Inhabited

/-- A named authentication scheme. -/
structure SecurityScheme where
  kind : SchemeKind
  name : String
  description : Option (Localized String)
  /-- The scopes that the scheme defines. -/
  scopes : List Scope
  /-- The flows of an OAuth2 scheme. -/
  flows : List Flow

namespace SecurityScheme

/-- A scheme without description, scopes and flows. -/
def ofKind (kind : SchemeKind) (name : String) : SecurityScheme := ⟨kind, name, none, [], []⟩

/-- Whether the scheme defines a scope. -/
def hasScope (s : SecurityScheme) (scope : String) : Bool := s.scopes.any (·.name = scope)

/-- The description of a scope that is declared without one. -/
def noDescription : String := "no description"

/-- The scheme with one more scope.  A scope has at most one description. -/
def addScope (s : SecurityScheme) (scope : String) (descriptions : List String) :
    Except DesignError SecurityScheme :=
  match descriptions with
  | [] => .ok { s with scopes := s.scopes ++ [⟨scope, noDescription⟩] }
  | [description] => .ok { s with scopes := s.scopes ++ [⟨scope, description⟩] }
  | _ => .error (.tooManyArguments ("Scope " ++ DesignError.inQuotes scope
      ++ " in security scheme " ++ DesignError.inQuotes s.name))

/-- The scheme with one more flow, which only an OAuth2 scheme may have. -/
def addFlow (s : SecurityScheme) (flow : Flow) : Except DesignError SecurityScheme :=
  if s.kind = .oauth2 then .ok { s with flows := s.flows ++ [flow] }
  else .error (.invalidSchemeKind s.name)

end SecurityScheme

end ApiDesign
