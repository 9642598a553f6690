import ApiDesign.Decode.Model
import ApiDesign.Json.Reader

/-!
# Records of the model as JSON

How the records of a design are written as JSON, and how roles are read and written: a role without
contents is its name, and the role that names a scheme is an object with one key.
-/

namespace ApiDesign

open Decode

/-- An optional text, written as null if it is absent. -/
def Json.ofText? (s : Option String) : Json :=
  match s with
  | some s => .str s
  | none => .null

/-- An optional localized text, written as null if it is absent. -/
def Json.ofLocalized? (s : Option (Localized String)) : Json :=
  match s with
  | some s => s.toJson .str
  | none => .null

/-- A contact with all its fields. -/
def Contact.toJson (c : Contact) : Json :=
  .obj [("name", .ofText? c.name), ("url", .ofText? c.url), ("email", .ofText? c.email)]

/-- A licence with all its fields. -/
def License.toJson (l : License) : Json :=
  .obj [("name", .ofText? l.name), ("url", .ofText? l.url)]

/-- A host with all its fields. -/
def Host.toJson (h : Host) : Json :=
  .obj [("name", .str h.name), ("description", .ofLocalized? h.description),
    ("uris", .texts h.uris)]

/-- A server with all its fields. -/
def Server.toJson (s : Server) : Json :=
  .obj [("name", .str s.name), ("description", .ofLocalized? s.description),
    ("hosts", .arr (s.hosts.map Host.toJson))]

/-- A flow; absent addresses are left out. -/
def Flow.toJson (f : Flow) : Json :=
  .record [("kind", some (.str f.kind.name)), ("authorizationUrl", f.authorizationUrl.map .str),
    ("tokenUrl", f.tokenUrl.map .str), ("refreshUrl", f.refreshUrl.map .str)]

/-- A scope. -/
def Scope.toJson (s : Scope) : Json :=
  .obj [("name", .str s.name), ("description", .str s.description)]

/-- A requirement; an empty list of scopes is left out. -/
def Requirement.toJson (r : Requirement) : Json :=
  .record [("schemes", some (.texts r.schemes)),
    ("scopes", if r.scopes.isEmpty then none else some (.texts r.scopes))]

/-- A route. -/
def Route.toJson (r : Route) : Json :=
  .obj [("verb", .str r.verb.name), ("path", .str r.path)]

namespace SecurityRole

/-- The names of the roles. -/
def names : List String := ["username", "password", "apiKey", "accessToken", "token"]

/-- A role. -/
def toJson : SecurityRole → Json
  | .username => .str "username"
  | .password => .str "password"
  | .apiKey scheme => .obj [("apiKey", .obj [("scheme", .str scheme)])]
  | .accessToken => .str "accessToken"
  | .token => .str "token"

/-- The role of a name that needs no contents. -/
def ofName? (name : String) : Option SecurityRole :=
  match name with
  | "username" => some .username
  | "password" => some .password
  | "accessToken" => some .accessToken
  | "token" => some .token
  | _ => none

/-- The contents of the role that names a scheme. -/
def schemeFormat : RecordFormat Json.Reader String where
  type := "SecurityRole"
  strict := false
  initial := ""
  fields := [.needed "scheme" Source.text fun v _ => v]

/-- Reads the contents of the role that names a scheme. -/
def readScheme : Option Json → Except Fault String
  | some (.obj entries) => Json.Reader.record schemeFormat (.obj entries)
  | some v => v.mismatch "struct variant"
  | none => .error (.invalidType .bareVariant "struct variant")

/-- Reads a role. -/
def ofJson (v : Json) : Except Fault SecurityRole := do
  let (name, beside) ← v.readVariant
  match ofName? name with
  | some role =>
    Json.checkBare beside
    return role
  | none =>
    if name = "apiKey" then return .apiKey (← readScheme beside)
    else throw (.unknownVariant name names)

end SecurityRole

end ApiDesign
