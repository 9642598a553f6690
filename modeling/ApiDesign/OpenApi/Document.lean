import ApiDesign.Design
import ApiDesign.OpenApi.Schema

/-!
# OpenAPI documents

The part of OpenAPI 3.0 that is generated.  Every type has a written form `toJson`, an object with
its fields in a fixed order; optional fields that are absent are left out, and so are most lists and
maps that are empty.

* `Operation`, `PathItem` — an operation, and the operations of a path with one slot per verb;
* `SecuritySchemeObject` — a component that describes a security scheme;
* `Document` — the whole document.
-/

namespace ApiDesign.OpenApi

/-- The written form of an optional text. -/
def text? (s : Option String) : Option Json := s.map .str

/-! ### Information about the API -/

/-- General information about the API. -/
structure Info where
  title : String
  description : Option String
  termsOfService : Option String
  contact : Option Contact
  license : Option License
  version : String

/-- The written form of a contact. -/
def contactJson (c : Contact) : Json :=
  .record [("name", text? c.name), ("url", text? c.url), ("email", text? c.email)]

/-- The written form of a licence. -/
def licenseJson (l : License) : Json := .record [("name", text? l.name), ("url", text? l.url)]

/-- The written form of general information. -/
def Info.toJson (i : Info) : Json :=
  .record [
    ("title", some (.str i.title)),
    ("description", text? i.description),
    ("termsOfService", text? i.termsOfService),
    ("contact", i.contact.map contactJson),
    ("license", i.license.map licenseJson),
    ("version", some (.str i.version))]

/-- An address under which the API is reached. -/
structure ServerEntry where
  url : String
  description : Option String

/-- The written form of an address. -/
def ServerEntry.toJson (s : ServerEntry) : Json :=
  .record [("url", some (.str s.url)), ("description", text? s.description)]

/-! ### Operations -/

/-- Where a parameter stands. -/
inductive ParameterLocation where
  | path | query
  deriving DecidableEq, Repr, Inhabited

/-- The name of a place. -/
def ParameterLocation.name : ParameterLocation → String
  | .path => "path"
  | .query => "query"

/-- A parameter of an operation. -/
structure Parameter where
  location : ParameterLocation
  name : String
  description : Option String
  required : Bool
  explode : Option Bool
  schema : Schema
  example? : Option Json

/-- The written form of a parameter. -/
def Parameter.toJson (p : Parameter) : Json :=
  .record [
    ("in", some (.str p.location.name)),
    ("name", some (.str p.name)),
    ("description", text? p.description),
    ("required", some (.bool p.required)),
    ("explode", p.explode.map .bool),
    ("schema", some p.schema.toJson),
    ("example", p.example?)]

/-- An alternative of the security of an operation: scopes by the name of the scheme. -/
abbrev SecurityRequirementObject := KeyMap (List String)

/-- The written form of an alternative. -/
def requirementJson (r : SecurityRequirementObject) : Json := .obj (r.map .texts).entries

/-- An operation. -/
structure Operation where
  operationId : String
  description : Option String
  parameters : List Parameter
  /-- The responses, which no design describes so far. -/
  responses : KeyMap Json := .empty
  /-- The alternatives; the empty list says that nothing is required. -/
  security : Option (List SecurityRequirementObject)

/-- The written form of an operation. -/
def Operation.toJson (o : Operation) : Json :=
  .record [
    ("operationId", some (.str o.operationId)),
    ("description", text? o.description),
    ("parameters",
      if o.parameters.isEmpty then none else some (.arr (o.parameters.map Parameter.toJson))),
    ("responses", some (.obj o.responses.entries)),
    ("security", o.security.map fun rs => .arr (rs.map requirementJson))]

/-- The operations of a path, one slot per verb. -/
structure PathItem where
  get : Option Operation
  put : Option Operation
  post : Option Operation
  delete : Option Operation
  options : Option Operation
  head : Option Operation
  patch : Option Operation
  trace : Option Operation

namespace PathItem

/-- A path without operations. -/
def empty : PathItem := ⟨none, none, none, none, none, none, none, none⟩

/-- The operation of a verb. -/
def operation? (item : PathItem) : Verb → Option Operation
  | .get => item.get
  | .put => item.put
  | .post => item.post
  | .delete => item.delete
  | .options => item.options
  | .head => item.head
  | .patch => item.patch
  | .trace => item.trace

/-- The path with an operation for a verb. -/
def set (item : PathItem) (verb : Verb) (o : Operation) : PathItem :=
  match verb with
  | .get => { item with get := some o }
  | .put => { item with put := some o }
  | .post => { item with post := some o }
  | .delete => { item with delete := some o }
  | .options => { item with options := some o }
  | .head => { item with head := some o }
  | .patch => { item with patch := some o }
  | .trace => { item with trace := some o }

theorem operation?_empty (v : Verb) : empty.operation? v = none := by cases v <;> rfl

/-- Setting a verb changes the slot of that verb alone. -/
theorem operation?_set (item : PathItem) (v w : Verb) (o : Operation) :
    (item.set v o).operation? w = if w = v then some o else item.operation? w := by
  cases v <;> cases w <;> rfl

/-- The written form of a path. -/
def toJson (item : PathItem) : Json :=
  .record [
    ("get", item.get.map Operation.toJson),
    ("put", item.put.map Operation.toJson),
    ("post", item.post.map Operation.toJson),
    ("delete", item.delete.map Operation.toJson),
    ("options", item.options.map Operation.toJson),
    ("head", item.head.map Operation.toJson),
    ("patch", item.patch.map Operation.toJson),
    ("trace", item.trace.map Operation.toJson)]

end PathItem

/-! ### Components -/

/-- An OAuth2 flow of a component. -/
structure OAuthFlow where
  authorizationUrl : Option String
  tokenUrl : Option String
  refreshUrl : Option String
  /-- The descriptions of the scopes, by name. -/
  scopes : KeyMap String

/-- The written form of a flow. -/
def OAuthFlow.toJson (f : OAuthFlow) : Json :=
  .record [
    ("authorizationUrl", text? f.authorizationUrl),
    ("tokenUrl", text? f.tokenUrl),
    ("refreshUrl", text? f.refreshUrl),
    ("scopes", some (.obj (f.scopes.map .str).entries))]

/-- The OAuth2 flows of a component, one slot per grant. -/
structure OAuthFlows where
  implicit : Option OAuthFlow
  password : Option OAuthFlow
  clientCredentials : Option OAuthFlow
  authorizationCode : Option OAuthFlow

namespace OAuthFlows

/-- No flows. -/
def empty : OAuthFlows := ⟨none, none, none, none⟩

/-- The flow of a grant. -/
def flow? (fs : OAuthFlows) : FlowKind → Option OAuthFlow
  | .implicit => fs.implicit
  | .password => fs.password
  | .clientCredentials => fs.clientCredentials
  | .authorizationCode => fs.authorizationCode

/-- The flows with one for a grant, in place of any former one. -/
def set (fs : OAuthFlows) (kind : FlowKind) (f : OAuthFlow) : OAuthFlows :=
  match kind with
  | .implicit => { fs with implicit := some f }
  | .password => { fs with password := some f }
  | .clientCredentials => { fs with clientCredentials := some f }
  | .authorizationCode => { fs with authorizationCode := some f }

theorem flow?_set (fs : OAuthFlows) (k l : FlowKind) (f : OAuthFlow) :
    (fs.set k f).flow? l = if l = k then some f else fs.flow? l := by
  cases k <;> cases l <;> rfl

/-- The written form of the flows. -/
def toJson (fs : OAuthFlows) : Json :=
  .record [
    ("implicit", fs.implicit.map OAuthFlow.toJson),
    ("password", fs.password.map OAuthFlow.toJson),
    ("clientCredentials", fs.clientCredentials.map OAuthFlow.toJson),
    ("authorizationCode", fs.authorizationCode.map OAuthFlow.toJson)]

end OAuthFlows

/-- A component that describes a security scheme. -/
structure SecuritySchemeObject where
  type : String
  description : Option String
  scheme : Option String
  bearerFormat : Option String
  location : Option String
  name : Option String
  flows : Option OAuthFlows

/-- The written form of a security scheme. -/
def SecuritySchemeObject.toJson (s : SecuritySchemeObject) : Json :=
  .record [
    ("type", some (.str s.type)),
    ("description", text? s.description),
    ("scheme", text? s.scheme),
    ("bearerFormat", text? s.bearerFormat),
    ("in", text? s.location),
    ("name", text? s.name),
    ("flows", s.flows.map OAuthFlows.toJson)]

/-! ### Documents -/

/-- An OpenAPI document. -/
structure Document where
  openapi : String
  info : Info
  servers : List ServerEntry
  paths : KeyMap PathItem
  /-- The security schemes that operations refer to, by name. -/
  securitySchemes : KeyMap SecuritySchemeObject

namespace Document

/-- The version of OpenAPI that documents follow. -/
def version : String := "3.0.0"

/-- The operation of a path and a verb. -/
def operation? (d : Document) (path : String) (verb : Verb) : Option Operation :=
  (d.paths.get? path).bind fun item => item.operation? verb

/-- Every operation with its path and verb: by path, then by verb. -/
def operations (d : Document) : List (String × Verb × Operation) :=
  d.paths.entries.flatMap fun e =>
    Verb.all.filterMap fun v => (e.2.operation? v).map fun o => (e.1, v, o)

/-- The written form of the components; there are none without security schemes. -/
def componentsJson (schemes : KeyMap SecuritySchemeObject) : Option Json :=
  if schemes.isEmpty then none
  else some (.obj [("securitySchemes", .obj (schemes.map SecuritySchemeObject.toJson).entries)])

/-- The written form of a document. -/
def toJson (d : Document) : Json :=
  .record [
    ("openapi", some (.str d.openapi)),
    ("info", some d.info.toJson),
    ("servers",
      if d.servers.isEmpty then none else some (.arr (d.servers.map ServerEntry.toJson))),
    ("paths", some (.obj (d.paths.map PathItem.toJson).entries)),
    ("components", componentsJson d.securitySchemes)]

end Document

end ApiDesign.OpenApi
