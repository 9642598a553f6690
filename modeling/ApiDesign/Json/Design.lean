import ApiDesign.Json.Model
import ApiDesign.Security.Effective

/-!
# Designs as JSON

How a whole design is shown as JSON: what is absent is left out, and a role is shown as messages show
it.

* `Design.toJson` — a design with everything that was declared;
* `EffectiveSecurity.toJson` — the security in effect for a method.
-/

namespace ApiDesign

/-- An optional localized text, to be left out if it is absent. -/
def localizedField (s : Option (Localized String)) : Option Json := s.map (·.toJson .str)

/-! ### Attributes -/

mutual

/-- A type. -/
def AttributeType.toJson : AttributeType → Json
  | .primitive p => .str p.name
  | .array element => .obj [("array", element.toJson)]
  | .object fields => .obj [("object", .arr (attributesJson fields))]

/-- An attribute. -/
def Attribute.toJson : Attribute → Json
  | ⟨name, type, required, description, example?, role⟩ =>
    .record [("name", some (.str name)), ("type", some type.toJson),
      ("required", some (.bool required)), ("description", localizedField description),
      ("example", example?.map (·.toJson id)), ("role", role.map fun r => .str r.display)]

/-- Attributes. -/
def attributesJson : List Attribute → List Json
  | [] => []
  | a :: r => a.toJson :: attributesJson r

end

/-- A payload or result. -/
def Payload.toJson (p : Payload) : Json :=
  .obj [("type", .ofText? p.typeName), ("attributes", .arr (attributesJson p.attributes))]

/-- A user type. -/
def UserType.toJson (t : UserType) : Json :=
  .obj [("name", .str t.name), ("attributes", .arr (attributesJson t.attributes))]

/-! ### Services -/

/-- A method. -/
def Method.toJson (m : Method) : Json :=
  .record [("name", some (.str m.name)), ("description", localizedField m.description),
    ("payload", m.payload.map Payload.toJson), ("result", m.result.map Payload.toJson),
    ("routes", some (.arr (m.routes.map Route.toJson)))]

/-- A service. -/
def Service.toJson (s : Service) : Json :=
  .record [("name", some (.str s.name)), ("description", localizedField s.description),
    ("methods", some (.arr (s.methods.map Method.toJson)))]

/-! ### Security -/

/-- A scheme. -/
def SecurityScheme.toJson (s : SecurityScheme) : Json :=
  .record [("kind", some (.str s.kind.name)), ("name", some (.str s.name)),
    ("description", localizedField s.description), ("scopes", some (.arr (s.scopes.map Scope.toJson))),
    ("flows", some (.arr (s.flows.map Flow.toJson)))]

/-- A declaration of a method. -/
def MethodSecurity.toJson : MethodSecurity → Json
  | .require r => r.toJson
  | .noSecurity => .str "none"

/-- Security declarations. -/
def SecurityRequirements.toJson (s : SecurityRequirements) : Json :=
  .obj [("api", .arr (s.api.map Requirement.toJson)),
    ("services", .arr (s.services.map fun r => .arr [.str r.service, r.requirement.toJson])),
    ("methods", .arr (s.methods.map fun r =>
      .arr [.str r.service, .str r.method, r.security.toJson]))]

/-- The security in effect for a method. -/
def EffectiveSecurity.toJson : EffectiveSecurity → Json
  | .unspecified => .str "unspecified"
  | .disabled => .str "disabled"
  | .required alternatives => .arr (alternatives.map Requirement.toJson)

/-! ### Designs -/

/-- The metadata of an API. -/
def Api.toJson (a : Api) : Json :=
  .record [("name", some (.str a.name)), ("title", localizedField a.title),
    ("description", localizedField a.description), ("termsOfService", a.termsOfService.map .str),
    ("contact", a.contact.map Contact.toJson), ("license", a.license.map License.toJson),
    ("version", a.version.map .str), ("servers", some (.arr (a.servers.map Server.toJson)))]

/-- A design. -/
def Design.toJson (d : Design) : Json :=
  .obj [("api", d.api.toJson), ("types", .arr (d.types.map UserType.toJson)),
    ("services", .arr (d.services.map Service.toJson)),
    ("schemes", .arr (d.schemes.schemes.map SecurityScheme.toJson)),
    ("security", d.security.toJson)]

end ApiDesign
