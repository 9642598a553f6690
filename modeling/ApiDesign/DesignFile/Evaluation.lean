import ApiDesign.Builder.Basic
import ApiDesign.DesignFile.Format
import ApiDesign.DesignFile.TypeExpression

/-!
# From files to designs

A design file is evaluated by making its declarations one after the other, so that every problem is
reported.  Only what was accepted carries security: the requirements of a service are declared if
the service was, and those of a method if the method was.

* `AttributeEntry.toAttribute` — the attribute of an entry;
* `DesignFile.evaluate` — the design of a file, or all errors;
* `Design.parse` — the design of a text.
-/

namespace ApiDesign

/-! ### Attributes -/

/-- The role of a name on an attribute; the role `apiKey` needs a scheme. -/
def roleOf (owner name : String) (scheme : Option String) : Except DesignError SecurityRole :=
  match name with
  | "username" => .ok .username
  | "password" => .ok .password
  | "accessToken" => .ok .accessToken
  | "token" => .ok .token
  | "apiKey" =>
    match scheme with
    | some scheme => .ok (.apiKey scheme)
    | none =>
      .error (.invalidDesignFile
        ("attribute " ++ DesignError.inQuotes owner ++ " has role apiKey but no scheme"))
  | other =>
    .error (.invalidDesignFile ("unknown security role " ++ DesignError.inQuotes other
      ++ " on attribute " ++ DesignError.inQuotes owner))

/-- The role of an optional name. -/
def roleOf? (owner : String) (name scheme : Option String) :
    Except DesignError (Option SecurityRole) :=
  match name with
  | some name => some <$> roleOf owner name scheme
  | none => .ok none

/-- The type of an expression, given the fields declared beside it or what is wrong with them. -/
def typeOf (expression : String) (fields : Except DesignError (List Attribute)) :
    Except DesignError AttributeType :=
  match TypeExpression.parse expression with
  | .error part => .error (.unknownType part)
  | .ok e => if e.hasFields then (fun fields => e.type fields) <$> fields else .ok (e.type [])

namespace AttributeEntry

mutual

/-- The attribute of an entry. -/
def toAttribute : AttributeEntry → Except DesignError Attribute
  | ⟨name, type, required, description, example?, role, scheme, attributes⟩ => do
    let type ← typeOf type (toAttributes attributes)
    let role ← roleOf? name role scheme
    return ⟨name, type, required, description, example?, role⟩

/-- The attributes of entries. -/
def toAttributes : List AttributeEntry → Except DesignError (List Attribute)
  | [] => .ok []
  | e :: r => do
    let first ← toAttribute e
    return first :: (← toAttributes r)

end

end AttributeEntry

/-! ### Bodies of declarations -/

/-- Makes calls one after the other, up to the first that fails. -/
def callAll {Call : Type} (calls : List Call) : Script Call := .all (calls.map .single)

/-- The body of a scheme. -/
def SchemeEntry.body (s : SchemeEntry) : Script SchemeCall :=
  callAll (s.description.toList.map .description
    ++ s.scopes.map (fun scope => .scope scope.name scope.description.toList)
    ++ s.flows.map (fun f => .flow f.flow))

/-- The body of a user type. -/
def TypeEntry.body (t : TypeEntry) : Script AttributeCall :=
  match AttributeEntry.toAttributes t.attributes with
  | .ok attributes => callAll (attributes.map .add)
  | .error e => .finish (.error e)

/-- A call that declares a payload or result, by name or by attributes. -/
def PayloadEntry.body (named : String → MethodCall) (inline : List AttributeCall → MethodCall) :
    Option PayloadEntry → Script MethodCall
  | some (.named type) => .single (named type)
  | some (.inline entries) =>
    match AttributeEntry.toAttributes entries with
    | .ok attributes => .single (inline (attributes.map .add))
    | .error e => .finish (.error e)
  | none => .done

/-- The body of a method. -/
def MethodEntry.body (m : MethodEntry) : Script MethodCall :=
  .all [
    callAll (m.description.toList.map .description),
    PayloadEntry.body .payloadType .payload m.payload,
    PayloadEntry.body .resultType .result m.result,
    callAll (m.routes.map fun r => .route r.verb r.path)]

/-- The body of a service: every method is declared, whatever becomes of the others. -/
def ServiceEntry.body (s : ServiceEntry) : Script ServiceCall :=
  .all ((s.description.toList.map ServiceCall.description
    ++ s.methods.map fun m => ServiceCall.method m.name m.body).map .ignore)

/-! ### Declarations -/

/-- The calls that set the metadata of an API. -/
def Api.calls (a : Api) : List ApiCall :=
  a.title.toList.map .title ++ a.description.toList.map .description
    ++ a.termsOfService.toList.map .termsOfService ++ a.contact.toList.map .contact
    ++ a.license.toList.map .license ++ a.version.toList.map .version ++ a.servers.map .server

/-- The declaration of a scheme. -/
def SchemeEntry.declaration (s : SchemeEntry) : Declaration := .scheme .top s.kind s.name s.body

/-- The declaration of a user type. -/
def TypeEntry.declaration (t : TypeEntry) : Declaration := .type t.name t.body

/-- The declaration of a service. -/
def ServiceEntry.declaration (s : ServiceEntry) : Declaration := .service s.name s.body

/-- The declaration of a requirement. -/
def Requirement.declaration (target : Target) (r : Requirement) : Declaration :=
  .security target (r.schemes.map .name) (callAll (r.scopes.map fun scope => ⟨scope, []⟩))

/-- The security declarations of a method. -/
def MethodEntry.securityDeclarations (service : String) (m : MethodEntry) : List Declaration :=
  let target := Target.method service m.name
  m.security.map (Requirement.declaration target)
    ++ if m.noSecurity then [.noSecurity target] else []

/-- A service that was declared, with those of its methods that were. -/
structure AcceptedService where
  service : ServiceEntry
  methods : List MethodEntry

/-- The security declarations of a service and its methods. -/
def AcceptedService.securityDeclarations (a : AcceptedService) : List Declaration :=
  a.service.security.map (Requirement.declaration (.service a.service.name))
    ++ a.methods.flatMap (MethodEntry.securityDeclarations a.service.name)

/-- The methods whose declaration succeeded, given the records of the body of their service. -/
def ServiceEntry.acceptedMethods (s : ServiceEntry) (records : List CallRecord) :
    List MethodEntry :=
  (s.methods.zip (records.drop s.description.toList.length)).filterMap fun m =>
    match m.2.answer with
    | .ok () => some m.1
    | .error _ => none

/-- What became of the services so far. -/
structure ServiceProgress where
  builder : Builder
  accepted : List AcceptedService

/-- Declares the next service. -/
def ServiceProgress.next (p : ServiceProgress) (s : ServiceEntry) : ServiceProgress :=
  let declared := p.builder.declare s.declaration
  match declared.answer with
  | .ok () =>
    let methods := s.acceptedMethods (declared.records.getD [])
    ⟨declared.builder, p.accepted ++ [⟨s, methods⟩]⟩
  | .error _ => ⟨declared.builder, p.accepted⟩

namespace DesignFile

/-- The declarations before those of the services. -/
def leadingDeclarations (f : DesignFile) : List Declaration :=
  .api f.api.api.calls :: f.schemes.map SchemeEntry.declaration
    ++ f.types.map TypeEntry.declaration

/-- The security declarations, given the services that were declared. -/
def securityDeclarations (f : DesignFile) (accepted : List AcceptedService) : List Declaration :=
  f.api.security.map (Requirement.declaration .api)
    ++ accepted.flatMap AcceptedService.securityDeclarations

/-- The builder after all declarations of a file. -/
def build (f : DesignFile) : Builder :=
  let leading := (Builder.start f.api.api.name).declareAll f.leadingDeclarations
  let progress := f.services.foldl ServiceProgress.next ⟨leading, []⟩
  progress.builder.declareAll (f.securityDeclarations progress.accepted)

/-- The design of a file, or all errors. -/
def evaluate (f : DesignFile) : Except (List DesignError) Design := f.build.finish

/-- Reads a design file. -/
def ofText (text : String) : Except Yaml.TextError DesignFile :=
  Yaml.readText (Yaml.Reader.record format) text

end DesignFile

/-- The design of a text, or all errors. -/
def Design.parse (text : String) : Except (List DesignError) Design :=
  match DesignFile.ofText text with
  | .error e => .error [.invalidDesignFile e.message]
  | .ok f => f.evaluate

end ApiDesign
