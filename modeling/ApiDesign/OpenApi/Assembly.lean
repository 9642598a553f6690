import ApiDesign.OpenApi.Security

/-!
# From a design to a document

The routes of a design become operations, in declaration order; a path and a verb may be bound once.
The document of a locale is a function of the design and the locale.

* `Assembly` — the paths and the referenced schemes so far;
* `Assembly.addRoute` — the next route;
* `assemble` — the document, or none if the design has no routes.
-/

namespace ApiDesign.OpenApi

/-- The version of an API that declares none. -/
def unversioned : String := "unversioned"

/-- What the routes so far have become. -/
structure Assembly where
  paths : KeyMap PathItem
  referenced : Referenced

namespace Assembly

/-- Nothing yet. -/
def empty : Assembly := ⟨.empty, .empty⟩

/-- The operation that is bound to a path and a verb so far. -/
def operation? (a : Assembly) (path : String) (verb : Verb) : Option Operation :=
  (a.paths.get? path).bind fun item => item.operation? verb

/-- Binds an operation to a path and a verb. -/
def bind (a : Assembly) (path : String) (verb : Verb) (o : Operation) : KeyMap PathItem :=
  a.paths.insert path (((a.paths.get? path).getD .empty).set verb o)

/-- The operation of a route, given its security. -/
def operationOf (e : RouteEntry) (locale : String)
    (security : Option (List SecurityRequirementObject)) : Operation where
  operationId := e.operationId
  description := localText e.method.description locale
  parameters := classify e.method.payloadAttributes e.route.path locale
  security := security

/-- Adds a route, whose path and verb must be free. -/
def addRoute (d : Design) (locale : String) (a : Assembly) (e : RouteEntry) :
    Except CompileError Assembly :=
  match a.operation? e.route.path e.route.verb with
  | some first =>
    .error (.conflictingRoute e.route.path e.route.verb first.operationId e.operationId)
  | none =>
    let effective := d.security.effective e.service.name e.method.name
    match renderSecurity effective d.schemes e.operationId a.referenced with
    | (.error err, _) => .error err
    | (.ok security, referenced) =>
      .ok ⟨a.bind e.route.path e.route.verb (operationOf e locale security), referenced⟩

/-- Adds routes one after the other, up to the first that cannot be added. -/
def addRoutes (d : Design) (locale : String) (a : Assembly) (routes : List RouteEntry) :
    Except CompileError Assembly :=
  routes.foldlM (addRoute d locale) a

end Assembly

/-- General information about an API for a locale. -/
def infoOf (api : Api) (locale : String) : Info where
  title := (localText api.title locale).getD api.name
  description := localText api.description locale
  termsOfService := api.termsOfService
  contact := api.contact
  license := api.license
  version := api.version.getD unversioned

/-- One entry for every address of every host, in declaration order. -/
def serversOf (api : Api) (locale : String) : List ServerEntry :=
  api.servers.flatMap fun server => server.hosts.flatMap fun host =>
    host.uris.map fun uri => ⟨uri, localText host.description locale⟩

/-- The components of the schemes that operations refer to. -/
def componentsOf (registry : SchemeRegistry) (referenced : Referenced) (locale : String) :
    KeyMap SecuritySchemeObject :=
  .ofList (referenced.entries.filterMap fun e => do
    let scheme ← registry.get? e.1
    let object ← renderScheme scheme e.2 locale
    return (scheme.name, object))

/-- The document of a design for a locale.  Without routes there is none. -/
def assemble (d : Design) (locale : String) : Except CompileError (Option Document) :=
  if d.hasRoutes then
    match Assembly.addRoutes d locale .empty d.routes with
    | .error e => .error e
    | .ok a => .ok (some {
        openapi := Document.version
        info := infoOf d.api locale
        servers := serversOf d.api locale
        paths := a.paths
        securitySchemes := componentsOf d.schemes a.referenced locale })
  else .ok none

end ApiDesign.OpenApi
