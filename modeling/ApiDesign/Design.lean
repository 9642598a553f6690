import ApiDesign.Attribute
import ApiDesign.Security.Registry
import ApiDesign.Security.Requirement

/-!
# Designs

A design describes an HTTP API: its metadata, user types, services with methods and routes, and
the security that protects them.

* `Design` — a finished design;
* `Design.routes` — every route with the service and the method that it belongs to, in declaration
  order.
-/

namespace ApiDesign

/-- Whom to ask about an API. -/
structure Contact where
  name : Option String
  url : Option String
  email : Option String
  deriving DecidableEq, Repr, Inhabited

/-- The licence of an API. -/
structure License where
  name : Option String
  url : Option String
  deriving DecidableEq, Repr, Inhabited

/-- A host of a server, with the addresses under which it is reached. -/
structure Host where
  name : String
  description : Option (Localized String)
  uris : List String

/-- A server of an API. -/
structure Server where
  name : String
  description : Option (Localized String)
  hosts : List Host

/-- The metadata of an API. -/
structure Api where
  name : String
  title : Option (Localized String)
  description : Option (Localized String)
  termsOfService : Option String
  contact : Option Contact
  license : Option License
  version : Option String
  servers : List Server

/-- The metadata of an API of which only the name is known. -/
def Api.ofName (name : String) : Api := ⟨name, none, none, none, none, none, none, []⟩

/-- A named object type. -/
structure UserType where
  name : String
  attributes : List Attribute

/-- What a method takes or returns: a user type, or attributes of its own. -/
structure Payload where
  /-- The name of the user type, if it is one. -/
  typeName : Option String
  attributes : List Attribute

/-- The verbs of HTTP that a route can bind, in the order of a report. -/
inductive Verb where
  | get | put | post | delete | patch | head | options | trace
  deriving DecidableEq, Repr, Inhabited

namespace Verb

/-- All verbs. -/
def all : List Verb := [.get, .put, .post, .delete, .patch, .head, .options, .trace]

/-- The name of a verb. -/
def name : Verb → String
  | .get => "GET"
  | .put => "PUT"
  | .post => "POST"
  | .delete => "DELETE"
  | .patch => "PATCH"
  | .head => "HEAD"
  | .options => "OPTIONS"
  | .trace => "TRACE"

end Verb

/-- A verb and a path template. -/
structure Route where
  verb : Verb
  path : String
  deriving DecidableEq, Repr, Inhabited

/-- A method of a service. -/
structure Method where
  name : String
  description : Option (Localized String)
  payload : Option Payload
  result : Option Payload
  routes : List Route

namespace Method

/-- A method of which only the name is known. -/
def ofName (name : String) : Method := ⟨name, none, none, none, []⟩

/-- The attributes of the payload; there are none without a payload. -/
def payloadAttributes (m : Method) : List Attribute :=
  match m.payload with
  | some payload => payload.attributes
  | none => []

end Method

/-- A group of methods. -/
structure Service where
  name : String
  description : Option (Localized String)
  methods : List Method

namespace Service

/-- A service of which only the name is known. -/
def ofName (name : String) : Service := ⟨name, none, []⟩

/-- The method of a name. -/
def method? (s : Service) (name : String) : Option Method := s.methods.find? fun m => m.name = name

end Service

/-- A finished design. -/
structure Design where
  api : Api
  types : List UserType
  services : List Service
  schemes : SchemeRegistry
  security : SecurityRequirements

/-- A route with the service and the method that it belongs to. -/
structure RouteEntry where
  service : Service
  method : Method
  route : Route

/-- The name of the operation behind a route. -/
def RouteEntry.operationId (e : RouteEntry) : String := e.service.name ++ "#" ++ e.method.name

namespace Design

/-- The service of a name. -/
def service? (d : Design) (name : String) : Option Service :=
  d.services.find? fun s => s.name = name

/-- The user type of a name. -/
def userType? (d : Design) (name : String) : Option UserType :=
  d.types.find? fun t => t.name = name

/-- Every route with its service and its method, in declaration order. -/
def routes (d : Design) : List RouteEntry :=
  d.services.flatMap fun s => s.methods.flatMap fun m => m.routes.map fun r => ⟨s, m, r⟩

/-- Whether some method has a route. -/
def hasRoutes (d : Design) : Bool := !d.routes.isEmpty

end Design

end ApiDesign
