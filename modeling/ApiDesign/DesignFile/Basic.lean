import ApiDesign.Design

/-!
# Design files

A design file lists the declarations of a design.  Its entries are what is written; whether they
make a design is found out when they are evaluated.

* `DesignFile` — the contents of a file;
* `AttributeEntry` — attributes with their types as expressions, of any nesting;
* `PayloadEntry` — the name of a type, or attributes.
-/

namespace ApiDesign

/-- An attribute as it is written. -/
structure AttributeEntry where
  name : String
  /-- The type expression. -/
  type : String
  required : Bool
  description : Option (Localized String)
  example? : Option (Localized Json)
  /-- The name of the credential that the attribute carries. -/
  role : Option String
  /-- The scheme that the role `apiKey` belongs to. -/
  scheme : Option String
  /-- The fields of an object type. -/
  attributes : List AttributeEntry

/-- A scope of a scheme as it is written. -/
structure ScopeEntry where
  name : String
  description : Option String

/-- A flow as it is written; an address that is left out is empty. -/
structure FlowEntry where
  kind : FlowKind
  authorizationUrl : String
  tokenUrl : String
  refreshUrl : String

/-- The flow of an entry. -/
def FlowEntry.flow (f : FlowEntry) : Flow :=
  Flow.make f.kind f.authorizationUrl f.tokenUrl f.refreshUrl

/-- A security scheme as it is written. -/
structure SchemeEntry where
  kind : SchemeKind
  name : String
  description : Option (Localized String)
  scopes : List ScopeEntry
  flows : List FlowEntry

/-- A user type as it is written. -/
structure TypeEntry where
  name : String
  attributes : List AttributeEntry

/-- A payload or result as it is written. -/
inductive PayloadEntry where
  | named (type : String)
  | inline (attributes : List AttributeEntry)

/-- A method as it is written. -/
structure MethodEntry where
  name : String
  description : Option (Localized String)
  payload : Option PayloadEntry
  result : Option PayloadEntry
  security : List Requirement
  noSecurity : Bool
  routes : List Route

/-- A service as it is written. -/
structure ServiceEntry where
  name : String
  description : Option (Localized String)
  security : List Requirement
  methods : List MethodEntry

/-- The metadata of an API as they are written. -/
structure ApiEntry where
  api : Api
  security : List Requirement

/-- The contents of a design file. -/
structure DesignFile where
  api : ApiEntry
  schemes : List SchemeEntry
  types : List TypeEntry
  services : List ServiceEntry

end ApiDesign
