import ApiDesign.Builder.Script
import ApiDesign.Design
import ApiDesign.PathTemplate

/-!
# Calls on a node under construction

A declaration builds one node.  The calls that its body may make depend on the node: a scheme takes
scopes and flows, a service takes methods, and so on.  A call that fails leaves the node as it was
and records its error.

* `Building` — a node under construction with the errors recorded so far;
* `ApiCall`, `AttributeCall`, `SchemeCall`, `RequirementCall`, `MethodCall`, `ServiceCall` — the
  calls, with a function `perform` each;
* `Building.close` — ends a declaration: an error that its body made up itself is recorded there.
-/

namespace ApiDesign

/-- A node under construction and the errors recorded so far. -/
structure Building (Node : Type) where
  node : Node
  errors : List DesignError

namespace Building

variable {Node : Type}

/-- The node in place of the one under construction, or an error that is recorded. -/
def update (b : Building Node) : Except DesignError Node → Building Node × Answer
  | .ok node => (⟨node, b.errors⟩, .ok ())
  | .error e => (⟨b.node, b.errors ++ [e]⟩, .error e)

/-- Performs a call without a body. -/
def perform (b : Building Node) (result : Except DesignError Node) :
    Building Node × CallRecord :=
  let updated := b.update result
  (updated.1, ⟨updated.2, none⟩)

/-- The errors after the body of a declaration has failed.  A call records its own error, so the
error of the body is recorded only if nothing was recorded since the body began. -/
def close (before : Nat) (errors : List DesignError) (e : DesignError) : List DesignError :=
  if errors.length = before then errors ++ [e] else errors

end Building

/-! ### API metadata -/

/-- A call on the API node. -/
inductive ApiCall where
  | title (text : Localized String)
  | description (text : Localized String)
  | termsOfService (url : String)
  | contact (value : Contact)
  | license (value : License)
  | version (text : String)
  | server (value : Server)

/-- Sets a part of the metadata; servers are collected. -/
def ApiCall.perform (api : Api) : ApiCall → Api
  | .title text => { api with title := some text }
  | .description text => { api with description := some text }
  | .termsOfService url => { api with termsOfService := some url }
  | .contact value => { api with contact := some value }
  | .license value => { api with license := some value }
  | .version text => { api with version := some text }
  | .server value => { api with servers := api.servers ++ [value] }

/-! ### Attributes -/

/-- A call on the attributes of a type, payload or result. -/
inductive AttributeCall where
  | add (value : Attribute)
  /-- Marks the attributes of these names, as far as they are declared, as required. -/
  | require (names : List String)

/-- Performs a call on attributes, which cannot fail. -/
def AttributeCall.perform (attributes : List Attribute) : AttributeCall → List Attribute
  | .add value => attributes ++ [value]
  | .require names => attributes.map fun a =>
    if names.contains a.name then { a with required := true } else a

/-- A step of the body of a type. -/
def AttributeCall.step (attributes : List Attribute) (c : AttributeCall) :
    List Attribute × CallRecord :=
  (c.perform attributes, ⟨.ok (), none⟩)

/-- The attributes that a list of calls declares. -/
def AttributeCall.collect (calls : List AttributeCall) : List Attribute :=
  calls.foldl AttributeCall.perform []

/-! ### Schemes and requirements -/

/-- A call on a security scheme. -/
inductive SchemeCall where
  | description (text : Localized String)
  | scope (name : String) (descriptions : List String)
  | flow (value : Flow)

/-- The scheme after a call. -/
def SchemeCall.result (scheme : SecurityScheme) : SchemeCall → Except DesignError SecurityScheme
  | .description text => .ok { scheme with description := some text }
  | .scope name descriptions => scheme.addScope name descriptions
  | .flow value => scheme.addFlow value

/-- A step of the body of a scheme. -/
def SchemeCall.step (b : Building SecurityScheme) (c : SchemeCall) :
    Building SecurityScheme × CallRecord :=
  b.perform (c.result b.node)

/-- A call on a security requirement: a required scope, with the descriptions given by mistake. -/
structure RequirementCall where
  scope : String
  descriptions : List String

/-- A step of the body of a requirement for the given schemes. -/
def RequirementCall.step (schemes : List SecurityScheme) (b : Building Requirement)
    (c : RequirementCall) : Building Requirement × CallRecord :=
  b.perform (b.node.addScope schemes c.scope c.descriptions)

/-! ### Methods and services -/

/-- A call on a method. -/
inductive MethodCall where
  | description (text : Localized String)
  | payload (calls : List AttributeCall)
  | payloadType (name : String)
  | result (calls : List AttributeCall)
  | resultType (name : String)
  | route (verb : Verb) (path : String)

/-- The payload that a declared user type stands for. -/
def namedPayload (types : List UserType) (name : String) : Except DesignError Payload :=
  match types.find? fun t => t.name = name with
  | some type => .ok ⟨some type.name, type.attributes⟩
  | none => .error (.unknownType name)

/-- The method after a call. -/
def MethodCall.outcome (types : List UserType) (m : Method) :
    MethodCall → Except DesignError Method
  | .description text => .ok { m with description := some text }
  | .payload calls => .ok { m with payload := some ⟨none, AttributeCall.collect calls⟩ }
  | .payloadType name => do return { m with payload := some (← namedPayload types name) }
  | .result calls => .ok { m with result := some ⟨none, AttributeCall.collect calls⟩ }
  | .resultType name => do return { m with result := some (← namedPayload types name) }
  | .route verb path => do
    PathTemplate.check path
    return { m with routes := m.routes ++ [⟨verb, path⟩] }

/-- A step of the body of a method. -/
def MethodCall.step (types : List UserType) (b : Building Method) (c : MethodCall) :
    Building Method × CallRecord :=
  b.perform (c.outcome types b.node)

/-- A call on a service. -/
inductive ServiceCall where
  | description (text : Localized String)
  /-- Declares a method, whose name must be new in the service. -/
  | method (name : String) (body : Script MethodCall)

/-- A step of the body of a service.  A method whose body fails is not added. -/
def ServiceCall.step (types : List UserType) (b : Building Service) :
    ServiceCall → Building Service × CallRecord
  | .description text => b.perform (.ok { b.node with description := some text })
  | .method name body =>
    if (b.node.method? name).isSome then
      b.perform (.error (.duplicateMethod b.node.name name))
    else
      let run := body.run (MethodCall.step types) ⟨Method.ofName name, b.errors⟩
      let inside := some (run.records.map (·.answer))
      match run.outcome with
      | .error e =>
        (⟨b.node, Building.close b.errors.length run.state.errors e⟩, ⟨.error e, inside⟩)
      | .ok () =>
        (⟨{ b.node with methods := b.node.methods ++ [run.state.node] }, run.state.errors⟩,
          ⟨.ok (), inside⟩)

end ApiDesign
