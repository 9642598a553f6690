import ApiDesign.Builder.Node

/-!
# Building designs

A design is built by declarations.  A declaration that makes a usage error is dropped and the error
is recorded, so that building goes on and every problem of a design is reported at the end.

* `Target` — the node that a declaration is about;
* `Declaration` — the declarations, with their bodies;
* `Builder.declare` — performs a declaration;
* `Builder.finish` — the design, or all recorded errors in the order of their recording.
-/

namespace ApiDesign

/-- The node that a declaration is about. -/
inductive Target where
  /-- Outside every node. -/
  | top
  | api
  | service (name : String)
  | method (service method : String)
  | type (name : String)
  deriving DecidableEq, Repr, Inhabited

/-- How messages call a node. -/
def Target.describe : Target → String
  | .top => "top level"
  | .api => "API"
  | .service name => "service " ++ DesignError.inQuotes name
  | .method owner name => "method " ++ DesignError.inQuotes (owner ++ "#" ++ name)
  | .type name => "type " ++ DesignError.inQuotes name

/-- A declaration of a design. -/
inductive Declaration where
  | api (calls : List ApiCall)
  | scheme (target : Target) (kind : SchemeKind) (name : String) (body : Script SchemeCall)
  | type (name : String) (body : Script AttributeCall)
  | service (name : String) (body : Script ServiceCall)
  | security (target : Target) (schemes : List SchemeRef) (body : Script RequirementCall)
  | noSecurity (target : Target)

/-- A design under construction and the errors recorded so far. -/
structure Builder where
  design : Design
  errors : List DesignError

/-- What a declaration came to.  There are records of calls only if its body was started. -/
structure Declared where
  builder : Builder
  answer : Answer
  /-- The handle of the scheme that was registered, if one was. -/
  handle : Option SchemeHandle
  records : Option (List CallRecord)

namespace Builder

/-- Starts the design of an API. -/
def start (name : String) : Builder :=
  ⟨⟨Api.ofName name, [], [], .empty, .empty⟩, []⟩

/-- Drops a declaration with an error of its own, after the given records. -/
def refuse (b : Builder) (e : DesignError) (records : Option (List CallRecord)) : Declared :=
  ⟨{ b with errors := b.errors ++ [e] }, .error e, none, records⟩

/-- Drops a declaration whose body has failed. -/
def abandon {State : Type} (b : Builder) (errors : List DesignError) (e : DesignError)
    (run : ScriptRun State) : Declared :=
  ⟨{ b with errors := Building.close b.errors.length errors e }, .error e, none,
    some run.records⟩

/-- Accepts a declaration. -/
def accept {State : Type} (design : Design) (errors : List DesignError) (run : ScriptRun State) :
    Declared :=
  ⟨⟨design, errors⟩, .ok (), none, some run.records⟩

/-- Defines a security scheme.  Schemes are defined at the top level, under a new name; the kind
`none` cannot be defined, and an OAuth2 scheme must end up with a flow. -/
def defineScheme (b : Builder) (target : Target) (kind : SchemeKind) (name : String)
    (body : Script SchemeCall) : Declared :=
  if target ≠ .top then
    b.refuse (.incompatibleContext kind.declaration target.describe) none
  else if kind = .none then
    b.refuse (.incompatibleContext kind.declaration
      ("security scheme " ++ DesignError.inQuotes name)) none
  else if b.design.schemes.contains name then b.refuse (.duplicateScheme name) none
  else
    let run := body.run SchemeCall.step ⟨SecurityScheme.ofKind kind name, b.errors⟩
    match run.outcome with
    | .error e => b.abandon run.state.errors e run
    | .ok () =>
      let b := { b with errors := run.state.errors }
      let scheme := run.state.node
      if scheme.kind = .oauth2 ∧ scheme.flows = [] then
        b.refuse (.missingFlows name) (some run.records)
      else
        match b.design.schemes.register scheme with
        | .error e => b.refuse e (some run.records)
        | .ok (handle, schemes) =>
          ⟨{ b with design := { b.design with schemes := schemes } }, .ok (), some handle,
            some run.records⟩

/-- Declares a user type, whose name must be new. -/
def defineType (b : Builder) (name : String) (body : Script AttributeCall) : Declared :=
  if (b.design.userType? name).isSome then b.refuse (.duplicateType name) none
  else
    let run := body.run AttributeCall.step []
    match run.outcome with
    | .error e => b.abandon b.errors e run
    | .ok () =>
      accept { b.design with types := b.design.types ++ [⟨name, run.state⟩] } b.errors run

/-- Declares a service, whose name must be new. -/
def defineService (b : Builder) (name : String) (body : Script ServiceCall) : Declared :=
  if (b.design.service? name).isSome then b.refuse (.duplicateService name) none
  else
    let run := body.run (ServiceCall.step b.design.types) ⟨Service.ofName name, b.errors⟩
    match run.outcome with
    | .error e => b.abandon run.state.errors e run
    | .ok () =>
      accept { b.design with services := b.design.services ++ [run.state.node] }
        run.state.errors run

/-- Whether a security declaration may be about a node: about the API, a declared service or a
declared method. -/
def checkSecurityTarget (d : Design) (declaration : String) (target : Target) : Answer :=
  match target with
  | .api => .ok ()
  | .service name =>
    if (d.service? name).isSome then .ok () else .error (.unknownTarget target.describe)
  | .method service method =>
    match d.service? service with
    | some s =>
      if (s.method? method).isSome then .ok () else .error (.unknownTarget target.describe)
    | none => .error (.unknownTarget target.describe)
  | .top | .type _ => .error (.incompatibleContext declaration target.describe)

/-- The schemes that a list of references stands for, or the error of the first bad one. -/
def resolveAll (registry : SchemeRegistry) (refs : List SchemeRef) :
    Except DesignError (List SecurityScheme) :=
  refs.mapM registry.resolve

/-- The declarations with one more requirement for a node. -/
def attach (s : SecurityRequirements) (target : Target) (requirement : Requirement) :
    SecurityRequirements :=
  match target with
  | .api => { s with api := s.api ++ [requirement] }
  | .service service => { s with services := s.services ++ [⟨service, requirement⟩] }
  | .method service method =>
    { s with methods := s.methods ++ [⟨service, method, .require requirement⟩] }
  | .top | .type _ => s

/-- Declares a security requirement for the API, a service or a method. -/
def requireSecurity (b : Builder) (target : Target) (refs : List SchemeRef)
    (body : Script RequirementCall) : Declared :=
  match checkSecurityTarget b.design "Security" target with
  | .error e => b.refuse e none
  | .ok () =>
    if refs.isEmpty then b.refuse .emptyRequirement none
    else
      match resolveAll b.design.schemes refs with
      | .error e => b.refuse e none
      | .ok schemes =>
        let run := body.run (RequirementCall.step schemes)
          ⟨⟨schemes.map (·.name), []⟩, b.errors⟩
        match run.outcome with
        | .error e => b.abandon run.state.errors e run
        | .ok () =>
          accept { b.design with security := attach b.design.security target run.state.node }
            run.state.errors run

/-- Declares that no security applies to a method. -/
def dropSecurity (b : Builder) (target : Target) : Declared :=
  match target with
  | .method service method =>
    match checkSecurityTarget b.design "NoSecurity" target with
    | .error e => b.refuse e none
    | .ok () =>
      let s := b.design.security
      let s := { s with methods := s.methods ++ [⟨service, method, .noSecurity⟩] }
      ⟨{ b with design := { b.design with security := s } }, .ok (), none, none⟩
  | _ => b.refuse (.incompatibleContext "NoSecurity" target.describe) none

/-- Configures the metadata of the API. -/
def configureApi (b : Builder) (calls : List ApiCall) : Declared :=
  let api := calls.foldl ApiCall.perform b.design.api
  ⟨{ b with design := { b.design with api := api } }, .ok (), none,
    some (calls.map fun _ => ⟨.ok (), none⟩)⟩

/-- Performs a declaration. -/
def declare (b : Builder) : Declaration → Declared
  | .api calls => b.configureApi calls
  | .scheme target kind name body => b.defineScheme target kind name body
  | .type name body => b.defineType name body
  | .service name body => b.defineService name body
  | .security target schemes body => b.requireSecurity target schemes body
  | .noSecurity target => b.dropSecurity target

/-- The builder after a list of declarations. -/
def declareAll (b : Builder) (declarations : List Declaration) : Builder :=
  declarations.foldl (fun b d => (b.declare d).builder) b

/-- The finished design, or every recorded error. -/
def finish (b : Builder) : Except (List DesignError) Design :=
  if b.errors.isEmpty then .ok b.design else .error b.errors

end Builder

end ApiDesign
