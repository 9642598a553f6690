import ApiDesign.Decode.Source
import ApiDesign.Design

/-!
# Records of the model

How the records of a design are read, from any source: metadata, flows, scopes, requirements and
routes.
-/

namespace ApiDesign.Decode

open Source

variable {R : Type → Type} [Source R]

/-! ### Names -/

/-- Values with their names. -/
def named {α : Type} (name : α → String) (all : List α) : List (String × α) :=
  all.map fun a => (name a, a)

/-- Reads the kind of a security scheme. -/
def schemeKind : R SchemeKind := choice (named SchemeKind.name SchemeKind.all)

/-- Reads the kind of a flow. -/
def flowKind : R FlowKind := choice (named FlowKind.name FlowKind.all)

/-- Reads a verb. -/
def verb : R Verb := choice (named Verb.name Verb.all)

/-- Reads a primitive type. -/
def primitive : R Primitive := choice (named Primitive.name Primitive.all)

/-! ### Metadata -/

/-- A contact.  Other fields are ignored. -/
def contact : RecordFormat R Contact where
  type := "Contact"
  strict := false
  initial := ⟨none, none, none⟩
  fields := [
    .optional "name" (option text) fun v c => { c with name := v },
    .optional "url" (option text) fun v c => { c with url := v },
    .optional "email" (option text) fun v c => { c with email := v }]

/-- A licence.  Other fields are ignored. -/
def license : RecordFormat R License where
  type := "License"
  strict := false
  initial := ⟨none, none⟩
  fields := [
    .optional "name" (option text) fun v l => { l with name := v },
    .optional "url" (option text) fun v l => { l with url := v }]

/-- A host.  Other fields are ignored. -/
def host : RecordFormat R Host where
  type := "Host"
  strict := false
  initial := ⟨"", none, []⟩
  fields := [
    .needed "name" text fun v h => { h with name := v },
    .optional "description" (option localizedText) fun v h => { h with description := v },
    .optional "uris" (list text) fun v h => { h with uris := v }]

/-- A server.  Other fields are ignored. -/
def server : RecordFormat R Server where
  type := "Server"
  strict := false
  initial := ⟨"", none, []⟩
  fields := [
    .needed "name" text fun v s => { s with name := v },
    .optional "description" (option localizedText) fun v s => { s with description := v },
    .optional "hosts" (list (record host)) fun v s => { s with hosts := v }]

/-! ### Security and routes -/

/-- A flow.  Other fields are ignored. -/
def flow : RecordFormat R Flow where
  type := "Flow"
  strict := false
  initial := ⟨.implicit, none, none, none⟩
  fields := [
    .needed "kind" flowKind fun v f => { f with kind := v },
    .optional "authorizationUrl" (option text) fun v f => { f with authorizationUrl := v },
    .optional "tokenUrl" (option text) fun v f => { f with tokenUrl := v },
    .optional "refreshUrl" (option text) fun v f => { f with refreshUrl := v }]

/-- A scope.  Other fields are ignored. -/
def scope : RecordFormat R Scope where
  type := "Scope"
  strict := false
  initial := ⟨"", ""⟩
  fields := [
    .needed "name" text fun v s => { s with name := v },
    .needed "description" text fun v s => { s with description := v }]

/-- A requirement. -/
def requirement (type : String) (strict : Bool) : RecordFormat R Requirement where
  type := type
  strict := strict
  initial := ⟨[], []⟩
  fields := [
    .needed "schemes" (list text) fun v r => { r with schemes := v },
    .optional "scopes" (list text) fun v r => { r with scopes := v }]

/-- A route. -/
def route (type : String) (strict : Bool) : RecordFormat R Route where
  type := type
  strict := strict
  initial := ⟨.get, ""⟩
  fields := [
    .needed "verb" verb fun v r => { r with verb := v },
    .needed "path" text fun v r => { r with path := v }]

end ApiDesign.Decode
