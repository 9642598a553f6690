import ApiDesign.Decode.Model
import ApiDesign.DesignFile.Basic
import ApiDesign.Yaml.Value

/-!
# The format of design files

What the records of a design file are called, which fields they have, and which of them may be left
out.  Fields that are not listed are refused, except beside the attributes of a payload.

* `DesignFile.format` — the format of a file;
* `PayloadEntry.reader` — payloads, which have one of two types.
-/

namespace ApiDesign

open Decode Source

variable {R : Type → Type} [Source R]

namespace AttributeEntry

/-- An attribute of which nothing is known. -/
def blank : AttributeEntry := ⟨"", "", false, none, none, none, none, []⟩

/-- The format of attributes, with a number of attributes nested in each other. -/
def format : Nat → RecordFormat R AttributeEntry
  | 0 => ⟨"AttributeFile", true, blank, []⟩
  | depth + 1 => {
      type := "AttributeFile"
      strict := true
      initial := blank
      fields := [
        .needed "name" text fun v a => { a with name := v },
        .needed "type" text fun v a => { a with type := v },
        .optional "required" flag fun v a => { a with required := v },
        .optional "description" (option localizedText) fun v a => { a with description := v },
        .optional "example" (option localizedJson) fun v a => { a with example? := v },
        .optional "role" (option text) fun v a => { a with role := v },
        .optional "scheme" (option text) fun v a => { a with scheme := v },
        .optional "attributes" (list (record (format depth))) fun v a =>
          { a with attributes := v }] }

/-- Reads a list of attributes.  Attributes are nested in lists and records, of which only so many
can be nested in a document. -/
def reader : R (List AttributeEntry) := list (record (format Yaml.maxDepth))

end AttributeEntry

namespace PayloadEntry

/-- Attributes on their own.  Other fields are ignored. -/
def inlineFormat : RecordFormat Yaml.Matcher (List AttributeEntry) where
  type := "PayloadFile"
  strict := false
  initial := []
  fields := [.needed "attributes" AttributeEntry.reader fun v _ => v]

/-- A payload or result: a text names a type, and a mapping holds attributes. -/
def ofValue? : Yaml.Value → Option PayloadEntry
  | .text type => some (.named type)
  | .mapping entries => .inline <$> Yaml.Matcher.recordFrom inlineFormat entries
  | _ => none

/-- Reads a payload or result. -/
def reader : Yaml.Reader PayloadEntry := fun p t => do
  match ofValue? (← Yaml.Value.ofTree p t) with
  | some payload => return payload
  | none => throw (.fault none .yaml (.noVariant "PayloadFile"))

end PayloadEntry

/-- The format of requirements. -/
def requirementEntry : RecordFormat Yaml.Reader Requirement := requirement "RequirementFile" true

/-- The format of routes. -/
def routeEntry : RecordFormat Yaml.Reader Route := route "RouteFile" true

/-- The format of scopes. -/
def ScopeEntry.format : RecordFormat Yaml.Reader ScopeEntry where
  type := "ScopeFile"
  strict := true
  initial := ⟨"", none⟩
  fields := [
    .needed "name" text fun v s => { s with name := v },
    .optional "description" (option text) fun v s => { s with description := v }]

/-- The format of flows. -/
def FlowEntry.format : RecordFormat Yaml.Reader FlowEntry where
  type := "FlowFile"
  strict := true
  initial := ⟨.implicit, "", "", ""⟩
  fields := [
    .needed "kind" flowKind fun v f => { f with kind := v },
    .optional "authorizationUrl" text fun v f => { f with authorizationUrl := v },
    .optional "tokenUrl" text fun v f => { f with tokenUrl := v },
    .optional "refreshUrl" text fun v f => { f with refreshUrl := v }]

/-- The format of security schemes. -/
def SchemeEntry.format : RecordFormat Yaml.Reader SchemeEntry where
  type := "SchemeFile"
  strict := true
  initial := ⟨.none, "", none, [], []⟩
  fields := [
    .needed "kind" schemeKind fun v s => { s with kind := v },
    .needed "name" text fun v s => { s with name := v },
    .optional "description" (option localizedText) fun v s => { s with description := v },
    .optional "scopes" (list (record ScopeEntry.format)) fun v s => { s with scopes := v },
    .optional "flows" (list (record FlowEntry.format)) fun v s => { s with flows := v }]

/-- The format of user types. -/
def TypeEntry.format : RecordFormat Yaml.Reader TypeEntry where
  type := "TypeFile"
  strict := true
  initial := ⟨"", []⟩
  fields := [
    .needed "name" text fun v t => { t with name := v },
    .optional "attributes" AttributeEntry.reader fun v t => { t with attributes := v }]

/-- The format of methods. -/
def MethodEntry.format : RecordFormat Yaml.Reader MethodEntry where
  type := "MethodFile"
  strict := true
  initial := ⟨"", none, none, none, [], false, []⟩
  fields := [
    .needed "name" text fun v m => { m with name := v },
    .optional "description" (option localizedText) fun v m => { m with description := v },
    .optional "payload" (option PayloadEntry.reader) fun v m => { m with payload := v },
    .optional "result" (option PayloadEntry.reader) fun v m => { m with result := v },
    .optional "security" (list (record requirementEntry)) fun v m => { m with security := v },
    .optional "noSecurity" flag fun v m => { m with noSecurity := v },
    .optional "routes" (list (record routeEntry)) fun v m => { m with routes := v }]

/-- The format of services. -/
def ServiceEntry.format : RecordFormat Yaml.Reader ServiceEntry where
  type := "ServiceFile"
  strict := true
  initial := ⟨"", none, [], []⟩
  fields := [
    .needed "name" text fun v s => { s with name := v },
    .optional "description" (option localizedText) fun v s => { s with description := v },
    .optional "security" (list (record requirementEntry)) fun v s => { s with security := v },
    .optional "methods" (list (record MethodEntry.format)) fun v s => { s with methods := v }]

/-- The format of the metadata of an API. -/
def ApiEntry.format : RecordFormat Yaml.Reader ApiEntry where
  type := "ApiFile"
  strict := true
  initial := ⟨.ofName "", []⟩
  fields := [
    .needed "name" text fun v a => { a with api.name := v },
    .optional "title" (option localizedText) fun v a => { a with api.title := v },
    .optional "description" (option localizedText) fun v a => { a with api.description := v },
    .optional "termsOfService" (option text) fun v a => { a with api.termsOfService := v },
    .optional "contact" (option (record contact)) fun v a => { a with api.contact := v },
    .optional "license" (option (record license)) fun v a => { a with api.license := v },
    .optional "version" (option text) fun v a => { a with api.version := v },
    .optional "servers" (list (record server)) fun v a => { a with api.servers := v },
    .optional "security" (list (record requirementEntry)) fun v a => { a with security := v }]

namespace DesignFile

/-- The format of design files. -/
def format : RecordFormat Yaml.Reader DesignFile where
  type := "DesignFile"
  strict := true
  initial := ⟨⟨.ofName "", []⟩, [], [], []⟩
  fields := [
    .needed "api" (record ApiEntry.format) fun v f => { f with api := v },
    .optional "schemes" (list (record SchemeEntry.format)) fun v f => { f with schemes := v },
    .optional "types" (list (record TypeEntry.format)) fun v f => { f with types := v },
    .optional "services" (list (record ServiceEntry.format)) fun v f => { f with services := v }]

end DesignFile

end ApiDesign
