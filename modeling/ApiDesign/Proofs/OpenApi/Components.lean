import ApiDesign.Proofs.OpenApi.Operations
import ApiDesign.Proofs.OpenApi.References

/-!
# Components and references to them

Operations refer to security schemes by name, and the components of a document describe schemes by
name.  The two agree: no reference dangles and no component is left over.  A component is that of
the registered scheme, for the scopes that some routed method requires from it.  Only OAuth2 has a
place for scopes next to a reference; what is required from a JWT scheme is told in the description
of its component.

* `get?_componentsOf` — the component of a name;
* `jwtText` — the description of a JWT component, paragraph by paragraph;
* `addRoutes_referenced` — what the routes note down: every use of a scheme by a requirement in
  force;
* `components_match_references` — both together, for the designs that a builder hands out.
-/

namespace ApiDesign.OpenApi

/-! ### The components of a collection -/

/-- The component of the scheme that is registered under a name. -/
def componentOf (registry : SchemeRegistry) (locale name : String) (required : NameSet) :
    Option SecuritySchemeObject :=
  (registry.get? name).bind fun scheme => renderScheme scheme required locale

/-- A scheme is found under its own name, so the keys of the components stay those of the
collection. -/
theorem componentsOf_eq (registry : SchemeRegistry) (referenced : Referenced) (locale : String) :
    componentsOf registry referenced locale = .ofList (referenced.entries.filterMap fun e =>
      (componentOf registry locale e.1 e.2).map fun object => (e.1, object)) := by
  rw [componentsOf]
  refine congrArg _ (List.filterMap_congr fun e _ => ?_)
  cases hget : registry.get? e.1 with
  | none => simp [componentOf, hget]
  | some scheme =>
    have hname : scheme.name = e.1 := (SchemeRegistry.get?_mem hget).2
    cases hobject : renderScheme scheme e.2 locale <;> simp [componentOf, hget, hobject, hname]

theorem get?_componentsOf (registry : SchemeRegistry) (referenced : Referenced)
    (locale name : String) :
    (componentsOf registry referenced locale).get? name =
      (referenced.get? name).bind (componentOf registry locale name) := by
  have hsorted := Entries.sorted_filterMap (componentOf registry locale) referenced.sorted
  rw [componentsOf_eq, KeyMap.get?_ofList (Entries.nodup_keys hsorted),
    Entries.lookup_filterMap _ referenced.sorted]
  rfl

/-! ### What the routes note down -/

variable {d : Design} {locale : String} {a a' : Assembly}

/-- The uses of schemes by a route: those of the requirements in force for its method. -/
def usesAt (d : Design) (e : RouteEntry) : List SchemeUse :=
  usesOf (d.security.inForce e.service.name e.method.name)

theorem alternativesOf_effective (s : SecurityRequirements) (service method : String) :
    alternativesOf (s.effective service method) = s.inForce service method := by
  rw [SecurityRequirements.effective_eq, SecurityRequirements.inForce]
  split
  · rfl
  · split
    · rename_i hnil
      exact hnil.symm
    · rfl

/-- A route that is added has noted down all of its uses, for none of them was unknown. -/
theorem addRoute_referenced {e : RouteEntry} (h : Assembly.addRoute d locale a e = .ok a') :
    a'.referenced = a.referenced.addUses d.schemes (usesAt d e) := by
  have hsnd := renderSecurity_snd d.schemes e.operationId
    (d.security.effective e.service.name e.method.name) a.referenced
  have hfst := d.renderSecurity_effective e.service.name e.method.name e.operationId a.referenced
  rw [alternativesOf_effective] at hsnd
  unfold Assembly.addRoute at h
  split at h
  · cases h
  dsimp only at h
  split at h
  · cases h
  · rename_i security referenced heq
    cases h
    rw [heq] at hfst hsnd
    have hnone : d.unknownScheme? e.service.name e.method.name = none := by
      cases hunknown : d.unknownScheme? e.service.name e.method.name with
      | none => rfl
      | some name =>
        rw [hunknown] at hfst
        cases hfst
    have hknown : ∀ u ∈ usesAt d e, u.known d.schemes = true := by
      intro u hu
      obtain ⟨hr, hscheme⟩ := mem_usesOf.1 hu
      exact (firstUnknown_eq_none_iff d.schemes _).1 hnone u.scheme
        (List.mem_flatMap.2 ⟨_, hr, hscheme⟩)
    show referenced = _
    rw [show referenced = _ from hsnd]
    exact congrArg _ (List.takeWhile_eq_self_iff.2 hknown)

theorem addRoutes_referenced {routes : List RouteEntry}
    (h : Assembly.addRoutes d locale a routes = .ok a') :
    a'.referenced = a.referenced.addUses d.schemes (routes.flatMap (usesAt d)) := by
  induction routes generalizing a with
  | nil =>
    cases h
    rfl
  | cons e routes ih =>
    rw [Assembly.addRoutes, List.foldlM_cons] at h
    obtain ⟨b, hb, h⟩ := exists_of_bind_ok h
    rw [ih h, addRoute_referenced hb, List.flatMap_cons, Referenced.addUses_append]

end ApiDesign.OpenApi

/-! ### The components of a document -/

namespace ApiDesign

open OpenApi

/-- A scheme name stands in a security object of some operation of the document. -/
def OpenApi.Document.Refers (doc : Document) (name : String) : Prop :=
  ∃ path verb o objects object, doc.operation? path verb = some o ∧ o.security = some objects ∧
    object ∈ objects ∧ name ∈ object.keys

/-- Some routed method has, among the requirements in force for it, one that names the scheme. -/
def Design.Uses (d : Design) (scheme : String) : Prop :=
  ∃ e ∈ d.routes, ∃ r ∈ d.security.inForce e.service.name e.method.name, scheme ∈ r.schemes

/-- Some routed method has, among the requirements in force for it, one that names the scheme and
lists the scope. -/
def Design.Requires (d : Design) (scheme scope : String) : Prop :=
  ∃ e ∈ d.routes, ∃ r ∈ d.security.inForce e.service.name e.method.name,
    scheme ∈ r.schemes ∧ scope ∈ r.scopes

variable {d : Design} {locale : String} {doc : Document}

/-- The components are those of a collection that the routes have noted down. -/
theorem securitySchemes_of_assemble (h : assemble d locale = .ok (some doc)) :
    doc.securitySchemes = componentsOf d.schemes
      (Referenced.addUses d.schemes .empty (d.routes.flatMap (usesAt d))) locale := by
  have hne : d.routes ≠ [] := by
    intro hnil
    rw [assemble_of_no_routes hnil] at h
    cases h
  rw [assemble_of_routes hne] at h
  cases hrun : Assembly.addRoutes d locale .empty d.routes with
  | error err =>
    rw [hrun] at h
    cases h
  | ok a =>
    rw [hrun] at h
    cases h
    show componentsOf d.schemes a.referenced locale = _
    rw [addRoutes_referenced hrun]
    rfl

theorem refers_iff_uses (name : String) :
    Referenced.Refers (Referenced.addUses d.schemes .empty (d.routes.flatMap (usesAt d))) name ↔
      d.Uses name := by
  rw [Referenced.refers_addUses]
  constructor
  · rintro (⟨required, hget⟩ | ⟨u, hu, rfl⟩)
    · cases hget
    · obtain ⟨e, he, hu⟩ := List.mem_flatMap.1 hu
      exact ⟨e, he, u.requirement, mem_usesOf.1 hu⟩
  · rintro ⟨e, he, r, hr, hname⟩
    exact .inr ⟨⟨name, r⟩, List.mem_flatMap.2 ⟨e, he, mem_usesOf.2 ⟨hr, hname⟩⟩, rfl⟩

theorem requires_iff {scheme : SecurityScheme} {name : String}
    (hscheme : d.schemes.get? name = some scheme) (scope : String) :
    Referenced.Requires (Referenced.addUses d.schemes .empty (d.routes.flatMap (usesAt d))) name
        scope ↔ scheme.hasScope scope = true ∧ d.Requires name scope := by
  have hscopes : ∀ u : SchemeUse, u.scheme = name →
      u.scopes d.schemes = u.requirement.scopes.filter scheme.hasScope := by
    rintro u rfl
    rw [SchemeUse.scopes, hscheme]
    rfl
  rw [Referenced.requires_addUses]
  constructor
  · rintro (⟨required, hget, -⟩ | ⟨u, hu, hname, hscope⟩)
    · cases hget
    · rw [hscopes u hname, List.mem_filter] at hscope
      obtain ⟨e, he, hu⟩ := List.mem_flatMap.1 hu
      obtain ⟨hr, hmem⟩ := mem_usesOf.1 hu
      exact ⟨hscope.2, e, he, u.requirement, hr, hname ▸ hmem, hscope.1⟩
  · rintro ⟨hdefined, e, he, r, hr, hname, hscope⟩
    refine .inr ⟨⟨name, r⟩, List.mem_flatMap.2 ⟨e, he, mem_usesOf.2 ⟨hr, hname⟩⟩, rfl, ?_⟩
    rw [hscopes _ rfl, List.mem_filter]
    exact ⟨hscope, hdefined⟩

/-- The objects of an operation name the schemes of the requirements in force for its method. -/
theorem mem_keys_securityOf_iff (service method name : String) :
    (∃ objects object, d.securityOf service method = some objects ∧ object ∈ objects ∧
        name ∈ KeyMap.keys object) ↔
      ∃ r ∈ d.security.inForce service method, name ∈ r.schemes := by
  have hkeys : ∀ r : Requirement, name ∈ (objectOf d.schemes r).keys ↔ name ∈ r.schemes := by
    intro r
    rw [KeyMap.mem_keys_iff, get?_objectOf]
    by_cases hname : name ∈ r.schemes <;> simp [hname]
  rw [Design.securityOf, SecurityRequirements.inForce]
  split
  · simp
  · split
    · rename_i hnil
      simp [hnil]
    · simp [hkeys]

/-- The document refers to the schemes that its routed methods use. -/
theorem documentRefers_iff_uses (h : assemble d locale = .ok (some doc)) (name : String) :
    doc.Refers name ↔ d.Uses name := by
  constructor
  · rintro ⟨path, verb, o, objects, object, ho, hobjects, hobject, hname⟩
    obtain ⟨e, he, -, rfl⟩ := exists_route_of_operation? h ho
    have hsecurity : d.securityOf e.service.name e.method.name = some objects := hobjects
    exact ⟨e, he,
      (mem_keys_securityOf_iff _ _ name).1 ⟨objects, object, hsecurity, hobject, hname⟩⟩
  · rintro ⟨e, he, hr⟩
    obtain ⟨objects, object, hobjects, hobject, hname⟩ := (mem_keys_securityOf_iff _ _ name).2 hr
    exact ⟨_, _, _, objects, object, operation?_of_mem_routes h he, hobjects, hobject, hname⟩

/-- A registered scheme has a mechanism, and every mechanism has a component. -/
theorem renderScheme_isSome {scheme : SecurityScheme} (h : scheme.kind ≠ .none)
    (required : NameSet) (locale : String) : (renderScheme scheme required locale).isSome = true := by
  unfold renderScheme
  cases hkind : scheme.kind with
  | none => exact absurd hkind h
  | _ => rfl

/-- In a well-formed design every scheme that is used has its component. -/
theorem mem_keys_components_iff (hd : d.WellFormed) (h : assemble d locale = .ok (some doc))
    (name : String) : name ∈ doc.securitySchemes.keys ↔ d.Uses name := by
  rw [KeyMap.mem_keys_iff, securitySchemes_of_assemble h, get?_componentsOf]
  constructor
  · intro hsome
    obtain ⟨component, hcomponent⟩ := Option.isSome_iff_exists.1 hsome
    obtain ⟨required, hget, -⟩ := Option.bind_eq_some_iff.1 hcomponent
    exact (refers_iff_uses name).1 ⟨required, hget⟩
  · intro huses
    obtain ⟨required, hget⟩ := (refers_iff_uses name).2 huses
    obtain ⟨e, -, r, hr, hname⟩ := huses
    have hregistered :=
      (hd.requirements r (SecurityRequirements.mem_all_of_mem_inForce hr)).registered
    obtain ⟨scheme, hscheme⟩ := Option.isSome_iff_exists.1 (hregistered name hname)
    have hkind := (hd.schemes scheme (SchemeRegistry.get?_mem hscheme).1).mechanism
    rw [hget, Option.bind_some, componentOf, hscheme, Option.bind_some]
    exact renderScheme_isSome hkind required locale

/-! ### The description of a component -/

/-- The paragraphs that are there, with empty lines between them; nothing if none is there. -/
def paragraphs? (parts : List (Option String)) : Option String :=
  match parts.filterMap id with
  | [] => none
  | first :: more => some ("\n\n".intercalate (first :: more))

/-- The description of the component of a JWT scheme: what the scheme says itself, the scopes that it
defines, each on a line, and the scopes that operations require from it. -/
def jwtText (scheme : SecurityScheme) (required : List String) (locale : String) : Option String :=
  paragraphs? [
    scheme.description.map fun text => text.resolve locale,
    if scheme.scopes = [] then none
    else some ("**Security Scopes**:" ++ String.join (scheme.scopes.map fun scope =>
      "\n  * `" ++ scope.name ++ "`: " ++ scope.description)),
    if required = [] then none
    else some ("**Required security scopes**: "
      ++ ", ".intercalate (required.map fun name => "`" ++ name ++ "`"))]

theorem paragraphs?_eq (parts : List (Option String)) :
    paragraphs? parts =
      if (parts.filterMap id).isEmpty then none
      else some ("\n\n".intercalate (parts.filterMap id)) := by
  unfold paragraphs?
  cases parts.filterMap id <;> rfl

theorem scopesParagraph_eq (scopes : List Scope) :
    scopesParagraph scopes = "**Security Scopes**:" ++ String.join (scopes.map fun scope =>
      "\n  * `" ++ scope.name ++ "`: " ++ scope.description) := by
  have hbefore : "\n  * " ++ "`" = "\n  * `" := by decide
  have hafter : "`" ++ ": " = "`: " := by decide
  have hline (scope : Scope) : "\n  * `" ++ scope.name ++ "`: " ++ scope.description =
      "\n  * " ++ codeSpan scope.name ++ ": " ++ scope.description := by
    rw [codeSpan, ← hbefore, ← hafter]
    simp only [String.append_assoc]
  simp only [hline]
  rfl

theorem requiredParagraph_eq (names : List String) :
    requiredParagraph names = "**Required security scopes**: "
      ++ ", ".intercalate (names.map fun name => "`" ++ name ++ "`") := rfl

theorem jwtDescription_eq (scheme : SecurityScheme) (required : NameSet) (locale : String) :
    jwtDescription (localText scheme.description locale) scheme required =
      jwtText scheme required.keys locale := by
  have hscopes : scheme.scopes = [] ↔ scheme.scopes.isEmpty = true := List.isEmpty_iff.symm
  have hrequired : required.keys = [] ↔ required.isEmpty = true := by
    rw [KeyMap.keys, KeyMap.isEmpty, List.map_eq_nil_iff, List.isEmpty_iff]
  have hcons (text : Option String) (rest : List (Option String)) :
      (text :: rest).filterMap id = text.toList ++ rest.filterMap id := by
    cases text <;> rfl
  have hpart (p : Prop) [Decidable p] (text : String) :
      (if p then none else some text).toList = if p then [] else [text] := by
    split <;> rfl
  rw [jwtText, paragraphs?_eq, jwtDescription, ← scopesParagraph_eq, ← requiredParagraph_eq]
  simp only [hcons, hpart, hscopes, hrequired, List.filterMap_nil, List.append_nil,
    List.append_assoc, localText]

/-- The description of a component is that of its scheme, unless it is a JWT scheme. -/
theorem description_of_renderScheme {scheme : SecurityScheme} {required : NameSet}
    {component : SecuritySchemeObject} (h : renderScheme scheme required locale = some component) :
    component.description =
      if scheme.kind = .jwt then jwtText scheme required.keys locale
      else scheme.description.map fun text => text.resolve locale := by
  unfold renderScheme at h
  cases hkind : scheme.kind with
  | none =>
    rw [hkind] at h
    cases h
  | jwt =>
    rw [hkind] at h
    obtain rfl := Option.some.inj h
    exact jwtDescription_eq scheme required locale
  | _ =>
    rw [hkind] at h
    obtain rfl := Option.some.inj h
    rfl

/-- **Components and references match.**  In the document of a design that a builder hands out, the
components are exactly the schemes to which the operations refer.  Each is the component of the
registered scheme, for exactly those of its scopes that some routed method requires from it; the
description of a JWT component lists them. -/
theorem components_match_references (hd : d.Built) (h : assemble d locale = .ok (some doc)) :
    (∀ name, name ∈ doc.securitySchemes.keys ↔ doc.Refers name) ∧
    ∀ name component, doc.securitySchemes.get? name = some component →
      ∃ scheme required, d.schemes.get? name = some scheme ∧
        renderScheme scheme required locale = some component ∧
        (component.description =
          if scheme.kind = .jwt then jwtText scheme required.keys locale
          else scheme.description.map fun text => text.resolve locale) ∧
        ∀ scope, scope ∈ required.keys ↔ scheme.hasScope scope = true ∧ d.Requires name scope := by
  constructor
  · intro name
    rw [mem_keys_components_iff hd.wellFormed h, documentRefers_iff_uses h]
  · intro name component hcomponent
    rw [securitySchemes_of_assemble h, get?_componentsOf] at hcomponent
    obtain ⟨required, hget, hcomponent⟩ := Option.bind_eq_some_iff.1 hcomponent
    obtain ⟨scheme, hscheme, hcomponent⟩ := Option.bind_eq_some_iff.1 hcomponent
    refine ⟨scheme, required, hscheme, hcomponent, description_of_renderScheme hcomponent,
      fun scope => ?_⟩
    rw [← requires_iff hscheme]
    constructor
    · intro hscope
      exact ⟨required, hget, hscope⟩
    · rintro ⟨other, hother, hscope⟩
      rw [hget] at hother
      cases hother
      exact hscope

/-- A vault with a token that two methods require, one of them without a route, and a scheme that no
method requires. -/
def vaultDeclarations : List Declaration :=
  [.scheme .top .jwt "token" (.all [.single (.description (.plain "A key to the vault.")),
      .single (.scope "read" ["Look inside."]), .single (.scope "write" [])]),
    .scheme .top .basic "spare" .done,
    .service "vault" (.all [
      .single (.method "open" (.single (.route .get "/vault"))),
      .single (.method "fill" .done)]),
    .security (.method "vault" "open") [.name "token"] (.single ⟨"read", []⟩),
    .security (.method "vault" "fill") [.name "token"] (.single ⟨"write", []⟩)]

/-- The design of the vault. -/
def vault : Design := ((Builder.start "vault").declareAll vaultDeclarations).design

/-- The token lists both scopes as its own, and as required only the one that the routed method
requires. -/
theorem vault_components :
    ∃ doc component, assemble vault "en" = .ok (some doc) ∧ doc.Refers "token" ∧
      ¬doc.Refers "spare" ∧ doc.securitySchemes.get? "token" = some component ∧
      component.description = some ("A key to the vault.\n\n**Security Scopes**:\n"
        ++ "  * `read`: Look inside.\n  * `write`: no description\n\n"
        ++ "**Required security scopes**: `read`") ∧
      ∃ scheme required, renderScheme scheme required "en" = some component ∧
        component.description = jwtText scheme required.keys "en" ∧
        ∀ scope, scope ∈ required.keys ↔
          scheme.hasScope scope = true ∧ vault.Requires "token" scope := by
  obtain ⟨doc, component, hdoc, hspare, hcomponent, htext⟩ :
      ∃ doc component, assemble vault "en" = .ok (some doc) ∧
        "spare" ∉ doc.securitySchemes.keys ∧ doc.securitySchemes.get? "token" = some component ∧
        component.description = some ("A key to the vault.\n\n**Security Scopes**:\n"
          ++ "  * `read`: Look inside.\n  * `write`: no description\n\n"
          ++ "**Required security scopes**: `read`") :=
    ⟨_, _, rfl, by decide, rfl, by decide⟩
  obtain ⟨hkeys, hcomponents⟩ :=
    components_match_references ⟨"vault", vaultDeclarations, rfl⟩ hdoc
  have htoken : "token" ∈ doc.securitySchemes.keys :=
    (KeyMap.mem_keys_iff _ _).2 (Option.isSome_iff_exists.2 ⟨component, hcomponent⟩)
  obtain ⟨scheme, required, hscheme, hrender, hdescription, hscopes⟩ :=
    hcomponents "token" component hcomponent
  have hkind : scheme.kind = .jwt := by
    obtain rfl := Option.some.inj hscheme
    rfl
  rw [if_pos hkind] at hdescription
  exact ⟨doc, component, hdoc, (hkeys "token").1 htoken, fun h => hspare ((hkeys "spare").2 h),
    hcomponent, htext, scheme, required, hrender, hdescription, hscopes⟩

end ApiDesign
