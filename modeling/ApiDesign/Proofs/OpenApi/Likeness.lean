import ApiDesign.Proofs.OpenApi.Components

/-!
# Designs that are written alike

A document is made of parts of a design: of what stands at the routes, of the security in effect
there and of the schemes that are used.  Two designs that have these parts in common, each as it reads
in a locale of its own, have the same document, whatever else they declare.  Their assemblies go
through the same states, so they have the same errors as well.

* `DesignsAlike` — the parts in common;
* `addRoute_alike`, `addRoutes_alike` — the step and the run, from the same state to the same;
* `assemble_alike` — the same outcome.
-/

namespace ApiDesign.OpenApi

/-- Two schemes that are written alike, each for its locale: with the same scopes in requirements and
with the same component. -/
structure SchemesAlike (locale locale' : String) (s s' : SecurityScheme) : Prop where
  kind : s'.kind = s.kind
  scopes : s'.scopes = s.scopes
  component : ∀ required, renderScheme s' required locale' = renderScheme s required locale

/-- Under the name both registries have schemes that are written alike, or none. -/
def AlikeAt (locale locale' : String) (registry registry' : SchemeRegistry) (name : String) : Prop :=
  Option.Rel (SchemesAlike locale locale') (registry.get? name) (registry'.get? name)

/-- Two designs that are written alike, each for its locale.  The routes of the second one are those
of the first, changed in a way that does not show in their operations. -/
structure DesignsAlike (locale locale' : String) (d d' : Design)
    (change : RouteEntry → RouteEntry) : Prop where
  info : infoOf d'.api locale' = infoOf d.api locale
  servers : serversOf d'.api locale' = serversOf d.api locale
  routes : d'.routes = d.routes.map change
  route : ∀ e ∈ d.routes, (change e).route = e.route
  operation : ∀ e ∈ d.routes, ∀ security, Assembly.operationOf (change e) locale' security =
    Assembly.operationOf e locale security
  security : ∀ e ∈ d.routes,
    d'.security.effective (change e).service.name (change e).method.name =
      d.security.effective e.service.name e.method.name
  schemes : ∀ name, d.Uses name → AlikeAt locale locale' d.schemes d'.schemes name

variable {locale locale' : String}

/-! ### Requirements -/

section Registries

variable {registry registry' : SchemeRegistry}

/-- What is found in both registries alike is written alike for one locale. -/
theorem AlikeAt.of_get?_eq {name : String} (h : registry'.get? name = registry.get? name) :
    AlikeAt locale locale registry registry' name := by
  rw [AlikeAt, h]
  cases registry.get? name with
  | none => exact .none
  | some s => exact .some ⟨rfl, rfl, fun _ => rfl⟩

theorem SchemesAlike.hasScope_eq {s s' : SecurityScheme} (h : SchemesAlike locale locale' s s') :
    s'.hasScope = s.hasScope := by
  funext scope
  rw [SecurityScheme.hasScope, SecurityScheme.hasScope, h.scopes]

theorem renderSchemes_alike (op : String) (r : Requirement) {names : List String}
    (h : ∀ name ∈ names, AlikeAt locale locale' registry registry' name)
    (object : SecurityRequirementObject) (referenced : Referenced) :
    renderSchemes registry' op r names object referenced =
      renderSchemes registry op r names object referenced := by
  induction names generalizing object referenced with
  | nil => rfl
  | cons name names ih =>
    obtain ⟨hname, hnames⟩ := List.forall_mem_cons.1 h
    rw [renderSchemes, renderSchemes]
    unfold AlikeAt at hname
    generalize registry.get? name = found, registry'.get? name = found' at hname
    cases hname with
    | none => rfl
    | some hs =>
      simp only [requiredScopes, listedScopes, hs.hasScope_eq, hs.kind, ih hnames]

theorem renderAlternatives_alike (op : String) {rs : List Requirement}
    (h : ∀ r ∈ rs, ∀ name ∈ r.schemes, AlikeAt locale locale' registry registry' name)
    (referenced : Referenced) :
    renderAlternatives registry' op rs referenced = renderAlternatives registry op rs referenced := by
  induction rs generalizing referenced with
  | nil => rfl
  | cons r rs ih =>
    obtain ⟨hr, hrs⟩ := List.forall_mem_cons.1 h
    rw [renderAlternatives, renderAlternatives, renderSchemes_alike op r hr]
    simp only [ih hrs]

theorem renderSecurity_alike (op : String) {effective : EffectiveSecurity}
    (h : ∀ r ∈ alternativesOf effective, ∀ name ∈ r.schemes,
      AlikeAt locale locale' registry registry' name)
    (referenced : Referenced) :
    renderSecurity effective registry' op referenced =
      renderSecurity effective registry op referenced := by
  cases effective with
  | unspecified => rfl
  | disabled => rfl
  | required alternatives =>
    have hrendered : renderAlternatives registry' op alternatives referenced =
        renderAlternatives registry op alternatives referenced :=
      renderAlternatives_alike op h referenced
    rw [renderSecurity, renderSecurity, hrendered]

theorem componentsOf_alike {referenced : Referenced}
    (h : ∀ name, referenced.Refers name → AlikeAt locale locale' registry registry' name) :
    componentsOf registry' referenced locale' = componentsOf registry referenced locale := by
  refine KeyMap.ext_get? fun name => ?_
  rw [get?_componentsOf, get?_componentsOf]
  cases hget : referenced.get? name with
  | none => rfl
  | some required =>
    have hname := h name ⟨required, hget⟩
    rw [Option.bind_some, Option.bind_some, componentOf, componentOf]
    unfold AlikeAt at hname
    generalize registry.get? name = found, registry'.get? name = found' at hname
    cases hname with
    | none => rfl
    | some hs => exact hs.component required

end Registries

/-! ### Routes -/

section Designs

variable {d d' : Design} {change : RouteEntry → RouteEntry}
variable (h : DesignsAlike locale locale' d d' change)
include h

theorem addRoute_alike {e : RouteEntry} (he : e ∈ d.routes) (a : Assembly) :
    Assembly.addRoute d' locale' a (change e) = Assembly.addRoute d locale a e := by
  have hid : (change e).operationId = e.operationId :=
    congrArg Operation.operationId (h.operation e he none)
  have hrender : ∀ op referenced,
      renderSecurity (d.security.effective e.service.name e.method.name) d'.schemes op referenced =
        renderSecurity (d.security.effective e.service.name e.method.name) d.schemes op
          referenced := by
    intro op
    refine renderSecurity_alike op fun r hr name hname => h.schemes name ⟨e, he, r, ?_, hname⟩
    rwa [alternativesOf_effective] at hr
  simp only [Assembly.addRoute, h.route e he, hid, h.security e he, hrender, h.operation e he]

theorem addRoutes_alike {routes : List RouteEntry} (hroutes : ∀ e ∈ routes, e ∈ d.routes)
    (a : Assembly) :
    Assembly.addRoutes d' locale' a (routes.map change) = Assembly.addRoutes d locale a routes := by
  unfold Assembly.addRoutes
  induction routes generalizing a with
  | nil => rw [List.map_nil, List.foldlM_nil, List.foldlM_nil]
  | cons e routes ih =>
    obtain ⟨he, hrest⟩ := List.forall_mem_cons.1 hroutes
    rw [List.map_cons, List.foldlM_cons, List.foldlM_cons, addRoute_alike h he]
    exact bind_congr fun b => ih hrest b

/-- **Designs that are written alike have the same outcome**: the same document, the same error, or
no document. -/
theorem assemble_alike : assemble d' locale' = assemble d locale := by
  by_cases hnil : d.routes = []
  · have hnil' : d'.routes = [] := by rw [h.routes, hnil, List.map_nil]
    rw [assemble_of_no_routes hnil, assemble_of_no_routes hnil']
  · have hnil' : d'.routes ≠ [] := by rwa [h.routes, ne_eq, List.map_eq_nil_iff]
    rw [assemble_of_routes hnil, assemble_of_routes hnil', h.routes,
      addRoutes_alike h fun _ he => he]
    cases hrun : Assembly.addRoutes d locale .empty d.routes with
    | error err => rfl
    | ok a =>
      -- the schemes that the run has noted down are those that are used
      have hused : ∀ name, a.referenced.Refers name → d.Uses name := by
        intro name hname
        rw [addRoutes_referenced hrun] at hname
        exact (refers_iff_uses name).1 hname
      have hcomponents : componentsOf d'.schemes a.referenced locale' =
          componentsOf d.schemes a.referenced locale :=
        componentsOf_alike fun name hname => h.schemes name (hused name hname)
      show Except.ok (some (documentOf d' locale' a)) = .ok (some (documentOf d locale a))
      rw [documentOf, documentOf, h.info, h.servers, hcomponents]

end Designs

end ApiDesign.OpenApi
