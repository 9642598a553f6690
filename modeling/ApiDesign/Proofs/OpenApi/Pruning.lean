import ApiDesign.Proofs.OpenApi.Likeness

/-!
# Declarations out of reach

A document is made from the routes.  What no route leads to can be taken out of a design: user types,
whose attributes the payloads have taken over, results, methods without routes, services that have no
methods then, the security declared for these, and schemes that no routed method requires.  The
document stays the same, and so does the error if there is one.

* `Design.pruned` — the design without what is out of reach;
* `Design.AllInReach` — nothing is out of reach;
* `pruned_keeps_document` — pruning takes out all of that and changes no outcome.
-/

namespace ApiDesign

open OpenApi

/-! ### Pruning -/

/-- The method without its result. -/
def Method.pruned (m : Method) : Method := { m with result := none }

/-- The service with those of its methods that have a route. -/
def Service.pruned (s : Service) : Service :=
  { s with methods := (s.methods.filter fun m => !m.routes.isEmpty).map Method.pruned }

/-- The services of which methods are left. -/
def Design.prunedServices (d : Design) : List Service :=
  (d.services.map Service.pruned).filter fun s => !s.methods.isEmpty

/-- The scheme names in the requirements in force for routed methods. -/
def Design.usedSchemes (d : Design) : List String :=
  (d.routes.flatMap (usesAt d)).map (·.scheme)

/-- The design without the declarations that no route leads to. -/
def Design.pruned (d : Design) : Design where
  api := d.api
  types := []
  services := d.prunedServices
  schemes := ⟨d.schemes.schemes.filter fun s => s.name ∈ d.usedSchemes⟩
  security :=
    { api := d.security.api
      services := d.security.services.filter fun r => ∃ s ∈ d.prunedServices, s.name = r.service
      methods := d.security.methods.filter fun r =>
        ∃ s ∈ d.prunedServices, s.name = r.service ∧ ∃ m ∈ s.methods, m.name = r.method }

/-- Everything that is declared is reached from the routes. -/
structure Design.AllInReach (d : Design) : Prop where
  types : d.types = []
  services : ∀ s ∈ d.services, s.methods ≠ []
  methods : ∀ s ∈ d.services, ∀ m ∈ s.methods, m.routes ≠ [] ∧ m.result = none
  schemes : ∀ s ∈ d.schemes.schemes, d.Uses s.name
  serviceTargets : ∀ r ∈ d.security.services, d.HasService r.service
  methodTargets : ∀ r ∈ d.security.methods, d.HasMethod r.service r.method

/-! ### Routes -/

/-- The route in the pruned design. -/
def RouteEntry.pruned (e : RouteEntry) : RouteEntry := ⟨e.service.pruned, e.method.pruned, e.route⟩

/-- What comes to nothing may be left out. -/
theorem flatMap_filter_of_nil {α β : Type} {p : α → Bool} {f : α → List β} {xs : List α}
    (h : ∀ x ∈ xs, p x = false → f x = []) : (xs.filter p).flatMap f = xs.flatMap f := by
  induction xs with
  | nil => rfl
  | cons x xs ih =>
    obtain ⟨hx, hxs⟩ := List.forall_mem_cons.1 h
    rw [List.filter_cons, List.flatMap_cons]
    cases hp : p x with
    | true => rw [if_pos rfl, List.flatMap_cons, ih hxs]
    | false => rw [if_neg Bool.false_ne_true, hx hp, List.nil_append, ih hxs]

theorem Service.routes_pruned (s : Service) :
    (s.pruned.methods.flatMap fun m => m.routes.map fun r => RouteEntry.mk s.pruned m r) =
      s.methods.flatMap fun m => m.routes.map fun r => RouteEntry.pruned ⟨s, m, r⟩ := by
  rw [pruned, List.flatMap_map]
  refine flatMap_filter_of_nil fun m _ hm => ?_
  have hroutes : m.routes = [] := by simpa using hm
  show m.routes.map _ = []
  rw [hroutes, List.map_nil]

theorem Design.routes_pruned (d : Design) : d.pruned.routes = d.routes.map RouteEntry.pruned := by
  rw [routes, routes, List.map_flatMap]
  show (d.prunedServices.flatMap _) = _
  rw [prunedServices, flatMap_filter_of_nil, List.flatMap_map]
  · refine List.flatMap_congr fun s _ => ?_
    rw [List.map_flatMap]
    simp only [List.map_map]
    exact s.routes_pruned
  · intro s _ hs
    have hmethods : s.methods = [] := by simpa using hs
    rw [hmethods, List.flatMap_nil]

/-- Where a route stands, there is a service and a method in the pruned design. -/
theorem Design.mem_pruned_of_mem_routes {d : Design} {e : RouteEntry} (he : e ∈ d.routes) :
    e.service.pruned ∈ d.prunedServices ∧ e.method.pruned ∈ e.service.pruned.methods := by
  have hroute : e.pruned ∈ d.pruned.routes := by
    rw [d.routes_pruned]
    exact List.mem_map_of_mem he
  obtain ⟨hservice, hmethod, -⟩ := (d.pruned.mem_routes_iff e.pruned).1 hroute
  exact ⟨hservice, hmethod⟩

/-! ### Look-ups for a route -/

theorem filter_filter_of_imp {α : Type} {p q : α → Bool} {xs : List α}
    (h : ∀ x, q x = true → p x = true) : (xs.filter p).filter q = xs.filter q := by
  rw [List.filter_filter]
  refine List.filter_congr fun x _ => ?_
  cases hq : q x with
  | true => rw [h x hq, Bool.and_self]
  | false => rw [Bool.false_and]

namespace Design

variable {d : Design} {e : RouteEntry}

theorem forService_pruned (he : e ∈ d.routes) :
    d.pruned.security.forService e.service.name = d.security.forService e.service.name := by
  obtain ⟨hservice, -⟩ := mem_pruned_of_mem_routes he
  refine congrArg _ (filter_filter_of_imp fun r hr => ?_)
  rw [decide_eq_true_eq] at hr ⊢
  exact ⟨_, hservice, hr.symm⟩

theorem forMethod_pruned (he : e ∈ d.routes) :
    d.pruned.security.forMethod e.service.name e.method.name =
      d.security.forMethod e.service.name e.method.name := by
  obtain ⟨hservice, hmethod⟩ := mem_pruned_of_mem_routes he
  refine congrArg _ (filter_filter_of_imp fun r hr => ?_)
  rw [decide_eq_true_eq] at hr ⊢
  exact ⟨_, hservice, hr.1.symm, _, hmethod, hr.2.symm⟩

theorem effective_pruned (he : e ∈ d.routes) :
    d.pruned.security.effective e.service.name e.method.name =
      d.security.effective e.service.name e.method.name := by
  rw [SecurityRequirements.effective, SecurityRequirements.effective, forMethod_pruned he,
    forService_pruned he]
  rfl

theorem mem_usedSchemes_iff (d : Design) (name : String) : name ∈ d.usedSchemes ↔ d.Uses name := by
  rw [usedSchemes, List.mem_map]
  constructor
  · rintro ⟨u, hu, rfl⟩
    obtain ⟨e, he, hu⟩ := List.mem_flatMap.1 hu
    exact ⟨e, he, u.requirement, mem_usesOf.1 hu⟩
  · rintro ⟨e, he, r, hr, hname⟩
    exact ⟨⟨name, r⟩, List.mem_flatMap.2 ⟨e, he, mem_usesOf.2 ⟨hr, hname⟩⟩, rfl⟩

/-- A name that is used is looked up among schemes of which none of this name was taken out. -/
theorem get?_pruned {name : String} (h : d.Uses name) :
    d.pruned.schemes.get? name = d.schemes.get? name := by
  show (d.schemes.schemes.filter _).find? _ = d.schemes.schemes.find? _
  rw [List.find?_filter]
  congr 1
  funext s
  by_cases hname : s.name = name
  · have hused : name ∈ d.usedSchemes := (d.mem_usedSchemes_iff name).2 h
    simp [hname, hused]
  · simp [hname]

theorem uses_pruned_iff (d : Design) (name : String) : d.pruned.Uses name ↔ d.Uses name := by
  have hforce : ∀ e ∈ d.routes,
      d.pruned.security.inForce e.pruned.service.name e.pruned.method.name =
        d.security.inForce e.service.name e.method.name := by
    intro e he
    rw [← alternativesOf_effective, ← alternativesOf_effective]
    exact congrArg _ (effective_pruned (e := e) he)
  rw [Uses, Uses, d.routes_pruned]
  constructor
  · rintro ⟨_, hmem, huses⟩
    obtain ⟨e, he, rfl⟩ := List.mem_map.1 hmem
    rw [hforce e he] at huses
    exact ⟨e, he, huses⟩
  · rintro ⟨e, he, huses⟩
    refine ⟨e.pruned, List.mem_map_of_mem he, ?_⟩
    rwa [hforce e he]

/-! ### The pruned design -/

theorem allInReach_pruned (d : Design) : d.pruned.AllInReach where
  types := rfl
  services := by
    intro s hs
    obtain ⟨-, hmethods⟩ := List.mem_filter.1 hs
    simpa using hmethods
  methods := by
    intro s hs m hm
    obtain ⟨hs, -⟩ := List.mem_filter.1 hs
    obtain ⟨t, -, rfl⟩ := List.mem_map.1 hs
    obtain ⟨n, hn, rfl⟩ := List.mem_map.1 hm
    obtain ⟨-, hroutes⟩ := List.mem_filter.1 hn
    have hne : n.routes ≠ [] := by simpa using hroutes
    exact ⟨hne, rfl⟩
  schemes := by
    intro s hs
    obtain ⟨-, hused⟩ := List.mem_filter.1 hs
    rw [decide_eq_true_eq] at hused
    exact (d.uses_pruned_iff s.name).2 ((d.mem_usedSchemes_iff s.name).1 hused)
  serviceTargets := by
    intro r hr
    obtain ⟨-, hservice⟩ := List.mem_filter.1 hr
    rwa [decide_eq_true_eq] at hservice
  methodTargets := by
    intro r hr
    obtain ⟨-, hmethod⟩ := List.mem_filter.1 hr
    rwa [decide_eq_true_eq] at hmethod

theorem designsAlike_pruned (d : Design) (locale : String) :
    DesignsAlike locale locale d d.pruned RouteEntry.pruned where
  info := rfl
  servers := rfl
  routes := d.routes_pruned
  route := fun _ _ => rfl
  operation := fun _ _ _ => rfl
  security := fun e he => effective_pruned (e := e) he
  schemes := fun _ huses => .of_get?_eq (get?_pruned huses)

end Design

/-- **What is out of reach does not show.**  Everything that is left of a pruned design is reached
from its routes, and in every locale it has the same document as the design, the same error, or no
document as well. -/
theorem pruned_keeps_document (d : Design) :
    d.pruned.AllInReach ∧ ∀ locale, assemble d.pruned locale = assemble d locale :=
  ⟨d.allInReach_pruned, fun locale => assemble_alike (d.designsAlike_pruned locale)⟩

/-- A method without a route is taken out, together with its security and the scheme that no other
method requires. -/
example :
    let d := ((Builder.start "vault").declareAll [
      .scheme .top .jwt "token" (.single (.scope "read" [])),
      .scheme .top .basic "spare" .done,
      .service "vault" (.all [
        .single (.method "open" (.single (.route .get "/vault"))),
        .single (.method "fill" .done)]),
      .security (.method "vault" "open") [.name "token"] (.single ⟨"read", []⟩),
      .security (.method "vault" "fill") [.name "spare"] .done]).design
    d.schemes.schemes.length = 2 ∧ d.security.methods.length = 2 ∧
      (d.pruned.services.map fun s => s.methods.map (·.name)) = [["open"]] ∧
      (d.pruned.schemes.schemes.map (·.name)) = ["token"] ∧
      (d.pruned.security.methods.map (·.method)) = ["open"] := by
  decide

end ApiDesign
