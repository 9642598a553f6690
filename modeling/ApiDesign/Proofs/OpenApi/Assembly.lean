import ApiDesign.OpenApi.Assembly
import ApiDesign.Proofs.OpenApi.Rendering
import Mathlib.Data.List.Induction

/-!
# The run over the routes

The routes are added one after the other.  After any number of them the paths hold the operations of
exactly these routes (`Assembly.Holds`), and a route can be added unless it has a fault, which the
routes before it and the requirements in force for its method decide (`Design.faultAt`).

* `addRoute_of_fault`, `addRoute_of_no_fault` — the step;
* `addRoutes_of_faultless`, `addRoutes_of_firstFault` — the run: all routes are added, or it ends with
  the first fault;
* `assemble_eq_error_iff`, `holds_of_assemble` — what that means for the document.
-/

namespace ApiDesign

open OpenApi

/-! ### Faults -/

/-- What keeps a route from becoming an operation after some other routes: one of them has its path
and verb, or else a scheme that its method requires is unknown. -/
def Design.faultAt (d : Design) (earlier : List RouteEntry) (e : RouteEntry) :
    Option CompileError :=
  match earlier.find? fun f => f.route = e.route with
  | some f => some (.conflictingRoute e.route.path e.route.verb f.operationId e.operationId)
  | none => (d.unknownScheme? e.service.name e.method.name).map (.unknownScheme e.operationId)

/-- No route of the list has a fault after those before it. -/
def Design.Faultless (d : Design) (routes : List RouteEntry) : Prop :=
  ∀ earlier e later, routes = earlier ++ e :: later → d.faultAt earlier e = none

/-- The first fault in a list of routes. -/
def Design.FirstFault (d : Design) (routes : List RouteEntry) (err : CompileError) : Prop :=
  ∃ earlier e later, routes = earlier ++ e :: later ∧ d.Faultless earlier ∧
    d.faultAt earlier e = some err

theorem Design.faultless_nil (d : Design) : d.Faultless [] := by
  intro earlier e later h
  cases earlier <;> cases h

theorem Design.faultless_concat_iff (d : Design) (routes : List RouteEntry) (e : RouteEntry) :
    d.Faultless (routes ++ [e]) ↔ d.Faultless routes ∧ d.faultAt routes e = none := by
  constructor
  · intro h
    refine ⟨fun earlier f later hf => ?_, h routes e [] rfl⟩
    refine h earlier f (later ++ [e]) ?_
    rw [hf, List.append_assoc, List.cons_append]
  · rintro ⟨hroutes, he⟩ earlier f later hf
    rcases List.eq_nil_or_concat later with rfl | ⟨later, g, rfl⟩
    · obtain ⟨rfl, heq⟩ := List.append_inj' hf rfl
      cases heq
      exact he
    · refine hroutes earlier f later ?_
      rw [List.concat_eq_append, ← List.cons_append, ← List.append_assoc] at hf
      exact (List.append_inj' hf rfl).1

/-- A route without a fault repeats none of the others, and its method requires known schemes. -/
theorem Design.faultAt_eq_none {d : Design} {earlier : List RouteEntry} {e : RouteEntry}
    (h : d.faultAt earlier e = none) :
    earlier.find? (fun f => f.route = e.route) = none ∧
      d.unknownScheme? e.service.name e.method.name = none := by
  unfold faultAt at h
  split at h
  · cases h
  · rename_i hfind
    exact ⟨hfind, Option.map_eq_none_iff.1 h⟩

/-- The search for a fault from the first route on either finds none or finds the first one. -/
theorem Design.faultless_or_firstFault (d : Design) (routes : List RouteEntry) :
    d.Faultless routes ∨ ∃ err, d.FirstFault routes err := by
  induction routes using List.reverseRecOn with
  | nil => exact .inl d.faultless_nil
  | append_singleton routes e ih =>
    rcases ih with hroutes | ⟨err, earlier, f, later, rfl, hearlier, hf⟩
    · cases he : d.faultAt routes e with
      | none => exact .inl ((d.faultless_concat_iff routes e).2 ⟨hroutes, he⟩)
      | some err => exact .inr ⟨err, routes, e, [], rfl, hroutes, he⟩
    · refine .inr ⟨err, earlier, f, later ++ [e], ?_, hearlier, hf⟩
      rw [List.append_assoc, List.cons_append]

/-- Routes without a fault have different paths or verbs. -/
theorem Design.Faultless.nodup {d : Design} {routes : List RouteEntry} (h : d.Faultless routes) :
    (routes.map (·.route)).Nodup := by
  induction routes using List.reverseRecOn with
  | nil => exact List.nodup_nil
  | append_singleton routes e ih =>
    obtain ⟨hroutes, he⟩ := (d.faultless_concat_iff routes e).1 h
    refine nodup_map_concat _ (ih hroutes) ?_
    exact find?_key_eq_none_iff.1 (Design.faultAt_eq_none he).1

/-! ### The step -/

/-- The operation of a route. -/
def Design.operationOf (d : Design) (locale : String) (e : RouteEntry) : Operation :=
  Assembly.operationOf e locale (d.securityOf e.service.name e.method.name)

namespace OpenApi

variable {d : Design} {locale : String} {done : List RouteEntry} {a : Assembly} {e : RouteEntry}

/-- The paths hold the operations of some routes and nothing else: the slot of a path and a verb
that of the one route which has them, and no path is without operations. -/
structure Assembly.Holds (d : Design) (locale : String) (done : List RouteEntry) (a : Assembly) :
    Prop where
  operations : ∀ path verb, a.operation? path verb =
    (done.find? fun e => e.route = ⟨verb, path⟩).map (d.operationOf locale)
  inhabited : ∀ path item, a.paths.get? path = some item →
    ∃ verb, (item.operation? verb).isSome = true

theorem Assembly.holds_empty (d : Design) (locale : String) :
    Assembly.empty.Holds d locale [] where
  operations := fun _ _ => rfl
  inhabited := fun _ _ h => by cases h

/-- Binding an operation to a path and a verb changes that slot alone. -/
theorem Assembly.operation?_bind (a : Assembly) (referenced : Referenced) (path other : String)
    (verb v : Verb) (o : Operation) :
    Assembly.operation? ⟨a.bind path verb o, referenced⟩ other v =
      if other = path ∧ v = verb then some o else a.operation? other v := by
  simp only [operation?, bind, KeyMap.get?_insert]
  by_cases hpath : other = path
  · subst hpath
    rw [if_pos rfl, Option.bind_some, PathItem.operation?_set]
    by_cases hverb : v = verb
    · rw [if_pos hverb, if_pos ⟨rfl, hverb⟩]
    · rw [if_neg hverb, if_neg (fun h => hverb h.2)]
      cases a.paths.get? other with
      | none => exact PathItem.operation?_empty v
      | some item => rfl
  · rw [if_neg hpath, if_neg (fun h => hpath h.1)]

theorem Assembly.bind_inhabited (a : Assembly)
    (ha : ∀ path item, a.paths.get? path = some item → ∃ verb, (item.operation? verb).isSome = true)
    {path other : String} {verb : Verb} {o : Operation} {item : PathItem}
    (h : (a.bind path verb o).get? other = some item) :
    ∃ v, (item.operation? v).isSome = true := by
  rw [bind, KeyMap.get?_insert] at h
  split at h
  · cases h
    refine ⟨verb, ?_⟩
    rw [PathItem.operation?_set, if_pos rfl]
    rfl
  · exact ha other item h

/-- A route with a fault is not added. -/
theorem addRoute_of_fault (ha : a.Holds d locale done) {err : CompileError}
    (h : d.faultAt done e = some err) : Assembly.addRoute d locale a e = .error err := by
  have hslot := ha.operations e.route.path e.route.verb
  unfold Design.faultAt at h
  unfold Assembly.addRoute
  cases hfind : done.find? fun f => f.route = e.route with
  | some f =>
    rw [hfind] at h hslot
    cases h
    rw [hslot]
    rfl
  | none =>
    rw [hfind] at h hslot
    obtain ⟨name, hname, rfl⟩ := Option.map_eq_some_iff.1 h
    have hrender := d.renderSecurity_effective e.service.name e.method.name e.operationId
      a.referenced
    rw [hname] at hrender
    rw [hslot]
    dsimp only [Option.map_none]
    split
    · rename_i heq
      rw [heq] at hrender
      cases hrender
      rfl
    · rename_i heq
      rw [heq] at hrender
      cases hrender

/-- A route without a fault is added with its operation. -/
theorem addRoute_of_no_fault (ha : a.Holds d locale done) (h : d.faultAt done e = none) :
    ∃ a', Assembly.addRoute d locale a e = .ok a' ∧ a'.Holds d locale (done ++ [e]) := by
  obtain ⟨hfind, hknown⟩ := Design.faultAt_eq_none h
  have hslot := ha.operations e.route.path e.route.verb
  rw [hfind] at hslot
  have hrender := d.renderSecurity_effective e.service.name e.method.name e.operationId a.referenced
  rw [hknown] at hrender
  cases hresult : renderSecurity (d.security.effective e.service.name e.method.name) d.schemes
    e.operationId a.referenced with
  | mk result referenced =>
  rw [hresult] at hrender
  have hadd : Assembly.addRoute d locale a e
      = .ok ⟨a.bind e.route.path e.route.verb (d.operationOf locale e), referenced⟩ := by
    unfold Assembly.addRoute
    rw [hslot]
    dsimp only [Option.map_none]
    rw [hresult]
    dsimp only at hrender
    rw [hrender]
    rfl
  refine ⟨_, hadd, ?_, fun path item => a.bind_inhabited ha.inhabited⟩
  intro path verb
  rw [Assembly.operation?_bind, ha.operations, List.find?_append]
  by_cases hroute : path = e.route.path ∧ verb = e.route.verb
  · obtain ⟨rfl, rfl⟩ := hroute
    rw [if_pos ⟨rfl, rfl⟩, hfind]
    simp
  · have hne : e.route ≠ ⟨verb, path⟩ := by
      intro heq
      exact hroute ⟨by rw [heq], by rw [heq]⟩
    rw [if_neg hroute]
    simp [hne]

/-! ### The run -/

theorem addRoutes_of_faultless (locale : String) {routes : List RouteEntry}
    (h : d.Faultless routes) :
    ∃ a, Assembly.addRoutes d locale .empty routes = .ok a ∧ a.Holds d locale routes := by
  induction routes using List.reverseRecOn with
  | nil => exact ⟨_, rfl, Assembly.holds_empty d locale⟩
  | append_singleton routes e ih =>
    obtain ⟨hroutes, he⟩ := (d.faultless_concat_iff routes e).1 h
    obtain ⟨a, hrun, ha⟩ := ih hroutes
    obtain ⟨a', hadd, ha'⟩ := addRoute_of_no_fault ha he
    refine ⟨a', ?_, ha'⟩
    -- the last route is the last step, so the fold is split there
    rw [Assembly.addRoutes] at hrun ⊢
    rw [List.foldlM_append, hrun]
    show (List.foldlM (Assembly.addRoute d locale) a [e]) = .ok a'
    rw [List.foldlM_cons, hadd]
    rfl

theorem addRoutes_of_firstFault {routes : List RouteEntry} {err : CompileError}
    (h : d.FirstFault routes err) :
    Assembly.addRoutes d locale .empty routes = .error err := by
  obtain ⟨earlier, e, later, rfl, hearlier, he⟩ := h
  obtain ⟨a, hrun, ha⟩ := addRoutes_of_faultless locale hearlier
  rw [Assembly.addRoutes] at hrun ⊢
  rw [List.foldlM_append, hrun]
  show (List.foldlM (Assembly.addRoute d locale) a (e :: later)) = .error err
  rw [List.foldlM_cons, addRoute_of_fault ha he]
  rfl

/-! ### The document -/

theorem assemble_of_no_routes (h : d.routes = []) : assemble d locale = .ok none := by
  rw [assemble, Design.hasRoutes, h]
  rfl

/-- The document that the routes have become. -/
def documentOf (d : Design) (locale : String) (a : Assembly) : Document where
  openapi := Document.version
  info := infoOf d.api locale
  servers := serversOf d.api locale
  paths := a.paths
  securitySchemes := componentsOf d.schemes a.referenced locale

theorem assemble_of_routes (h : d.routes ≠ []) :
    assemble d locale =
      (Assembly.addRoutes d locale .empty d.routes).map fun a => some (documentOf d locale a) := by
  have hroutes : d.hasRoutes = true := by
    rw [Design.hasRoutes, Bool.not_eq_true', List.isEmpty_eq_false_iff]
    exact h
  rw [assemble, if_pos hroutes]
  cases Assembly.addRoutes d locale .empty d.routes <;> rfl

/-- An error of the assembly is the first fault of the routes. -/
theorem assemble_eq_error_iff {err : CompileError} :
    assemble d locale = .error err ↔ d.FirstFault d.routes err := by
  by_cases hnil : d.routes = []
  · rw [assemble_of_no_routes hnil, hnil]
    constructor
    · intro h
      cases h
    · rintro ⟨earlier, e, later, h, -, -⟩
      cases earlier <;> cases h
  rw [assemble_of_routes hnil]
  constructor
  · intro h
    rcases d.faultless_or_firstFault d.routes with hfaultless | ⟨first, hfirst⟩
    · obtain ⟨a, hrun, -⟩ := addRoutes_of_faultless locale hfaultless
      rw [hrun] at h
      cases h
    · rw [addRoutes_of_firstFault hfirst] at h
      cases h
      exact hfirst
  · intro h
    rw [addRoutes_of_firstFault h]
    rfl

theorem assemble_eq_ok_none_iff : assemble d locale = .ok none ↔ d.routes = [] := by
  refine ⟨fun h => ?_, assemble_of_no_routes⟩
  by_contra hne
  rw [assemble_of_routes hne] at h
  cases hrun : Assembly.addRoutes d locale .empty d.routes with
  | error err =>
    rw [hrun] at h
    cases h
  | ok a =>
    rw [hrun] at h
    cases h

/-- A document comes of routes without a fault, and its paths hold their operations. -/
theorem holds_of_assemble {doc : Document} (h : assemble d locale = .ok (some doc)) :
    d.Faultless d.routes ∧
      ∃ a : Assembly, a.Holds d locale d.routes ∧ doc = documentOf d locale a := by
  have hne : d.routes ≠ [] := by
    intro hnil
    rw [assemble_of_no_routes hnil] at h
    cases h
  rcases d.faultless_or_firstFault d.routes with hfaultless | ⟨err, herr⟩
  · obtain ⟨a, hrun, ha⟩ := addRoutes_of_faultless locale hfaultless
    rw [assemble_of_routes hne, hrun] at h
    cases h
    exact ⟨hfaultless, a, ha, rfl⟩
  · rw [assemble_eq_error_iff.2 herr] at h
    cases h

end OpenApi

end ApiDesign
