import ApiDesign.Proofs.OpenApi.Assembly
import Mathlib.Data.List.Perm.Basic

/-!
# Operations and routes

The operations of a document are its routes, seen from the other side: every route has become the one
operation at its path and verb, and no other operation is there.

* `operation?_of_assemble` — the slot of a path and a verb holds the operation of the route that has
  them;
* `positions_perm` — the positions of the operations are those of the routes, each once;
* `operations_correspond_to_routes` — both together.
-/

namespace ApiDesign

/-- A route of a design is a route of one of its methods. -/
theorem Design.mem_routes_iff (d : Design) (e : RouteEntry) :
    e ∈ d.routes ↔
      e.service ∈ d.services ∧ e.method ∈ e.service.methods ∧ e.route ∈ e.method.routes := by
  simp only [routes, List.mem_flatMap, List.mem_map]
  constructor
  · rintro ⟨s, hs, m, hm, r, hr, rfl⟩
    exact ⟨hs, hm, hr⟩
  · rintro ⟨hs, hm, hr⟩
    exact ⟨e.service, hs, e.method, hm, e.route, hr, rfl⟩

namespace OpenApi

/-! ### The operations of a document -/

theorem Verb.nodup_all : Verb.all.Nodup := by decide

theorem Verb.mem_all (v : Verb) : v ∈ Verb.all := by cases v <;> decide

namespace Document

theorem mem_operations_iff (doc : Document) (path : String) (verb : Verb) (o : Operation) :
    (path, verb, o) ∈ doc.operations ↔ doc.operation? path verb = some o := by
  rw [operations, List.mem_flatMap, operation?]
  constructor
  · rintro ⟨⟨key, item⟩, hitem, hmem⟩
    obtain ⟨v, -, hv⟩ := List.mem_filterMap.1 hmem
    obtain ⟨p, hp, heq⟩ := Option.map_eq_some_iff.1 hv
    cases heq
    rw [(doc.paths.mem_entries_iff key item).1 hitem]
    exact hp
  · intro h
    obtain ⟨item, hitem, ho⟩ := Option.bind_eq_some_iff.1 h
    refine ⟨(path, item), (doc.paths.mem_entries_iff path item).2 hitem, ?_⟩
    refine List.mem_filterMap.2 ⟨verb, Verb.mem_all verb, ?_⟩
    rw [ho]
    rfl

/-- The paths and verbs at which operations stand. -/
def positions (doc : Document) : List (String × Verb) := doc.operations.map fun x => (x.1, x.2.1)

theorem mem_positions_iff (doc : Document) (path : String) (verb : Verb) :
    (path, verb) ∈ doc.positions ↔ (doc.operation? path verb).isSome = true := by
  rw [positions, List.mem_map, Option.isSome_iff_exists]
  constructor
  · rintro ⟨⟨p, v, o⟩, hmem, heq⟩
    cases heq
    exact ⟨o, (doc.mem_operations_iff p v o).1 hmem⟩
  · rintro ⟨o, ho⟩
    exact ⟨(path, verb, o), (doc.mem_operations_iff path verb o).2 ho, rfl⟩

/-- The positions under one path are different because the verbs are, and those under two paths
because the paths are. -/
theorem nodup_positions (doc : Document) : doc.positions.Nodup := by
  have hsplit : doc.positions = doc.paths.entries.flatMap fun e =>
      (Verb.all.filter fun v => (e.2.operation? v).isSome).map fun v => (e.1, v) := by
    rw [positions, operations, List.map_flatMap]
    refine List.flatMap_congr fun e _ => ?_
    -- for any list of verbs, since the list of all of them has no structure to follow
    induction Verb.all with
    | nil => rfl
    | cons v vs ih => cases ho : e.2.operation? v <;> simp [ho, ih]
  rw [hsplit, List.nodup_flatMap]
  constructor
  · intro e _
    refine (Verb.nodup_all.filter _).map ?_
    intro v w heq
    exact (Prod.mk.inj heq).2
  · refine doc.paths.sorted.imp ?_
    intro a b hlt x hxa hxb
    obtain ⟨v, -, rfl⟩ := List.mem_map.1 hxa
    obtain ⟨w, -, heq⟩ := List.mem_map.1 hxb
    rw [(Prod.mk.inj heq).1] at hlt
    exact String.lt_irrefl _ hlt

end Document

/-! ### The operations of an assembled document -/

variable {d : Design} {locale : String} {doc : Document}

theorem operation?_of_assemble (h : assemble d locale = .ok (some doc)) (path : String)
    (verb : Verb) :
    doc.operation? path verb =
      (d.routes.find? fun e => e.route = ⟨verb, path⟩).map (d.operationOf locale) := by
  obtain ⟨-, a, ha, rfl⟩ := holds_of_assemble h
  exact ha.operations path verb

theorem nodup_routes_of_assemble (h : assemble d locale = .ok (some doc)) :
    (d.routes.map (·.route)).Nodup :=
  (holds_of_assemble h).1.nodup

/-- The slot of a route holds its operation. -/
theorem operation?_of_mem_routes (h : assemble d locale = .ok (some doc)) {e : RouteEntry}
    (he : e ∈ d.routes) :
    doc.operation? e.route.path e.route.verb = some (d.operationOf locale e) := by
  have hfind : (d.routes.find? fun f => f.route = e.route) = some e :=
    find?_key_of_mem (nodup_routes_of_assemble h) he
  rw [operation?_of_assemble h]
  show (d.routes.find? fun f => f.route = e.route).map _ = _
  rw [hfind]
  rfl

/-- Every operation is that of a route. -/
theorem exists_route_of_operation? (h : assemble d locale = .ok (some doc)) {path : String}
    {verb : Verb} {o : Operation} (ho : doc.operation? path verb = some o) :
    ∃ e ∈ d.routes, e.route = ⟨verb, path⟩ ∧ d.operationOf locale e = o := by
  rw [operation?_of_assemble h] at ho
  obtain ⟨e, hfind, heq⟩ := Option.map_eq_some_iff.1 ho
  have hroute : e.route = ⟨verb, path⟩ := by simpa using List.find?_some hfind
  exact ⟨e, List.mem_of_find?_eq_some hfind, hroute, heq⟩

theorem unknownScheme?_of_assemble (h : assemble d locale = .ok (some doc)) {e : RouteEntry}
    (he : e ∈ d.routes) : d.unknownScheme? e.service.name e.method.name = none := by
  obtain ⟨hfaultless, -⟩ := holds_of_assemble h
  obtain ⟨earlier, later, hsplit⟩ := List.append_of_mem he
  exact (Design.faultAt_eq_none (hfaultless earlier e later hsplit)).2

/-- An operation is the one that a route stands for. -/
structure IsOperationOf (d : Design) (locale : String) (e : RouteEntry) (o : Operation) : Prop where
  operationId : o.operationId = e.service.name ++ "#" ++ e.method.name
  description : o.description = e.method.description.map (·.resolve locale)
  parameters : o.parameters = classify e.method.payloadAttributes e.route.path locale
  responses : o.responses = .empty
  security : ∀ referenced,
    (renderSecurity (d.security.effective e.service.name e.method.name) d.schemes o.operationId
      referenced).1 = .ok o.security

theorem operationOf_isOperationOf {e : RouteEntry}
    (h : d.unknownScheme? e.service.name e.method.name = none) :
    IsOperationOf d locale e (d.operationOf locale e) where
  operationId := rfl
  description := rfl
  parameters := rfl
  responses := rfl
  security := by
    intro referenced
    rw [d.renderSecurity_effective, h]
    rfl

/-- The positions of the operations are those of the routes, each of them once. -/
theorem positions_perm (h : assemble d locale = .ok (some doc)) :
    doc.positions.Perm (d.routes.map fun e => (e.route.path, e.route.verb)) := by
  have hnodup : (d.routes.map fun e => (e.route.path, e.route.verb)).Nodup := by
    have hmap : (d.routes.map fun e => (e.route.path, e.route.verb))
        = (d.routes.map (·.route)).map fun r => (r.path, r.verb) := by
      rw [List.map_map]
      rfl
    rw [hmap]
    refine (nodup_routes_of_assemble h).map ?_
    rintro ⟨v, p⟩ ⟨w, q⟩ heq
    cases heq
    rfl
  rw [List.perm_ext_iff_of_nodup doc.nodup_positions hnodup]
  rintro ⟨path, verb⟩
  rw [doc.mem_positions_iff, operation?_of_assemble h, Option.isSome_map, List.find?_isSome,
    List.mem_map]
  constructor
  · rintro ⟨e, he, hroute⟩
    rw [decide_eq_true_eq] at hroute
    exact ⟨e, he, by rw [hroute]⟩
  · rintro ⟨e, he, heq⟩
    cases heq
    exact ⟨e, he, by simp⟩

/-- **Operations and routes correspond.**  A slot holds an operation exactly if exactly one route has
its path and verb; every route has become the operation that it stands for; no path is without
operations; and there are as many operations as routes. -/
theorem operations_correspond_to_routes (h : assemble d locale = .ok (some doc)) :
    (∀ path verb, (doc.operation? path verb).isSome = true ↔
      ∃ e, (d.routes.filter fun e => e.route = ⟨verb, path⟩) = [e]) ∧
    (∀ e ∈ d.routes, ∃ o, doc.operation? e.route.path e.route.verb = some o ∧
      IsOperationOf d locale e o) ∧
    (∀ path item, doc.paths.get? path = some item → ∃ verb, (item.operation? verb).isSome = true) ∧
    doc.operations.length = d.routes.length := by
  refine ⟨?_, ?_, ?_, ?_⟩
  · intro path verb
    rw [operation?_of_assemble h, Option.isSome_map,
      filter_key_eq_toList (nodup_routes_of_assemble h)]
    cases d.routes.find? fun e => e.route = ⟨verb, path⟩ <;> simp
  · intro e he
    exact ⟨d.operationOf locale e, operation?_of_mem_routes h he,
      operationOf_isOperationOf (unknownScheme?_of_assemble h he)⟩
  · obtain ⟨-, a, ha, rfl⟩ := holds_of_assemble h
    exact ha.inhabited
  · have hlength := (positions_perm h).length_eq
    rw [Document.positions, List.length_map, List.length_map] at hlength
    exact hlength

/-- A shop with a service that requires a login, and a method that is open although requirements
stand at all levels. -/
def shopDeclarations : List Declaration :=
  [.scheme .top .oauth2 "login" (.all [.single (.flow (.implicit "/login" "")),
      .single (.scope "read" []), .single (.scope "write" ["Change items"])]),
    .scheme .top .basic "basic" .done,
    .service "shop" (.all [
      .single (.method "list" (.all [.single (.route .get "/items"),
        .single (.route .head "/items")])),
      .single (.method "ping" (.single (.route .get "/ping")))]),
    .security .api [.name "basic"] .done,
    .security (.service "shop") [.name "login", .handle ⟨1⟩] (.single ⟨"read", []⟩),
    .security (.method "shop" "ping") [.name "basic"] .done,
    .noSecurity (.method "shop" "ping")]

/-- The design of the shop. -/
def shop : Design := ((Builder.start "shop").declareAll shopDeclarations).design

theorem shop_operations_correspond :
    ∃ doc, assemble shop "en" = .ok (some doc) ∧
      (doc.operation? "/items" .head).isSome = true ∧ doc.operations.length = 3 := by
  obtain ⟨doc, hdoc⟩ : ∃ doc, assemble shop "en" = .ok (some doc) := ⟨_, rfl⟩
  obtain ⟨hslots, -, -, hlength⟩ := operations_correspond_to_routes hdoc
  exact ⟨doc, hdoc, (hslots "/items" .head).2 ⟨_, rfl⟩, hlength⟩

end OpenApi

end ApiDesign
