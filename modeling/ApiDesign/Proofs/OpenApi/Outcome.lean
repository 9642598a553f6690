import ApiDesign.Proofs.OpenApi.Operations

/-!
# The outcome of assembly

Assembly can come to three things: no document, a document, or an error.  Which of them, and which
error, is decided by the routes and the requirements in force for their methods, for any design, also
one whose security was not checked by a builder.

* `Design.Bad`, `Design.FirstBad` — the routes that cannot become operations;
* `Design.Reports` — the error of such a route;
* `outcome_of_assembly` — assembly fails with the error of the first bad route, or not at all.
-/

namespace ApiDesign

/-- A route is bad after some others if it repeats one of them, or if a requirement in force for its
method names a scheme that is not registered. -/
def Design.Bad (d : Design) (earlier : List RouteEntry) (e : RouteEntry) : Prop :=
  (∃ f ∈ earlier, f.route = e.route) ∨
    ∃ r ∈ d.security.inForce e.service.name e.method.name, ∃ name ∈ r.schemes,
      d.schemes.contains name = false

/-- A bad route of a design, before which there is no other. -/
structure Design.FirstBad (d : Design) (earlier : List RouteEntry) (e : RouteEntry) : Prop where
  split : ∃ later, d.routes = earlier ++ e :: later
  bad : d.Bad earlier e
  first : ∀ before f between, earlier = before ++ f :: between → ¬d.Bad before f

/-- The error of a bad route: the conflict with the route that it repeats, or, if it repeats none,
the first unknown scheme name in the order of the requirements. -/
inductive Design.Reports (d : Design) (earlier : List RouteEntry) (e : RouteEntry) :
    CompileError → Prop where
  | conflict {f : RouteEntry} (hf : f ∈ earlier) (same : f.route = e.route) :
      d.Reports earlier e
        (.conflictingRoute e.route.path e.route.verb f.operationId e.operationId)
  | unknown {name : String} (new : ∀ f ∈ earlier, f.route ≠ e.route)
      (first : ((d.security.inForce e.service.name e.method.name).flatMap (·.schemes)).find?
        (fun name => !d.schemes.contains name) = some name) :
      d.Reports earlier e (.unknownScheme e.operationId name)

variable {d : Design} {earlier : List RouteEntry} {e : RouteEntry}

theorem Design.unknownScheme?_eq_none_iff (service method : String) :
    d.unknownScheme? service method = none ↔
      ¬∃ r ∈ d.security.inForce service method, ∃ name ∈ r.schemes,
        d.schemes.contains name = false := by
  rw [unknownScheme?, OpenApi.firstUnknown_eq_none_iff]
  constructor
  · rintro hknown ⟨r, hr, name, hname, hunknown⟩
    rw [hknown name (List.mem_flatMap.2 ⟨r, hr, hname⟩)] at hunknown
    cases hunknown
  · intro hnone name hname
    obtain ⟨r, hr, hname⟩ := List.mem_flatMap.1 hname
    by_contra hunknown
    exact hnone ⟨r, hr, name, hname, by simpa using hunknown⟩

/-- A route has a fault exactly if it is bad. -/
theorem Design.faultAt_eq_none_iff : d.faultAt earlier e = none ↔ ¬d.Bad earlier e := by
  rw [Bad, not_or, ← unknownScheme?_eq_none_iff]
  constructor
  · intro h
    obtain ⟨hfind, hknown⟩ := faultAt_eq_none h
    refine ⟨?_, hknown⟩
    rintro ⟨f, hf, hsame⟩
    exact find?_key_eq_none_iff.1 hfind f hf hsame
  · rintro ⟨hnew, hknown⟩
    have hfind : earlier.find? (fun f => f.route = e.route) = none :=
      find?_key_eq_none_iff.2 fun f hf hsame => hnew ⟨f, hf, hsame⟩
    rw [faultAt, hfind, hknown]
    rfl

theorem Design.faultless_iff {routes : List RouteEntry} :
    d.Faultless routes ↔ ∀ earlier e later, routes = earlier ++ e :: later → ¬d.Bad earlier e :=
  forall_congr' fun _ => forall_congr' fun _ => forall_congr' fun _ =>
    imp_congr_right fun _ => faultAt_eq_none_iff

/-- Where the routes before it are different, the fault of a route is what it reports. -/
theorem Design.faultAt_eq_some_iff (h : (earlier.map (·.route)).Nodup) (err : CompileError) :
    d.faultAt earlier e = some err ↔ d.Reports earlier e err := by
  unfold faultAt
  constructor
  · intro hfault
    split at hfault
    · rename_i f hfind
      cases hfault
      exact .conflict (List.mem_of_find?_eq_some hfind) (by simpa using List.find?_some hfind)
    · rename_i hfind
      obtain ⟨name, hname, rfl⟩ := Option.map_eq_some_iff.1 hfault
      exact .unknown (find?_key_eq_none_iff.1 hfind) hname
  · intro hreport
    cases hreport with
    | conflict hf same =>
      have hfind := find?_key_of_mem h hf
      rw [same] at hfind
      rw [hfind]
    | unknown new first =>
      have hfind : earlier.find? (fun f => f.route = e.route) = none :=
        find?_key_eq_none_iff.2 new
      rw [hfind]
      show Option.map _ (d.unknownScheme? e.service.name e.method.name) = _
      rw [unknownScheme?, OpenApi.firstUnknown, first]
      rfl

theorem Design.routes_eq_nil_iff :
    d.routes = [] ↔ ∀ s ∈ d.services, ∀ m ∈ s.methods, m.routes = [] := by
  simp [routes, List.flatMap_eq_nil_iff]

namespace OpenApi

variable {locale : String}

theorem assemble_fails_iff_bad :
    (∃ err, assemble d locale = .error err) ↔
      ∃ earlier e later, d.routes = earlier ++ e :: later ∧ d.Bad earlier e := by
  constructor
  · rintro ⟨err, h⟩
    obtain ⟨earlier, e, later, hsplit, -, hfault⟩ := assemble_eq_error_iff.1 h
    refine ⟨earlier, e, later, hsplit, ?_⟩
    by_contra hgood
    rw [Design.faultAt_eq_none_iff.2 hgood] at hfault
    cases hfault
  · rintro ⟨earlier, e, later, hsplit, hbad⟩
    rcases d.faultless_or_firstFault d.routes with hfaultless | ⟨err, hfirst⟩
    · exact absurd hbad (Design.faultless_iff.1 hfaultless earlier e later hsplit)
    · exact ⟨err, assemble_eq_error_iff.2 hfirst⟩

theorem assemble_eq_error_iff_reports (err : CompileError) :
    assemble d locale = .error err ↔
      ∃ earlier e, d.FirstBad earlier e ∧ d.Reports earlier e err := by
  rw [assemble_eq_error_iff]
  constructor
  · rintro ⟨earlier, e, later, hsplit, hfaultless, hfault⟩
    refine ⟨earlier, e, ⟨⟨later, hsplit⟩, ?_, Design.faultless_iff.1 hfaultless⟩,
      (Design.faultAt_eq_some_iff hfaultless.nodup err).1 hfault⟩
    by_contra hgood
    rw [Design.faultAt_eq_none_iff.2 hgood] at hfault
    cases hfault
  · rintro ⟨earlier, e, ⟨⟨later, hsplit⟩, -, hfirst⟩, hreport⟩
    have hfaultless : d.Faultless earlier := Design.faultless_iff.2 hfirst
    exact ⟨earlier, e, later, hsplit, hfaultless,
      (Design.faultAt_eq_some_iff hfaultless.nodup err).2 hreport⟩

/-- In a well-formed design no scheme is unknown, so only a repeated route can be bad. -/
theorem bad_iff_of_wellFormed (hd : d.WellFormed) :
    d.Bad earlier e ↔ ∃ f ∈ earlier, f.route = e.route := by
  refine or_iff_left ?_
  rw [← Design.unknownScheme?_eq_none_iff]
  exact hd.unknownScheme?_eq_none _ _

theorem assemble_ne_unknownScheme (hd : d.WellFormed) (op name : String) :
    assemble d locale ≠ .error (.unknownScheme op name) := by
  intro h
  obtain ⟨earlier, e, -, hreport⟩ := (assemble_eq_error_iff_reports _).1 h
  cases hreport with
  | unknown new first =>
    have hnone := hd.unknownScheme?_eq_none e.service.name e.method.name
    rw [Design.unknownScheme?, firstUnknown, first] at hnone
    cases hnone

theorem assemble_fails_iff_repeated (hd : d.WellFormed) :
    (∃ err, assemble d locale = .error err) ↔ ¬(d.routes.map (·.route)).Nodup := by
  rw [assemble_fails_iff_bad]
  constructor
  · rintro ⟨earlier, e, later, hsplit, hbad⟩ hnodup
    obtain ⟨f, hf, hsame⟩ := (bad_iff_of_wellFormed hd).1 hbad
    rw [hsplit, List.map_append, List.nodup_append] at hnodup
    exact hnodup.2.2 f.route (List.mem_map_of_mem hf) e.route (by simp) hsame
  · intro hrepeated
    by_contra hgood
    refine hrepeated (Design.Faultless.nodup (d := d) (Design.faultless_iff.2 ?_))
    intro earlier e later hsplit hbad
    exact hgood ⟨earlier, e, later, hsplit, hbad⟩

/-- **The outcome of assembly is decided by the routes.**  There is no document exactly if no method
has a route; assembly fails exactly if a route is bad, and with the error of the first bad one.  In a
design that a builder hands out no scheme is unknown, and assembly fails exactly if two routes have
the same path and verb. -/
theorem outcome_of_assembly (d : Design) (locale : String) :
    (assemble d locale = .ok none ↔ ∀ s ∈ d.services, ∀ m ∈ s.methods, m.routes = []) ∧
    ((∃ err, assemble d locale = .error err) ↔
      ∃ earlier e later, d.routes = earlier ++ e :: later ∧ d.Bad earlier e) ∧
    (∀ err, assemble d locale = .error err ↔
      ∃ earlier e, d.FirstBad earlier e ∧ d.Reports earlier e err) ∧
    (d.Built →
      (∀ op name, assemble d locale ≠ .error (.unknownScheme op name)) ∧
      ((∃ err, assemble d locale = .error err) ↔ ¬(d.routes.map (·.route)).Nodup)) := by
  refine ⟨?_, assemble_fails_iff_bad, assemble_eq_error_iff_reports, ?_⟩
  · rw [assemble_eq_ok_none_iff, Design.routes_eq_nil_iff]
  · intro hbuilt
    exact ⟨assemble_ne_unknownScheme hbuilt.wellFormed,
      assemble_fails_iff_repeated hbuilt.wellFormed⟩

/-- The shop with a second service that binds a path and a verb of the first one again. -/
def clashDeclarations : List Declaration :=
  shopDeclarations ++ [.service "store" (.single (.method "list" (.single (.route .get "/items"))))]

theorem clash_outcome :
    ∃ d, ((Builder.start "shop").declareAll clashDeclarations).finish = .ok d ∧
      ∃ err, assemble d "en" = .error err := by
  refine ⟨_, rfl, ?_⟩
  exact (((outcome_of_assembly _ "en").2.2.2 ⟨"shop", clashDeclarations, rfl⟩).2).2 (by decide)

end OpenApi

end ApiDesign
