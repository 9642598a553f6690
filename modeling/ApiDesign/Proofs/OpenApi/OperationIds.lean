import ApiDesign.Proofs.OpenApi.Outcome

/-!
# What operation ids name

The operation of a route is named after the service and the method of the route, with a separator
between the two.  Names of services and methods are texts of any kind, so the separator may stand in
them as well, and then two methods can come to one id.  That is the only way: where no name of a
service has a separator, an id names one method.

* `append_separator_eq_iff` — when two pairs of names come to one text;
* `RunsInto`, `Confusable` — two methods whose names do so;
* `Design.Names`, `Design.Identifies` — ids that name a method, and no other that cannot be confused
  with it;
* `operationIds_identify_methods` — the ids of operations and of errors name one method, up to that.
-/

namespace ApiDesign

/-! ### Texts with a separator -/

/-- Two texts with a separator in the middle are equal if they are split at the same place, or if
one of them is split at a later separator. -/
theorem append_cons_eq_append_cons_iff {α : Type} (x : α) (a b c d : List α) :
    a ++ x :: b = c ++ x :: d ↔
      (a = c ∧ b = d) ∨ (∃ t, c = a ++ x :: t ∧ b = t ++ x :: d) ∨
        ∃ t, a = c ++ x :: t ∧ d = t ++ x :: b := by
  rw [List.append_eq_append_iff]
  constructor
  · rintro (⟨t, hc, hb⟩ | ⟨t, ha, hd⟩)
    · cases t with
      | nil => exact .inl ⟨by simpa using hc.symm, by simpa using hb⟩
      | cons y t =>
        obtain ⟨rfl, hrest⟩ := List.cons.inj hb
        exact .inr (.inl ⟨t, hc, hrest⟩)
    · cases t with
      | nil => exact .inl ⟨by simpa using ha, by simpa using hd.symm⟩
      | cons y t =>
        obtain ⟨rfl, hrest⟩ := List.cons.inj hd
        exact .inr (.inr ⟨t, ha, hrest⟩)
  · rintro (⟨rfl, rfl⟩ | ⟨t, rfl, rfl⟩ | ⟨t, rfl, rfl⟩)
    · exact .inl ⟨[], by simp, rfl⟩
    · exact .inl ⟨x :: t, rfl, rfl⟩
    · exact .inr ⟨x :: t, rfl, rfl⟩

/-- The names of two methods and their services run together to one text, which the first pair splits
at an earlier separator than the second. -/
def RunsInto (service method service' method' : String) : Prop :=
  ∃ t, service' = service ++ "#" ++ t ∧ method = t ++ "#" ++ method'

theorem runsInto_iff (service method service' method' : String) :
    RunsInto service method service' method' ↔
      ∃ t, service'.toList = service.toList ++ '#' :: t ∧
        method.toList = t ++ '#' :: method'.toList := by
  constructor
  · rintro ⟨t, rfl, rfl⟩
    exact ⟨t.toList, by simp, by simp⟩
  · rintro ⟨t, hservice, hmethod⟩
    refine ⟨String.ofList t, ?_, ?_⟩
    · rw [← String.toList_inj, hservice]
      simp
    · rw [← String.toList_inj, hmethod]
      simp

theorem append_separator_eq_iff (service method service' method' : String) :
    service ++ "#" ++ method = service' ++ "#" ++ method' ↔
      (service = service' ∧ method = method') ∨ RunsInto service method service' method' ∨
        RunsInto service' method' service method := by
  have hlist : service ++ "#" ++ method = service' ++ "#" ++ method' ↔
      service.toList ++ '#' :: method.toList = service'.toList ++ '#' :: method'.toList := by
    rw [← String.toList_inj]
    simp
  rw [hlist, append_cons_eq_append_cons_iff, String.toList_inj, String.toList_inj, runsInto_iff,
    runsInto_iff]

/-! ### The methods of a design -/

/-- The id names a method of the design. -/
structure Design.Names (d : Design) (id : String) (s : Service) (m : Method) : Prop where
  service : s ∈ d.services
  method : m ∈ s.methods
  id_eq : s.name ++ "#" ++ m.name = id

/-- Two methods whose names, with those of their services, run together to one text. -/
def Confusable (s : Service) (m : Method) (s' : Service) (m' : Method) : Prop :=
  RunsInto s.name m.name s'.name m'.name ∨ RunsInto s'.name m'.name s.name m.name

/-- Two methods can be confused only where one of the services and the method of the other one have
a separator in their names. -/
theorem Confusable.separator_mem {s s' : Service} {m m' : Method} (h : Confusable s m s' m') :
    ('#' ∈ s'.name.toList ∧ '#' ∈ m.name.toList) ∨
      ('#' ∈ s.name.toList ∧ '#' ∈ m'.name.toList) := by
  rcases h with ⟨t, hservice, hmethod⟩ | ⟨t, hservice, hmethod⟩
  · left
    rw [hservice, hmethod]
    simp
  · right
    rw [hservice, hmethod]
    simp

/-- The id names a method of the design, and no other one unless the two can be confused. -/
def Design.Identifies (d : Design) (id : String) (s : Service) (m : Method) : Prop :=
  d.Names id s m ∧ ∀ s' m', d.Names id s' m' → (s = s' ∧ m = m') ∨ Confusable s m s' m'

variable {d : Design} {s s' : Service} {m m' : Method}

/-- In a well-formed design a method is told by its name and that of its service. -/
theorem Design.WellFormed.method_unique (hd : d.WellFormed) (hs : s ∈ d.services)
    (hm : m ∈ s.methods) (hs' : s' ∈ d.services) (hm' : m' ∈ s'.methods)
    (hservice : s.name = s'.name) (hmethod : m.name = m'.name) : s = s' ∧ m = m' := by
  have heq : s = s' := List.inj_on_of_nodup_map hd.serviceNames hs hs' hservice
  subst heq
  have hnames := (hd.services s hs).names
  exact ⟨rfl, List.inj_on_of_nodup_map hnames hm hm' hmethod⟩

/-- Two methods of a well-formed design have one id exactly if they are the same or can be
confused. -/
theorem Design.WellFormed.id_eq_iff (hd : d.WellFormed) (hs : s ∈ d.services)
    (hm : m ∈ s.methods) (hs' : s' ∈ d.services) (hm' : m' ∈ s'.methods) :
    s.name ++ "#" ++ m.name = s'.name ++ "#" ++ m'.name ↔
      (s = s' ∧ m = m') ∨ Confusable s m s' m' := by
  have hsame : (s.name = s'.name ∧ m.name = m'.name) ↔ s = s' ∧ m = m' := by
    constructor
    · rintro ⟨hservice, hmethod⟩
      exact hd.method_unique hs hm hs' hm' hservice hmethod
    · rintro ⟨rfl, rfl⟩
      exact ⟨rfl, rfl⟩
  rw [append_separator_eq_iff, hsame, Confusable]

/-- The operation of a route is named after the method of the route. -/
theorem Design.names_of_mem_routes {e : RouteEntry} (he : e ∈ d.routes) :
    d.Names e.operationId e.service e.method := by
  obtain ⟨hservice, hmethod, -⟩ := (d.mem_routes_iff e).1 he
  exact ⟨hservice, hmethod, rfl⟩

theorem Design.WellFormed.identifies (hd : d.WellFormed) {id : String} (h : d.Names id s m) :
    d.Identifies id s m := by
  refine ⟨h, fun s' m' h' => ?_⟩
  rw [← hd.id_eq_iff h.service h.method h'.service h'.method, h.id_eq, h'.id_eq]

/-- The operation ids that an error tells. -/
def CompileError.operationIds : CompileError → List String
  | .conflictingRoute _ _ first second => [first, second]
  | .unknownScheme operation _ => [operation]

namespace OpenApi

variable {locale : String} {doc : Document}

/-! ### Operations and errors -/

/-- The ids that an error tells are those of routes. -/
theorem exists_route_of_error {err : CompileError} (h : assemble d locale = .error err)
    {id : String} (hid : id ∈ err.operationIds) : ∃ e ∈ d.routes, e.operationId = id := by
  obtain ⟨earlier, e, hfirst, hreport⟩ := (assemble_eq_error_iff_reports err).1 h
  obtain ⟨later, hsplit⟩ := hfirst.split
  have he : e ∈ d.routes := by
    rw [hsplit]
    simp
  cases hreport with
  | @conflict f hf same =>
    have hf : f ∈ d.routes := by
      rw [hsplit]
      exact List.mem_append_left _ hf
    rcases List.mem_pair.1 hid with rfl | rfl
    · exact ⟨f, hf, rfl⟩
    · exact ⟨e, he, rfl⟩
  | unknown new first =>
    rw [List.mem_singleton.1 hid]
    exact ⟨e, he, rfl⟩

/-- **Operation ids name methods.**  In a design that a builder hands out, two methods come to one id
exactly if they are the same or if their names run together, which takes a separator in the name of
a service and in that of a method.  So two operations of a document have one id only if they come from
routes of one method, or of two that can be confused; and every id that an error tells names a method,
and no other that cannot be confused with it. -/
theorem operationIds_identify_methods (hd : d.Built) (locale : String) :
    (∀ s ∈ d.services, ∀ m ∈ s.methods, ∀ s' ∈ d.services, ∀ m' ∈ s'.methods,
      s.name ++ "#" ++ m.name = s'.name ++ "#" ++ m'.name ↔
        (s = s' ∧ m = m') ∨ Confusable s m s' m') ∧
    (∀ s m s' m', Confusable s m s' m' →
      ('#' ∈ s'.name.toList ∧ '#' ∈ m.name.toList) ∨
        ('#' ∈ s.name.toList ∧ '#' ∈ m'.name.toList)) ∧
    (∀ doc, assemble d locale = .ok (some doc) → ∀ path verb o path' verb' o',
      doc.operation? path verb = some o → doc.operation? path' verb' = some o' →
        o.operationId = o'.operationId → ∃ e ∈ d.routes, ∃ e' ∈ d.routes,
          e.route = ⟨verb, path⟩ ∧ e'.route = ⟨verb', path'⟩ ∧
            ((e.service = e'.service ∧ e.method = e'.method) ∨
              Confusable e.service e.method e'.service e'.method)) ∧
    ∀ err, assemble d locale = .error err → ∀ id ∈ err.operationIds,
      ∃ s m, d.Identifies id s m := by
  refine ⟨fun s hs m hm s' hs' m' hm' => hd.wellFormed.id_eq_iff hs hm hs' hm',
    fun _ _ _ _ => Confusable.separator_mem, ?_, ?_⟩
  · intro doc h path verb o path' verb' o' ho ho' hid
    obtain ⟨e, he, hroute, rfl⟩ := exists_route_of_operation? h ho
    obtain ⟨e', he', hroute', rfl⟩ := exists_route_of_operation? h ho'
    have hname : d.Names e'.operationId e.service e.method := by
      have hid : e.operationId = e'.operationId := hid
      rw [← hid]
      exact Design.names_of_mem_routes he
    have hidentifies := hd.wellFormed.identifies hname
    exact ⟨e, he, e', he', hroute, hroute',
      hidentifies.2 _ _ (Design.names_of_mem_routes he')⟩
  · intro err h id hid
    obtain ⟨e, he, rfl⟩ := exists_route_of_error h hid
    exact ⟨e.service, e.method, hd.wellFormed.identifies (Design.names_of_mem_routes he)⟩

/-- The two routes of the list of items stand for one method. -/
theorem shop_list_identified :
    ∃ doc o o', assemble shop "en" = .ok (some doc) ∧ doc.operation? "/items" .get = some o ∧
      doc.operation? "/items" .head = some o' ∧ o.operationId = o'.operationId ∧
        ∃ e ∈ shop.routes, ∃ e' ∈ shop.routes, e.route = ⟨.get, "/items"⟩ ∧
          e'.route = ⟨.head, "/items"⟩ ∧ e.service = e'.service ∧ e.method = e'.method := by
  obtain ⟨doc, o, o', hdoc, ho, ho', hid⟩ : ∃ doc o o', assemble shop "en" = .ok (some doc) ∧
      doc.operation? "/items" .get = some o ∧ doc.operation? "/items" .head = some o' ∧
        o.operationId = o'.operationId := ⟨_, _, _, rfl, rfl, rfl, rfl⟩
  have hbuilt : shop.Built := ⟨"shop", shopDeclarations, rfl⟩
  have hplain : ∀ s ∈ shop.services, '#' ∉ s.name.toList := by decide +kernel
  obtain ⟨-, hseparator, hoperations, -⟩ := operationIds_identify_methods hbuilt "en"
  obtain ⟨e, he, e', he', hroute, hroute', hsame | hconfusable⟩ :=
    hoperations doc hdoc _ _ _ _ _ _ ho ho' hid
  · exact ⟨doc, o, o', hdoc, ho, ho', hid, e, he, e', he', hroute, hroute', hsame⟩
  · have hservice := ((shop.mem_routes_iff e).1 he).1
    have hservice' := ((shop.mem_routes_iff e').1 he').1
    rcases hseparator _ _ _ _ hconfusable with ⟨hmem, -⟩ | ⟨hmem, -⟩
    · exact absurd hmem (hplain _ hservice')
    · exact absurd hmem (hplain _ hservice)

/-- A market with two services whose names, and those of their methods, have separators. -/
def marketDeclarations : List Declaration :=
  [.service "shop" (.single (.method "cart#list" (.single (.route .get "/cart")))),
    .service "shop#cart" (.single (.method "list" (.single (.route .get "/items"))))]

/-- The design of the market. -/
def market : Design := ((Builder.start "market").declareAll marketDeclarations).design

/-- Two methods of different services come to one id. -/
theorem not_operationIds_unambiguous :
    ¬∀ d : Design, d.Built → ∀ locale doc, assemble d locale = .ok (some doc) →
      ∀ path verb o path' verb' o',
        doc.operation? path verb = some o → doc.operation? path' verb' = some o' →
          o.operationId = o'.operationId → ∃ e ∈ d.routes, ∃ e' ∈ d.routes,
            e.route = ⟨verb, path⟩ ∧ e'.route = ⟨verb', path'⟩ ∧
              e.service = e'.service ∧ e.method = e'.method := by
  intro h
  have hbuilt : market.Built := ⟨"market", marketDeclarations, rfl⟩
  obtain ⟨doc, o, o', hdoc, ho, ho', hid⟩ : ∃ doc o o', assemble market "en" = .ok (some doc) ∧
      doc.operation? "/cart" .get = some o ∧ doc.operation? "/items" .get = some o' ∧
        o.operationId = o'.operationId := ⟨_, _, _, rfl, rfl, rfl, by decide +kernel⟩
  obtain ⟨e, he, e', he', hroute, hroute', hservice, -⟩ :=
    h market hbuilt "en" doc hdoc _ _ _ _ _ _ ho ho' hid
  -- each of the two paths belongs to one service
  have hpaths : ∀ e ∈ market.routes, (e.route.path = "/cart" → e.service.name = "shop") ∧
      (e.route.path = "/items" → e.service.name = "shop#cart") := by decide +kernel
  have hname := (hpaths e he).1 (by rw [hroute])
  have hname' := (hpaths e' he').2 (by rw [hroute'])
  rw [hservice, hname'] at hname
  exact absurd hname (by decide)

end OpenApi

end ApiDesign
