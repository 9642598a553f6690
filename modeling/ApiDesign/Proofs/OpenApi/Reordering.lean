import ApiDesign.Proofs.Builder.Reordering
import ApiDesign.Proofs.OpenApi.Likeness
import ApiDesign.Proofs.OpenApi.Outcome

/-!
# The document of a reordered design

Routes become operations one after the other, and the first conflict ends the run.  Nothing else
hangs on the order: an operation is made of what stands at its own route (`RouteSite`), and the sites
of a reordered design are a permutation of those of the design.  So both assemblies fail or none does,
and the documents have the same look-ups.

* `Design.Reordered.sites_perm` — the sites in another order;
* `Design.Reordered.operationAt_eq` — the same operation at every site;
* `Design.Reordered.paths_eq`, `securitySchemes_eq` — the parts of the document that are collected;
* `assemble_reordered` — the same outcome and the same document.
-/

namespace ApiDesign

open OpenApi

/-! ### Sites -/

/-- What a route becomes an operation from: its method and its service without their other parts. -/
structure RouteSite where
  service : String
  method : String
  description : Option (Localized String)
  attributes : List Attribute
  route : Route

/-- The site of a route. -/
def RouteEntry.site (e : RouteEntry) : RouteSite :=
  ⟨e.service.name, e.method.name, e.method.description, e.method.payloadAttributes, e.route⟩

/-- The sites of the routes of a service. -/
def Service.sites (s : Service) : List RouteSite :=
  s.methods.flatMap fun m => m.routes.map fun r => RouteEntry.site ⟨s, m, r⟩

/-- The sites of all routes, in declaration order. -/
def Design.sites (d : Design) : List RouteSite := d.routes.map (·.site)

/-- The operation at a site. -/
def Design.operationAt (d : Design) (locale : String) (x : RouteSite) : Operation where
  operationId := x.service ++ "#" ++ x.method
  description := localText x.description locale
  parameters := classify x.attributes x.route.path locale
  security := d.securityOf x.service x.method

theorem Design.sites_eq (d : Design) : d.sites = d.services.flatMap (·.sites) := by
  rw [sites, routes, List.map_flatMap]
  refine List.flatMap_congr fun s _ => ?_
  rw [Service.sites, List.map_flatMap]
  refine List.flatMap_congr fun m _ => ?_
  rw [List.map_map]
  rfl

theorem Design.map_route_sites (d : Design) : d.sites.map (·.route) = d.routes.map (·.route) := by
  rw [sites, List.map_map]
  rfl

theorem Design.sites_eq_nil_iff (d : Design) : d.sites = [] ↔ d.routes = [] :=
  List.map_eq_nil_iff

/-- The paths hold the operations of the sites. -/
theorem OpenApi.Assembly.Holds.operation?_eq {d : Design} {locale : String} {a : Assembly}
    (ha : a.Holds d locale d.routes) (path : String) (verb : Verb) :
    a.operation? path verb =
      (d.sites.find? fun x => x.route = ⟨verb, path⟩).map (d.operationAt locale) := by
  rw [ha.operations, Design.sites, List.find?_map, Option.map_map]
  rfl

/-- The uses of schemes by the routes are those at their sites. -/
theorem Design.flatMap_usesAt (d : Design) :
    d.routes.flatMap (usesAt d) =
      d.sites.flatMap fun x => usesOf (d.security.inForce x.service x.method) := by
  rw [sites, List.flatMap_map]
  rfl

/-! ### Documents with the same look-ups -/

namespace OpenApi

theorem PathItem.ext_operation? {item item' : PathItem}
    (h : ∀ verb, item.operation? verb = item'.operation? verb) : item = item' := by
  cases item
  cases item'
  congr 1
  · exact h .get
  · exact h .put
  · exact h .post
  · exact h .delete
  · exact h .options
  · exact h .head
  · exact h .patch
  · exact h .trace

namespace Assembly

variable {a b : Assembly}

/-- An item with operations is found where the same operations are found. -/
theorem get?_of_operation?_eq
    (ha : ∀ path item, a.paths.get? path = some item → ∃ verb, (item.operation? verb).isSome = true)
    (h : ∀ path verb, a.operation? path verb = b.operation? path verb) {path : String}
    {item : PathItem} (hitem : a.paths.get? path = some item) : b.paths.get? path = some item := by
  have hslots : ∀ verb, item.operation? verb = b.operation? path verb := by
    intro verb
    rw [← h, operation?, hitem]
    rfl
  obtain ⟨verb, hsome⟩ := ha path item hitem
  cases hget : b.paths.get? path with
  | none =>
    rw [hslots, operation?, hget] at hsome
    cases hsome
  | some item' =>
    refine congrArg some (PathItem.ext_operation? fun v => ?_)
    rw [hslots, operation?, hget]
    rfl

/-- Paths without empty items are told by their operations. -/
theorem paths_eq_of_operation?_eq
    (ha : ∀ path item, a.paths.get? path = some item → ∃ verb, (item.operation? verb).isSome = true)
    (hb : ∀ path item, b.paths.get? path = some item → ∃ verb, (item.operation? verb).isSome = true)
    (h : ∀ path verb, a.operation? path verb = b.operation? path verb) : a.paths = b.paths := by
  refine KeyMap.ext_get? fun path => Option.ext fun item => ?_
  constructor
  · exact get?_of_operation?_eq ha h
  · exact get?_of_operation?_eq hb fun path verb => (h path verb).symm

end Assembly

theorem objectOf_congr {registry registry' : SchemeRegistry}
    (hget : ∀ name, registry'.get? name = registry.get? name) (r : Requirement) :
    objectOf registry' r = objectOf registry r := by
  have hscopes : scopesUnder registry' r = scopesUnder registry r := by
    funext name
    rw [scopesUnder, scopesUnder, hget]
  rw [objectOf, objectOf, hscopes]

theorem SchemeUse.scopes_congr {registry registry' : SchemeRegistry}
    (hget : ∀ name, registry'.get? name = registry.get? name) (u : SchemeUse) :
    u.scopes registry' = u.scopes registry := by
  rw [scopes, scopes, hget]

end OpenApi

/-! ### What does not hang on the order -/

namespace SecurityRequirements.SameAtNodes

variable {s t : SecurityRequirements} (h : s.SameAtNodes t)
include h

theorem requirementsAt_eq (target : Target) : t.requirementsAt target = s.requirementsAt target := by
  cases target with
  | api => exact h.api
  | service service => exact h.services service
  | method service method => exact congrArg (List.filterMap _) (h.methods service method)
  | top => rfl
  | type name => rfl

theorem mostSpecific_eq (service method : String) :
    t.mostSpecific service method = s.mostSpecific service method := by
  rw [mostSpecific, mostSpecific, h.requirementsAt_eq, h.requirementsAt_eq, h.requirementsAt_eq]

theorem inForce_eq (service method : String) :
    t.inForce service method = s.inForce service method := by
  rw [inForce, inForce, h.methods, h.mostSpecific_eq]

end SecurityRequirements.SameAtNodes

theorem Service.Reordered.sites_perm {s t : Service} (h : s.Reordered t) : s.sites.Perm t.sites := by
  refine h.methods.flatMap_perm fun m n hmn => ?_
  have hsite : ∀ r, RouteEntry.site ⟨t, n, r⟩ = RouteEntry.site ⟨s, m, r⟩ := by
    intro r
    rw [h.same, hmn.same]
    rfl
  simp only [hsite]
  exact hmn.routes.map _

namespace Design.Reordered

variable {d d' : Design} (h : d.Reordered d')
include h

/-- **The sites are permuted**, whatever was permuted at the three levels above them. -/
theorem sites_perm : d.sites.Perm d'.sites := by
  rw [Design.sites_eq, Design.sites_eq]
  exact h.services.flatMap_perm fun _ _ hs => hs.sites_perm

variable (hd : d.WellFormed)
include hd

theorem securityOf_eq (service method : String) :
    d'.securityOf service method = d.securityOf service method := by
  have hobject : objectOf d'.schemes = objectOf d.schemes :=
    funext fun r => objectOf_congr (h.get?_eq hd) r
  rw [securityOf, securityOf, h.security.methods, h.security.mostSpecific_eq, hobject]

theorem operationAt_eq (locale : String) : d'.operationAt locale = d.operationAt locale := by
  funext x
  rw [operationAt, operationAt, h.securityOf_eq hd]

/-- The paths of the two documents are the same. -/
theorem paths_eq {locale : String} {a a' : Assembly} (hnodup : (d.routes.map (·.route)).Nodup)
    (ha : a.Holds d locale d.routes) (ha' : a'.Holds d' locale d'.routes) :
    a'.paths = a.paths := by
  have hsites : (d.sites.map (·.route)).Nodup := d.map_route_sites ▸ hnodup
  refine Assembly.paths_eq_of_operation?_eq ha'.inhabited ha.inhabited fun path verb => ?_
  rw [ha.operation?_eq, ha'.operation?_eq, h.operationAt_eq hd,
    find?_key_perm h.sites_perm hsites]

/-- The components of the two documents are the same. -/
theorem securitySchemes_eq {locale : String} {doc doc' : Document}
    (hdoc : assemble d locale = .ok (some doc)) (hdoc' : assemble d' locale = .ok (some doc')) :
    doc'.securitySchemes = doc.securitySchemes := by
  have huses : (d.routes.flatMap (usesAt d)).Perm (d'.routes.flatMap (usesAt d')) := by
    rw [d.flatMap_usesAt, d'.flatMap_usesAt]
    simp only [h.security.inForce_eq]
    exact h.sites_perm.flatMap_right _
  rw [securitySchemes_of_assemble hdoc, securitySchemes_of_assemble hdoc',
    componentsOf_alike fun name _ => AlikeAt.of_get?_eq (h.get?_eq hd name),
    Referenced.addUses_perm huses fun u => u.scopes_congr (h.get?_eq hd)]

theorem document_eq {locale : String} {doc doc' : Document}
    (hdoc : assemble d locale = .ok (some doc)) (hdoc' : assemble d' locale = .ok (some doc')) :
    doc' = doc := by
  have hschemes := h.securitySchemes_eq hd hdoc hdoc'
  obtain ⟨hfaultless, a, ha, rfl⟩ := holds_of_assemble hdoc
  obtain ⟨-, a', ha', rfl⟩ := holds_of_assemble hdoc'
  have hpaths := h.paths_eq hd hfaultless.nodup ha ha'
  change componentsOf d'.schemes a'.referenced locale = componentsOf d.schemes a.referenced locale
    at hschemes
  rw [documentOf, documentOf, h.api, hpaths, hschemes]

end Design.Reordered

/-! ### The outcome -/

namespace OpenApi

variable {d d' : Design} {locale : String}

theorem assemble_eq_ok_none_iff_sites : assemble d locale = .ok none ↔ d.sites = [] :=
  assemble_eq_ok_none_iff.trans d.sites_eq_nil_iff.symm

/-- Assembly conflicts exactly if two sites have the same route. -/
theorem conflicts_iff_sites (hd : d.WellFormed) :
    (∃ path verb first second,
        assemble d locale = .error (.conflictingRoute path verb first second)) ↔
      ¬(d.sites.map (·.route)).Nodup := by
  rw [d.map_route_sites]
  constructor
  · intro h
    obtain ⟨path, verb, first, second, hconflict⟩ := h
    exact (assemble_fails_iff_repeated hd).1 ⟨_, hconflict⟩
  · intro hrepeated
    obtain ⟨err, herr⟩ : ∃ err, assemble d locale = .error err :=
      (assemble_fails_iff_repeated hd).2 hrepeated
    cases err with
    | conflictingRoute path verb first second => exact ⟨path, verb, first, second, herr⟩
    | unknownScheme op name => exact absurd herr (assemble_ne_unknownScheme hd op name)

/-- Sites with different routes, of which there are some, make a document. -/
theorem exists_document_of_sites (hd : d.WellFormed) (hne : d.sites ≠ [])
    (hnodup : (d.sites.map (·.route)).Nodup) :
    ∃ doc, assemble d locale = .ok (some doc) := by
  rw [d.map_route_sites] at hnodup
  cases hassemble : assemble d locale with
  | error err => exact absurd hnodup ((assemble_fails_iff_repeated hd).1 ⟨err, hassemble⟩)
  | ok document =>
    cases document with
    | none => exact absurd (assemble_eq_ok_none_iff_sites.1 hassemble) hne
    | some doc => exact ⟨doc, rfl⟩

/-- **The order of independent parts does not matter.**  A design that a builder hands out and a
design with its services, methods, routes and schemes in another order both have no document, or both
have a conflict of routes, or have the same document. -/
theorem assemble_reordered (hd : d.Built) (h : d.Reordered d') (locale : String) :
    (assemble d locale = .ok none ∧ assemble d' locale = .ok none) ∨
    ((∃ path verb first second,
        assemble d locale = .error (.conflictingRoute path verb first second)) ∧
      ∃ path verb first second,
        assemble d' locale = .error (.conflictingRoute path verb first second)) ∨
    ∃ doc, assemble d locale = .ok (some doc) ∧ assemble d' locale = .ok (some doc) := by
  have hwell : d.WellFormed := hd.wellFormed
  have hwell' : d'.WellFormed := h.wellFormed hwell
  have hroutes : (d.sites.map (·.route)).Perm (d'.sites.map (·.route)) := h.sites_perm.map _
  -- the sites tell which case it is, and both designs have the same ones
  by_cases hnil : d.sites = []
  · have hnil' : d'.sites = [] := (hnil ▸ h.sites_perm).nil_eq.symm
    exact .inl ⟨assemble_eq_ok_none_iff_sites.2 hnil, assemble_eq_ok_none_iff_sites.2 hnil'⟩
  by_cases hnodup : (d.sites.map (·.route)).Nodup
  · have hnil' : d'.sites ≠ [] := fun hnil' => hnil (hnil' ▸ h.sites_perm).eq_nil
    obtain ⟨doc, hdoc⟩ : ∃ doc, assemble d locale = .ok (some doc) :=
      exists_document_of_sites hwell hnil hnodup
    obtain ⟨doc', hdoc'⟩ : ∃ doc', assemble d' locale = .ok (some doc') :=
      exists_document_of_sites hwell' hnil' (hroutes.nodup_iff.1 hnodup)
    have heq : doc' = doc := h.document_eq hwell hdoc hdoc'
    exact .inr (.inr ⟨doc, hdoc, heq ▸ hdoc'⟩)
  · have hnodup' : ¬(d'.sites.map (·.route)).Nodup := hroutes.nodup_iff.not.1 hnodup
    exact .inr (.inl ⟨(conflicts_iff_sites hwell).2 hnodup, (conflicts_iff_sites hwell').2 hnodup'⟩)

theorem assemble_shop_reversed :
    ∃ doc, assemble shop "en" = .ok (some doc) ∧ assemble shop.reversed "en" = .ok (some doc) := by
  have hbuilt : shop.Built := ⟨"shop", shopDeclarations, rfl⟩
  rcases assemble_reordered hbuilt shop.reordered_reversed "en" with ⟨hnone, -⟩ | ⟨hconflict, -⟩ | hdoc
  · cases hnone
  · obtain ⟨path, verb, first, second, hconflict⟩ := hconflict
    cases hconflict
  · exact hdoc

end OpenApi

end ApiDesign
