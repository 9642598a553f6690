import ApiDesign.Proofs.Builder.Runs
import ApiDesign.Proofs.OpenApi.Operations
import ApiDesign.Proofs.PathTemplate

/-!
# The parameters of an operation

The attributes of a payload that carry no credential become the parameters of an operation, one each.
Where a parameter stands hangs on its name and on the path: it is a path parameter exactly if the path
has a wildcard of its name.

* `distinctParameters_operationOf_iff`, `parameters_distinct_iff` — the parameters are told apart by
  name and location exactly if the attributes are told apart by name;
* `pathParameters_stand_in_path` — a path parameter is required, and its wildcard stands in the path
  of the operation.
-/

namespace ApiDesign

/-- The attributes of the payload that become parameters: those that carry no credential. -/
def Method.parameterAttributes (m : Method) : List Attribute :=
  m.payloadAttributes.filter (·.role.isNone)

namespace OpenApi

variable {d : Design} {locale : String} {doc : Document}

/-! ### Parameters and attributes -/

/-- The parameters of an operation are those of the attributes of its method. -/
theorem parameters_operationOf (d : Design) (locale : String) (e : RouteEntry) :
    (d.operationOf locale e).parameters = e.method.parameterAttributes.map
      (Parameter.ofAttribute (PathTemplate.wildcards e.route.path) locale) := rfl

/-- Attributes of the same name go to the same place. -/
theorem location_ofAttribute_eq (wildcards : List String) (locale : String) {a b : Attribute}
    (h : a.name = b.name) :
    (Parameter.ofAttribute wildcards locale a).location =
      (Parameter.ofAttribute wildcards locale b).location := by
  simp only [Parameter.ofAttribute, h]

/-- A path parameter is named after a wildcard, and required. -/
theorem ofAttribute_of_path {wildcards : List String} {locale : String} {a : Attribute}
    (h : (Parameter.ofAttribute wildcards locale a).location = .path) :
    a.name ∈ wildcards ∧ (Parameter.ofAttribute wildcards locale a).required = true := by
  have hmem : wildcards.contains a.name = true := by
    by_contra hnot
    simp only [Parameter.ofAttribute, if_neg hnot] at h
    cases h
  refine ⟨List.contains_iff_mem.1 hmem, ?_⟩
  show (wildcards.contains a.name || a.required) = true
  rw [hmem, Bool.true_or]

/-! ### Parameters that are told apart -/

/-- No two parameters have the same name and the same location. -/
def Operation.DistinctParameters (o : Operation) : Prop :=
  o.parameters.Pairwise fun p q => ¬(p.name = q.name ∧ p.location = q.location)

instance (o : Operation) : Decidable o.DistinctParameters :=
  inferInstanceAs (Decidable (o.parameters.Pairwise _))

/-- Since the location follows from the name, parameters clash exactly if their attributes have the
same name. -/
theorem distinctParameters_operationOf_iff (d : Design) (locale : String) (e : RouteEntry) :
    (d.operationOf locale e).DistinctParameters ↔
      (e.method.parameterAttributes.map (·.name)).Nodup := by
  have hclash : ∀ a b : Attribute,
      ¬(a.name = b.name ∧
        (Parameter.ofAttribute (PathTemplate.wildcards e.route.path) locale a).location =
          (Parameter.ofAttribute (PathTemplate.wildcards e.route.path) locale b).location) ↔
        a.name ≠ b.name := by
    intro a b
    exact not_congr (and_iff_left_of_imp (location_ofAttribute_eq _ locale))
  rw [Operation.DistinctParameters, parameters_operationOf, List.pairwise_map, List.Nodup,
    List.pairwise_map]
  exact List.Pairwise.iff hclash

/-- **Parameters are as distinct as attributes.**  In a document no operation has two parameters of
the same name and location exactly if, for every method with a route, the attributes of the payload
that carry no credential have different names. -/
theorem parameters_distinct_iff (h : assemble d locale = .ok (some doc)) :
    (∀ path verb o, doc.operation? path verb = some o → o.DistinctParameters) ↔
      ∀ e ∈ d.routes, (e.method.parameterAttributes.map (·.name)).Nodup := by
  constructor
  · intro hdistinct e he
    have ho := operation?_of_mem_routes h he
    exact (distinctParameters_operationOf_iff d locale e).1 (hdistinct _ _ _ ho)
  · intro hnames path verb o ho
    obtain ⟨e, he, -, rfl⟩ := exists_route_of_operation? h ho
    exact (distinctParameters_operationOf_iff d locale e).2 (hnames e he)

/-- A library in which a book is found by its shelf and a key; the name of the key is also that of a
credential. -/
def libraryDeclarations : List Declaration :=
  [.service "library" (.single (.method "find" (.all [
    .single (.payload [
      .add (.ofType "shelf" (.primitive .int)),
      .add (.ofType "key" (.primitive .string)),
      .add (Attribute.withRole (.ofType "key" (.primitive .string)) .token)]),
    .single (.route .get "/shelves/{shelf}")])))]

/-- The design of the library. -/
def library : Design := ((Builder.start "library").declareAll libraryDeclarations).design

/-- Of the two attributes of one name, only one becomes a parameter. -/
theorem library_parameters_distinct :
    ∃ doc, assemble library "en" = .ok (some doc) ∧
      ∀ path verb o, doc.operation? path verb = some o → o.DistinctParameters := by
  obtain ⟨doc, hdoc⟩ : ∃ doc, assemble library "en" = .ok (some doc) := ⟨_, rfl⟩
  exact ⟨doc, hdoc, (parameters_distinct_iff hdoc).2 (by decide)⟩

/-- A catalogue in which a search takes two attributes of one name. -/
def catalogueDeclarations : List Declaration :=
  [.service "catalogue" (.single (.method "search" (.all [
    .single (.payload [
      .add (.ofType "q" (.primitive .string)),
      .add (.ofType "q" (.primitive .int))]),
    .single (.route .get "/items")])))]

/-- The design of the catalogue. -/
def catalogue : Design := ((Builder.start "catalogue").declareAll catalogueDeclarations).design

/-- Attributes of one name are accepted, and both become query parameters of that name. -/
theorem not_parameters_distinct :
    ¬∀ d : Design, d.Built → ∀ locale doc, assemble d locale = .ok (some doc) →
      ∀ path verb o, doc.operation? path verb = some o → o.DistinctParameters := by
  intro h
  have hbuilt : catalogue.Built := ⟨"catalogue", catalogueDeclarations, rfl⟩
  obtain ⟨doc, o, hdoc, ho, hclash⟩ : ∃ doc o, assemble catalogue "en" = .ok (some doc) ∧
      doc.operation? "/items" .get = some o ∧ ¬o.DistinctParameters :=
    ⟨_, _, rfl, rfl, by decide⟩
  exact hclash (h catalogue hbuilt "en" doc hdoc "/items" .get o ho)

/-! ### Path parameters -/

/-- **Path parameters stand in the path.**  A path parameter is required, and a wildcard of its name
stands in the path of its operation: the name between braces, or, for a catch-all, the name after the
stars that mark it.  The name itself has neither braces nor stars. -/
theorem pathParameters_stand_in_path (hd : d.Built) (h : assemble d locale = .ok (some doc))
    {path : String} {verb : Verb} {o : Operation} (ho : doc.operation? path verb = some o)
    {p : Parameter} (hp : p ∈ o.parameters) (hlocation : p.location = .path) :
    p.required = true ∧ (∀ c ∈ p.name.toList, c ≠ '{' ∧ c ≠ '}' ∧ c ≠ '*') ∧
      (PathTemplate.HasWildcard path 0 p.name ∨
        ∃ stars, PathTemplate.HasWildcard path (stars + 1) p.name) := by
  obtain ⟨e, he, hroute, rfl⟩ := exists_route_of_operation? h ho
  rw [parameters_operationOf, hroute] at hp
  obtain ⟨a, -, rfl⟩ := List.mem_map.1 hp
  obtain ⟨hname, hrequired⟩ := ofAttribute_of_path hlocation
  -- the path of the operation is that of a declared route, which was checked when it was declared
  have hcheck : PathTemplate.check path = .ok () := by
    obtain ⟨hservice, hmethod, hmem⟩ := (d.mem_routes_iff e).1 he
    have hvalid := ((hd.wellFormed.services _ hservice).methods _ hmethod).routes _ hmem
    rwa [hroute] at hvalid
  obtain ⟨hchars, stars, hwildcard⟩ := PathTemplate.hasWildcard_of_mem_wildcards hcheck hname
  refine ⟨hrequired, fun c hc => PathTemplate.isNameChar_ne (hchars c hc), ?_⟩
  cases stars with
  | zero => exact .inl hwildcard
  | succ stars => exact .inr ⟨stars, hwildcard⟩

/-- A drive whose files are read by a path of any depth. -/
def driveDeclarations : List Declaration :=
  [.service "drive" (.single (.method "read" (.all [
    .single (.payload [
      .add (.ofType "owner" (.primitive .string)),
      .add (.ofType "path" (.primitive .string)),
      .add (.ofType "lines" (.primitive .int))]),
    .single (.route .get "/drives/{owner}/{*path}")])))]

/-- The design of the drive. -/
def drive : Design := ((Builder.start "drive").declareAll driveDeclarations).design

theorem drive_built : drive.Built := ⟨"drive", driveDeclarations, rfl⟩

/-- Reading a file takes the path of the file as a path parameter. -/
theorem drive_path_parameter : ∃ doc o, assemble drive "en" = .ok (some doc) ∧
    doc.operation? "/drives/{owner}/{*path}" .get = some o ∧
      ∃ p ∈ o.parameters, p.name = "path" ∧ p.location = .path :=
  ⟨_, _, rfl, rfl, _, List.mem_cons_of_mem _ List.mem_cons_self, rfl, by decide⟩

/-- The catch-all has a star in the path. -/
theorem drive_not_plain : ¬PathTemplate.HasWildcard "/drives/{owner}/{*path}" 0 "path" := by
  decide +kernel

/-- The path of the file is required, and its wildcard stands in the path of the operation. -/
theorem drive_path_stands_in_path :
    ∃ doc o, assemble drive "en" = .ok (some doc) ∧
      doc.operation? "/drives/{owner}/{*path}" .get = some o ∧
      ∃ p ∈ o.parameters, p.name = "path" ∧ p.required = true ∧
        ∃ stars, PathTemplate.HasWildcard "/drives/{owner}/{*path}" (stars + 1) p.name := by
  obtain ⟨doc, o, hdoc, ho, p, hp, hname, hlocation⟩ := drive_path_parameter
  obtain ⟨hrequired, -, hwildcard⟩ :=
    pathParameters_stand_in_path drive_built hdoc ho hp hlocation
  refine ⟨doc, o, hdoc, ho, p, hp, hname, hrequired, hwildcard.resolve_left ?_⟩
  rw [hname]
  exact drive_not_plain

/-- The name of the parameter does not stand in the path between braces, since its star does. -/
theorem not_pathParameters_stand_plainly :
    ¬∀ d : Design, d.Built → ∀ locale doc, assemble d locale = .ok (some doc) →
      ∀ path verb o, doc.operation? path verb = some o →
        ∀ p ∈ o.parameters, p.location = .path →
          p.required = true ∧ PathTemplate.HasWildcard path 0 p.name := by
  intro h
  obtain ⟨doc, o, hdoc, ho, p, hp, hname, hlocation⟩ := drive_path_parameter
  have hplain := (h drive drive_built "en" doc hdoc _ _ o ho p hp hlocation).2
  rw [hname] at hplain
  exact drive_not_plain hplain

end OpenApi

end ApiDesign
