import ApiDesign.Proofs.OpenApi.Components

/-!
# What depends on the locale

A design is assembled once for every locale.  The locale chooses among the translations of texts and
of examples, and nothing else hangs on it: the runs for two locales go the same way step by step and
come to the same error, or to documents that are equal up to these texts.

* `Document.eraseTexts` — a document without its texts; that there is a text stays;
* `addRoute_eraseTexts`, `addRoutes_eraseTexts` — the step and the run, for two locales side by
  side;
* `locale_changes_texts_only` — what that means for assembly, and `Document.AgreesWith`, what it
  means part by part.
-/

namespace ApiDesign.OpenApi

/-! ### Documents without their texts -/

/-- An optional text without its words. -/
def eraseText (text : Option String) : Option String := text.map fun _ => ""

def Info.eraseTexts (i : Info) : Info :=
  { i with title := "", description := eraseText i.description }

def ServerEntry.eraseTexts (s : ServerEntry) : ServerEntry :=
  { s with description := eraseText s.description }

def Parameter.eraseTexts (p : Parameter) : Parameter :=
  { p with description := eraseText p.description, example? := p.example?.map fun _ => .null }

def Operation.eraseTexts (o : Operation) : Operation :=
  { o with
    description := eraseText o.description
    parameters := o.parameters.map Parameter.eraseTexts }

def PathItem.eraseTexts (item : PathItem) : PathItem where
  get := item.get.map Operation.eraseTexts
  put := item.put.map Operation.eraseTexts
  post := item.post.map Operation.eraseTexts
  delete := item.delete.map Operation.eraseTexts
  options := item.options.map Operation.eraseTexts
  head := item.head.map Operation.eraseTexts
  patch := item.patch.map Operation.eraseTexts
  trace := item.trace.map Operation.eraseTexts

def SecuritySchemeObject.eraseTexts (s : SecuritySchemeObject) : SecuritySchemeObject :=
  { s with description := eraseText s.description }

/-- A document without the title and the descriptions, and with `null` for every example.  Where
there was a description or an example, there still is one. -/
def Document.eraseTexts (doc : Document) : Document :=
  { doc with
    info := doc.info.eraseTexts
    servers := doc.servers.map ServerEntry.eraseTexts
    paths := doc.paths.map PathItem.eraseTexts
    securitySchemes := doc.securitySchemes.map SecuritySchemeObject.eraseTexts }

theorem PathItem.operation?_eraseTexts (item : PathItem) (v : Verb) :
    item.eraseTexts.operation? v = (item.operation? v).map Operation.eraseTexts := by
  cases v <;> rfl

theorem PathItem.eraseTexts_set (item : PathItem) (v : Verb) (o : Operation) :
    (item.set v o).eraseTexts = item.eraseTexts.set v o.eraseTexts := by
  cases v <;> rfl

theorem Document.operation?_eraseTexts (doc : Document) (path : String) (v : Verb) :
    doc.eraseTexts.operation? path v = (doc.operation? path v).map Operation.eraseTexts := by
  show ((doc.paths.map PathItem.eraseTexts).get? path).bind _ = _
  rw [KeyMap.get?_map, operation?]
  cases doc.paths.get? path with
  | none => rfl
  | some item => exact item.operation?_eraseTexts v

/-! ### Two locales: the parts -/

variable (l₁ l₂ : String)

/-- There is a text for one locale exactly if there is one for the other. -/
theorem eraseText_localText (text : Option (Localized String)) :
    eraseText (localText text l₁) = eraseText (localText text l₂) := by
  cases text <;> rfl

theorem infoOf_eraseTexts (api : Api) :
    (infoOf api l₁).eraseTexts = (infoOf api l₂).eraseTexts := by
  simp only [infoOf, Info.eraseTexts, eraseText_localText l₁ l₂ api.description]

theorem serversOf_eraseTexts (api : Api) :
    (serversOf api l₁).map ServerEntry.eraseTexts
      = (serversOf api l₂).map ServerEntry.eraseTexts := by
  have hentry : ∀ (host : Host) (uri : String),
      (⟨uri, localText host.description l₁⟩ : ServerEntry).eraseTexts
        = (⟨uri, localText host.description l₂⟩ : ServerEntry).eraseTexts := by
    intro host uri
    simp only [ServerEntry.eraseTexts, eraseText_localText l₁ l₂ host.description]
  simp only [serversOf, List.map_flatMap, List.map_map, Function.comp_def, hentry]

theorem ofAttribute_eraseTexts (wildcards : List String) (a : Attribute) :
    (Parameter.ofAttribute wildcards l₁ a).eraseTexts
      = (Parameter.ofAttribute wildcards l₂ a).eraseTexts := by
  simp only [Parameter.ofAttribute, Parameter.eraseTexts, eraseText_localText l₁ l₂ a.description,
    Option.map_map, Function.comp_def]

theorem operationOf_eraseTexts (e : RouteEntry)
    (security : Option (List SecurityRequirementObject)) :
    (Assembly.operationOf e l₁ security).eraseTexts
      = (Assembly.operationOf e l₂ security).eraseTexts := by
  simp only [Assembly.operationOf, Operation.eraseTexts, classify, List.map_map, Function.comp_def,
    eraseText_localText l₁ l₂ e.method.description, ofAttribute_eraseTexts l₁ l₂]

/-- The text of a token scheme is put together of paragraphs.  Only the first is localized, and it
is there for one locale exactly if it is there for the other. -/
theorem eraseText_jwtDescription {first second : Option String}
    (h : eraseText first = eraseText second) (scheme : SecurityScheme) (required : NameSet) :
    eraseText (jwtDescription first scheme required)
      = eraseText (jwtDescription second scheme required) := by
  cases first with
  | none =>
    cases second with
    | none => rfl
    | some text => cases h
  | some text =>
    cases second with
    | none => cases h
    | some other => simp [jwtDescription, eraseText]

theorem renderScheme_eraseTexts (scheme : SecurityScheme) (required : NameSet) :
    (renderScheme scheme required l₁).map SecuritySchemeObject.eraseTexts
      = (renderScheme scheme required l₂).map SecuritySchemeObject.eraseTexts := by
  have htext := eraseText_localText l₁ l₂ scheme.description
  have hjwt := eraseText_jwtDescription htext scheme required
  unfold renderScheme
  cases scheme.kind with
  | none => rfl
  | jwt => simp only [Option.map_some, SecuritySchemeObject.eraseTexts, hjwt]
  | basic => simp only [Option.map_some, SecuritySchemeObject.eraseTexts, htext]
  | apiKey => simp only [Option.map_some, SecuritySchemeObject.eraseTexts, htext]
  | oauth2 => simp only [Option.map_some, SecuritySchemeObject.eraseTexts, htext]

/-! ### Two locales: the step and the run -/

/-- What the routes have become, without its texts. -/
def Assembly.eraseTexts (a : Assembly) : Assembly where
  paths := a.paths.map PathItem.eraseTexts
  referenced := a.referenced

theorem Assembly.operation?_eraseTexts (a : Assembly) (path : String) (v : Verb) :
    a.eraseTexts.operation? path v = (a.operation? path v).map Operation.eraseTexts := by
  show ((a.paths.map PathItem.eraseTexts).get? path).bind _ = _
  rw [KeyMap.get?_map, operation?]
  cases a.paths.get? path with
  | none => rfl
  | some item => exact item.operation?_eraseTexts v

/-- An operation is bound and then loses its texts, or the other way round. -/
theorem Assembly.eraseTexts_bind (a : Assembly) (referenced : Referenced) (path : String) (v : Verb)
    (o : Operation) :
    (Assembly.mk (a.bind path v o) referenced).eraseTexts
      = ⟨a.eraseTexts.bind path v o.eraseTexts, referenced⟩ := by
  have hpaths : (a.bind path v o).map PathItem.eraseTexts
      = a.eraseTexts.bind path v o.eraseTexts := by
    rw [bind, bind, KeyMap.map_insert, PathItem.eraseTexts_set]
    show _ = (a.paths.map PathItem.eraseTexts).insert path
      ((((a.paths.map PathItem.eraseTexts).get? path).getD .empty).set v o.eraseTexts)
    rw [KeyMap.get?_map]
    cases a.paths.get? path <;> rfl
  rw [eraseTexts, hpaths]

variable (d : Design) {a₁ a₂ : Assembly}

/-- From states that are equal without their texts, a route leads to such states again, or to the
same error. -/
theorem addRoute_eraseTexts (h : a₁.eraseTexts = a₂.eraseTexts) (e : RouteEntry) :
    (Assembly.addRoute d l₁ a₁ e).map Assembly.eraseTexts
      = (Assembly.addRoute d l₂ a₂ e).map Assembly.eraseTexts := by
  have hslot : (a₁.operation? e.route.path e.route.verb).map Operation.eraseTexts
      = (a₂.operation? e.route.path e.route.verb).map Operation.eraseTexts := by
    rw [← Assembly.operation?_eraseTexts, ← Assembly.operation?_eraseTexts, h]
  have hreferenced : a₁.referenced = a₂.referenced := by
    show a₁.eraseTexts.referenced = a₂.eraseTexts.referenced
    rw [h]
  unfold Assembly.addRoute
  cases h₁ : a₁.operation? e.route.path e.route.verb with
  | some first =>
    cases h₂ : a₂.operation? e.route.path e.route.verb with
    | none =>
      rw [h₁, h₂] at hslot
      cases hslot
    | some second =>
      -- the routes clash with the same operation, so the error names it in the same way
      rw [h₁, h₂] at hslot
      have hfirst : first.eraseTexts = second.eraseTexts := Option.some.inj hslot
      have hid : first.operationId = second.operationId := by
        show first.eraseTexts.operationId = second.eraseTexts.operationId
        rw [hfirst]
      simp only [hid]
  | none =>
    cases h₂ : a₂.operation? e.route.path e.route.verb with
    | some second =>
      rw [h₁, h₂] at hslot
      cases hslot
    | none =>
      simp only [hreferenced]
      cases renderSecurity (d.security.effective e.service.name e.method.name) d.schemes
        e.operationId a₂.referenced with
      | mk result referenced =>
      cases result with
      | error err => rfl
      | ok security =>
        simp only [Except.map, Assembly.eraseTexts_bind, h, operationOf_eraseTexts l₁ l₂]

theorem addRoutes_eraseTexts (h : a₁.eraseTexts = a₂.eraseTexts) (routes : List RouteEntry) :
    (Assembly.addRoutes d l₁ a₁ routes).map Assembly.eraseTexts
      = (Assembly.addRoutes d l₂ a₂ routes).map Assembly.eraseTexts := by
  unfold Assembly.addRoutes
  induction routes generalizing a₁ a₂ with
  | nil =>
    show Except.ok a₁.eraseTexts = Except.ok a₂.eraseTexts
    rw [h]
  | cons e routes ih =>
    rw [List.foldlM_cons, List.foldlM_cons]
    rcases cases_of_map_eq_map (addRoute_eraseTexts l₁ l₂ d h e) with
      ⟨err, h₁, h₂⟩ | ⟨b₁, b₂, h₁, h₂, hb⟩
    · rw [h₁, h₂]
      show Except.error err = Except.error err
      rfl
    · rw [h₁, h₂]
      exact ih hb

/-! ### Two locales: the document -/

theorem componentsOf_eraseTexts (registry : SchemeRegistry) (referenced : Referenced) :
    (componentsOf registry referenced l₁).map SecuritySchemeObject.eraseTexts
      = (componentsOf registry referenced l₂).map SecuritySchemeObject.eraseTexts := by
  refine KeyMap.ext_get? fun name => ?_
  rw [KeyMap.get?_map, KeyMap.get?_map, get?_componentsOf, get?_componentsOf]
  cases referenced.get? name with
  | none => rfl
  | some required =>
    show (componentOf registry l₁ name required).map _ = (componentOf registry l₂ name required).map _
    unfold componentOf
    cases registry.get? name with
    | none => rfl
    | some scheme => exact renderScheme_eraseTexts l₁ l₂ scheme required

theorem documentOf_eraseTexts (h : a₁.eraseTexts = a₂.eraseTexts) :
    (documentOf d l₁ a₁).eraseTexts = (documentOf d l₂ a₂).eraseTexts := by
  have hpaths : a₁.paths.map PathItem.eraseTexts = a₂.paths.map PathItem.eraseTexts :=
    congrArg Assembly.paths h
  have hreferenced : a₁.referenced = a₂.referenced := by
    show a₁.eraseTexts.referenced = a₂.eraseTexts.referenced
    rw [h]
  simp only [documentOf, Document.eraseTexts, infoOf_eraseTexts l₁ l₂, serversOf_eraseTexts l₁ l₂,
    hpaths, hreferenced, componentsOf_eraseTexts l₁ l₂]

theorem assemble_eraseTexts :
    (assemble d l₁).map (Option.map Document.eraseTexts)
      = (assemble d l₂).map (Option.map Document.eraseTexts) := by
  by_cases hnil : d.routes = []
  · rw [assemble_of_no_routes hnil, assemble_of_no_routes hnil]
  · have hstart : Assembly.empty.eraseTexts = Assembly.empty.eraseTexts := rfl
    have hrun := addRoutes_eraseTexts l₁ l₂ d hstart d.routes
    rw [assemble_of_routes hnil, assemble_of_routes hnil]
    rcases cases_of_map_eq_map hrun with ⟨err, h₁, h₂⟩ | ⟨a₁, a₂, h₁, h₂, ha⟩
    · rw [h₁, h₂]
      rfl
    · rw [h₁, h₂]
      exact congrArg (fun doc => Except.ok (some doc)) (documentOf_eraseTexts l₁ l₂ d ha)

/-! ### Documents that agree up to their texts -/

/-- Parameters that differ at most in their descriptions and examples. -/
structure Parameter.AgreesWith (p q : Parameter) : Prop where
  location : p.location = q.location
  name : p.name = q.name
  required : p.required = q.required
  explode : p.explode = q.explode
  schema : p.schema = q.schema
  description : p.description.isSome = q.description.isSome
  example? : p.example?.isSome = q.example?.isSome

/-- Operations that differ at most in their texts. -/
structure Operation.AgreesWith (o p : Operation) : Prop where
  operationId : o.operationId = p.operationId
  security : o.security = p.security
  parameters : List.Forall₂ Parameter.AgreesWith o.parameters p.parameters
  responses : o.responses = p.responses
  description : o.description.isSome = p.description.isSome

/-- Components that differ at most in their descriptions. -/
structure SecuritySchemeObject.AgreesWith (s t : SecuritySchemeObject) : Prop where
  type : s.type = t.type
  scheme : s.scheme = t.scheme
  bearerFormat : s.bearerFormat = t.bearerFormat
  location : s.location = t.location
  name : s.name = t.name
  flows : s.flows = t.flows
  description : s.description.isSome = t.description.isSome

/-- Documents that have the same paths, verbs and components, with operations and components that
differ at most in their texts. -/
structure Document.AgreesWith (a b : Document) : Prop where
  paths : a.paths.keys = b.paths.keys
  operations : ∀ path verb,
    Option.Rel Operation.AgreesWith (a.operation? path verb) (b.operation? path verb)
  componentKeys : a.securitySchemes.keys = b.securitySchemes.keys
  components : ∀ name, Option.Rel SecuritySchemeObject.AgreesWith
    (a.securitySchemes.get? name) (b.securitySchemes.get? name)
  servers : List.Forall₂ (fun s t => s.url = t.url ∧ s.description.isSome = t.description.isSome)
    a.servers b.servers
  description : a.info.description.isSome = b.info.description.isSome

theorem isSome_eq_of_eraseText_eq {s t : Option String} (h : eraseText s = eraseText t) :
    s.isSome = t.isSome := by
  have hsome := congrArg Option.isSome h
  rwa [eraseText, eraseText, Option.isSome_map, Option.isSome_map] at hsome

theorem Parameter.agreesWith_of_eraseTexts_eq {p q : Parameter}
    (h : p.eraseTexts = q.eraseTexts) : p.AgreesWith q := by
  simp only [eraseTexts, mk.injEq] at h
  obtain ⟨location, name, description, required, explode, schema, hexample⟩ := h
  refine ⟨location, name, required, explode, schema, isSome_eq_of_eraseText_eq description, ?_⟩
  have hsome := congrArg Option.isSome hexample
  rwa [Option.isSome_map, Option.isSome_map] at hsome

theorem Operation.agreesWith_of_eraseTexts_eq {o p : Operation}
    (h : o.eraseTexts = p.eraseTexts) : o.AgreesWith p := by
  simp only [eraseTexts, mk.injEq] at h
  obtain ⟨operationId, description, parameters, responses, security⟩ := h
  exact ⟨operationId, security,
    forall₂_of_map_eq_map (fun _ _ => Parameter.agreesWith_of_eraseTexts_eq) parameters, responses,
    isSome_eq_of_eraseText_eq description⟩

theorem SecuritySchemeObject.agreesWith_of_eraseTexts_eq {s t : SecuritySchemeObject}
    (h : s.eraseTexts = t.eraseTexts) : s.AgreesWith t := by
  simp only [eraseTexts, mk.injEq] at h
  obtain ⟨type, description, scheme, bearerFormat, location, name, flows⟩ := h
  exact ⟨type, scheme, bearerFormat, location, name, flows, isSome_eq_of_eraseText_eq description⟩

/-- What is left of a document without its texts decides all the rest. -/
theorem Document.agreesWith_of_eraseTexts_eq {a b : Document} (h : a.eraseTexts = b.eraseTexts) :
    a.AgreesWith b where
  paths := by
    have hkeys := congrArg (fun doc => doc.paths.keys) h
    simpa only [eraseTexts, KeyMap.keys_map] using hkeys
  operations := by
    intro path verb
    have hslot := congrArg (fun doc => doc.operation? path verb) h
    rw [operation?_eraseTexts, operation?_eraseTexts] at hslot
    exact rel_of_map_eq_map (fun _ _ => Operation.agreesWith_of_eraseTexts_eq) hslot
  componentKeys := by
    have hkeys := congrArg (fun doc => doc.securitySchemes.keys) h
    simpa only [eraseTexts, KeyMap.keys_map] using hkeys
  components := by
    intro name
    have hcomponent := congrArg (fun doc => doc.securitySchemes.get? name) h
    simp only [eraseTexts, KeyMap.get?_map] at hcomponent
    exact rel_of_map_eq_map (fun _ _ => SecuritySchemeObject.agreesWith_of_eraseTexts_eq)
      hcomponent
  servers := by
    refine forall₂_of_map_eq_map (fun s t hst => ?_) (congrArg servers h)
    simp only [ServerEntry.eraseTexts, ServerEntry.mk.injEq] at hst
    exact ⟨hst.1, isSome_eq_of_eraseText_eq hst.2⟩
  description := isSome_eq_of_eraseText_eq (congrArg (fun doc => doc.info.description) h)

/-- **The locale only changes texts.**  For two locales, a design has no document, or the same
error, or two documents that are equal without their texts; these have the same paths, verbs and
components, and their operations, parameters and components differ at most in texts that are there
for both. -/
theorem locale_changes_texts_only (d : Design) (l₁ l₂ : String) :
    (assemble d l₁ = .ok none ∧ assemble d l₂ = .ok none) ∨
    (∃ err, assemble d l₁ = .error err ∧ assemble d l₂ = .error err) ∨
    ∃ doc₁ doc₂, assemble d l₁ = .ok (some doc₁) ∧ assemble d l₂ = .ok (some doc₂) ∧
      doc₁.eraseTexts = doc₂.eraseTexts ∧ doc₁.AgreesWith doc₂ := by
  rcases cases_of_map_eq_map (assemble_eraseTexts l₁ l₂ d) with
    ⟨err, h₁, h₂⟩ | ⟨result₁, result₂, h₁, h₂, hresult⟩
  · exact .inr (.inl ⟨err, h₁, h₂⟩)
  · cases rel_of_map_eq_map (fun _ _ => id) hresult with
    | none => exact .inl ⟨h₁, h₂⟩
    | some hdoc =>
      exact .inr (.inr ⟨_, _, h₁, h₂, hdoc, Document.agreesWith_of_eraseTexts_eq hdoc⟩)

end ApiDesign.OpenApi
