import ApiDesign.OpenApi.Document
import ApiDesign.Proofs.Json.Equality

/-!
# Documents and their written forms

A document can be read off its written form.  Fields that are absent and lists and maps that are
empty are left out, but each only where nothing else is written in that place: an absent list of
requirements is left out and an empty one is not, so that the two stay apart.

* `Schema.NamesSatisfy` — a condition on the names of the properties, at every depth;
* `eq_of_toJson` for each part of a document — parts with equal written forms are equal;
* `Document.Ordered` — what a document lists in free order is in the order of the keys;
* `written_forms_tell_documents_apart` — nothing is lost, in the order of the text and without it.
-/

namespace ApiDesign

open Json (Equality)

variable {E : Json → Json → Prop} {Listed : List String → Prop}

/-! ### Schemas -/

namespace Schema

/-- Induction over schemas: those of the items and of the properties come first. -/
@[elab_as_elim]
theorem induction {motive : Schema → Prop}
    (schema : ∀ s : Schema, (∀ t ∈ s.items, motive t) → (∀ e ∈ s.properties, motive e.2) → motive s)
    (s : Schema) : motive s :=
  @Schema.rec motive (fun items => ∀ t ∈ items, motive t)
    (fun properties => ∀ e ∈ properties, motive e.2) (fun e => motive e.2)
    (fun type format items properties required hitems hproperties =>
      schema ⟨type, format, items, properties, required⟩ hitems hproperties)
    (fun _ h => by cases h) (fun _ hs _ ht => by cases ht; exact hs)
    (fun _ h => absurd h List.not_mem_nil)
    (fun _ _ he hes => List.forall_mem_cons.2 ⟨he, hes⟩) (fun _ _ hs => hs) s

/-- The names of the properties are as asked for, here and in every schema inside. -/
inductive NamesSatisfy (Listed : List String → Prop) : Schema → Prop where
  | intro {s : Schema} (names : Listed (s.properties.map Prod.fst))
      (items : ∀ t ∈ s.items, t.NamesSatisfy Listed)
      (properties : ∀ e ∈ s.properties, e.2.NamesSatisfy Listed) : s.NamesSatisfy Listed

theorem namesSatisfy_true (s : Schema) : s.NamesSatisfy fun _ => True := by
  induction s using Schema.induction with
  | schema s hitems hproperties => exact .intro trivial hitems hproperties

theorem itemsJson_eq_map (items : Option Schema) : itemsJson items = items.map toJson := by
  cases items <;> rfl

theorem propertiesJson_eq_map (properties : List (String × Schema)) :
    propertiesJson properties = properties.map fun e => (e.1, e.2.toJson) := by
  induction properties with
  | nil => rfl
  | cons e properties ih => rw [propertiesJson, ih, List.map_cons]

theorem eq_of_toJson (hE : Equality E Listed) (s : Schema) : ∀ t : Schema, s.NamesSatisfy Listed →
    t.NamesSatisfy Listed → E s.toJson t.toJson → s = t := by
  induction s using Schema.induction with
  | schema s hitems hproperties =>
    intro t ⟨hsnames, hsitems, hsproperties⟩ ⟨htnames, htitems, htproperties⟩ h
    obtain ⟨type, format, items, properties, required⟩ := s
    obtain ⟨type', format', items', properties', required'⟩ := t
    rw [toJson, toJson] at h
    have hfields := hE.fields h rfl (by simp)
    simp only [List.forall₂_cons, itemsJson_eq_map, propertiesJson_eq_map] at hfields
    obtain ⟨htype, hformat, hitem, hproperty, hrequired, -⟩ := hfields
    rw [Schema.mk.injEq]
    refine ⟨hE.eq_of_text? htype, hE.eq_of_text? hformat, ?_, ?_, ?_⟩
    · refine Json.eq_of_map (fun a ha b hb hab => ?_) hitem
      exact hitems a ha b (hsitems a ha) (htitems b hb) hab
    · refine Json.eq_of_unlessEmpty (g := fun es => .obj (es.map fun e => (e.1, e.2.toJson)))
        (hE.eq_of_obj hsnames htnames ?_) hproperty
      exact fun e he d hd hed => hproperties e he d.2 (hsproperties e he) (htproperties d hd) hed
    · exact Json.eq_of_unlessEmpty hE.eq_of_texts hrequired

end Schema

namespace OpenApi

/-! ### General information -/

theorem eq_of_contactJson (hE : Equality E Listed) {c d : Contact}
    (h : E (contactJson c) (contactJson d)) : c = d := by
  have hfields := hE.fields h rfl (by simp)
  simp only [List.forall₂_cons] at hfields
  obtain ⟨hname, hurl, hemail, -⟩ := hfields
  cases c
  cases d
  rw [Contact.mk.injEq]
  exact ⟨hE.eq_of_text? hname, hE.eq_of_text? hurl, hE.eq_of_text? hemail⟩

theorem eq_of_licenseJson (hE : Equality E Listed) {l m : License}
    (h : E (licenseJson l) (licenseJson m)) : l = m := by
  have hfields := hE.fields h rfl (by simp)
  simp only [List.forall₂_cons] at hfields
  obtain ⟨hname, hurl, -⟩ := hfields
  cases l
  cases m
  rw [License.mk.injEq]
  exact ⟨hE.eq_of_text? hname, hE.eq_of_text? hurl⟩

theorem Info.eq_of_toJson (hE : Equality E Listed) {i j : Info}
    (h : E i.toJson j.toJson) : i = j := by
  have hfields := hE.fields h rfl (by simp)
  simp only [List.forall₂_cons] at hfields
  obtain ⟨htitle, hdescription, hterms, hcontact, hlicense, hversion, -⟩ := hfields
  cases i
  cases j
  rw [Info.mk.injEq]
  exact ⟨hE.eq_of_text htitle, hE.eq_of_text? hdescription, hE.eq_of_text? hterms,
    Json.eq_of_map (fun _ _ _ _ => eq_of_contactJson hE) hcontact,
    Json.eq_of_map (fun _ _ _ _ => eq_of_licenseJson hE) hlicense, hE.eq_of_text hversion⟩

theorem ServerEntry.eq_of_toJson (hE : Equality E Listed) {s t : ServerEntry}
    (h : E s.toJson t.toJson) : s = t := by
  have hfields := hE.fields h rfl (by simp)
  simp only [List.forall₂_cons] at hfields
  obtain ⟨hurl, hdescription, -⟩ := hfields
  cases s
  cases t
  rw [ServerEntry.mk.injEq]
  exact ⟨hE.eq_of_text hurl, hE.eq_of_text? hdescription⟩

/-! ### Operations -/

section Operations

variable {V : Json → Prop}

/-- The names of properties are as asked for in the schema of the parameter, and its example is. -/
structure Parameter.Carries (Listed : List String → Prop) (V : Json → Prop) (p : Parameter) :
    Prop where
  schema : p.schema.NamesSatisfy Listed
  value : ∀ v ∈ p.example?, V v

/-- The same for every parameter of the operation and for its responses. -/
structure Operation.Carries (Listed : List String → Prop) (V : Json → Prop) (o : Operation) :
    Prop where
  parameters : ∀ p ∈ o.parameters, p.Carries Listed V
  responses : ∀ e ∈ o.responses.entries, V e.2

/-- The same for every operation of the path. -/
def PathItem.Carries (Listed : List String → Prop) (V : Json → Prop) (item : PathItem) : Prop :=
  ∀ verb, ∀ o ∈ item.operation? verb, o.Carries Listed V

theorem ParameterLocation.eq_of_name {l m : ParameterLocation} (h : l.name = m.name) : l = m := by
  cases l <;> cases m <;> first | rfl | exact absurd h (by decide)

theorem Parameter.eq_of_toJson (hE : Equality E Listed) (hV : ∀ v w, V v → V w → E v w → v = w)
    {p q : Parameter} (hp : p.Carries Listed V) (hq : q.Carries Listed V)
    (h : E p.toJson q.toJson) : p = q := by
  have hfields := hE.fields h rfl (by simp)
  simp only [List.forall₂_cons] at hfields
  obtain ⟨hlocation, hname, hdescription, hrequired, hexplode, hschema, hexample, -⟩ := hfields
  have hvalue : p.example? = q.example? := by
    have hmap : Option.Rel E (p.example?.map id) (q.example?.map id) := by
      rwa [Option.map_id, id_eq, id_eq]
    exact Json.eq_of_map (fun v hv w hw => hV v w (hp.value v hv) (hq.value w hw)) hmap
  have hschemas : p.schema = q.schema :=
    Schema.eq_of_toJson hE p.schema q.schema hp.schema hq.schema (Option.rel_some_some.1 hschema)
  cases p
  cases q
  rw [Parameter.mk.injEq]
  exact ⟨ParameterLocation.eq_of_name (hE.eq_of_text hlocation), hE.eq_of_text hname,
    hE.eq_of_text? hdescription, hE.bool (Option.rel_some_some.1 hrequired),
    Json.eq_of_map (fun _ _ _ _ => hE.bool) hexplode, hschemas, hvalue⟩

theorem eq_of_requirementJson (hE : Equality E Listed) {r s : SecurityRequirementObject}
    (h : E (requirementJson r) (requirementJson s)) : r = s :=
  hE.eq_of_entries (fun _ _ _ _ => hE.eq_of_texts) h

/-- An absent list of requirements is left out, and an empty one is written. -/
theorem eq_of_securityJson (hE : Equality E Listed)
    {x y : Option (List SecurityRequirementObject)}
    (h : Option.Rel E (x.map fun rs => .arr (rs.map requirementJson))
      (y.map fun rs => .arr (rs.map requirementJson))) : x = y :=
  Json.eq_of_map (fun _ _ _ _ => hE.eq_of_arr fun _ _ _ _ => eq_of_requirementJson hE) h

theorem Operation.eq_of_toJson (hE : Equality E Listed) (hV : ∀ v w, V v → V w → E v w → v = w)
    {o u : Operation} (ho : o.Carries Listed V) (hu : u.Carries Listed V)
    (h : E o.toJson u.toJson) : o = u := by
  have hfields := hE.fields h rfl (by simp)
  simp only [List.forall₂_cons] at hfields
  obtain ⟨hid, hdescription, hparameters, hresponses, hsecurity, -⟩ := hfields
  have hparameter : o.parameters = u.parameters := by
    refine Json.eq_of_unlessEmpty (g := fun ps => .arr (ps.map Parameter.toJson))
      (hE.eq_of_arr fun p hp q hq => ?_) hparameters
    exact Parameter.eq_of_toJson hE hV (ho.parameters p hp) (hu.parameters q hq)
  have hresponse : o.responses = u.responses := by
    refine hE.eq_of_entries (f := id)
      (fun e he d hd => hV e.2 d.2 (ho.responses e he) (hu.responses d hd)) ?_
    simpa [KeyMap.map] using hresponses
  cases o
  cases u
  rw [Operation.mk.injEq]
  exact ⟨hE.eq_of_text hid, hE.eq_of_text? hdescription, hparameter, hresponse,
    eq_of_securityJson hE hsecurity⟩

theorem PathItem.eq_of_toJson (hE : Equality E Listed) (hV : ∀ v w, V v → V w → E v w → v = w)
    {i j : PathItem} (hi : i.Carries Listed V) (hj : j.Carries Listed V)
    (h : E i.toJson j.toJson) : i = j := by
  have hfields := hE.fields h rfl (by simp)
  simp only [List.forall₂_cons] at hfields
  obtain ⟨hget, hput, hpost, hdelete, hoptions, hhead, hpatch, htrace, -⟩ := hfields
  have hslot (verb : Verb) (hverb : Option.Rel E ((i.operation? verb).map Operation.toJson)
      ((j.operation? verb).map Operation.toJson)) : i.operation? verb = j.operation? verb :=
    Json.eq_of_map
      (fun o ho u hu => Operation.eq_of_toJson hE hV (hi verb o ho) (hj verb u hu)) hverb
  cases i
  cases j
  rw [PathItem.mk.injEq]
  exact ⟨hslot .get hget, hslot .put hput, hslot .post hpost, hslot .delete hdelete,
    hslot .options hoptions, hslot .head hhead, hslot .patch hpatch, hslot .trace htrace⟩

end Operations

/-! ### Components -/

theorem OAuthFlow.eq_of_toJson (hE : Equality E Listed) {f g : OAuthFlow}
    (h : E f.toJson g.toJson) : f = g := by
  have hfields := hE.fields h rfl (by simp)
  simp only [List.forall₂_cons] at hfields
  obtain ⟨hauthorization, htoken, hrefresh, hscopes, -⟩ := hfields
  cases f
  cases g
  rw [OAuthFlow.mk.injEq]
  exact ⟨hE.eq_of_text? hauthorization, hE.eq_of_text? htoken, hE.eq_of_text? hrefresh,
    hE.eq_of_entries (fun _ _ _ _ => hE.str) (Option.rel_some_some.1 hscopes)⟩

theorem OAuthFlows.eq_of_toJson (hE : Equality E Listed) {fs gs : OAuthFlows}
    (h : E fs.toJson gs.toJson) : fs = gs := by
  have hfields := hE.fields h rfl (by simp)
  simp only [List.forall₂_cons] at hfields
  obtain ⟨himplicit, hpassword, hclient, hcode, -⟩ := hfields
  have hslot {x y : Option OAuthFlow}
      (hxy : Option.Rel E (x.map OAuthFlow.toJson) (y.map OAuthFlow.toJson)) : x = y :=
    Json.eq_of_map (fun _ _ _ _ => OAuthFlow.eq_of_toJson hE) hxy
  cases fs
  cases gs
  rw [OAuthFlows.mk.injEq]
  exact ⟨hslot himplicit, hslot hpassword, hslot hclient, hslot hcode⟩

theorem SecuritySchemeObject.eq_of_toJson (hE : Equality E Listed) {s t : SecuritySchemeObject}
    (h : E s.toJson t.toJson) : s = t := by
  have hfields := hE.fields h rfl (by simp)
  simp only [List.forall₂_cons] at hfields
  obtain ⟨htype, hdescription, hscheme, hformat, hlocation, hname, hflows, -⟩ := hfields
  cases s
  cases t
  rw [SecuritySchemeObject.mk.injEq]
  exact ⟨hE.eq_of_text htype, hE.eq_of_text? hdescription, hE.eq_of_text? hscheme,
    hE.eq_of_text? hformat, hE.eq_of_text? hlocation, hE.eq_of_text? hname,
    Json.eq_of_map (fun _ _ _ _ => OAuthFlows.eq_of_toJson hE) hflows⟩

/-! ### Documents -/

namespace Document

variable {V : Json → Prop}

/-- Components are left out if there are no schemes, and then nothing else stands in their place. -/
theorem eq_of_componentsJson (hE : Equality E Listed) {m n : KeyMap SecuritySchemeObject}
    (h : Option.Rel E (componentsJson m) (componentsJson n)) : m = n := by
  unfold componentsJson at h
  split at h
  · rename_i hm
    split at h
    · rename_i hn
      rw [KeyMap.eq_empty_of_isEmpty hm, KeyMap.eq_empty_of_isEmpty hn]
    · cases h
  · split at h
    · cases h
    · have hschemes := hE.lookup (by simp) (by simp) (Option.rel_some_some.1 h) "securitySchemes"
      exact hE.eq_of_entries (fun _ _ _ _ => SecuritySchemeObject.eq_of_toJson hE)
        (Option.rel_some_some.1 hschemes)

/-- The names of properties are as asked for in the schemas of the document, and so are the examples
and responses in it. -/
def Carries (Listed : List String → Prop) (V : Json → Prop) (d : Document) : Prop :=
  ∀ e ∈ d.paths.entries, e.2.Carries Listed V

theorem eq_of_toJson (hE : Equality E Listed) (hV : ∀ v w, V v → V w → E v w → v = w)
    {a b : Document} (ha : a.Carries Listed V) (hb : b.Carries Listed V)
    (h : E a.toJson b.toJson) : a = b := by
  have hfields := hE.fields h rfl (by simp)
  simp only [List.forall₂_cons] at hfields
  obtain ⟨hopenapi, hinfo, hservers, hpaths, hcomponents, -⟩ := hfields
  have hserver : a.servers = b.servers :=
    Json.eq_of_unlessEmpty (g := fun ss => .arr (ss.map ServerEntry.toJson))
      (hE.eq_of_arr fun _ _ _ _ => ServerEntry.eq_of_toJson hE) hservers
  have hpath : a.paths = b.paths :=
    hE.eq_of_entries (fun e he d hd => PathItem.eq_of_toJson hE hV (ha e he) (hb d hd))
      (Option.rel_some_some.1 hpaths)
  cases a
  cases b
  rw [Document.mk.injEq]
  exact ⟨hE.eq_of_text hopenapi, Info.eq_of_toJson hE (Option.rel_some_some.1 hinfo), hserver,
    hpath, eq_of_componentsJson hE hcomponents⟩

/-- What the document lists in free order is in the order of the keys: the properties of its
schemas, and the entries of the objects in its examples and responses. -/
def Ordered (d : Document) : Prop := d.Carries (fun keys => keys.Pairwise (· < ·)) Json.Ordered

end Document

/-- **The written forms tell documents apart.**  Different documents are written differently.  For
documents that list everything by keys this also holds if the order of entries is not looked at. -/
theorem written_forms_tell_documents_apart (a b : Document) :
    (a.toJson = b.toJson ↔ a = b) ∧
    (a.Ordered → b.Ordered → (a.toJson.sorted = b.toJson.sorted ↔ a = b)) := by
  constructor
  · have hcarries (d : Document) : d.Carries (fun _ => True) fun _ => True := by
      intro e _ verb o _
      exact ⟨fun p _ => ⟨p.schema.namesSatisfy_true, fun _ _ => trivial⟩, fun _ _ => trivial⟩
    constructor
    · exact Document.eq_of_toJson Json.equality_eq (fun _ _ _ _ h => h) (hcarries a) (hcarries b)
    · intro h
      rw [h]
  · intro ha hb
    constructor
    · refine Document.eq_of_toJson Json.equality_sorted ?_ ha hb
      intro v w hv hw h
      rwa [hv, hw] at h
    · intro h
      rw [h]

/-- A document with one operation, whose parameter has an example. -/
def pingDocument (security : Option (List SecurityRequirementObject)) : Document where
  openapi := Document.version
  info := ⟨"ping", none, none, none, none, "1"⟩
  servers := []
  paths := .ofList [("/ping", { PathItem.empty with
    get := some ⟨"ping", none, [⟨.query, "filter", none, false, none,
      ⟨some "object", none, none, [("a", .any), ("b", .any)], []⟩,
      some (.obj [("a", .int 1), ("b", .null)])⟩], .empty, security⟩ })]
  securitySchemes := .empty

theorem pingDocument_ordered (security : Option (List SecurityRequirementObject)) :
    (pingDocument security).Ordered := by
  intro e he verb o ho
  obtain rfl := List.mem_singleton.1 he
  have hany : Schema.any.NamesSatisfy fun keys => keys.Pairwise (· < ·) :=
    .intro .nil (fun t ht => by cases ht) (fun d hd => by cases hd)
  cases verb with
  | get =>
    cases ho
    refine ⟨fun p hp => ?_, fun d hd => by cases hd⟩
    obtain rfl := List.mem_singleton.1 hp
    refine ⟨.intro (by decide) (fun t ht => by cases ht) ?_, ?_⟩
    · exact List.forall_mem_cons.2 ⟨hany, List.forall_mem_cons.2 ⟨hany, List.forall_mem_nil _⟩⟩
    · intro v hv
      cases hv
      rfl
  | _ => cases ho

/-- Whether nothing is said about security or nothing is required can be seen in the document. -/
theorem ping_security_seen :
    (pingDocument none).Ordered ∧ (pingDocument (some [])).Ordered ∧
      (pingDocument none).toJson.sorted ≠ (pingDocument (some [])).toJson.sorted := by
  have hnone := pingDocument_ordered none
  have hempty := pingDocument_ordered (some [])
  refine ⟨hnone, hempty, fun h => ?_⟩
  have heq : pingDocument none = pingDocument (some []) :=
    ((written_forms_tell_documents_apart (pingDocument none) (pingDocument (some []))).2
      hnone hempty).1 h
  have hsecurity := congrArg (fun d => (d.operation? "/ping" .get).map (·.security)) heq
  cases hsecurity

end OpenApi

end ApiDesign
