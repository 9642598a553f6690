import ApiDesign.Proofs.DesignFile.Attributes
import ApiDesign.Proofs.DesignFile.Declarations
import ApiDesign.Proofs.PathTemplate.Grammar

/-!
# Valid entries

What is asked of the entries of a design file, and what a design must look like to say the same as
the file, both told without building anything.  The results that the declarations come to are tied
to this, one kind of entry after the other.

* `SchemeEntry.Valid`, `MethodEntry.Valid`, `ServiceEntry.Valid`, `Requirement.Valid`,
  `DesignFile.Valid` — what is asked, entry by entry and of the file as a whole;
* `SchemeEntry.MirroredBy`, `MethodEntry.MirroredBy`, `ServiceEntry.MirroredBy`,
  `DesignFile.MirroredBy` — what comes out;
* `exists_toMethod_iff`, `mirrored_of_toMethod` — a method can be made exactly if its entry is
  valid, and then it says what the entry says.
-/

namespace ApiDesign

/-! ### What is asked -/

/-- A scheme has a mechanism, and flows exactly if that is OAuth2. -/
structure SchemeEntry.Valid (s : SchemeEntry) : Prop where
  mechanism : s.kind ≠ .none
  flows : s.kind = .oauth2 ↔ s.flows ≠ []

/-- A payload names a declared type, or its attributes can be converted. -/
def PayloadEntry.Valid (types : List TypeEntry) : PayloadEntry → Prop
  | .named type => ∃ t ∈ types, t.name = type
  | .inline entries => ∀ entry ∈ entries, entry.Convertible

/-- The payload and the result of a method are valid, and its paths are templates. -/
structure MethodEntry.Valid (types : List TypeEntry) (m : MethodEntry) : Prop where
  payload : ∀ p, m.payload = some p → p.Valid types
  result : ∀ p, m.result = some p → p.Valid types
  routes : ∀ r ∈ m.routes, ∃ pieces, PathTemplate.IsTemplate r.path pieces

/-- The methods of a service are valid and have different names. -/
structure ServiceEntry.Valid (types : List TypeEntry) (s : ServiceEntry) : Prop where
  methodNames : (s.methods.map (·.name)).Nodup
  methods : ∀ m ∈ s.methods, m.Valid types

/-- A requirement lists schemes, all of them declared, and every scope that it lists is one of a
scheme that it lists. -/
structure Requirement.Valid (schemes : List SchemeEntry) (r : Requirement) : Prop where
  nonempty : r.schemes ≠ []
  declared : ∀ name ∈ r.schemes, ∃ s ∈ schemes, s.name = name
  scopes : ∀ scope ∈ r.scopes, ∃ s ∈ schemes, s.name ∈ r.schemes ∧ ∃ c ∈ s.scopes, c.name = scope

namespace DesignFile

/-- All requirements of a file: those of the API, of the services and of the methods. -/
def requirements (f : DesignFile) : List Requirement :=
  f.api.security ++ f.services.flatMap fun s => s.security ++ s.methods.flatMap (·.security)

/-- The entries of a file are valid, and their names are different. -/
structure Valid (f : DesignFile) : Prop where
  schemeNames : (f.schemes.map (·.name)).Nodup
  schemes : ∀ s ∈ f.schemes, s.Valid
  typeNames : (f.types.map (·.name)).Nodup
  types : ∀ t ∈ f.types, ∀ entry ∈ t.attributes, entry.Convertible
  serviceNames : (f.services.map (·.name)).Nodup
  services : ∀ s ∈ f.services, s.Valid f.types
  requirements : ∀ r ∈ f.requirements, r.Valid f.schemes

end DesignFile

/-! ### What comes out -/

/-- The scope says what the entry says; an entry without a description gets a standing one. -/
structure ScopeEntry.MirroredBy (s : ScopeEntry) (made : Scope) : Prop where
  name : made.name = s.name
  description : made.description = s.description.getD "no description"

/-- The flow is for the grant of the entry and has the addresses that this grant uses, as they are
written: users are sent to an authorization address for a code or an implicit grant, and every grant
but the implicit one has a token address.  An empty refresh address counts as none. -/
structure FlowEntry.MirroredBy (f : FlowEntry) (made : Flow) : Prop where
  kind : made.kind = f.kind
  authorizationUrl : made.authorizationUrl =
    if f.kind = .authorizationCode ∨ f.kind = .implicit then some f.authorizationUrl else none
  tokenUrl : made.tokenUrl = if f.kind = .implicit then none else some f.tokenUrl
  refreshUrl : made.refreshUrl = if f.refreshUrl = "" then none else some f.refreshUrl

/-- The scheme says what the entry says, with its scopes and flows in the order of the entry. -/
structure SchemeEntry.MirroredBy (s : SchemeEntry) (made : SecurityScheme) : Prop where
  kind : made.kind = s.kind
  name : made.name = s.name
  description : made.description = s.description
  scopes : List.Forall₂ ScopeEntry.MirroredBy s.scopes made.scopes
  flows : List.Forall₂ FlowEntry.MirroredBy s.flows made.flows

/-- The type has the name of the entry, and its attributes say what those of the entry say. -/
structure TypeEntry.MirroredBy (t : TypeEntry) (made : UserType) : Prop where
  name : made.name = t.name
  attributes : List.Forall₂ AttributeEntry.MirroredBy t.attributes made.attributes

/-- A payload that is named carries the attributes of the type of that name; the attributes of
another one say what those of the entry say. -/
inductive PayloadEntry.MirroredBy (types : List UserType) : PayloadEntry → Payload → Prop where
  | named {type : UserType} (declared : type ∈ types) :
      MirroredBy types (.named type.name) ⟨some type.name, type.attributes⟩
  | inline {entries : List AttributeEntry} {attributes : List Attribute}
      (mirrored : List.Forall₂ AttributeEntry.MirroredBy entries attributes) :
      MirroredBy types (.inline entries) ⟨none, attributes⟩

/-- The method says what the entry says. -/
structure MethodEntry.MirroredBy (types : List UserType) (m : MethodEntry) (made : Method) :
    Prop where
  name : made.name = m.name
  description : made.description = m.description
  payload : Option.Rel (PayloadEntry.MirroredBy types) m.payload made.payload
  result : Option.Rel (PayloadEntry.MirroredBy types) m.result made.result
  routes : made.routes = m.routes

/-- The service says what the entry says, with its methods in the order of the entry. -/
structure ServiceEntry.MirroredBy (types : List UserType) (s : ServiceEntry) (made : Service) :
    Prop where
  name : made.name = s.name
  description : made.description = s.description
  methods : List.Forall₂ (MethodEntry.MirroredBy types) s.methods made.methods

/-- What is declared for a method.  Its requirements come before the declaration that no security
applies. -/
def MethodEntry.declaredSecurity (service : String) (m : MethodEntry) : List MethodRequirement :=
  m.security.map (⟨service, m.name, .require ·⟩)
    ++ if m.noSecurity then [⟨service, m.name, .noSecurity⟩] else []

namespace DesignFile

/-- The security declarations of a file at their places. -/
def security (f : DesignFile) : SecurityRequirements where
  api := f.api.security
  services := f.services.flatMap fun s => s.security.map (⟨s.name, ·⟩)
  methods := f.services.flatMap fun s => s.methods.flatMap (MethodEntry.declaredSecurity s.name)

/-- The design says what the file says, part by part and in the order of the file. -/
structure MirroredBy (f : DesignFile) (d : Design) : Prop where
  api : d.api = f.api.api
  schemes : List.Forall₂ SchemeEntry.MirroredBy f.schemes d.schemes.schemes
  types : List.Forall₂ TypeEntry.MirroredBy f.types d.types
  services : List.Forall₂ (ServiceEntry.MirroredBy d.types) f.services d.services
  security : d.security = f.security

end DesignFile

/-! ### Schemes and requirements -/

theorem ScopeEntry.mirrored_scope (s : ScopeEntry) : s.MirroredBy s.scope := ⟨rfl, rfl⟩

theorem FlowEntry.mirrored_flow (f : FlowEntry) : f.MirroredBy f.flow := by
  have hrefresh : Flow.nonEmpty f.refreshUrl =
      if f.refreshUrl = "" then none else some f.refreshUrl := by
    rw [Flow.nonEmpty]
    simp only [String.isEmpty_iff]
  obtain ⟨kind, authorizationUrl, tokenUrl, refreshUrl⟩ := f
  cases kind with
  | authorizationCode => exact ⟨rfl, rfl, rfl, hrefresh⟩
  | implicit => exact ⟨rfl, rfl, rfl, hrefresh⟩
  | password => exact ⟨rfl, rfl, rfl, hrefresh⟩
  | clientCredentials => exact ⟨rfl, rfl, rfl, hrefresh⟩

namespace SchemeEntry

theorem mirrored_scheme (s : SchemeEntry) : s.MirroredBy s.scheme where
  kind := rfl
  name := rfl
  description := rfl
  scopes := forall₂_map_of_forall ScopeEntry.mirrored_scope s.scopes
  flows := forall₂_map_of_forall FlowEntry.mirrored_flow s.flows

theorem addTo_eq_ok_iff {d d' : Design} {s : SchemeEntry} :
    s.addTo d = .ok d' ↔ (∀ t ∈ d.schemes.schemes, t.name ≠ s.name) ∧ s.Valid ∧
      { d with schemes := ⟨d.schemes.schemes ++ [s.scheme]⟩ } = d' := by
  unfold addTo
  split
  · rename_i hnone
    exact iff_of_false (by rintro ⟨⟩) fun h => h.2.1.mechanism hnone
  rename_i hmechanism
  split
  · rename_i htaken
    refine iff_of_false (by rintro ⟨⟩) fun h => ?_
    obtain ⟨t, ht, hname⟩ := (SchemeRegistry.contains_iff _ _).1 htaken
    exact h.1 t ht hname
  rename_i hnew
  split
  · rename_i hextra
    exact iff_of_false (by rintro ⟨⟩) fun h => hextra.1 (h.2.1.flows.2 hextra.2)
  rename_i hextra
  split
  · rename_i hmissing
    exact iff_of_false (by rintro ⟨⟩) fun h => h.2.1.flows.1 hmissing.1 hmissing.2
  rename_i hmissing
  have hflows : s.kind = .oauth2 ↔ s.flows ≠ [] :=
    ⟨fun hkind hnil => hmissing ⟨hkind, hnil⟩, fun hne => not_not.1 fun hkind => hextra ⟨hkind, hne⟩⟩
  constructor
  · rintro ⟨⟩
    exact ⟨ne_of_find?_key hnew, ⟨hmechanism, hflows⟩, rfl⟩
  · rintro ⟨-, -, rfl⟩
    rfl

theorem hasScope_scheme {s : SchemeEntry} {scope : String} :
    s.scheme.hasScope scope = true ↔ ∃ c ∈ s.scopes, c.name = scope := by
  rw [SecurityScheme.hasScope, List.any_eq_true]
  constructor
  · rintro ⟨_, hmem, hname⟩
    obtain ⟨c, hc, rfl⟩ := List.mem_map.1 hmem
    exact ⟨c, hc, of_decide_eq_true hname⟩
  · rintro ⟨c, hc, hname⟩
    exact ⟨c.scope, List.mem_map_of_mem hc, decide_eq_true hname⟩

end SchemeEntry

/-- The schemes of a design are those of the entries, so a requirement that refers to them well is
valid, and the other way round. -/
theorem Requirement.wellFormed_iff_valid {schemes : List SchemeEntry}
    (hnames : (schemes.map (·.name)).Nodup) {r : Requirement} :
    r.WellFormed ⟨schemes.map SchemeEntry.scheme⟩ ↔ r.Valid schemes := by
  have hregistry : (((schemes.map SchemeEntry.scheme)).map (·.name)).Nodup := by
    rw [List.map_map]
    exact hnames
  constructor
  · intro h
    refine ⟨h.nonempty, fun name hname => ?_, fun scope hscope => ?_⟩
    · obtain ⟨t, ht, rfl⟩ := (SchemeRegistry.contains_iff _ _).1 (h.registered name hname)
      obtain ⟨s, hs, rfl⟩ := List.mem_map.1 ht
      exact ⟨s, hs, rfl⟩
    · obtain ⟨name, hname, t, ht, hdef⟩ := h.scopes scope hscope
      obtain ⟨hmem, rfl⟩ := SchemeRegistry.get?_mem ht
      obtain ⟨s, hs, rfl⟩ := List.mem_map.1 hmem
      exact ⟨s, hs, hname, SchemeEntry.hasScope_scheme.1 hdef⟩
  · intro h
    refine ⟨h.nonempty, fun name hname => ?_, fun scope hscope => ?_⟩
    · obtain ⟨s, hs, rfl⟩ := h.declared name hname
      exact (SchemeRegistry.contains_iff _ _).2 ⟨s.scheme, List.mem_map_of_mem hs, rfl⟩
    · obtain ⟨s, hs, hname, hdef⟩ := h.scopes scope hscope
      exact ⟨s.name, hname, s.scheme,
        SchemeRegistry.get?_name_of_mem hregistry (List.mem_map_of_mem hs),
        SchemeEntry.hasScope_scheme.2 hdef⟩

/-! ### Payloads -/

section Payloads

variable {entries : List TypeEntry} {types : List UserType}

theorem namedPayload_eq_ok_iff {name : String} {p : Payload} :
    namedPayload types name = .ok p ↔
      ∃ type, types.find? (fun t => t.name = name) = some type ∧
        ⟨some type.name, type.attributes⟩ = p := by
  unfold namedPayload
  cases types.find? (fun t => t.name = name) <;> simp

theorem mirrored_of_toPayload {p : Option PayloadEntry} {made : Option Payload}
    (h : PayloadEntry.toPayload types p = .ok made) :
    Option.Rel (PayloadEntry.MirroredBy types) p made := by
  cases p with
  | none =>
    cases h
    exact .none
  | some p =>
    cases p with
    | named name =>
      obtain ⟨_, hpayload, rfl⟩ := map_eq_ok_iff.1 h
      obtain ⟨type, hfind, rfl⟩ := namedPayload_eq_ok_iff.1 hpayload
      have hname : type.name = name := by simpa using List.find?_some hfind
      subst hname
      exact .some (.named (List.mem_of_find?_eq_some hfind))
    | inline attributes =>
      obtain ⟨made, hmade, rfl⟩ := map_eq_ok_iff.1 h
      exact .some (.inline (AttributeEntry.mirrored_of_toAttributes hmade))

/-- A named type is found exactly if it is declared, for the names of the types are those of the
entries. -/
theorem exists_namedPayload_iff (hnames : types.map (·.name) = entries.map (·.name))
    {name : String} :
    (∃ made, namedPayload types name = .ok made) ↔ ∃ t ∈ entries, t.name = name := by
  have hmem : (∃ t ∈ entries, t.name = name) ↔ ∃ type ∈ types, type.name = name := by
    rw [← List.mem_map, ← hnames, List.mem_map]
  rw [hmem]
  simp only [namedPayload_eq_ok_iff]
  constructor
  · rintro ⟨_, type, hfind, -⟩
    exact ⟨type, List.mem_of_find?_eq_some hfind, by simpa using List.find?_some hfind⟩
  · rintro ⟨type, htype, hname⟩
    obtain ⟨found, hfound⟩ : ∃ found, types.find? (fun t => t.name = name) = some found := by
      rw [← Option.isSome_iff_exists, List.find?_isSome]
      exact ⟨type, htype, decide_eq_true hname⟩
    exact ⟨_, found, hfound, rfl⟩

theorem exists_toPayload_iff (hnames : types.map (·.name) = entries.map (·.name))
    {p : Option PayloadEntry} :
    (∃ made, PayloadEntry.toPayload types p = .ok made) ↔ ∀ q, p = some q → q.Valid entries := by
  cases p with
  | none => exact iff_of_true ⟨none, rfl⟩ (by rintro _ ⟨⟩)
  | some p =>
    have hvalid : (∀ q, some p = some q → q.Valid entries) ↔ p.Valid entries :=
      ⟨fun h => h p rfl, by rintro h _ ⟨⟩; exact h⟩
    rw [hvalid]
    cases p with
    | named name =>
      refine Iff.trans ?_ (exists_namedPayload_iff hnames)
      simp only [PayloadEntry.toPayload, map_eq_ok_iff]
      constructor
      · rintro ⟨_, p, hp, -⟩
        exact ⟨p, hp⟩
      · rintro ⟨p, hp⟩
        exact ⟨_, p, hp, rfl⟩
    | inline attributes =>
      refine Iff.trans ?_ AttributeEntry.exists_toAttributes_iff
      simp only [PayloadEntry.toPayload, map_eq_ok_iff]
      constructor
      · rintro ⟨_, l, hl, -⟩
        exact ⟨l, hl⟩
      · rintro ⟨l, hl⟩
        exact ⟨_, l, hl, rfl⟩

end Payloads

/-! ### Methods -/

theorem checkRoutes_eq_ok_iff {routes : List Route} :
    (forM routes fun r => PathTemplate.check r.path) = .ok () ↔
      ∀ r ∈ routes, ∃ pieces, PathTemplate.IsTemplate r.path pieces := by
  simp only [← PathTemplate.exists_isTemplate_iff]
  induction routes with
  | nil => exact iff_of_true rfl (by simp)
  | cons r routes ih =>
    rw [List.forM_cons, List.forall_mem_cons, ← ih, bind_eq_ok_iff]
    constructor
    · rintro ⟨_, hhead, htail⟩
      exact ⟨hhead, htail⟩
    · rintro ⟨hhead, htail⟩
      exact ⟨(), hhead, htail⟩

namespace MethodEntry

variable {entries : List TypeEntry} {types : List UserType} {m : MethodEntry}

theorem toMethod_eq_ok_iff {made : Method} :
    m.toMethod types = .ok made ↔
      ∃ payload result, PayloadEntry.toPayload types m.payload = .ok payload ∧
        PayloadEntry.toPayload types m.result = .ok result ∧
        (forM m.routes fun r => PathTemplate.check r.path) = .ok () ∧
        ⟨m.name, m.description, payload, result, m.routes⟩ = made := by
  constructor
  · intro h
    obtain ⟨payload, hpayload, h⟩ := exists_of_bind_ok h
    obtain ⟨result, hresult, h⟩ := exists_of_bind_ok h
    obtain ⟨_, hroutes, h⟩ := exists_of_bind_ok h
    exact ⟨payload, result, hpayload, hresult, hroutes, Except.ok.inj h⟩
  · rintro ⟨payload, result, hpayload, hresult, hroutes, rfl⟩
    simp only [toMethod, hpayload, hresult, hroutes]
    rfl

theorem mirrored_of_toMethod {made : Method} (h : m.toMethod types = .ok made) :
    m.MirroredBy types made := by
  obtain ⟨payload, result, hpayload, hresult, -, rfl⟩ := toMethod_eq_ok_iff.1 h
  exact ⟨rfl, rfl, mirrored_of_toPayload hpayload, mirrored_of_toPayload hresult, rfl⟩

theorem exists_toMethod_iff (hnames : types.map (·.name) = entries.map (·.name)) :
    (∃ made, m.toMethod types = .ok made) ↔ m.Valid entries := by
  simp only [toMethod_eq_ok_iff]
  constructor
  · rintro ⟨_, payload, result, hpayload, hresult, hroutes, -⟩
    exact ⟨(exists_toPayload_iff hnames).1 ⟨payload, hpayload⟩,
      (exists_toPayload_iff hnames).1 ⟨result, hresult⟩, checkRoutes_eq_ok_iff.1 hroutes⟩
  · intro h
    obtain ⟨payload, hpayload⟩ := (exists_toPayload_iff hnames).2 h.payload
    obtain ⟨result, hresult⟩ := (exists_toPayload_iff hnames).2 h.result
    exact ⟨_, payload, result, hpayload, hresult, checkRoutes_eq_ok_iff.2 h.routes, rfl⟩

theorem addTo_eq_ok_iff {s made : Service} :
    m.addTo types s = .ok made ↔ (∀ other ∈ s.methods, other.name ≠ m.name) ∧
      ∃ method, m.toMethod types = .ok method ∧
        { s with methods := s.methods ++ [method] } = made := by
  rw [addTo, guarded_map_eq_ok_iff, Service.method?, not_isSome_find?_key_iff]

end MethodEntry

/-! ### Types and services -/

namespace TypeEntry

theorem addTo_eq_ok_iff {d d' : Design} {t : TypeEntry} :
    t.addTo d = .ok d' ↔ (∀ other ∈ d.types, other.name ≠ t.name) ∧
      ∃ made, t.toType = .ok made ∧ { d with types := d.types ++ [made] } = d' := by
  rw [addTo, guarded_map_eq_ok_iff, Design.userType?, not_isSome_find?_key_iff]

theorem mirrored_of_toType {t : TypeEntry} {made : UserType} (h : t.toType = .ok made) :
    t.MirroredBy made := by
  obtain ⟨attributes, hattributes, rfl⟩ := map_eq_ok_iff.1 h
  exact ⟨rfl, AttributeEntry.mirrored_of_toAttributes hattributes⟩

theorem exists_toType_iff {t : TypeEntry} :
    (∃ made, t.toType = .ok made) ↔ ∀ entry ∈ t.attributes, entry.Convertible := by
  rw [← AttributeEntry.exists_toAttributes_iff]
  simp only [toType, map_eq_ok_iff]
  constructor
  · rintro ⟨_, l, hl, -⟩
    exact ⟨l, hl⟩
  · rintro ⟨l, hl⟩
    exact ⟨_, l, hl, rfl⟩

end TypeEntry

namespace ServiceEntry

variable {entries : List TypeEntry} {types : List UserType} {s : ServiceEntry}

theorem addTo_eq_ok_iff {d d' : Design} :
    s.addTo d = .ok d' ↔ (∀ other ∈ d.services, other.name ≠ s.name) ∧
      ∃ made, s.toService d.types = .ok made ∧
        { d with services := d.services ++ [made] } = d' := by
  rw [addTo, guarded_map_eq_ok_iff, Design.service?, not_isSome_find?_key_iff]

/-- The methods of a service go in exactly if they can be made and their names are different. -/
theorem toService_eq_ok_iff {made : Service} :
    s.toService types = .ok made ↔ (s.methods.map (·.name)).Nodup ∧
      ∃ methods, List.Forall₂ (fun m method => m.toMethod types = .ok method) s.methods methods ∧
        ⟨s.name, s.description, methods⟩ = made :=
  foldlM_append_nil_iff (Service.mk s.name s.description) MethodEntry.name Method.name
    (fun m method => MethodEntry.toMethod types m = .ok method)
    (fun _ _ _ => MethodEntry.addTo_eq_ok_iff)
    (fun _ _ h => (MethodEntry.mirrored_of_toMethod h).name)

theorem mirrored_of_toService {made : Service} (h : s.toService types = .ok made) :
    s.MirroredBy types made := by
  obtain ⟨-, methods, hmethods, rfl⟩ := toService_eq_ok_iff.1 h
  exact ⟨rfl, rfl, hmethods.imp fun _ _ => MethodEntry.mirrored_of_toMethod⟩

theorem exists_toService_iff (hnames : types.map (·.name) = entries.map (·.name)) :
    (∃ made, s.toService types = .ok made) ↔ s.Valid entries := by
  have hmethods : (∃ methods, List.Forall₂ (fun m method => m.toMethod types = .ok method)
      s.methods methods) ↔ ∀ m ∈ s.methods, m.Valid entries := by
    rw [exists_forall₂_iff]
    simp only [MethodEntry.exists_toMethod_iff hnames]
  simp only [toService_eq_ok_iff]
  constructor
  · rintro ⟨_, hnodup, methods, hmade, -⟩
    exact ⟨hnodup, hmethods.1 ⟨methods, hmade⟩⟩
  · intro h
    obtain ⟨methods, hmade⟩ := hmethods.2 h.methods
    exact ⟨_, h.methodNames, methods, hmade, rfl⟩

end ServiceEntry

end ApiDesign
