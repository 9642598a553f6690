import ApiDesign.Builder.Basic
import ApiDesign.Proofs.Basics
import Mathlib.Data.List.Forall2

/-!
# Well-formed designs

The parts of a design refer to each other by name: payloads to user types, requirements to schemes,
and security declarations to services and methods.  A design is well formed if every name is given
once, every reference leads somewhere, and what it leads to says the same as the referring part.

* `Design.WellFormed` — the graph as a whole, put together from `SecurityScheme.WellFormed`,
  `Service.WellFormed` and `Requirement.WellFormed`;
* `Service.WellFormed.append`, `Requirement.WellFormed.append` — the stores only ever grow at their
  end, and a reference that leads somewhere still leads there afterwards.
-/

namespace ApiDesign

/-! ### The parts -/

/-- A scheme that can be registered: it has a mechanism, and flows exactly if that is OAuth2. -/
structure SecurityScheme.WellFormed (s : SecurityScheme) : Prop where
  mechanism : s.kind ≠ .none
  flows : s.kind = .oauth2 ↔ s.flows ≠ []

/-- A payload of a user type carries the attributes of the type of that name. -/
def Payload.Mirrors (types : List UserType) (p : Payload) : Prop :=
  ∀ name, p.typeName = some name →
    types.find? (fun t => t.name = name) = some ⟨name, p.attributes⟩

/-- The paths of a method are templates, and its payload and result mirror their user types. -/
structure Method.WellFormed (types : List UserType) (m : Method) : Prop where
  routes : ∀ r ∈ m.routes, PathTemplate.check r.path = .ok ()
  payload : ∀ p, m.payload = some p → p.Mirrors types
  result : ∀ p, m.result = some p → p.Mirrors types

/-- The methods of a service are well formed and have different names. -/
structure Service.WellFormed (types : List UserType) (s : Service) : Prop where
  names : (s.methods.map (·.name)).Nodup
  methods : ∀ m ∈ s.methods, m.WellFormed types

/-- A requirement names schemes, all of them registered, and every scope that it lists is defined by
one of its own schemes. -/
structure Requirement.WellFormed (registry : SchemeRegistry) (r : Requirement) : Prop where
  nonempty : r.schemes ≠ []
  registered : ∀ name ∈ r.schemes, registry.contains name = true
  scopes : ∀ scope ∈ r.scopes, ∃ name ∈ r.schemes, ∃ s,
    registry.get? name = some s ∧ s.hasScope scope = true

/-! ### The graph -/

/-- A service of the name is declared. -/
def Design.HasService (d : Design) (name : String) : Prop := ∃ s ∈ d.services, s.name = name

/-- A service of the name is declared, and a method of the name in it. -/
def Design.HasMethod (d : Design) (service method : String) : Prop :=
  ∃ s ∈ d.services, s.name = service ∧ ∃ m ∈ s.methods, m.name = method

/-- Every name is given once and every reference leads to what it says. -/
structure Design.WellFormed (d : Design) : Prop where
  serviceNames : (d.services.map (·.name)).Nodup
  typeNames : (d.types.map (·.name)).Nodup
  schemeNames : (d.schemes.schemes.map (·.name)).Nodup
  services : ∀ s ∈ d.services, s.WellFormed d.types
  schemes : ∀ s ∈ d.schemes.schemes, s.WellFormed
  requirements : ∀ r ∈ d.security.all, r.WellFormed d.schemes
  serviceTargets : ∀ e ∈ d.security.services, d.HasService e.service
  methodTargets : ∀ e ∈ d.security.methods, d.HasMethod e.service e.method

/-- A design in which nothing but metadata is declared yet. -/
theorem Design.wellFormed_of_empty (api : Api) :
    Design.WellFormed ⟨api, [], [], .empty, .empty⟩ where
  serviceNames := List.nodup_nil
  typeNames := List.nodup_nil
  schemeNames := List.nodup_nil
  services := by simp
  schemes := by simp [SchemeRegistry.empty]
  requirements := by simp [SecurityRequirements.all, SecurityRequirements.empty]
  serviceTargets := by simp [SecurityRequirements.empty]
  methodTargets := by simp [SecurityRequirements.empty]

/-! ### Schemes and references to them -/

namespace SchemeRegistry

theorem contains_iff (r : SchemeRegistry) (name : String) :
    r.contains name = true ↔ ∃ s ∈ r.schemes, s.name = name := by
  simp [contains, get?]

theorem get?_mem {r : SchemeRegistry} {name : String} {s : SecurityScheme}
    (h : r.get? name = some s) : s ∈ r.schemes ∧ s.name = name :=
  ⟨List.mem_of_find?_eq_some h, by simpa using List.find?_some h⟩

/-- In a registry with different names, a scheme is found under its name. -/
theorem get?_name_of_mem {r : SchemeRegistry} (hr : (r.schemes.map (·.name)).Nodup)
    {s : SecurityScheme} (hs : s ∈ r.schemes) : r.get? s.name = some s :=
  find?_key_of_mem hr hs

/-- A scheme that is found is still found after more are registered. -/
theorem get?_append {r : SchemeRegistry} {name : String} {s : SecurityScheme}
    (h : r.get? name = some s) (t : SecurityScheme) :
    (SchemeRegistry.mk (r.schemes ++ [t])).get? name = some s := by
  unfold get? at h ⊢
  rw [List.find?_append, h]
  rfl

theorem resolve_mem {r : SchemeRegistry} {ref : SchemeRef} {s : SecurityScheme}
    (h : r.resolve ref = .ok s) : s ∈ r.schemes := by
  cases ref with
  | name name =>
    simp only [resolve] at h
    split at h
    · rename_i found
      cases h
      exact (get?_mem found).1
    · cases h
  | handle handle =>
    simp only [resolve] at h
    split at h
    · rename_i found
      cases h
      exact List.mem_of_getElem? found
    · cases h

/-- A reference still stands for the same scheme after more are registered. -/
theorem resolve_append {r : SchemeRegistry} {ref : SchemeRef} {s : SecurityScheme}
    (h : r.resolve ref = .ok s) (t : SecurityScheme) :
    (SchemeRegistry.mk (r.schemes ++ [t])).resolve ref = .ok s := by
  cases ref with
  | name name =>
    simp only [resolve] at h
    split at h
    · rename_i found
      cases h
      simp only [resolve, get?_append found t]
    · cases h
  | handle handle =>
    simp only [resolve] at h
    split at h
    · rename_i found
      cases h
      have hlt := (List.getElem?_eq_some_iff.1 found).1
      simp only [resolve, List.getElem?_append_left hlt, found]
    · cases h

/-- The schemes that a list of references stands for, one after the other. -/
def Resolves (r : SchemeRegistry) (refs : List SchemeRef) (schemes : List SecurityScheme) : Prop :=
  List.Forall₂ (fun ref s => r.resolve ref = .ok s) refs schemes

theorem Resolves.mem {r : SchemeRegistry} {refs : List SchemeRef} {schemes : List SecurityScheme}
    (h : r.Resolves refs schemes) {s : SecurityScheme} (hs : s ∈ schemes) : s ∈ r.schemes := by
  induction h with
  | nil => cases hs
  | cons hhead _ ih =>
    rcases List.mem_cons.1 hs with rfl | hs
    · exact resolve_mem hhead
    · exact ih hs

theorem Resolves.append {r : SchemeRegistry} {refs : List SchemeRef}
    {schemes : List SecurityScheme} (h : r.Resolves refs schemes) (t : SecurityScheme) :
    (SchemeRegistry.mk (r.schemes ++ [t])).Resolves refs schemes :=
  h.imp fun _ _ hs => resolve_append hs t

end SchemeRegistry

/-! ### Growing stores -/

theorem Payload.Mirrors.append {types : List UserType} {p : Payload} (h : p.Mirrors types)
    (t : UserType) : p.Mirrors (types ++ [t]) := by
  intro name hname
  rw [List.find?_append, h name hname]
  rfl

theorem Service.WellFormed.append {types : List UserType} {s : Service} (h : s.WellFormed types)
    (t : UserType) : s.WellFormed (types ++ [t]) where
  names := h.names
  methods := fun m hm =>
    have hm := h.methods m hm
    ⟨hm.routes, fun p hp => (hm.payload p hp).append t, fun p hp => (hm.result p hp).append t⟩

theorem Requirement.WellFormed.append {registry : SchemeRegistry} {r : Requirement}
    (h : r.WellFormed registry) (t : SecurityScheme) :
    r.WellFormed ⟨registry.schemes ++ [t]⟩ where
  nonempty := h.nonempty
  registered := by
    intro name hname
    obtain ⟨s, hs⟩ := Option.isSome_iff_exists.1 (h.registered name hname)
    exact Option.isSome_iff_exists.2 ⟨s, SchemeRegistry.get?_append hs t⟩
  scopes := by
    intro scope hscope
    obtain ⟨name, hname, s, hs, hdef⟩ := h.scopes scope hscope
    exact ⟨name, hname, s, SchemeRegistry.get?_append hs t, hdef⟩

end ApiDesign
