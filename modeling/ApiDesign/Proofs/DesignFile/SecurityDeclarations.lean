import ApiDesign.Proofs.Builder.Declarations
import ApiDesign.Proofs.DesignFile.Validity

/-!
# The security declarations of a design file

Security is declared last, for nodes and with schemes that are declared by then and stay as they
are.  So the declarations do not depend on each other, and what can be wrong with a file here is a
requirement.

* `SecurityEntry.Fits` — what is asked of a declaration;
* `foldlM_security_iff` — the step from one declaration to the run of all of them;
* `DesignFile.fits_securityEntries_iff`, `DesignFile.foldl_securityEntries` — the declarations of a
  file fit exactly if its requirements are valid, and all of them are kept at their places.
-/

namespace ApiDesign

variable {d d' : Design}

/-! ### Nodes and schemes -/

namespace Builder

/-- Where the services have different names, a node that a declaration may be about passes the
check. -/
theorem checkSecurityTarget_eq_ok_iff (hd : (d.services.map (·.name)).Nodup) {declaration : String}
    {target : Target} :
    checkSecurityTarget d declaration target = .ok () ↔ d.Admits target := by
  refine ⟨admits_of_check, fun h => ?_⟩
  cases target with
  | top => cases h
  | type name => cases h
  | api => rfl
  | service name =>
    obtain ⟨s, hs, rfl⟩ := h
    have hfound : d.service? s.name = some s := find?_key_of_mem hd hs
    simp only [checkSecurityTarget, hfound]
    rfl
  | method service method =>
    obtain ⟨s, hs, rfl, m, hm, rfl⟩ := h
    have hfound : d.service? s.name = some s := find?_key_of_mem hd hs
    have hmethod : (s.method? m.name).isSome = true := by
      rw [Service.method?, List.find?_isSome]
      exact ⟨m, hm, decide_eq_true rfl⟩
    simp only [checkSecurityTarget, hfound, if_pos hmethod]

theorem resolveAll_eq_ok_iff {registry : SchemeRegistry} {refs : List SchemeRef}
    {schemes : List SecurityScheme} :
    resolveAll registry refs = .ok schemes ↔ registry.Resolves refs schemes := by
  refine ⟨resolves_of_resolveAll, fun h => ?_⟩
  induction h with
  | nil => rfl
  | cons hs _ ih =>
    unfold resolveAll at ih ⊢
    rw [List.mapM_cons, hs]
    simp only [bind, Except.bind, ih]
    rfl

theorem resolve_name_eq_ok_iff {registry : SchemeRegistry} {name : String} {s : SecurityScheme} :
    registry.resolve (.name name) = .ok s ↔ registry.get? name = some s := by
  simp only [SchemeRegistry.resolve]
  cases registry.get? name <;> simp

theorem resolveAll_names_eq_ok_iff {registry : SchemeRegistry} {names : List String}
    {schemes : List SecurityScheme} :
    resolveAll registry (names.map .name) = .ok schemes ↔
      List.Forall₂ (fun name s => registry.get? name = some s) names schemes := by
  rw [resolveAll_eq_ok_iff, SchemeRegistry.Resolves, List.forall₂_map_left_iff]
  simp only [resolve_name_eq_ok_iff]

end Builder

/-- What is found under names has these names. -/
theorem map_name_of_found {registry : SchemeRegistry} {names : List String}
    {schemes : List SecurityScheme}
    (h : List.Forall₂ (fun name s => registry.get? name = some s) names schemes) :
    schemes.map (·.name) = names := by
  have hnames := map_eq_map_of_forall₂ (f := id) (g := SecurityScheme.name)
    (fun _ _ hs => (SchemeRegistry.get?_mem hs).2) h
  rwa [List.map_id] at hnames

namespace SecurityEntry

/-- What is asked of a security declaration: the node is declared, and the requirement refers to
declared schemes well. -/
def Fits (d : Design) : SecurityEntry → Prop
  | ⟨target, .require r⟩ => d.Admits target ∧ r.WellFormed d.schemes
  | ⟨target, .noSecurity⟩ => d.Admits target ∧ ∃ service method, target = .method service method

theorem checkRequirement_eq_ok_iff (hd : (d.services.map (·.name)).Nodup) {target : Target}
    {r made : Requirement} :
    checkRequirement d target r = .ok made ↔
      (d.Admits target ∧ r.WellFormed d.schemes) ∧ made = r := by
  rw [checkRequirement, bind_eq_ok_iff]
  constructor
  · rintro ⟨_, htarget, h⟩
    have hadmits := (Builder.checkSecurityTarget_eq_ok_iff hd).1 htarget
    split at h
    · cases h
    rename_i hnonempty
    obtain ⟨schemes, hschemes, h⟩ := exists_of_bind_ok h
    have hfound := Builder.resolveAll_names_eq_ok_iff.1 hschemes
    obtain ⟨hscopes, rfl⟩ := Requirement.demand_eq_ok_iff.1 h
    refine ⟨⟨hadmits, hnonempty, fun name hname => ?_, fun scope hscope => ?_⟩, ?_⟩
    · obtain ⟨s, -, hs⟩ := exists_mem_of_forall₂ hfound hname
      exact Option.isSome_iff_exists.2 ⟨s, hs⟩
    · obtain ⟨s, hs, hdef⟩ := hscopes scope hscope
      obtain ⟨name, hname, hget⟩ := exists_mem_of_forall₂ (List.Forall₂.flip hfound) hs
      exact ⟨name, hname, s, hget, hdef⟩
    · rw [map_name_of_found hfound]
  · rintro ⟨⟨hadmits, hr⟩, rfl⟩
    refine ⟨(), (Builder.checkSecurityTarget_eq_ok_iff hd).2 hadmits, ?_⟩
    obtain ⟨schemes, hfound⟩ := exists_forall₂_iff.2 fun name hname =>
      Option.isSome_iff_exists.1 (hr.registered name hname)
    rw [if_neg hr.nonempty, bind_eq_ok_iff]
    refine ⟨schemes, Builder.resolveAll_names_eq_ok_iff.2 hfound,
      Requirement.demand_eq_ok_iff.2 ⟨fun scope hscope => ?_, ?_⟩⟩
    · obtain ⟨name, hname, s, hs, hdef⟩ := hr.scopes scope hscope
      obtain ⟨t, ht, hget⟩ := exists_mem_of_forall₂ hfound hname
      rw [hs] at hget
      cases hget
      exact ⟨s, ht, hdef⟩
    · rw [map_name_of_found hfound]

theorem addTo_eq_ok_iff (hd : (d.services.map (·.name)).Nodup) {e : SecurityEntry} :
    e.addTo d = .ok d' ↔ e.Fits d ∧ { d with security := attach d.security e } = d' := by
  obtain ⟨target, security⟩ := e
  cases security with
  | require r =>
    simp only [addTo, map_eq_ok_iff, checkRequirement_eq_ok_iff hd, Fits, attach, and_assoc,
      exists_and_left, exists_eq_left]
  | noSecurity =>
    cases target with
    | method service method =>
      simp only [addTo, map_eq_ok_iff]
      constructor
      · rintro ⟨_, htarget, rfl⟩
        exact ⟨⟨(Builder.checkSecurityTarget_eq_ok_iff hd).1 htarget, service, method, rfl⟩, rfl⟩
      · rintro ⟨⟨hadmits, -⟩, rfl⟩
        exact ⟨(), (Builder.checkSecurityTarget_eq_ok_iff hd).2 hadmits, rfl⟩
    | _ =>
      refine iff_of_false (by rintro ⟨⟩) ?_
      rintro ⟨⟨-, _, _, htarget⟩, -⟩
      cases htarget

end SecurityEntry

/-- The security declarations refer to what was declared before, and that stays as it is while they
go in. -/
theorem foldlM_security_iff (hd : (d.services.map (·.name)).Nodup) {entries : List SecurityEntry} :
    entries.foldlM SecurityEntry.addTo d = .ok d' ↔ (∀ e ∈ entries, e.Fits d) ∧
      { d with security := entries.foldl SecurityEntry.attach d.security } = d' := by
  induction entries generalizing d with
  | nil =>
    constructor
    · rintro ⟨⟩
      exact ⟨by simp, rfl⟩
    · rintro ⟨-, rfl⟩
      rfl
  | cons e entries ih =>
    have hfits (other : SecurityEntry) (s : SecurityRequirements) :
        other.Fits { d with security := s } ↔ other.Fits d := Iff.rfl
    rw [List.foldlM_cons, bind_eq_ok_iff, List.forall_mem_cons]
    have hrun := ih (d := { d with security := SecurityEntry.attach d.security e }) hd
    simp only [hfits] at hrun
    constructor
    · rintro ⟨next, he, hrest⟩
      obtain ⟨hfit, rfl⟩ := (SecurityEntry.addTo_eq_ok_iff hd).1 he
      obtain ⟨hfitted, rfl⟩ := hrun.1 hrest
      exact ⟨⟨hfit, hfitted⟩, rfl⟩
    · rintro ⟨⟨hfit, hfitted⟩, rfl⟩
      exact ⟨_, (SecurityEntry.addTo_eq_ok_iff hd).2 ⟨hfit, rfl⟩, hrun.2 ⟨hfitted, rfl⟩⟩

/-! ### The security declarations of a file -/

namespace SecurityEntry

/-- The requirement of the API, if the declaration is one. -/
def apiRequirement? : SecurityEntry → Option Requirement
  | ⟨.api, .require r⟩ => some r
  | _ => none

/-- The requirement of a service, if the declaration is one. -/
def serviceRequirement? : SecurityEntry → Option ServiceRequirement
  | ⟨.service service, .require r⟩ => some ⟨service, r⟩
  | _ => none

/-- What is declared for a method, if the declaration is about one. -/
def methodRequirement? : SecurityEntry → Option MethodRequirement
  | ⟨.method service method, security⟩ => some ⟨service, method, security⟩
  | _ => none

/-- Every declaration is kept at its place, in the order of the declarations. -/
theorem foldl_attach (entries : List SecurityEntry) (s : SecurityRequirements) :
    entries.foldl attach s =
      ⟨s.api ++ entries.filterMap apiRequirement?,
        s.services ++ entries.filterMap serviceRequirement?,
        s.methods ++ entries.filterMap methodRequirement?⟩ := by
  induction entries generalizing s with
  | nil => simp
  | cons e entries ih =>
    rw [List.foldl_cons, ih]
    obtain ⟨target, security⟩ := e
    cases security <;> cases target <;>
      simp [attach, Builder.attach, apiRequirement?, serviceRequirement?, methodRequirement?,
        List.filterMap_cons]

theorem filterMap_method (service : String) (m : MethodEntry) :
    (m.securityEntries service).filterMap apiRequirement? = [] ∧
      (m.securityEntries service).filterMap serviceRequirement? = [] ∧
      (m.securityEntries service).filterMap methodRequirement? = m.declaredSecurity service := by
  unfold MethodEntry.securityEntries MethodEntry.declaredSecurity
  simp only [List.filterMap_append, List.filterMap_map, Function.comp_def, apiRequirement?,
    serviceRequirement?, methodRequirement?]
  split <;> simp [apiRequirement?, serviceRequirement?, methodRequirement?]

theorem filterMap_service (a : AcceptedService) :
    a.securityEntries.filterMap apiRequirement? = [] ∧
      a.securityEntries.filterMap serviceRequirement? =
        a.service.security.map (⟨a.service.name, ·⟩) ∧
      a.securityEntries.filterMap methodRequirement? =
        a.methods.flatMap (MethodEntry.declaredSecurity a.service.name) := by
  unfold AcceptedService.securityEntries
  simp only [List.filterMap_append, List.filterMap_map, List.filterMap_flatMap, Function.comp_def,
    filterMap_method, apiRequirement?, serviceRequirement?, methodRequirement?]
  simp

end SecurityEntry

namespace DesignFile

variable {f : DesignFile}

theorem foldl_securityEntries (f : DesignFile) :
    (f.securityEntries f.wholeServices).foldl SecurityEntry.attach .empty = f.security := by
  rw [SecurityEntry.foldl_attach]
  unfold securityEntries wholeServices security
  simp only [List.filterMap_append, List.filterMap_map, List.filterMap_flatMap, List.flatMap_map,
    Function.comp_def, SecurityEntry.filterMap_service, SecurityEntry.apiRequirement?,
    SecurityEntry.serviceRequirement?, SecurityEntry.methodRequirement?]
  simp [SecurityRequirements.empty]

theorem mem_requirements {r : Requirement} :
    r ∈ f.requirements ↔ r ∈ f.api.security ∨
      ∃ s ∈ f.services, r ∈ s.security ∨ ∃ m ∈ s.methods, r ∈ m.security := by
  simp [requirements]

theorem mem_securityEntries {e : SecurityEntry} :
    e ∈ f.securityEntries f.wholeServices ↔ (∃ r ∈ f.api.security, ⟨.api, .require r⟩ = e) ∨
      ∃ s ∈ f.services, (∃ r ∈ s.security, ⟨.service s.name, .require r⟩ = e) ∨
        ∃ m ∈ s.methods, (∃ r ∈ m.security, ⟨.method s.name m.name, .require r⟩ = e) ∨
          m.noSecurity = true ∧ ⟨.method s.name m.name, .noSecurity⟩ = e := by
  have hlast (m : MethodEntry) (x : SecurityEntry) :
      (e ∈ if m.noSecurity then [x] else []) ↔ m.noSecurity = true ∧ x = e := by
    cases m.noSecurity <;> simp [eq_comm]
  simp only [securityEntries, wholeServices, AcceptedService.securityEntries,
    MethodEntry.securityEntries, List.mem_append, List.mem_map, List.mem_flatMap, List.flatMap_map,
    hlast]

/-- The security declarations are about nodes of the file, all of which are declared by then, so
that only their requirements can be wrong. -/
theorem fits_securityEntries_iff {types : List UserType} (hnames : (f.schemes.map (·.name)).Nodup)
    (hschemes : d.schemes = ⟨f.schemes.map SchemeEntry.scheme⟩)
    (hservices : List.Forall₂ (ServiceEntry.MirroredBy types) f.services d.services) :
    (∀ e ∈ f.securityEntries f.wholeServices, e.Fits d) ↔
      ∀ r ∈ f.requirements, r.Valid f.schemes := by
  have hvalid {r : Requirement} : r.WellFormed d.schemes ↔ r.Valid f.schemes := by
    rw [hschemes]
    exact Requirement.wellFormed_iff_valid hnames
  have hservice {s : ServiceEntry} (hs : s ∈ f.services) : d.HasService s.name := by
    obtain ⟨made, hmade, hmirrored⟩ := exists_mem_of_forall₂ hservices hs
    exact ⟨made, hmade, hmirrored.name⟩
  have hmethod {s : ServiceEntry} (hs : s ∈ f.services) {m : MethodEntry} (hm : m ∈ s.methods) :
      d.HasMethod s.name m.name := by
    obtain ⟨made, hmade, hmirrored⟩ := exists_mem_of_forall₂ hservices hs
    obtain ⟨method, hmem, hsame⟩ := exists_mem_of_forall₂ hmirrored.methods hm
    exact ⟨made, hmade, hmirrored.name, method, hmem, hsame.name⟩
  constructor
  · intro h r hr
    rw [← hvalid]
    rcases mem_requirements.1 hr with hr | ⟨s, hs, hr | ⟨m, hm, hr⟩⟩
    · exact (h _ (mem_securityEntries.2 (.inl ⟨r, hr, rfl⟩))).2
    · exact (h _ (mem_securityEntries.2 (.inr ⟨s, hs, .inl ⟨r, hr, rfl⟩⟩))).2
    · exact (h _ (mem_securityEntries.2 (.inr ⟨s, hs, .inr ⟨m, hm, .inl ⟨r, hr, rfl⟩⟩⟩))).2
  · intro h e he
    rcases mem_securityEntries.1 he with
      ⟨r, hr, rfl⟩ | ⟨s, hs, ⟨r, hr, rfl⟩ | ⟨m, hm, ⟨r, hr, rfl⟩ | ⟨-, rfl⟩⟩⟩
    · exact ⟨trivial, hvalid.2 (h r (mem_requirements.2 (.inl hr)))⟩
    · exact ⟨hservice hs, hvalid.2 (h r (mem_requirements.2 (.inr ⟨s, hs, .inl hr⟩)))⟩
    · exact ⟨hmethod hs hm,
        hvalid.2 (h r (mem_requirements.2 (.inr ⟨s, hs, .inr ⟨m, hm, hr⟩⟩)))⟩
    · exact ⟨hmethod hs hm, s.name, m.name, rfl⟩

end DesignFile

end ApiDesign
