import ApiDesign.Proofs.Builder.Runs
import ApiDesign.Proofs.DesignFile.SecurityDeclarations

/-!
# Accepted design files

A design file goes into a design section by section: the schemes, the types, the services with their
methods, and then the security declarations of all of them, which refer to what was declared before.
Nothing is recorded as an error exactly if every section goes in as a whole, and that is so exactly
if the file is valid.  The design is then the one that the file describes.

* `foldlM_schemes_iff`, `foldlM_types_iff`, `foldlM_services_iff` — the sections before security;
* `DesignFile.evaluate_eq_ok_iff` — the file as a whole;
* `DesignFile.accepted_exactly_if_valid` — what is accepted, and what it comes to.
-/

namespace ApiDesign

variable {d : Design}

/-! ### The sections before security -/

section Sections

variable {api : Api} {types : List UserType} {services : List Service} {schemes : SchemeRegistry}
  {security : SecurityRequirements}

theorem foldlM_schemes_iff {entries : List SchemeEntry} :
    entries.foldlM SchemeEntry.addTo ⟨api, types, services, ⟨[]⟩, security⟩ = .ok d ↔
      (entries.map (·.name)).Nodup ∧ (∀ s ∈ entries, s.Valid) ∧
        ⟨api, types, services, ⟨entries.map SchemeEntry.scheme⟩, security⟩ = d := by
  have hmade (made : List SecurityScheme) :
      List.Forall₂ (fun s t => SchemeEntry.Valid s ∧ SchemeEntry.scheme s = t) entries made ↔
        (∀ s ∈ entries, s.Valid) ∧ entries.map SchemeEntry.scheme = made := by
    rw [List.forall₂_and_left, ← List.forall₂_map_left_iff, List.forall₂_eq_eq_eq]
  refine (foldlM_append_nil_iff (fun made => Design.mk api types services ⟨made⟩ security)
    SchemeEntry.name SecurityScheme.name
    (fun s t => SchemeEntry.Valid s ∧ SchemeEntry.scheme s = t) (fun made s d => ?_) ?_).trans ?_
  · rw [SchemeEntry.addTo_eq_ok_iff]
    simp only [and_assoc, exists_and_left, exists_eq_left']
  · rintro s _ ⟨-, rfl⟩
    rfl
  · simp only [hmade, and_assoc, exists_and_left, exists_eq_left']

theorem foldlM_types_iff {entries : List TypeEntry} :
    entries.foldlM TypeEntry.addTo ⟨api, [], services, schemes, security⟩ = .ok d ↔
      (entries.map (·.name)).Nodup ∧
        ∃ types, List.Forall₂ (fun t made => t.toType = .ok made) entries types ∧
          ⟨api, types, services, schemes, security⟩ = d :=
  foldlM_append_nil_iff (fun types => Design.mk api types services schemes security)
    TypeEntry.name UserType.name (fun t made => TypeEntry.toType t = .ok made)
    (fun _ _ _ => TypeEntry.addTo_eq_ok_iff) (fun _ _ h => (TypeEntry.mirrored_of_toType h).name)

theorem foldlM_services_iff {entries : List ServiceEntry} :
    entries.foldlM ServiceEntry.addTo ⟨api, types, [], schemes, security⟩ = .ok d ↔
      (entries.map (·.name)).Nodup ∧
        ∃ services, List.Forall₂ (fun s made => s.toService types = .ok made) entries services ∧
          ⟨api, types, services, schemes, security⟩ = d :=
  foldlM_append_nil_iff (fun services => Design.mk api types services schemes security)
    ServiceEntry.name Service.name (fun s made => ServiceEntry.toService types s = .ok made)
    (fun _ _ _ => ServiceEntry.addTo_eq_ok_iff)
    (fun _ _ h => (ServiceEntry.mirrored_of_toService h).name)

end Sections

namespace DesignFile

variable {f : DesignFile}

/-! ### The file as a whole -/

theorem evaluate_eq_ok_iff_build : f.evaluate = .ok d ↔ f.build = ⟨d, []⟩ := by
  rw [evaluate, Builder.finish_eq_ok_iff]
  constructor
  · rintro ⟨herrors, rfl⟩
    exact Builder.eq_of_errors_nil herrors
  · intro h
    rw [h]
    exact ⟨rfl, rfl⟩

/-- The design of the parts of a file. -/
def designOf (f : DesignFile) (types : List UserType) (services : List Service) : Design :=
  ⟨f.api.api, types, services, ⟨f.schemes.map SchemeEntry.scheme⟩, f.security⟩

/-- The security declarations go in after everything else, exactly if the requirements are valid. -/
theorem foldlM_securityEntries_iff {types : List UserType} {services : List Service}
    (hschemeNames : (f.schemes.map (·.name)).Nodup)
    (hserviceNames : (f.services.map (·.name)).Nodup)
    (hdone : List.Forall₂ (fun s made => ServiceEntry.toService types s = .ok made)
      f.services services) :
    (f.securityEntries f.wholeServices).foldlM SecurityEntry.addTo
        { f.designOf types services with security := .empty } = .ok d ↔
      (∀ r ∈ f.requirements, r.Valid f.schemes) ∧ f.designOf types services = d := by
  have hmirrored : List.Forall₂ (ServiceEntry.MirroredBy types) f.services services :=
    hdone.imp fun _ _ => ServiceEntry.mirrored_of_toService
  have hnodup : (services.map (·.name)).Nodup := by
    rw [map_eq_map_of_forall₂ (f := ServiceEntry.name) (fun _ _ hs => hs.name) hmirrored]
    exact hserviceNames
  rw [foldlM_security_iff hnodup, fits_securityEntries_iff hschemeNames rfl hmirrored,
    foldl_securityEntries]
  rfl

/-- **The result of a file.**  A file is evaluated to the design of its parts, if all of them can be
made, their names are different and the requirements are valid. -/
theorem evaluate_eq_ok_iff :
    f.evaluate = .ok d ↔
      ((f.schemes.map (·.name)).Nodup ∧ ∀ s ∈ f.schemes, s.Valid) ∧
      (f.types.map (·.name)).Nodup ∧ (f.services.map (·.name)).Nodup ∧
      (∀ r ∈ f.requirements, r.Valid f.schemes) ∧
      ∃ types services, List.Forall₂ (fun t made => t.toType = .ok made) f.types types ∧
        List.Forall₂ (fun s made => s.toService types = .ok made) f.services services ∧
        f.designOf types services = d := by
  rw [evaluate_eq_ok_iff_build, build_eq_iff]
  constructor
  · rintro ⟨d₁, d₂, d₃, hschemes, htypes, hservices, hsecurity⟩
    obtain ⟨hschemeNames, hvalid, rfl⟩ := foldlM_schemes_iff.1 hschemes
    obtain ⟨htypeNames, types, hmade, rfl⟩ := foldlM_types_iff.1 htypes
    obtain ⟨hserviceNames, services, hdone, rfl⟩ := foldlM_services_iff.1 hservices
    obtain ⟨hrequirements, rfl⟩ :=
      (foldlM_securityEntries_iff hschemeNames hserviceNames hdone).1 hsecurity
    exact ⟨⟨hschemeNames, hvalid⟩, htypeNames, hserviceNames, hrequirements, types, services, hmade,
      hdone, rfl⟩
  · rintro ⟨⟨hschemeNames, hvalid⟩, htypeNames, hserviceNames, hrequirements, types, services, hmade,
      hdone, rfl⟩
    exact ⟨_, _, _, foldlM_schemes_iff.2 ⟨hschemeNames, hvalid, rfl⟩,
      foldlM_types_iff.2 ⟨htypeNames, types, hmade, rfl⟩,
      foldlM_services_iff.2 ⟨hserviceNames, services, hdone, rfl⟩,
      (foldlM_securityEntries_iff hschemeNames hserviceNames hdone).2 ⟨hrequirements, rfl⟩⟩

/-- **Acceptance.**  A design file is accepted exactly if it is valid, and then the design says what
the file says, part by part and in the order of the file. -/
theorem accepted_exactly_if_valid (f : DesignFile) :
    ((∃ d, f.evaluate = .ok d) ↔ f.Valid) ∧ ∀ d, f.evaluate = .ok d → f.MirroredBy d := by
  have htypeNames {types : List UserType}
      (hmade : List.Forall₂ (fun t made => TypeEntry.toType t = .ok made) f.types types) :
      types.map (·.name) = f.types.map (·.name) :=
    map_eq_map_of_forall₂ (f := TypeEntry.name) (g := UserType.name)
      (fun _ _ ht => (TypeEntry.mirrored_of_toType ht).name) hmade
  refine ⟨⟨?_, fun h => ?_⟩, fun d hd => ?_⟩
  · rintro ⟨d, hd⟩
    obtain ⟨⟨hschemes, hvalid⟩, htypes, hservices, hrequirements, types, services, hmade, hdone, -⟩ :=
      evaluate_eq_ok_iff.1 hd
    refine ⟨hschemes, hvalid, htypes, fun t ht => ?_, hservices, fun s hs => ?_, hrequirements⟩
    · exact TypeEntry.exists_toType_iff.1 (exists_forall₂_iff.1 ⟨types, hmade⟩ t ht)
    · exact (ServiceEntry.exists_toService_iff (htypeNames hmade)).1
        (exists_forall₂_iff.1 ⟨services, hdone⟩ s hs)
  · obtain ⟨types, hmade⟩ := exists_forall₂_iff.2 fun t ht =>
      TypeEntry.exists_toType_iff.2 (h.types t ht)
    obtain ⟨services, hdone⟩ := exists_forall₂_iff.2 fun s hs =>
      (ServiceEntry.exists_toService_iff (htypeNames hmade)).2 (h.services s hs)
    exact ⟨_, evaluate_eq_ok_iff.2 ⟨⟨h.schemeNames, h.schemes⟩, h.typeNames, h.serviceNames,
      h.requirements, types, services, hmade, hdone, rfl⟩⟩
  · obtain ⟨-, -, -, -, types, services, hmade, hdone, rfl⟩ := evaluate_eq_ok_iff.1 hd
    exact ⟨rfl, forall₂_map_of_forall SchemeEntry.mirrored_scheme f.schemes,
      hmade.imp fun _ _ => TypeEntry.mirrored_of_toType,
      hdone.imp fun _ _ => ServiceEntry.mirrored_of_toService, rfl⟩

/-! ### A file -/

/-- A file with two schemes, one of them with flows for two grants, a type with nested attributes and
a method that takes the type. -/
def shelf : DesignFile where
  api := ⟨.ofName "shelf", []⟩
  schemes := [⟨.jwt, "member", none, [⟨"borrow", none⟩], []⟩,
    ⟨.oauth2, "partner", none, [⟨"lend", some "Lend to members."⟩],
      [⟨.authorizationCode, "/authorize", "/token", ""⟩,
        ⟨.clientCredentials, "", "/token", "/refresh"⟩]⟩]
  types := [⟨"Loan", [
    ⟨"card", "string", true, none, none, some "apiKey", some "member", []⟩,
    ⟨"books", " array<object> ", false, none, none, none, none,
      [⟨"isbn", "String", true, none, none, none, none, []⟩]⟩]⟩]
  services := [⟨"desk", none, [⟨["member"], ["borrow"]⟩], [
    ⟨"lend", none, some (.named "Loan"), none, [], false, [⟨.post, "/loans"⟩]⟩,
    ⟨"hours", none, none, some (.inline []), [], true, [⟨.get, "/hours"⟩]⟩]⟩]

/-- The file is accepted, so it is valid and the design says what it says; each flow has the
addresses of its grant. -/
theorem shelf_accepted :
    shelf.Valid ∧ ∃ d, shelf.evaluate = .ok d ∧ shelf.MirroredBy d ∧
      d.schemes.schemes.map (·.flows) = [[],
        [⟨.authorizationCode, some "/authorize", some "/token", none⟩,
          ⟨.clientCredentials, none, some "/token", some "/refresh"⟩]] := by
  have hflows : shelf.evaluate.toOption.map (fun d => d.schemes.schemes.map (·.flows)) = some [[],
      [⟨.authorizationCode, some "/authorize", some "/token", none⟩,
        ⟨.clientCredentials, none, some "/token", some "/refresh"⟩]] := by decide +kernel
  obtain ⟨hvalid, hmirrored⟩ := accepted_exactly_if_valid shelf
  cases hd : shelf.evaluate with
  | error errors =>
    rw [hd] at hflows
    cases hflows
  | ok d =>
    rw [hd] at hflows
    exact ⟨hvalid.1 ⟨d, hd⟩, d, rfl, hmirrored d hd, Option.some.inj hflows⟩

end DesignFile

end ApiDesign
