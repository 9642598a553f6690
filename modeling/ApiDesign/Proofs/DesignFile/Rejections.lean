import ApiDesign.Proofs.DesignFile.Judgement
import ApiDesign.Proofs.DesignFile.SecurityDeclarations

/-!
# Every rejection is reported once

Security is declared last, for nodes that were accepted, so that only requirements can be rejected
there.  With the sections before it that makes the errors of a file: one for each declaration that is
rejected, and nothing for what belongs to a rejected one.

* `SecurityEntry.Placed` — a security declaration for an accepted node;
* `SecurityEntry.errorOf?_checkRequirement` — a requirement leaves the error of its verdict;
* `DesignFile.leading_judge`, `progress_judge`, `build_errors` — the sections of a file;
* `DesignFile.evaluate_reports_rejections` — the whole file.
-/

namespace ApiDesign

variable {schemes : List SchemeEntry} {types : List TypeEntry} {services : List AcceptedService}
  {d : Design}

/-! ### Requirements -/

/-- The first name without a scheme decides. -/
theorem Builder.errorOf?_resolveAll (h : d.Has schemes types services) (names : List String) :
    errorOf? (resolveAll d.schemes (names.map .name)) =
      (names.find? fun name => ¬∃ s ∈ schemes, s.name = name).map .unknownScheme := by
  have hresolve (name : String) : errorOf? (d.schemes.resolve (.name name)) =
      if ∃ s ∈ schemes, s.name = name then none else some (.unknownScheme name) := by
    simp only [← h.contains_iff, SchemeRegistry.contains, SchemeRegistry.resolve]
    cases d.schemes.get? name <;> rfl
  rw [resolveAll, errorOf?_mapM, List.findSome?_map, ← findSome?_guarded]
  exact congrArg (names.findSome? ·) (funext hresolve)

/-- The first scope that none of the schemes defines decides. -/
theorem Requirement.errorOf?_demand (found : List SecurityScheme) (scopes : List String) :
    errorOf? (demand found scopes) =
      (scopes.find? fun scope => ¬∃ s ∈ found, s.hasScope scope = true).map fun scope =>
        .unknownScope scope (", ".intercalate (found.map fun s => DesignError.inQuotes s.name)) := by
  have hadd (r : Requirement) (scope : String) : errorOf? (r.addScope found scope []) =
      if ∃ s ∈ found, s.hasScope scope = true then none
      else some (.unknownScope scope
        (", ".intercalate (found.map fun s => DesignError.inQuotes s.name))) := by
    simp only [← List.any_eq_true, addScope]
    cases found.any (·.hasScope scope) <;> rfl
  rw [demand, errorOf?_foldlM hadd, findSome?_guarded]

/-- The schemes that are found under the names of a requirement define the scopes that the entries
of these names list. -/
theorem Design.Has.exists_hasScope_iff (h : d.Has schemes types services) {names : List String}
    {found : List SecurityScheme}
    (hfound : List.Forall₂ (fun name s => d.schemes.get? name = some s) names found)
    (scope : String) :
    (∃ s ∈ found, s.hasScope scope = true) ↔
      ∃ s ∈ schemes, s.name ∈ names ∧ ∃ c ∈ s.scopes, c.name = scope := by
  have hregistry : (d.schemes.schemes.map (·.name)).Nodup := by
    rw [h.registered, List.map_map]
    exact h.schemeNames
  constructor
  · rintro ⟨t, ht, hdefined⟩
    obtain ⟨name, hname, hget⟩ := exists_mem_of_forall₂ hfound.flip ht
    obtain ⟨hmem, rfl⟩ := SchemeRegistry.get?_mem hget
    rw [h.registered] at hmem
    obtain ⟨s, hs, rfl⟩ := List.mem_map.1 hmem
    exact ⟨s, hs, hname, SchemeEntry.hasScope_scheme.1 hdefined⟩
  · rintro ⟨s, hs, hname, hdefined⟩
    obtain ⟨t, ht, hget⟩ := exists_mem_of_forall₂ hfound hname
    have hmem : s.scheme ∈ d.schemes.schemes := by
      rw [h.registered]
      exact List.mem_map_of_mem hs
    have hscheme : d.schemes.get? s.name = some s.scheme :=
      SchemeRegistry.get?_name_of_mem hregistry hmem
    rw [hscheme] at hget
    cases hget
    exact ⟨s.scheme, ht, SchemeEntry.hasScope_scheme.2 hdefined⟩

namespace SecurityEntry

/-- What is wrong with a security declaration for an accepted node: a requirement can be. -/
def fault (schemes : List SchemeEntry) : SecurityEntry → Option DesignError
  | ⟨_, .require r⟩ => r.fault schemes
  | ⟨_, .noSecurity⟩ => none

theorem check_of_admits (h : d.Has schemes types services) {target : Target}
    (htarget : d.Admits target) (declaration : String) :
    Builder.checkSecurityTarget d declaration target = .ok () := by
  have hnames : (d.services.map (·.name)).Nodup := h.map_name_services ▸ h.serviceNames
  exact (Builder.checkSecurityTarget_eq_ok_iff hnames).2 htarget

/-- A requirement for an accepted node leaves the error of its verdict. -/
theorem errorOf?_checkRequirement (h : d.Has schemes types services) {target : Target}
    (htarget : d.Admits target) (r : Requirement) :
    errorOf? (checkRequirement d target r) = r.fault schemes := by
  rw [checkRequirement, check_of_admits h htarget]
  show errorOf? (if r.schemes = [] then .error .emptyRequirement
    else Builder.resolveAll d.schemes (r.schemes.map .name) >>= fun found =>
      Requirement.demand found r.scopes) = _
  rw [errorOf?_guarded, Requirement.fault]
  refine congrArg (fun o => if r.schemes = [] then some DesignError.emptyRequirement else o) ?_
  rw [← Builder.errorOf?_resolveAll h]
  refine errorOf?_bind fun found hfound => ?_
  have hall := Builder.resolveAll_names_eq_ok_iff.1 hfound
  have hnames : found.map (·.name) = r.schemes := map_name_of_found hall
  have hquoted : (found.map fun s => DesignError.inQuotes s.name) =
      r.schemes.map DesignError.inQuotes := by
    rw [← hnames, List.map_map]
    rfl
  rw [Requirement.errorOf?_demand, hquoted]
  simp only [h.exists_hasScope_iff hall]

/-! ### Declarations for accepted nodes -/

/-- The declaration is for the API, an accepted service or an accepted method. -/
inductive Placed (services : List AcceptedService) : SecurityEntry → Prop where
  | api (r : Requirement) : Placed services ⟨.api, .require r⟩
  | service {a : AcceptedService} (ha : a ∈ services) (r : Requirement) :
      Placed services ⟨.service a.service.name, .require r⟩
  | method {a : AcceptedService} {m : MethodEntry} (ha : a ∈ services) (hm : m ∈ a.methods)
      (s : MethodSecurity) : Placed services ⟨.method a.service.name m.name, s⟩

theorem Placed.admits {e : SecurityEntry} (he : e.Placed services)
    (h : d.Has schemes types services) : d.Admits e.target := by
  cases he with
  | api r => trivial
  | service ha r =>
    obtain ⟨made, hmade, hname⟩ := exists_mem_of_forall₂ h.made ha
    exact ⟨made, hmade, hname.name⟩
  | @method a m ha hm s =>
    obtain ⟨made, hmade, hpair⟩ := exists_mem_of_forall₂ h.made ha
    have hname : m.name ∈ made.methods.map (·.name) := by
      rw [hpair.methods]
      exact List.mem_map_of_mem hm
    obtain ⟨n, hn, heq⟩ := List.mem_map.1 hname
    exact ⟨made, hmade, hpair.name, n, hn, heq⟩

theorem judged {entries : List SecurityEntry} (hplaced : ∀ e ∈ entries, e.Placed services) :
    Building.Judges addTo (fun _ => fault schemes)
      (fun _ => Design.Has schemes types services) entries where
  error := by
    intro _ d h e he
    have htarget := (hplaced e he).admits h
    cases hplaced e he with
    | api r => exact (errorOf?_map _ _).trans (errorOf?_checkRequirement h htarget r)
    | service ha r => exact (errorOf?_map _ _).trans (errorOf?_checkRequirement h htarget r)
    | method ha hm s =>
      cases s with
      | require r => exact (errorOf?_map _ _).trans (errorOf?_checkRequirement h htarget r)
      | noSecurity =>
        refine (errorOf?_map _ _).trans ?_
        rw [check_of_admits h htarget]
        rfl
  next := by
    intro _ d made h e _ hadd
    have hnames : (d.services.map (·.name)).Nodup := h.map_name_services ▸ h.serviceNames
    obtain ⟨-, rfl⟩ := (addTo_eq_ok_iff hnames).1 hadd
    exact ⟨h.registered, h.schemeNames, h.typeNames, h.made, h.serviceNames⟩

end SecurityEntry

/-! ### Declarations that are judged on their own -/

section Alone

variable {α : Type} {fault : α → Option DesignError}

theorem Verdict.errors_judge_alone (earlier xs : List α) :
    errors (judge (fun _ => fault) earlier xs) = xs.filterMap fault := by
  induction xs generalizing earlier with
  | nil => rfl
  | cons x xs ih =>
    cases hfault : fault x with
    | none => rw [judge_cons_of_none hfault, errors_cons_none, ih, List.filterMap_cons_none hfault]
    | some e => rw [judge_cons_of_some hfault, errors_cons_some, ih, List.filterMap_cons_some hfault]

/-- Declarations that are judged on their own leave their errors in order. -/
theorem Builder.declareAll_errors_alone {declaration : α → Declaration}
    {add : Design → α → Except DesignError Design} {R : Design → Prop} {xs : List α}
    (hperforms : Performs declaration add)
    (h : Building.Judges add (fun _ => fault) (fun _ => R) xs) {b : Builder} (hR : R b.design) :
    (b.declareAll (xs.map declaration)).errors = b.errors ++ xs.filterMap fault := by
  have hrun : (b.declareAll (xs.map declaration)).errors =
      b.errors ++ Verdict.errors (Verdict.judge (fun _ => fault) [] xs) :=
    (Builder.declareAll_judge hperforms h hR).1
  rw [hrun, Verdict.errors_judge_alone]

end Alone

/-! ### The sections of a file -/

namespace DesignFile

variable (f : DesignFile)

/-- The schemes and the types leave the errors of their verdicts. -/
theorem leading_judge :
    f.leading.errors = Verdict.errors f.schemeVerdicts ++ Verdict.errors f.typeVerdicts ∧
    f.leading.design.Has (Verdict.accepted f.schemeVerdicts) (Verdict.accepted f.typeVerdicts) [] := by
  have hstart : f.apiOnly.Has [] [] [] := ⟨rfl, List.nodup_nil, rfl, .nil, List.nodup_nil⟩
  obtain ⟨hschemeErrors, hschemes⟩ := Builder.declareAll_judge SchemeEntry.performs
    (SchemeEntry.judged f.schemes) (b := ⟨f.apiOnly, []⟩) hstart
  obtain ⟨htypeErrors, htypes⟩ := Builder.declareAll_judge TypeEntry.performs
    (TypeEntry.judged f.types) hschemes
  refine ⟨?_, htypes⟩
  rw [leading, htypeErrors, hschemeErrors]
  rfl

/-- The services leave the errors of their verdicts, and their methods if they are accepted. -/
theorem progress_judge :
    f.progress.builder.errors = f.leading.errors ++ f.serviceVerdicts.flatMap f.serviceErrors ∧
    f.progress.accepted = (Verdict.accepted f.serviceVerdicts).map f.acceptedService ∧
    f.progress.builder.design.Has (Verdict.accepted f.schemeVerdicts)
      (Verdict.accepted f.typeVerdicts) f.progress.accepted :=
  ServiceProgress.foldl_next_judge f.services f.leading_judge.2

theorem placed_of_mem_securityEntries {accepted : List AcceptedService} {e : SecurityEntry}
    (h : e ∈ f.securityEntries accepted) : e.Placed accepted := by
  rw [securityEntries, List.mem_append, List.mem_flatMap] at h
  rcases h with h | ⟨a, ha, h⟩
  · obtain ⟨r, -, rfl⟩ := List.mem_map.1 h
    exact .api r
  rw [AcceptedService.securityEntries, List.mem_append, List.mem_flatMap] at h
  rcases h with h | ⟨m, hm, h⟩
  · obtain ⟨r, -, rfl⟩ := List.mem_map.1 h
    exact .service ha r
  rw [MethodEntry.securityEntries, List.mem_append] at h
  rcases h with h | h
  · obtain ⟨r, -, rfl⟩ := List.mem_map.1 h
    exact .method ha hm _
  · split at h
    · rw [List.mem_singleton.1 h]
      exact .method ha hm _
    · cases h

/-- Of the security declarations only requirements leave errors. -/
theorem filterMap_securityEntries (accepted : List ServiceEntry) :
    (f.securityEntries (accepted.map f.acceptedService)).filterMap
        (SecurityEntry.fault (Verdict.accepted f.schemeVerdicts)) =
      f.requirementErrors f.api.security ++ accepted.flatMap f.securityErrors := by
  have hrequirements (target : Target) (rs : List Requirement) :
      (rs.map fun r => SecurityEntry.mk target (.require r)).filterMap
        (SecurityEntry.fault (Verdict.accepted f.schemeVerdicts)) = f.requirementErrors rs :=
    List.filterMap_map
  have hmethod (service : String) (m : MethodEntry) :
      (m.securityEntries service).filterMap
        (SecurityEntry.fault (Verdict.accepted f.schemeVerdicts)) =
      f.requirementErrors m.security := by
    rw [MethodEntry.securityEntries, List.filterMap_append, hrequirements]
    split
    · exact List.append_nil _
    · exact List.append_nil _
  rw [securityEntries, List.filterMap_append, hrequirements, List.filterMap_flatMap,
    List.flatMap_map]
  refine congrArg _ (List.flatMap_congr fun s _ => ?_)
  rw [AcceptedService.securityEntries, List.filterMap_append, hrequirements,
    List.filterMap_flatMap, securityErrors]
  simp only [hmethod]
  rfl

theorem build_errors : f.build.errors = f.rejections := by
  obtain ⟨hleading, -⟩ := f.leading_judge
  obtain ⟨hprogress, haccepted, hhas⟩ := f.progress_judge
  have hplaced : ∀ e ∈ f.securityEntries f.progress.accepted, e.Placed f.progress.accepted :=
    fun _ he => f.placed_of_mem_securityEntries he
  rw [build_eq, Builder.declareAll_errors_alone SecurityEntry.performs
    (SecurityEntry.judged hplaced) hhas, hprogress, hleading, haccepted,
    filterMap_securityEntries, rejections, List.append_assoc _ (f.requirementErrors _)]

/-- **Every rejection is reported once.**  A file that is not accepted is answered with the errors of
its rejected declarations, in the order of the file and section by section, and with no others. -/
theorem evaluate_reports_rejections (errors : List DesignError) :
    f.evaluate = .error errors ↔ errors ≠ [] ∧ errors = f.rejections := by
  rw [evaluate, Builder.finish, build_errors]
  split
  · rename_i hempty
    refine iff_of_false (by rintro ⟨⟩) ?_
    rintro ⟨hne, heq⟩
    exact hne (heq.trans (List.isEmpty_iff.1 hempty))
  · rename_i hnonempty
    have hne : f.rejections ≠ [] := fun hnil => hnonempty (List.isEmpty_iff.2 hnil)
    constructor
    · rintro ⟨⟩
      exact ⟨hne, rfl⟩
    · rintro ⟨-, rfl⟩
      rfl

/-- A type of a taken name, a method without its payload type, and a service of a taken name.  What
belongs to the last two is left out; the requirements of the accepted nodes come last. -/
example :
    let order : TypeEntry := ⟨"Order", []⟩
    let unknown : Requirement := ⟨["jwt"], []⟩
    let place : MethodEntry := ⟨"place", none, some (.named "Item"), none, [unknown], false, []⟩
    let list : MethodEntry := ⟨"list", none, some (.named "Order"), none, [⟨[], []⟩], false, []⟩
    let shop : ServiceEntry := ⟨"shop", none, [unknown], [place, list]⟩
    (build ⟨⟨.ofName "shop", []⟩, [], [order, order], [shop, shop]⟩).errors =
      [.duplicateType "Order", .unknownType "Item", .duplicateService "shop",
        .unknownScheme "jwt", .emptyRequirement] := by
  decide +kernel

end DesignFile

end ApiDesign
