import ApiDesign.Proofs.Builder.WellFormed
import ApiDesign.Proofs.DesignFile.Bodies

/-!
# The declarations of a design file

Every declaration that a design file stands for either adds to the design what its entry describes,
or leaves the design as it was and one error more: it updates the builder with a result that depends
on the entry and the design alone.  A service is different in that it is declared without those of
its methods that are refused, each of which leaves an error.

* `SchemeEntry.addTo`, `TypeEntry.addTo`, `ServiceEntry.addTo`, `SecurityEntry.addTo` — the results;
* `SchemeEntry.performs`, `TypeEntry.performs`, `SecurityEntry.performs` — what the declarations do;
* `ServiceProgress.next_of_new` — what the declaration of a service does;
* `DesignFile.build_eq_iff` — a file leaves no error exactly if all results go through one after the
  other.
-/

namespace ApiDesign

namespace Builder

/-- The design of a builder as a node under construction. -/
def building (b : Builder) : Building Design := ⟨b.design, b.errors⟩

theorem building_eq_iff {b : Builder} {d : Design} : b.building = ⟨d, []⟩ ↔ b = ⟨d, []⟩ := by
  obtain ⟨design, errors⟩ := b
  simp [building]

theorem eq_of_errors_nil {b : Builder} (h : b.errors = []) : b = ⟨b.design, []⟩ := by
  rw [← h]

variable {α : Type} {declaration : α → Declaration} {add : Design → α → Except DesignError Design}

/-- The declarations of entries update the builder with results. -/
def Performs (declaration : α → Declaration) (add : Design → α → Except DesignError Design) : Prop :=
  ∀ (b : Builder) (x : α),
    (b.declare (declaration x)).builder.building = (b.building.update (add b.design x)).1

/-- **The run of a section.**  Declarations that update the builder with results add their entries
one by one. -/
theorem building_declareAll (h : Performs declaration add) (b : Builder) (xs : List α) :
    (b.declareAll (xs.map declaration)).building = b.building.addAll add xs := by
  induction xs generalizing b with
  | nil => rfl
  | cons x xs ih =>
    refine (ih (b.declare (declaration x)).builder).trans ?_
    rw [h]
    rfl

theorem declareAll_eq_iff (h : Performs declaration add) {b : Builder} {xs : List α} {d : Design} :
    b.declareAll (xs.map declaration) = ⟨d, []⟩ ↔
      b.errors = [] ∧ xs.foldlM add b.design = .ok d := by
  rw [← building_eq_iff, building_declareAll h, Building.addAll_eq_iff]
  rfl

end Builder

/-! ### Schemes -/

namespace SchemeEntry

/-- The design with the scheme of an entry. -/
def addTo (d : Design) (s : SchemeEntry) : Except DesignError Design :=
  if s.kind = .none then
    .error (.incompatibleContext s.kind.declaration
      ("security scheme " ++ DesignError.inQuotes s.name))
  else if d.schemes.contains s.name then .error (.duplicateScheme s.name)
  else if s.kind ≠ .oauth2 ∧ s.flows ≠ [] then .error (.invalidSchemeKind s.name)
  else if s.kind = .oauth2 ∧ s.flows = [] then .error (.missingFlows s.name)
  else .ok { d with schemes := ⟨d.schemes.schemes ++ [s.scheme]⟩ }

theorem performs : Builder.Performs declaration addTo := by
  intro b s
  have hrun := s.body_comesTo b.errors
  show (b.defineScheme .top s.kind s.name s.body).builder.building = _
  unfold Builder.defineScheme addTo
  rw [if_neg (not_not.2 rfl)]
  split
  · rfl
  split
  · rfl
  rename_i hnew
  split
  · rename_i hflows
    rw [if_pos hflows] at hrun
    simp only [hrun.1, Builder.abandon, hrun.2]
    rfl
  · rename_i hflows
    rw [if_neg hflows] at hrun
    simp only [hrun.1, hrun.2]
    have hmissing : (s.scheme.kind = .oauth2 ∧ s.scheme.flows = []) ↔
        (s.kind = .oauth2 ∧ s.flows = []) := by
      simp [scheme]
    simp only [hmissing]
    split
    · rfl
    · have hregister : b.design.schemes.register s.scheme =
          .ok (⟨b.design.schemes.schemes.length⟩, ⟨b.design.schemes.schemes ++ [s.scheme]⟩) :=
        if_neg hnew
      rw [hregister]
      rfl

end SchemeEntry

/-! ### Types -/

namespace TypeEntry

/-- The design with the type of an entry. -/
def addTo (d : Design) (t : TypeEntry) : Except DesignError Design :=
  if (d.userType? t.name).isSome then .error (.duplicateType t.name)
  else
    (fun made => { d with types := d.types ++ [made] }) <$> t.toType

theorem performs : Builder.Performs declaration addTo := by
  intro b t
  show (b.defineType t.name t.body).builder.building = _
  unfold Builder.defineType addTo toType
  split
  · rfl
  rcases t.run_body with ⟨attributes, hattributes, hstate, houtcome⟩ | ⟨e, he, houtcome⟩
  · simp only [houtcome, hstate, hattributes]
    rfl
  · simp only [houtcome, he, Builder.abandon, Building.close_unrecorded]
    rfl

end TypeEntry

/-! ### Services -/

/-- The design with the service of an entry, all of whose methods must go in. -/
def ServiceEntry.addTo (d : Design) (s : ServiceEntry) : Except DesignError Design :=
  if (d.service? s.name).isSome then .error (.duplicateService s.name)
  else
    (fun made => { d with services := d.services ++ [made] }) <$> s.toService d.types

namespace ServiceProgress

variable {p : ServiceProgress} {s : ServiceEntry}

theorem next_of_taken (h : (p.builder.design.service? s.name).isSome = true) :
    p.next s = ⟨⟨p.builder.design, p.builder.errors ++ [.duplicateService s.name]⟩, p.accepted⟩ := by
  have hdeclare : p.builder.declare s.declaration =
      p.builder.refuse (.duplicateService s.name) none := if_pos h
  rw [next, hdeclare]
  rfl

/-- A service is declared with the methods that are not refused. -/
theorem next_of_new (h : ¬(p.builder.design.service? s.name).isSome = true) :
    p.next s =
      let d := p.builder.design
      let made := Building.addAll (MethodEntry.addTo d.types) ⟨s.start, p.builder.errors⟩ s.methods
      ⟨⟨{ d with services := d.services ++ [made.node] }, made.errors⟩,
        p.accepted ++ [⟨s, Building.accepted (MethodEntry.addTo d.types) s.start s.methods⟩]⟩ := by
  obtain ⟨hstate, houtcome, haccepted⟩ := s.run_body p.builder.design.types p.builder.errors
  have hdeclare : p.builder.declare s.declaration = p.builder.defineService s.name s.body := rfl
  rw [next, hdeclare, Builder.defineService, if_neg h]
  simp only [houtcome, Builder.accept, Option.getD_some, haccepted, hstate]

theorem next_eq_iff {d : Design} {accepted : List AcceptedService} :
    p.next s = ⟨⟨d, []⟩, accepted⟩ ↔
      p.builder.errors = [] ∧ s.addTo p.builder.design = .ok d ∧
        p.accepted ++ [⟨s, s.methods⟩] = accepted := by
  unfold ServiceEntry.addTo ServiceEntry.toService
  split
  · rename_i htaken
    rw [next_of_taken htaken]
    refine iff_of_false (fun h => ?_) (by rintro ⟨-, ⟨⟩, -⟩)
    have herrors : p.builder.errors ++ [DesignError.duplicateService s.name] = [] :=
      congrArg (·.builder.errors) h
    simp at herrors
  · rename_i hnew
    rw [next_of_new hnew, map_eq_ok_iff]
    constructor
    · intro h
      dsimp only at h
      generalize hmade : Building.addAll (MethodEntry.addTo p.builder.design.types)
        ⟨s.start, p.builder.errors⟩ s.methods = made at h
      obtain ⟨node, errors⟩ := made
      simp only [ServiceProgress.mk.injEq, Builder.mk.injEq] at h
      obtain ⟨⟨rfl, rfl⟩, rfl⟩ := h
      obtain ⟨hnil, hmethods⟩ := Building.addAll_eq_iff.1 hmade
      exact ⟨hnil, ⟨node, hmethods, rfl⟩, by rw [Building.accepted_eq_self hmethods]⟩
    · rintro ⟨hnil, ⟨made, hmade, rfl⟩, rfl⟩
      have hall : Building.addAll (MethodEntry.addTo p.builder.design.types)
          ⟨s.start, p.builder.errors⟩ s.methods = ⟨made, []⟩ :=
        Building.addAll_eq_iff.2 ⟨hnil, hmade⟩
      simp only [hall, Building.accepted_eq_self hmade]

/-- **The run of the services.**  No error is left exactly if every service goes in with all its
methods. -/
theorem foldl_next_eq_iff {services : List ServiceEntry} {d : Design}
    {accepted : List AcceptedService} :
    services.foldl next p = ⟨⟨d, []⟩, accepted⟩ ↔
      p.builder.errors = [] ∧ services.foldlM ServiceEntry.addTo p.builder.design = .ok d ∧
        p.accepted ++ services.map (fun s => ⟨s, s.methods⟩) = accepted := by
  induction services generalizing p with
  | nil =>
    obtain ⟨⟨design, errors⟩, before⟩ := p
    rw [List.map_nil, List.append_nil]
    constructor
    · rintro ⟨⟩
      exact ⟨rfl, rfl, rfl⟩
    · rintro ⟨rfl, ⟨⟩, rfl⟩
      rfl
  | cons s services ih =>
    rw [List.foldl_cons, ih, List.foldlM_cons, bind_eq_ok_iff]
    constructor
    · rintro ⟨hnil, hrest, rfl⟩
      have hnext : p.next s = ⟨⟨(p.next s).builder.design, []⟩, (p.next s).accepted⟩ := by
        rw [← hnil]
      obtain ⟨herrors, hadd, haccepted⟩ := next_eq_iff.1 hnext
      refine ⟨herrors, ⟨_, hadd, hrest⟩, ?_⟩
      rw [← haccepted, List.append_assoc]
      rfl
    · rintro ⟨herrors, ⟨next, hadd, hrest⟩, rfl⟩
      rw [next_eq_iff.2 ⟨herrors, hadd, rfl⟩]
      refine ⟨rfl, hrest, ?_⟩
      rw [List.append_assoc]
      rfl

end ServiceProgress

/-! ### Security -/

/-- A security declaration of a file and the node that it is about. -/
structure SecurityEntry where
  target : Target
  security : MethodSecurity

namespace SecurityEntry

/-- The declaration of an entry. -/
def declaration : SecurityEntry → Declaration
  | ⟨target, .require r⟩ => r.declaration target
  | ⟨target, .noSecurity⟩ => .noSecurity target

/-- The declarations with those of an entry. -/
def attach (s : SecurityRequirements) : SecurityEntry → SecurityRequirements
  | ⟨target, .require r⟩ => Builder.attach s target r
  | ⟨.method service method, .noSecurity⟩ =>
    { s with methods := s.methods ++ [⟨service, method, .noSecurity⟩] }
  | _ => s

/-- The requirement that can be declared for a node: it is checked against the schemes of the
design. -/
def checkRequirement (d : Design) (target : Target) (r : Requirement) :
    Except DesignError Requirement := do
  Builder.checkSecurityTarget d "Security" target
  if r.schemes = [] then .error .emptyRequirement
  else
    let schemes ← Builder.resolveAll d.schemes (r.schemes.map .name)
    Requirement.demand schemes r.scopes

/-- The design with the security declaration of an entry. -/
def addTo (d : Design) (e : SecurityEntry) : Except DesignError Design :=
  match e with
  | ⟨target, .require r⟩ =>
    (fun made => { d with security := Builder.attach d.security target made }) <$>
      checkRequirement d target r
  | ⟨.method service method, .noSecurity⟩ =>
    (fun _ => { d with security := attach d.security e }) <$>
      Builder.checkSecurityTarget d "NoSecurity" (.method service method)
  | ⟨target, .noSecurity⟩ => .error (.incompatibleContext "NoSecurity" target.describe)

theorem building_requireSecurity (b : Builder) (target : Target) (r : Requirement) :
    (b.declare (r.declaration target)).builder.building =
      (b.building.update (addTo b.design ⟨target, .require r⟩)).1 := by
  show (b.requireSecurity target (r.schemes.map .name)
    (callAll (r.scopes.map fun scope => ⟨scope, []⟩))).builder.building = _
  simp only [Builder.requireSecurity, addTo, checkRequirement]
  cases Builder.checkSecurityTarget b.design "Security" target with
  | error e => rfl
  | ok _ =>
    dsimp only
    by_cases hnil : r.schemes = []
    · simp only [hnil]
      rfl
    · rw [if_neg (by simpa using hnil)]
      simp only [if_neg hnil]
      cases Builder.resolveAll b.design.schemes (r.schemes.map .name) with
      | error e => rfl
      | ok schemes =>
        have hrun := Requirement.body_comesTo schemes r.scopes b.errors
        simp only [bind, Except.bind]
        cases hdemand : Requirement.demand schemes r.scopes with
        | error e =>
          rw [hdemand] at hrun
          simp only [hrun.1, Builder.abandon, hrun.2]
          rfl
        | ok made =>
          rw [hdemand] at hrun
          simp only [hrun.1, hrun.2]
          rfl

theorem performs : Builder.Performs declaration addTo := by
  rintro b ⟨target, security⟩
  cases security with
  | require r => exact building_requireSecurity b target r
  | noSecurity =>
    show (b.dropSecurity target).builder.building = _
    cases target with
    | method service method =>
      simp only [Builder.dropSecurity, addTo]
      cases Builder.checkSecurityTarget b.design "NoSecurity" (.method service method) <;> rfl
    | _ => rfl

end SecurityEntry

/-! ### The whole file -/

/-- The security declarations of a method. -/
def MethodEntry.securityEntries (service : String) (m : MethodEntry) : List SecurityEntry :=
  m.security.map (⟨.method service m.name, .require ·⟩)
    ++ if m.noSecurity then [⟨.method service m.name, .noSecurity⟩] else []

/-- The security declarations of a service that was declared, and of its methods. -/
def AcceptedService.securityEntries (a : AcceptedService) : List SecurityEntry :=
  a.service.security.map (⟨.service a.service.name, .require ·⟩)
    ++ a.methods.flatMap (MethodEntry.securityEntries a.service.name)

namespace DesignFile

variable {f : DesignFile} {accepted : List AcceptedService} {d : Design}

/-- The security declarations of a file, given the services that were declared. -/
def securityEntries (f : DesignFile) (accepted : List AcceptedService) : List SecurityEntry :=
  f.api.security.map (⟨.api, .require ·⟩) ++ accepted.flatMap AcceptedService.securityEntries

theorem map_securityEntries (f : DesignFile) (accepted : List AcceptedService) :
    (f.securityEntries accepted).map SecurityEntry.declaration = f.securityDeclarations accepted := by
  have hmethod (service : String) (m : MethodEntry) :
      (m.securityEntries service).map SecurityEntry.declaration =
        m.securityDeclarations service := by
    rw [MethodEntry.securityEntries, MethodEntry.securityDeclarations, List.map_append, List.map_map]
    split <;> rfl
  have hservice (a : AcceptedService) :
      a.securityEntries.map SecurityEntry.declaration = a.securityDeclarations := by
    rw [AcceptedService.securityEntries, AcceptedService.securityDeclarations, List.map_append,
      List.map_map, List.map_flatMap]
    simp only [hmethod]
    rfl
  rw [securityEntries, securityDeclarations, List.map_append, List.map_map, List.map_flatMap]
  simp only [hservice]
  rfl

/-- The design in which only the metadata of the API are declared. -/
def apiOnly (f : DesignFile) : Design := ⟨f.api.api, [], [], .empty, .empty⟩

theorem foldl_servers (servers : List Server) (a : Api) :
    (servers.map ApiCall.server).foldl ApiCall.perform a =
      { a with servers := a.servers ++ servers } := by
  induction servers generalizing a with
  | nil =>
    rw [List.append_nil]
    rfl
  | cons server servers ih =>
    refine (ih _).trans ?_
    rw [ApiCall.perform, List.append_assoc]
    rfl

/-- The calls on the API set what the entry says, one field after the other. -/
theorem foldl_apiCalls (a : Api) : a.calls.foldl ApiCall.perform (Api.ofName a.name) = a := by
  obtain ⟨name, title, description, terms, contact, license, version, servers⟩ := a
  have htitle : (title.toList.map ApiCall.title).foldl ApiCall.perform (Api.ofName name) =
      ⟨name, title, none, none, none, none, none, []⟩ := by cases title <;> rfl
  have hdescription : (description.toList.map ApiCall.description).foldl ApiCall.perform
      ⟨name, title, none, none, none, none, none, []⟩ =
      ⟨name, title, description, none, none, none, none, []⟩ := by cases description <;> rfl
  have hterms : (terms.toList.map ApiCall.termsOfService).foldl ApiCall.perform
      ⟨name, title, description, none, none, none, none, []⟩ =
      ⟨name, title, description, terms, none, none, none, []⟩ := by cases terms <;> rfl
  have hcontact : (contact.toList.map ApiCall.contact).foldl ApiCall.perform
      ⟨name, title, description, terms, none, none, none, []⟩ =
      ⟨name, title, description, terms, contact, none, none, []⟩ := by cases contact <;> rfl
  have hlicense : (license.toList.map ApiCall.license).foldl ApiCall.perform
      ⟨name, title, description, terms, contact, none, none, []⟩ =
      ⟨name, title, description, terms, contact, license, none, []⟩ := by cases license <;> rfl
  have hversion : (version.toList.map ApiCall.version).foldl ApiCall.perform
      ⟨name, title, description, terms, contact, license, none, []⟩ =
      ⟨name, title, description, terms, contact, license, version, []⟩ := by cases version <;> rfl
  simp only [Api.calls, List.foldl_append, htitle, hdescription, hterms, hcontact, hlicense, hversion,
    foldl_servers, List.nil_append]

/-- All services with all their methods. -/
def wholeServices (f : DesignFile) : List AcceptedService :=
  f.services.map fun s => ⟨s, s.methods⟩

/-- The builder after the metadata of the API, the schemes and the types. -/
def leading (f : DesignFile) : Builder :=
  (Builder.declareAll ⟨f.apiOnly, []⟩ (f.schemes.map SchemeEntry.declaration)).declareAll
    (f.types.map TypeEntry.declaration)

theorem declareAll_leadingDeclarations (f : DesignFile) :
    (Builder.start f.api.api.name).declareAll f.leadingDeclarations = f.leading := by
  have hapi : ((Builder.start f.api.api.name).declare (.api f.api.api.calls)).builder =
      ⟨f.apiOnly, []⟩ :=
    congrArg (fun api : Api => (⟨⟨api, [], [], .empty, .empty⟩, []⟩ : Builder))
      (foldl_apiCalls f.api.api)
  rw [leadingDeclarations, List.cons_append, Builder.declareAll, List.foldl_cons, hapi,
    List.foldl_append]
  rfl

/-- What became of the services of a file. -/
def progress (f : DesignFile) : ServiceProgress :=
  f.services.foldl ServiceProgress.next ⟨f.leading, []⟩

theorem build_eq (f : DesignFile) :
    f.build = f.progress.builder.declareAll
      ((f.securityEntries f.progress.accepted).map SecurityEntry.declaration) := by
  rw [map_securityEntries, progress, ← declareAll_leadingDeclarations]
  rfl

/-- **A clean file.**  A file leaves no error exactly if its entries go into the design one after
the other: the schemes, the types, the services with their methods, and the security declarations of
all of them. -/
theorem build_eq_iff :
    f.build = ⟨d, []⟩ ↔ ∃ d₁ d₂ d₃,
      f.schemes.foldlM SchemeEntry.addTo f.apiOnly = .ok d₁ ∧
      f.types.foldlM TypeEntry.addTo d₁ = .ok d₂ ∧
      f.services.foldlM ServiceEntry.addTo d₂ = .ok d₃ ∧
      (f.securityEntries f.wholeServices).foldlM SecurityEntry.addTo d₃ = .ok d := by
  have hleading {d₂ : Design} : f.leading = ⟨d₂, []⟩ ↔ ∃ d₁,
      f.schemes.foldlM SchemeEntry.addTo f.apiOnly = .ok d₁ ∧
        f.types.foldlM TypeEntry.addTo d₁ = .ok d₂ := by
    rw [leading, Builder.declareAll_eq_iff TypeEntry.performs]
    constructor
    · rintro ⟨hnil, htypes⟩
      obtain ⟨-, hschemes⟩ :=
        (Builder.declareAll_eq_iff SchemeEntry.performs).1 (Builder.eq_of_errors_nil hnil)
      exact ⟨_, hschemes, htypes⟩
    · rintro ⟨d₁, hschemes, htypes⟩
      rw [(Builder.declareAll_eq_iff SchemeEntry.performs).2 ⟨rfl, hschemes⟩]
      exact ⟨rfl, htypes⟩
  rw [build_eq, Builder.declareAll_eq_iff SecurityEntry.performs]
  constructor
  · rintro ⟨hnil, hsecurity⟩
    -- an error that was recorded early is still there at the end, so the stages before are clean too
    have hprogress : f.progress = ⟨⟨f.progress.builder.design, []⟩, f.progress.accepted⟩ := by
      rw [← hnil]
    obtain ⟨hearly, hservices, haccepted⟩ := ServiceProgress.foldl_next_eq_iff.1 hprogress
    obtain ⟨d₁, hschemes, htypes⟩ := hleading.1 (Builder.eq_of_errors_nil hearly)
    rw [← haccepted] at hsecurity
    exact ⟨d₁, _, _, hschemes, htypes, hservices, hsecurity⟩
  · rintro ⟨d₁, d₂, d₃, hschemes, htypes, hservices, hsecurity⟩
    have hprogress : f.progress = ⟨⟨d₃, []⟩, f.wholeServices⟩ := by
      rw [progress, hleading.2 ⟨d₁, hschemes, htypes⟩]
      exact ServiceProgress.foldl_next_eq_iff.2 ⟨rfl, hservices, rfl⟩
    rw [hprogress]
    exact ⟨rfl, hsecurity⟩

end DesignFile

end ApiDesign
