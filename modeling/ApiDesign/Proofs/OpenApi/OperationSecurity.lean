import ApiDesign.Proofs.OpenApi.Operations

/-!
# The security of operations

A document must not open an endpoint that its design protects, nor close one that it leaves open.  For
a design that a builder hands out, what an operation says about its security follows from the
declarations: it is open exactly if that was declared for its method, it says nothing exactly if
nothing was declared at any level, and otherwise it lists the requirements of the most specific level,
one object each.

* `securityOf_eq_some_nil_iff`, `securityOf_eq_none_iff`, `securityOf_eq_objects` — the three cases,
  told by what stands in the design;
* `requirementsAt_of_finish`, `mostSpecific_of_requiredLevel` — what stands there was declared;
* `security_follows_declarations` — the three cases, told by what was declared.
-/

namespace ApiDesign

open OpenApi

/-- The nodes whose requirements a method can be subject to, from the most specific one on. -/
def Target.levels (service method : String) : List Target :=
  [.method service method, .service service, .api]

/-- The most specific level at which some declarations require security. -/
def Target.requiredLevel? (service method : String) (xs : List Declaration) : Option Target :=
  (levels service method).find? fun target => xs.any (·.requiresAt target)

variable {d : Design} (service method : String)

/-- An operation is open exactly if it stands at its method that no security applies. -/
theorem Design.securityOf_eq_some_nil_iff :
    d.securityOf service method = some [] ↔
      MethodSecurity.noSecurity ∈ d.security.forMethod service method := by
  unfold securityOf
  split
  · rename_i hopen
    exact iff_of_true rfl hopen
  · rename_i hopen
    refine iff_of_false ?_ hopen
    split
    · exact Option.some_ne_none _ ∘ Eq.symm
    · rename_i hne
      intro h
      exact hne (List.map_eq_nil_iff.1 (Option.some.inj h))

/-- An operation says nothing exactly if nothing stands at any level. -/
theorem Design.securityOf_eq_none_iff :
    d.securityOf service method = none ↔
      MethodSecurity.noSecurity ∉ d.security.forMethod service method ∧
        ∀ target ∈ Target.levels service method, d.security.requirementsAt target = [] := by
  have hlevels : d.security.mostSpecific service method = [] ↔
      ∀ target ∈ Target.levels service method, d.security.requirementsAt target = [] := by
    rw [SecurityRequirements.mostSpecific_eq_nil_iff]
    simp [Target.levels]
  rw [← hlevels]
  unfold securityOf
  split
  · rename_i hopen
    simp [hopen]
  · rename_i hopen
    split
    · rename_i hnil
      simp [hopen, hnil]
    · rename_i hne
      simp [hne]

/-- Otherwise an operation lists the requirements of the most specific level, one object each. -/
theorem Design.securityOf_eq_objects (hd : d.WellFormed)
    (hopen : MethodSecurity.noSecurity ∉ d.security.forMethod service method)
    (hne : d.security.mostSpecific service method ≠ []) :
    ∃ objects, d.securityOf service method = some objects ∧ objects ≠ [] ∧
      List.Forall₂ (Presents d.schemes) (d.security.mostSpecific service method) objects := by
  refine ⟨(d.security.mostSpecific service method).map (objectOf d.schemes), ?_, ?_, ?_⟩
  · rw [securityOf, if_neg hopen, if_neg hne]
  · exact fun h => hne (List.map_eq_nil_iff.1 h)
  · rw [List.forall₂_map_right_iff, List.forall₂_same]
    intro r hr
    have hforce : r ∈ d.security.inForce service method := by
      rw [SecurityRequirements.inForce, if_neg hopen]
      exact hr
    exact objectOf_presents (hd.requirements r (SecurityRequirements.mem_all_of_mem_inForce hforce))

/-- The requirements that count stand at the first level that has any. -/
theorem SecurityRequirements.mostSpecific_of_first (security : SecurityRequirements)
    {p : Target → Bool} (hp : ∀ t, p t = true ↔ security.requirementsAt t ≠ []) {target : Target}
    (h : (Target.levels service method).find? p = some target) :
    security.mostSpecific service method = security.requirementsAt target := by
  unfold Target.levels at h
  unfold mostSpecific
  by_cases hm : p (.method service method) = true
  · rw [List.find?_cons_of_pos hm] at h
    cases h
    rw [if_pos ((hp _).1 hm)]
  · rw [List.find?_cons_of_neg hm] at h
    rw [if_neg (mt (hp _).2 hm)]
    by_cases hs : p (.service service) = true
    · rw [List.find?_cons_of_pos hs] at h
      cases h
      rw [if_pos ((hp _).1 hs)]
    · rw [List.find?_cons_of_neg hs] at h
      rw [if_neg (mt (hp _).2 hs), List.mem_singleton.1 (List.mem_of_find?_eq_some h)]

/-! ### Told by the declarations -/

variable {service method} {name : String} {xs : List Declaration}

theorem noSecurity_mem_iff_of_finish
    (hd : ((Builder.start name).declareAll xs).finish = .ok d) :
    MethodSecurity.noSecurity ∈ d.security.forMethod service method ↔
      .noSecurity (.method service method) ∈ xs := by
  rw [(acceptedAll_of_finish hd).noSecurity_mem_iff]
  simp [Builder.start, SecurityRequirements.empty, SecurityRequirements.forMethod]

theorem requirementsAt_of_finish (hd : ((Builder.start name).declareAll xs).finish = .ok d)
    (target : Target) :
    List.Forall₂ d.schemes.Declares (xs.filter (·.requiresAt target))
      (d.security.requirementsAt target) := by
  obtain ⟨added, hadded, hdeclared⟩ := (acceptedAll_of_finish hd).requirementsAt target
  have hstart : (Builder.start name).design.security.requirementsAt target = [] := by
    cases target <;> rfl
  rw [hstart, List.nil_append] at hadded
  rw [hadded]
  exact hdeclared

theorem requirementsAt_eq_nil_iff_of_finish
    (hd : ((Builder.start name).declareAll xs).finish = .ok d) (target : Target) :
    d.security.requirementsAt target = [] ↔ xs.any (·.requiresAt target) = false := by
  have hlength := (requirementsAt_of_finish hd target).length_eq
  rw [← List.length_eq_zero_iff, ← hlength, List.length_eq_zero_iff, List.filter_eq_nil_iff,
    List.any_eq_false]

/-- The most specific level at which requirements stand is the one at which they are declared. -/
theorem mostSpecific_of_requiredLevel
    (hd : ((Builder.start name).declareAll xs).finish = .ok d) {target : Target}
    (h : Target.requiredLevel? service method xs = some target) :
    d.security.mostSpecific service method = d.security.requirementsAt target ∧
      d.security.requirementsAt target ≠ [] := by
  have hrequired : ∀ t, xs.any (·.requiresAt t) = true ↔ d.security.requirementsAt t ≠ [] := by
    intro t
    rw [Ne, requirementsAt_eq_nil_iff_of_finish hd, Bool.not_eq_false]
  refine ⟨d.security.mostSpecific_of_first service method hrequired h, (hrequired target).1 ?_⟩
  exact List.find?_some (p := fun t => xs.any (·.requiresAt t)) h

/-- **The security of an operation follows from the declarations.**  It is the empty list exactly if
it was declared that no security applies to the method, whatever else was declared for it; it is absent
exactly if nothing was declared for the method, its service or the API; and otherwise it presents the
requirements at the most specific of these that has any.  These are the requirements declared there,
in their order, and each is presented by one object. -/
theorem security_follows_declarations
    (hd : ((Builder.start name).declareAll xs).finish = .ok d) {locale : String} {doc : Document}
    (ha : assemble d locale = .ok (some doc)) {s : Service} {m : Method} {r : Route}
    (hs : s ∈ d.services) (hm : m ∈ s.methods) (hr : r ∈ m.routes) :
    ∃ o, doc.operation? r.path r.verb = some o ∧
      (o.security = some [] ↔ .noSecurity (.method s.name m.name) ∈ xs) ∧
      (o.security = none ↔ .noSecurity (.method s.name m.name) ∉ xs ∧
        ∀ target ∈ Target.levels s.name m.name, ∀ refs body, .security target refs body ∉ xs) ∧
      (.noSecurity (.method s.name m.name) ∉ xs →
        (∃ target ∈ Target.levels s.name m.name, ∃ refs body, .security target refs body ∈ xs) →
        ∃ target, Target.requiredLevel? s.name m.name xs = some target ∧
          ∃ requirements objects, o.security = some objects ∧ objects ≠ [] ∧
            List.Forall₂ d.schemes.Declares (xs.filter (·.requiresAt target)) requirements ∧
            List.Forall₂ (Presents d.schemes) requirements objects) := by
  have he : (⟨s, m, r⟩ : RouteEntry) ∈ d.routes :=
    List.mem_flatMap.2 ⟨s, hs, List.mem_flatMap.2 ⟨m, hm, List.mem_map.2 ⟨r, hr, rfl⟩⟩⟩
  refine ⟨d.operationOf locale ⟨s, m, r⟩, operation?_of_mem_routes ha he, ?_, ?_, ?_⟩
  · show d.securityOf s.name m.name = some [] ↔ _
    rw [Design.securityOf_eq_some_nil_iff, noSecurity_mem_iff_of_finish hd]
  · show d.securityOf s.name m.name = none ↔ _
    rw [Design.securityOf_eq_none_iff, noSecurity_mem_iff_of_finish hd]
    refine and_congr_right fun _ => forall_congr' fun target => imp_congr_right fun _ => ?_
    rw [requirementsAt_eq_nil_iff_of_finish hd, ← Bool.not_eq_true,
      Declaration.any_requiresAt_iff]
    simp only [not_exists]
  · rintro hopen ⟨level, hlevel, hrequired⟩
    obtain ⟨target, htarget⟩ : ∃ target, Target.requiredLevel? s.name m.name xs = some target :=
      Option.isSome_iff_exists.1 (List.find?_isSome.2
        ⟨level, hlevel, (Declaration.any_requiresAt_iff level xs).2 hrequired⟩)
    obtain ⟨hspecific, hne⟩ := mostSpecific_of_requiredLevel hd htarget
    have hwell : d.WellFormed := Design.Built.wellFormed ⟨name, xs, hd⟩
    rw [← noSecurity_mem_iff_of_finish hd] at hopen
    obtain ⟨objects, hobjects, hnonempty, hpresents⟩ :=
      d.securityOf_eq_objects s.name m.name hwell hopen (by rw [hspecific]; exact hne)
    rw [hspecific] at hpresents
    exact ⟨target, htarget, _, objects, hobjects, hnonempty, requirementsAt_of_finish hd target,
      hpresents⟩

/-- The method that is declared open is open, whatever is required of the others. -/
theorem shop_ping_security_follows :
    ∃ doc o, assemble shop "en" = .ok (some doc) ∧ doc.operation? "/ping" .get = some o ∧
      o.security = some [] := by
  obtain ⟨doc, hdoc⟩ : ∃ doc, assemble shop "en" = .ok (some doc) := ⟨_, rfl⟩
  have hfinish : ((Builder.start "shop").declareAll shopDeclarations).finish = .ok shop := rfl
  obtain ⟨s, hs, m, hm, hnames, r, hr, hroute⟩ : ∃ s ∈ shop.services, ∃ m ∈ s.methods,
      (s.name = "shop" ∧ m.name = "ping") ∧ ∃ r ∈ m.routes, r = ⟨.get, "/ping"⟩ :=
    ⟨_, List.mem_cons_self, _, List.mem_cons_of_mem _ List.mem_cons_self, ⟨rfl, rfl⟩, _,
      List.mem_cons_self, rfl⟩
  obtain ⟨o, ho, hopen, -, -⟩ := security_follows_declarations hfinish hdoc hs hm hr
  rw [hnames.1, hnames.2] at hopen
  rw [hroute] at ho
  exact ⟨doc, o, hdoc, ho, hopen.2 (by simp [shopDeclarations])⟩

end ApiDesign
