import ApiDesign.Proofs.Builder.Declarations

/-!
# Runs of declarations

A design is built by any declarations in any order, each of them with any body.  The design stays
well formed after every one of them, and a design that is handed out was built by declarations that
were accepted, every single one.

* `Accepted.wellFormed` — the step: an accepted declaration keeps a design well formed;
* `Builder.declareAll_wellFormed` — the run: so does any list of declarations, accepted or not;
* `Design.Built`, `AcceptedAll` — the designs that are handed out, and how they came about.
-/

namespace ApiDesign

/-! ### Requirements that are attached -/

/-- The schemes of an accepted requirement are registered under the names that it lists, so that
the scopes which its schemes define are found by name. -/
theorem Requirement.Draft.wellFormed {registry : SchemeRegistry} {refs : List SchemeRef}
    {schemes : List SecurityScheme} {r : Requirement} (hr : r.Draft schemes)
    (hnames : (registry.schemes.map (·.name)).Nodup) (hne : refs ≠ [])
    (hresolved : registry.Resolves refs schemes) : r.WellFormed registry := by
  refine ⟨?_, ?_, ?_⟩
  · rw [hr.names]
    intro hnil
    rw [List.map_eq_nil_iff] at hnil
    subst hnil
    cases hresolved
    exact hne rfl
  · intro name hname
    rw [hr.names] at hname
    obtain ⟨s, hs, rfl⟩ := List.mem_map.1 hname
    exact (SchemeRegistry.contains_iff registry s.name).2 ⟨s, hresolved.mem hs, rfl⟩
  · intro scope hscope
    obtain ⟨s, hs, hdef⟩ := hr.scopes scope hscope
    refine ⟨s.name, ?_, s, SchemeRegistry.get?_name_of_mem hnames (hresolved.mem hs), hdef⟩
    rw [hr.names]
    exact List.mem_map_of_mem hs

namespace SecurityRequirements

theorem mem_all {s : SecurityRequirements} {r : Requirement} :
    r ∈ s.all ↔ r ∈ s.api ∨ (∃ e ∈ s.services, e.requirement = r) ∨
      ∃ e ∈ s.methods, e.security.requirement? = some r := by
  simp only [all, List.mem_append, List.mem_map, List.mem_filterMap, or_assoc]

theorem mem_all_attach {s : SecurityRequirements} {target : Target} {r t : Requirement}
    (h : t ∈ (Builder.attach s target r).all) : t ∈ s.all ∨ t = r := by
  rw [mem_all] at h ⊢
  cases target with
  | top => exact .inl h
  | type name => exact .inl h
  | api =>
    rcases h with h | h | h
    · rcases List.mem_append.1 h with h | h
      · exact .inl (.inl h)
      · exact .inr (List.mem_singleton.1 h)
    · exact .inl (.inr (.inl h))
    · exact .inl (.inr (.inr h))
  | service service =>
    rcases h with h | ⟨e, he, rfl⟩ | h
    · exact .inl (.inl h)
    · rcases List.mem_append.1 he with he | he
      · exact .inl (.inr (.inl ⟨e, he, rfl⟩))
      · rw [List.mem_singleton.1 he]
        exact .inr rfl
    · exact .inl (.inr (.inr h))
  | method service method =>
    rcases h with h | h | ⟨e, he, hreq⟩
    · exact .inl (.inl h)
    · exact .inl (.inr (.inl h))
    · rcases List.mem_append.1 he with he | he
      · exact .inl (.inr (.inr ⟨e, he, hreq⟩))
      · rw [List.mem_singleton.1 he] at hreq
        exact .inr (Option.some.inj hreq).symm

theorem mem_services_attach {s : SecurityRequirements} {target : Target} {r : Requirement}
    {e : ServiceRequirement} (h : e ∈ (Builder.attach s target r).services) :
    e ∈ s.services ∨ target = .service e.service := by
  cases target with
  | service service =>
    rcases List.mem_append.1 h with h | h
    · exact .inl h
    · rw [List.mem_singleton.1 h]
      exact .inr rfl
  | _ => exact .inl h

theorem mem_methods_attach {s : SecurityRequirements} {target : Target} {r : Requirement}
    {e : MethodRequirement} (h : e ∈ (Builder.attach s target r).methods) :
    e ∈ s.methods ∨ target = .method e.service e.method := by
  cases target with
  | method service method =>
    rcases List.mem_append.1 h with h | h
    · exact .inl h
    · rw [List.mem_singleton.1 h]
      exact .inr rfl
  | _ => exact .inl h

/-- That no security applies is no requirement. -/
theorem mem_all_noSecurity {s : SecurityRequirements} {service method : String} {r : Requirement}
    (h : r ∈ { s with methods := s.methods ++ [⟨service, method, .noSecurity⟩] : SecurityRequirements }.all) :
    r ∈ s.all := by
  rw [mem_all] at h ⊢
  refine h.imp_right (Or.imp_right ?_)
  rintro ⟨e, he, hreq⟩
  rcases List.mem_append.1 he with he | he
  · exact ⟨e, he, hreq⟩
  · rw [List.mem_singleton.1 he] at hreq
    cases hreq

end SecurityRequirements

/-! ### The step -/

theorem Design.HasService.append {d : Design} {name : String} (h : d.HasService name)
    (s : Service) : Design.HasService { d with services := d.services ++ [s] } name := by
  obtain ⟨t, ht, hname⟩ := h
  exact ⟨t, List.mem_append_left _ ht, hname⟩

theorem Design.HasMethod.append {d : Design} {service method : String}
    (h : d.HasMethod service method) (s : Service) :
    Design.HasMethod { d with services := d.services ++ [s] } service method := by
  obtain ⟨t, ht, hname, hmethod⟩ := h
  exact ⟨t, List.mem_append_left _ ht, hname, hmethod⟩

/-- **The step.**  What an accepted declaration adds is well formed, and every reference that led
somewhere before still leads there. -/
theorem Accepted.wellFormed {d d' : Design} {x : Declaration} (h : Accepted d x d')
    (hd : d.WellFormed) : d'.WellFormed := by
  cases h with
  | api calls => exact { hd with }
  | scheme draft formed new =>
    refine { hd with schemeNames := ?_, schemes := ?_, requirements := ?_ }
    · refine nodup_map_concat _ hd.schemeNames ?_
      rw [draft.name]
      exact new
    · exact forall_mem_concat hd.schemes formed
    · intro r hr
      exact (hd.requirements r hr).append _
  | type new =>
    refine { hd with typeNames := ?_, services := ?_ }
    · exact nodup_map_concat _ hd.typeNames new
    · intro s hs
      exact (hd.services s hs).append _
  | service draft new =>
    -- the body was checked against the types of the design, and those stay the same
    refine { hd with serviceNames := ?_, services := ?_, serviceTargets := ?_, methodTargets := ?_ }
    · refine nodup_map_concat _ hd.serviceNames ?_
      rw [draft.name]
      exact new
    · exact forall_mem_concat hd.services draft.wellFormed
    · intro e he
      exact (hd.serviceTargets e he).append _
    · intro e he
      exact (hd.methodTargets e he).append _
  | security admitted nonempty resolved =>
    refine { hd with requirements := ?_, serviceTargets := ?_, methodTargets := ?_ }
    · intro r hr
      rcases SecurityRequirements.mem_all_attach hr with hr | rfl
      · exact hd.requirements r hr
      · exact (Requirement.ofBody_draft _ _).wellFormed hd.schemeNames nonempty resolved
    · intro e he
      rcases SecurityRequirements.mem_services_attach he with he | rfl
      · exact hd.serviceTargets e he
      · exact admitted
    · intro e he
      rcases SecurityRequirements.mem_methods_attach he with he | rfl
      · exact hd.methodTargets e he
      · exact admitted
  | noSecurity declared =>
    refine { hd with requirements := ?_, methodTargets := ?_ }
    · intro r hr
      exact hd.requirements r (SecurityRequirements.mem_all_noSecurity hr)
    · exact forall_mem_concat hd.methodTargets declared

/-! ### The run -/

namespace Builder

theorem declare_wellFormed {b : Builder} (hb : b.design.WellFormed) (x : Declaration) :
    (b.declare x).builder.design.WellFormed := by
  rcases declare_cases b x with hdrop | htake
  · rw [hdrop.design]
    exact hb
  · exact htake.design.wellFormed hb

theorem declareAll_wellFormed {b : Builder} (hb : b.design.WellFormed) (xs : List Declaration) :
    (b.declareAll xs).design.WellFormed := by
  induction xs generalizing b with
  | nil => exact hb
  | cons x xs ih =>
    show ((b.declare x).builder.declareAll xs).design.WellFormed
    exact ih (declare_wellFormed hb x)

/-- **Every reachable design is well formed**: after any declarations with any targets, names,
references and bodies, whether they are accepted or not. -/
theorem wellFormed_of_reachable (name : String) (xs : List Declaration) :
    ((Builder.start name).declareAll xs).design.WellFormed :=
  declareAll_wellFormed (Design.wellFormed_of_empty _) xs

theorem errors_prefix_declare (b : Builder) (x : Declaration) :
    b.errors <+: (b.declare x).builder.errors := by
  rcases declare_cases b x with hdrop | htake
  · obtain ⟨more, -, hmore⟩ := hdrop.recorded
    rw [hmore]
    exact List.prefix_append _ _
  · exact htake.errors

theorem errors_prefix_declareAll (b : Builder) (xs : List Declaration) :
    b.errors <+: (b.declareAll xs).errors := by
  induction xs generalizing b with
  | nil => exact List.prefix_refl _
  | cons x xs ih => exact (errors_prefix_declare b x).trans (ih (b.declare x).builder)

theorem finish_eq_ok_iff {b : Builder} {d : Design} :
    b.finish = .ok d ↔ b.errors = [] ∧ b.design = d := by
  unfold finish
  split
  · rename_i h
    simp [List.isEmpty_iff.1 h]
  · rename_i h
    have hne : b.errors ≠ [] := fun hnil => h (List.isEmpty_iff.2 hnil)
    simp [hne]

end Builder

/-! ### Designs that are handed out -/

/-- Declarations that are accepted one after the other. -/
inductive AcceptedAll : Design → List Declaration → Design → Prop where
  | nil (d : Design) : AcceptedAll d [] d
  | cons {d d' d'' : Design} {x : Declaration} {xs : List Declaration} :
      Accepted d x d' → AcceptedAll d' xs d'' → AcceptedAll d (x :: xs) d''

/-- An error that was recorded once stays, so without errors at the end every declaration was
accepted. -/
theorem Builder.acceptedAll_of_errors_nil {b : Builder} {xs : List Declaration}
    (h : (b.declareAll xs).errors = []) :
    AcceptedAll b.design xs (b.declareAll xs).design := by
  induction xs generalizing b with
  | nil => exact .nil _
  | cons x xs ih =>
    have hrest : ((b.declare x).builder.declareAll xs).errors = [] := h
    refine .cons ?_ (ih hrest)
    rcases declare_cases b x with hdrop | htake
    · exfalso
      -- a dropped declaration records an error, and the run ends with at least the same errors
      obtain ⟨more, hne, hmore⟩ := hdrop.recorded
      have hnil := errors_prefix_declareAll (b.declare x).builder xs
      rw [hrest, List.prefix_nil, hmore, List.append_eq_nil_iff] at hnil
      exact hne hnil.2
    · exact htake.design

/-- The design is handed out after some declarations. -/
def Design.Built (d : Design) : Prop :=
  ∃ name xs, ((Builder.start name).declareAll xs).finish = .ok d

theorem acceptedAll_of_finish {name : String} {xs : List Declaration} {d : Design}
    (h : ((Builder.start name).declareAll xs).finish = .ok d) :
    AcceptedAll (Builder.start name).design xs d := by
  obtain ⟨herrors, rfl⟩ := Builder.finish_eq_ok_iff.1 h
  exact Builder.acceptedAll_of_errors_nil herrors

theorem Design.Built.wellFormed {d : Design} (h : d.Built) : d.WellFormed := by
  obtain ⟨name, xs, hfinish⟩ := h
  obtain ⟨-, rfl⟩ := Builder.finish_eq_ok_iff.1 hfinish
  exact Builder.declareAll_wellFormed (Design.wellFormed_of_empty _) xs

end ApiDesign
