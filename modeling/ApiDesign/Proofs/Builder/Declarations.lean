import ApiDesign.Proofs.Builder.Bodies

/-!
# What a declaration does

A declaration either is dropped, and then the design stays as it was and an error is recorded, or it
is accepted and adds one thing to the design.  `Accepted` says what that is, together with all that
was checked on the way; whatever holds of the designs that can be built follows from it.

* `Builder.declare_cases` — a declaration is dropped or accepted, whatever its body does;
* `Accepted.wellFormed` — an accepted declaration keeps a design well formed.
-/

namespace ApiDesign

/-- A security declaration may be about the node. -/
def Design.Admits (d : Design) : Target → Prop
  | .api => True
  | .service name => d.HasService name
  | .method service method => d.HasMethod service method
  | .top => False
  | .type _ => False

/-- What an accepted declaration adds to a design. -/
inductive Accepted (d : Design) : Declaration → Design → Prop where
  | api (calls : List ApiCall) :
      Accepted d (.api calls) { d with api := calls.foldl ApiCall.perform d.api }
  | scheme {kind : SchemeKind} {name : String} {s : SecurityScheme} {body : Script SchemeCall}
      (draft : s.Draft kind name) (formed : s.WellFormed)
      (new : ∀ t ∈ d.schemes.schemes, t.name ≠ name) :
      Accepted d (.scheme .top kind name body)
        { d with schemes := ⟨d.schemes.schemes ++ [s]⟩ }
  | type {name : String} {attributes : List Attribute} {body : Script AttributeCall}
      (new : ∀ t ∈ d.types, t.name ≠ name) :
      Accepted d (.type name body) { d with types := d.types ++ [⟨name, attributes⟩] }
  | service {name : String} {s : Service} {body : Script ServiceCall}
      (draft : s.Draft d.types name) (new : ∀ t ∈ d.services, t.name ≠ name) :
      Accepted d (.service name body) { d with services := d.services ++ [s] }
  | security {target : Target} {refs : List SchemeRef} {body : Script RequirementCall}
      {schemes : List SecurityScheme} (admitted : d.Admits target) (nonempty : refs ≠ [])
      (resolved : d.schemes.Resolves refs schemes) :
      Accepted d (.security target refs body)
        { d with security := Builder.attach d.security target (.ofBody schemes body) }
  | noSecurity {service method : String} (declared : d.HasMethod service method) :
      Accepted d (.noSecurity (.method service method))
        { d with security := { d.security with
            methods := d.security.methods ++ [⟨service, method, .noSecurity⟩] } }

namespace Builder

/-- A dropped declaration leaves the design as it was, and the error that it answers with is not
lost: something is recorded. -/
structure Drops (b : Builder) (r : Declared) : Prop where
  answer : ∃ e, r.answer = .error e
  design : r.builder.design = b.design
  recorded : ∃ more, more ≠ [] ∧ r.builder.errors = b.errors ++ more

/-- An accepted declaration changes the design, and its body may have recorded errors that it went
on to ignore. -/
structure Takes (b : Builder) (x : Declaration) (r : Declared) : Prop where
  answer : r.answer = .ok ()
  design : Accepted b.design x r.builder.design
  errors : b.errors <+: r.builder.errors

theorem refuse_drops (b : Builder) (e : DesignError) (records : Option (List CallRecord)) :
    b.Drops (b.refuse e records) :=
  ⟨⟨e, rfl⟩, rfl, [e], List.cons_ne_nil _ _, rfl⟩

theorem abandon_drops {State : Type} (b : Builder) {errors : List DesignError}
    (h : b.errors <+: errors) (e : DesignError) (run : ScriptRun State) :
    b.Drops (b.abandon errors e run) :=
  ⟨⟨e, rfl⟩, rfl, Building.close_eq_append h e⟩

/-- A declaration that is dropped after some errors of its body is dropped all the same. -/
theorem Drops.after {b : Builder} {errors : List DesignError} (h : b.errors <+: errors)
    {r : Declared} (hr : Drops { b with errors := errors } r) : b.Drops r := by
  obtain ⟨first, rfl⟩ := h
  obtain ⟨more, hne, hmore⟩ := hr.recorded
  refine ⟨hr.answer, hr.design, first ++ more, by simp [hne], ?_⟩
  rw [hmore, List.append_assoc]

/-! ### One kind of declaration after the other -/

/-- A body that ends as a scheme of its kind, with flows as that kind wants, ends well formed. -/
theorem wellFormed_of_draft {kind : SchemeKind} {name : String} {s : SecurityScheme}
    (hs : s.Draft kind name) (hkind : kind ≠ .none) (hflows : ¬(s.kind = .oauth2 ∧ s.flows = [])) :
    s.WellFormed where
  mechanism := hs.kind ▸ hkind
  flows := ⟨fun h hnone => hflows ⟨h, hnone⟩, hs.flows⟩

theorem defineScheme_cases (b : Builder) (target : Target) (kind : SchemeKind) (name : String)
    (body : Script SchemeCall) :
    b.Drops (b.defineScheme target kind name body) ∨
      b.Takes (.scheme target kind name body) (b.defineScheme target kind name body) := by
  have hrun := schemeBody_keeps kind name body b.errors
  unfold defineScheme
  split
  · exact .inl (refuse_drops b _ _)
  rename_i htop
  split
  · exact .inl (refuse_drops b _ _)
  rename_i hkind
  split
  · exact .inl (refuse_drops b _ _)
  rename_i hnew
  dsimp only
  split
  · exact .inl (abandon_drops b hrun.errors _ _)
  split
  · exact .inl ((refuse_drops _ _ _).after hrun.errors)
  rename_i hflows
  split
  · exact .inl ((refuse_drops _ _ _).after hrun.errors)
  · rename_i handle schemes hregister
    right
    -- the body could not rename the scheme, so the name is still free when it is registered
    rw [SchemeRegistry.register, if_neg (by rw [hrun.node.name]; exact hnew)] at hregister
    cases hregister
    have htarget : target = .top := not_not.1 htop
    rw [htarget]
    exact ⟨rfl, .scheme hrun.node (wellFormed_of_draft hrun.node hkind hflows)
      (ne_of_find?_key hnew), hrun.errors⟩

theorem defineType_cases (b : Builder) (name : String) (body : Script AttributeCall) :
    b.Drops (b.defineType name body) ∨ b.Takes (.type name body) (b.defineType name body) := by
  unfold defineType
  split
  · exact .inl (refuse_drops b _ _)
  rename_i hnew
  dsimp only
  split
  · exact .inl (abandon_drops b (List.prefix_refl _) _ _)
  · exact .inr ⟨rfl, .type (ne_of_find?_key hnew), List.prefix_refl _⟩

theorem defineService_cases (b : Builder) (name : String) (body : Script ServiceCall) :
    b.Drops (b.defineService name body) ∨
      b.Takes (.service name body) (b.defineService name body) := by
  have hrun := serviceBody_keeps b.design.types name body b.errors
  unfold defineService
  split
  · exact .inl (refuse_drops b _ _)
  rename_i hnew
  dsimp only
  split
  · exact .inl (abandon_drops b hrun.errors _ _)
  · exact .inr ⟨rfl, .service hrun.node (ne_of_find?_key hnew), hrun.errors⟩

theorem admits_of_check {d : Design} {declaration : String} {target : Target}
    (h : checkSecurityTarget d declaration target = .ok ()) : d.Admits target := by
  cases target with
  | top => cases h
  | type name => cases h
  | api => trivial
  | service name =>
    simp only [checkSecurityTarget] at h
    split at h
    · rename_i found
      show ∃ s ∈ d.services, s.name = name
      simpa [Design.service?] using found
    · cases h
  | method service method =>
    simp only [checkSecurityTarget] at h
    split at h
    · rename_i s hs
      split at h
      · rename_i found
        have hname : s.name = service := by simpa using List.find?_some hs
        exact ⟨s, List.mem_of_find?_eq_some hs, hname, by simpa [Service.method?] using found⟩
      · cases h
    · cases h

theorem resolves_of_resolveAll {registry : SchemeRegistry} {refs : List SchemeRef}
    {schemes : List SecurityScheme} (h : resolveAll registry refs = .ok schemes) :
    registry.Resolves refs schemes := by
  induction refs generalizing schemes with
  | nil =>
    cases h
    exact .nil
  | cons ref refs ih =>
    unfold resolveAll at h ih
    rw [List.mapM_cons] at h
    obtain ⟨s, hs, h⟩ := exists_of_bind_ok h
    obtain ⟨rest, hrest, h⟩ := exists_of_bind_ok h
    cases h
    exact .cons hs (ih hrest)

theorem requireSecurity_cases (b : Builder) (target : Target) (refs : List SchemeRef)
    (body : Script RequirementCall) :
    b.Drops (b.requireSecurity target refs body) ∨
      b.Takes (.security target refs body) (b.requireSecurity target refs body) := by
  unfold requireSecurity
  split
  · exact .inl (refuse_drops b _ _)
  rename_i hcheck
  split
  · exact .inl (refuse_drops b _ _)
  rename_i hne
  split
  · exact .inl (refuse_drops b _ _)
  rename_i schemes hschemes
  have hrun := requirementBody_keeps schemes body b.errors
  dsimp only
  split
  · exact .inl (abandon_drops b hrun.errors _ _)
  · right
    have hnonempty : refs ≠ [] := fun h => hne (by rw [h]; rfl)
    -- the declaration is told without the errors before it, which the body cannot see
    have hmade : (body.run (RequirementCall.step schemes)
        ⟨⟨schemes.map (·.name), []⟩, b.errors⟩).state.node = .ofBody schemes body :=
      requirementBody_node schemes body _ b.errors []
    rw [hmade]
    exact ⟨rfl, .security (admits_of_check hcheck) hnonempty (resolves_of_resolveAll hschemes),
      hrun.errors⟩

theorem dropSecurity_cases (b : Builder) (target : Target) :
    b.Drops (b.dropSecurity target) ∨ b.Takes (.noSecurity target) (b.dropSecurity target) := by
  unfold dropSecurity
  split
  · split
    · exact .inl (refuse_drops b _ _)
    · rename_i hcheck
      exact .inr ⟨rfl, .noSecurity (admits_of_check hcheck), List.prefix_refl _⟩
  · exact .inl (refuse_drops b _ _)

/-- **Dropped or accepted.**  There is no third way for a declaration, whatever its body does. -/
theorem declare_cases (b : Builder) (x : Declaration) :
    b.Drops (b.declare x) ∨ b.Takes x (b.declare x) := by
  cases x with
  | api calls => exact .inr ⟨rfl, .api calls, List.prefix_refl _⟩
  | scheme target kind name body => exact defineScheme_cases b target kind name body
  | type name body => exact defineType_cases b name body
  | service name body => exact defineService_cases b name body
  | security target refs body => exact requireSecurity_cases b target refs body
  | noSecurity target => exact dropSecurity_cases b target

end Builder

end ApiDesign
