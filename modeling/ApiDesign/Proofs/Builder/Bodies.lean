import ApiDesign.Proofs.Builder.WellFormed

/-!
# What the body of a declaration keeps

A body makes calls in any order, looks at their answers and may ignore their errors.  Whatever every
single call keeps is therefore kept by the body as a whole (`Script.run_keeps`).  What the calls keep
is the same for all nodes: a property of the node under construction, and the errors recorded so far
(`Building.Keeps`).

* `SecurityScheme.Draft`, `Requirement.Draft`, `Method.Draft`, `Service.Draft` — the properties;
* `schemeBody_keeps`, `requirementBody_keeps`, `methodBody_keeps`, `serviceBody_keeps` — a body of
  each kind keeps its property.
-/

namespace ApiDesign

/-- **From calls to bodies.**  What every call keeps, a body keeps. -/
theorem Script.run_keeps {Call State : Type} {P : State → Prop}
    {step : State → Call → State × CallRecord} (hstep : ∀ s c, P s → P (step s c).1)
    (body : Script Call) {s : State} (hs : P s) : P (body.run step s).state := by
  induction body generalizing s with
  | finish outcome => exact hs
  | call c next ih =>
    show P ((next (step s c).2.answer).run step (step s c).1).state
    exact ih _ (hstep s c hs)

/-! ### Nodes under construction -/

namespace Building

variable {Node : Type} {P : Node → Prop} {before : List DesignError}

/-- The node has a property, and the errors begin with those that were recorded before. -/
structure Keeps (P : Node → Prop) (before : List DesignError) (b : Building Node) : Prop where
  node : P b.node
  errors : before <+: b.errors

/-- A call without a body leaves the node as it was or puts its result in place. -/
theorem perform_keeps {b : Building Node} (hb : b.Keeps P before)
    {result : Except DesignError Node} (hr : ∀ node, result = .ok node → P node) :
    (b.perform result).1.Keeps P before := by
  cases result with
  | ok node => exact ⟨hr node rfl, hb.errors⟩
  | error e => exact ⟨hb.node, hb.errors.trans (List.prefix_append _ _)⟩

theorem prefix_close {errors : List DesignError} (h : before <+: errors) (n : Nat)
    (e : DesignError) : before <+: close n errors e := by
  unfold close
  split
  · exact h.trans (List.prefix_append _ _)
  · exact h

/-- A failed body leaves an error behind: either a call has recorded one, or the error of the body is
recorded now. -/
theorem close_eq_append {errors : List DesignError} (h : before <+: errors) (e : DesignError) :
    ∃ more, more ≠ [] ∧ close before.length errors e = before ++ more := by
  obtain ⟨more, rfl⟩ := h
  unfold close
  split
  · exact ⟨more ++ [e], by simp, List.append_assoc _ _ _⟩
  · rename_i hlen
    refine ⟨more, ?_, rfl⟩
    rintro rfl
    exact hlen (by rw [List.append_nil])

end Building

/-! ### Schemes -/

/-- The kind and the name stay those of the declaration, and only an OAuth2 scheme gets flows. -/
structure SecurityScheme.Draft (kind : SchemeKind) (name : String) (s : SecurityScheme) : Prop where
  kind : s.kind = kind
  name : s.name = name
  flows : s.flows ≠ [] → s.kind = .oauth2

theorem SecurityScheme.addScope_draft {kind : SchemeKind} {name : String} {s t : SecurityScheme}
    (hs : s.Draft kind name) {scope : String} {descriptions : List String}
    (h : s.addScope scope descriptions = .ok t) : t.Draft kind name := by
  unfold addScope at h
  split at h
  · cases h
    exact ⟨hs.kind, hs.name, hs.flows⟩
  · cases h
    exact ⟨hs.kind, hs.name, hs.flows⟩
  · cases h

theorem SecurityScheme.addFlow_draft {kind : SchemeKind} {name : String} {s t : SecurityScheme}
    (hs : s.Draft kind name) {flow : Flow} (h : s.addFlow flow = .ok t) : t.Draft kind name := by
  unfold addFlow at h
  split at h
  · rename_i hkind
    cases h
    exact ⟨hs.kind, hs.name, fun _ => hkind⟩
  · cases h

theorem schemeBody_keeps (kind : SchemeKind) (name : String) (body : Script SchemeCall)
    (errors : List DesignError) :
    (body.run SchemeCall.step ⟨SecurityScheme.ofKind kind name, errors⟩).state.Keeps
      (SecurityScheme.Draft kind name) errors := by
  refine Script.run_keeps ?_ body ⟨⟨rfl, rfl, fun h => absurd rfl h⟩, List.prefix_refl _⟩
  intro b c hb
  refine Building.perform_keeps hb fun t ht => ?_
  cases c with
  | description text =>
    cases ht
    exact ⟨hb.node.kind, hb.node.name, hb.node.flows⟩
  | scope scope descriptions => exact SecurityScheme.addScope_draft hb.node ht
  | flow value => exact SecurityScheme.addFlow_draft hb.node ht

/-! ### Requirements -/

/-- The schemes stay those of the declaration, and every scope is defined by one of them. -/
structure Requirement.Draft (schemes : List SecurityScheme) (r : Requirement) : Prop where
  names : r.schemes = schemes.map (·.name)
  scopes : ∀ scope ∈ r.scopes, ∃ s ∈ schemes, s.hasScope scope = true

theorem Requirement.addScope_draft {schemes : List SecurityScheme} {r t : Requirement}
    (hr : r.Draft schemes) {scope : String} {descriptions : List String}
    (h : r.addScope schemes scope descriptions = .ok t) : t.Draft schemes := by
  unfold addScope at h
  split at h
  · split at h
    · rename_i hdef
      cases h
      exact ⟨hr.names, forall_mem_concat hr.scopes (List.any_eq_true.1 hdef)⟩
    · cases h
  · cases h

theorem requirementBody_keeps (schemes : List SecurityScheme) (body : Script RequirementCall)
    (errors : List DesignError) :
    (body.run (RequirementCall.step schemes) ⟨⟨schemes.map (·.name), []⟩, errors⟩).state.Keeps
      (Requirement.Draft schemes) errors := by
  refine Script.run_keeps ?_ body ⟨⟨rfl, by simp⟩, List.prefix_refl _⟩
  intro b c hb
  exact Building.perform_keeps hb fun t ht => Requirement.addScope_draft hb.node ht

/-- What a body makes of a requirement does not depend on the errors recorded before. -/
theorem requirementBody_node (schemes : List SecurityScheme) (body : Script RequirementCall)
    (r : Requirement) (errors others : List DesignError) :
    (body.run (RequirementCall.step schemes) ⟨r, errors⟩).state.node =
      (body.run (RequirementCall.step schemes) ⟨r, others⟩).state.node := by
  induction body generalizing r errors others with
  | finish outcome => rfl
  | call c next ih =>
    simp only [Script.run, RequirementCall.step, Building.perform, Building.update]
    cases r.addScope schemes c.scope c.descriptions with
    | ok t => exact ih _ t _ _
    | error e => exact ih _ r _ _

/-- The requirement that a body makes for some schemes. -/
def Requirement.ofBody (schemes : List SecurityScheme) (body : Script RequirementCall) :
    Requirement :=
  (body.run (RequirementCall.step schemes) ⟨⟨schemes.map (·.name), []⟩, []⟩).state.node

theorem Requirement.ofBody_draft (schemes : List SecurityScheme) (body : Script RequirementCall) :
    (ofBody schemes body).Draft schemes :=
  (requirementBody_keeps schemes body []).node

/-! ### Methods -/

/-- The name stays that of the declaration, and the method is well formed throughout. -/
structure Method.Draft (types : List UserType) (name : String) (m : Method) : Prop where
  name : m.name = name
  wellFormed : m.WellFormed types

theorem namedPayload_mirrors {types : List UserType} {name : String} {p : Payload}
    (h : namedPayload types name = .ok p) : p.Mirrors types := by
  unfold namedPayload at h
  split at h
  · rename_i t found
    cases h
    rintro _ ⟨⟩
    have hname : t.name = name := by simpa using List.find?_some found
    rw [hname, found, ← hname]
  · cases h

/-- Attributes that are written at the method refer to no type. -/
theorem mirrors_inline (types : List UserType) (attributes : List Attribute) :
    (⟨none, attributes⟩ : Payload).Mirrors types := by
  rintro _ ⟨⟩

theorem MethodCall.outcome_draft {types : List UserType} {name : String} {m t : Method}
    (hm : m.Draft types name) {c : MethodCall} (h : c.outcome types m = .ok t) :
    t.Draft types name := by
  obtain ⟨hname, hroutes, hpayload, hresult⟩ := hm
  cases c with
  | description text =>
    cases h
    exact ⟨hname, hroutes, hpayload, hresult⟩
  | payload calls =>
    cases h
    refine ⟨hname, hroutes, fun p hp => ?_, hresult⟩
    cases hp
    exact mirrors_inline types _
  | payloadType type =>
    obtain ⟨p, hp, h⟩ := exists_of_bind_ok h
    cases h
    refine ⟨hname, hroutes, fun q hq => ?_, hresult⟩
    cases hq
    exact namedPayload_mirrors hp
  | result calls =>
    cases h
    refine ⟨hname, hroutes, hpayload, fun p hp => ?_⟩
    cases hp
    exact mirrors_inline types _
  | resultType type =>
    obtain ⟨p, hp, h⟩ := exists_of_bind_ok h
    cases h
    refine ⟨hname, hroutes, hpayload, fun q hq => ?_⟩
    cases hq
    exact namedPayload_mirrors hp
  | route verb path =>
    obtain ⟨_, hp, h⟩ := exists_of_bind_ok h
    cases h
    exact ⟨hname, forall_mem_concat hroutes hp, hpayload, hresult⟩

theorem methodBody_keeps (types : List UserType) (name : String) (body : Script MethodCall)
    (errors : List DesignError) :
    (body.run (MethodCall.step types) ⟨Method.ofName name, errors⟩).state.Keeps
      (Method.Draft types name) errors := by
  have hstart : (Method.ofName name).Draft types name := by
    refine ⟨rfl, ?_, ?_, ?_⟩ <;> simp [Method.ofName]
  refine Script.run_keeps ?_ body ⟨hstart, List.prefix_refl _⟩
  intro b c hb
  exact Building.perform_keeps hb fun t ht => MethodCall.outcome_draft hb.node ht

/-! ### Services -/

/-- The name stays that of the declaration, and the service is well formed throughout. -/
structure Service.Draft (types : List UserType) (name : String) (s : Service) : Prop where
  name : s.name = name
  wellFormed : s.WellFormed types

/-- A method is added under a new name and after its body has succeeded. -/
theorem Service.Draft.addMethod {types : List UserType} {name : String} {s : Service} {m : Method}
    (hs : s.Draft types name) (hm : m.WellFormed types)
    (hnew : ¬(s.method? m.name).isSome = true) :
    Service.Draft types name { s with methods := s.methods ++ [m] } where
  name := hs.name
  wellFormed :=
    { names := nodup_map_concat _ hs.wellFormed.names (ne_of_find?_key hnew)
      methods := forall_mem_concat hs.wellFormed.methods hm }

theorem ServiceCall.step_keeps {types : List UserType} {name : String} {before : List DesignError}
    {b : Building Service} (hb : b.Keeps (Service.Draft types name) before) (c : ServiceCall) :
    (ServiceCall.step types b c).1.Keeps (Service.Draft types name) before := by
  cases c with
  | description text =>
    refine Building.perform_keeps hb fun s hs => ?_
    cases hs
    exact ⟨hb.node.name, hb.node.wellFormed.names, hb.node.wellFormed.methods⟩
  | method method body =>
    have hrun := methodBody_keeps types method body b.errors
    simp only [ServiceCall.step]
    split
    · exact Building.perform_keeps hb fun s hs => by cases hs
    -- the method is finished before it is added, so a failed body leaves the service as it was
    · rename_i hnew
      split
      · exact ⟨hb.node, Building.prefix_close (hb.errors.trans hrun.errors) _ _⟩
      · refine ⟨hb.node.addMethod hrun.node.wellFormed ?_, hb.errors.trans hrun.errors⟩
        rw [hrun.node.name]
        exact hnew

theorem serviceBody_keeps (types : List UserType) (name : String) (body : Script ServiceCall)
    (errors : List DesignError) :
    (body.run (ServiceCall.step types) ⟨Service.ofName name, errors⟩).state.Keeps
      (Service.Draft types name) errors := by
  have hstart : (Service.ofName name).Draft types name := by
    refine ⟨rfl, ?_, ?_⟩ <;> simp [Service.ofName]
  refine Script.run_keeps ?_ body ⟨hstart, List.prefix_refl _⟩
  intro b c hb
  exact ServiceCall.step_keeps hb c

end ApiDesign
