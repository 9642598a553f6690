import ApiDesign.Proofs.Builder.Runs
import ApiDesign.Security.Effective

/-!
# The requirements in force

Requirements stand at three levels, and the most specific level at which one stands counts.  Whether
a method is open, protected or left to the reader of the document hangs on the declarations alone:
on where requirements were declared, and on whether it was declared that none applies.

* `SecurityRequirements.mostSpecific`, `inForce` — the requirements that count;
* `SecurityRequirements.effective_eq` — the security in effect is what they say;
* `AcceptedAll.noSecurity_mem_iff`, `AcceptedAll.requirementsAt` — what stands at a node of a finished
  design was declared for it, in this order, and nothing that was declared is missing.
-/

namespace ApiDesign

namespace SecurityRequirements

/-- The requirements at a node, in declaration order. -/
def requirementsAt (s : SecurityRequirements) : Target → List Requirement
  | .api => s.api
  | .service service => s.forService service
  | .method service method => (s.forMethod service method).filterMap (·.requirement?)
  | .top => []
  | .type _ => []

/-- The requirements at the most specific level that has any: the method, else its service, else the
API. -/
def mostSpecific (s : SecurityRequirements) (service method : String) : List Requirement :=
  if s.requirementsAt (.method service method) ≠ [] then s.requirementsAt (.method service method)
  else if s.requirementsAt (.service service) ≠ [] then s.requirementsAt (.service service)
  else s.requirementsAt .api

/-- The requirements in force for a method: none if it is declared that no security applies. -/
def inForce (s : SecurityRequirements) (service method : String) : List Requirement :=
  if MethodSecurity.noSecurity ∈ s.forMethod service method then []
  else s.mostSpecific service method

theorem mostSpecific_eq_nil_iff (s : SecurityRequirements) (service method : String) :
    s.mostSpecific service method = [] ↔
      s.requirementsAt (.method service method) = [] ∧ s.requirementsAt (.service service) = [] ∧
        s.requirementsAt .api = [] := by
  unfold mostSpecific
  split
  · rename_i h
    simp [h]
  · rename_i h
    rw [not_not] at h
    split
    · rename_i hs
      simp [hs]
    · rename_i hs
      rw [not_not] at hs
      simp [h, hs]

/-- The levels of a method are searched from the most specific one on. -/
theorem ofLevels_eq (s : SecurityRequirements) (service method : String) :
    EffectiveSecurity.ofLevels [(s.forMethod service method).filterMap (·.requirement?),
        s.forService service, s.api] =
      if s.mostSpecific service method = [] then .unspecified
      else .required (s.mostSpecific service method) := by
  show EffectiveSecurity.ofLevels [s.requirementsAt (.method service method),
    s.requirementsAt (.service service), s.requirementsAt .api] = _
  rw [EffectiveSecurity.ofLevels]
  by_cases hm : s.requirementsAt (.method service method) = []
  · by_cases hs : s.requirementsAt (.service service) = []
    · by_cases ha : s.requirementsAt .api = []
      · simp [mostSpecific, hm, hs, ha]
      · simp [mostSpecific, hm, hs, ha]
    · simp [mostSpecific, hm, hs]
  · simp [mostSpecific, hm]

/-- **The security in effect** is told by the declarations that stand at the three levels. -/
theorem effective_eq (s : SecurityRequirements) (service method : String) :
    s.effective service method =
      if MethodSecurity.noSecurity ∈ s.forMethod service method then .disabled
      else if s.mostSpecific service method = [] then .unspecified
      else .required (s.mostSpecific service method) := by
  rw [← ofLevels_eq]
  unfold effective
  simp only [List.contains_iff_mem]

/-- Every requirement in force was declared somewhere. -/
theorem mem_all_of_mem_inForce {s : SecurityRequirements} {service method : String}
    {r : Requirement} (h : r ∈ s.inForce service method) : r ∈ s.all := by
  have hmethod : r ∈ s.requirementsAt (.method service method) → r ∈ s.all := by
    intro hr
    obtain ⟨m, hm, hreq⟩ := List.mem_filterMap.1 hr
    obtain ⟨e, he, rfl⟩ := List.mem_map.1 hm
    exact mem_all.2 (.inr (.inr ⟨e, (List.mem_filter.1 he).1, hreq⟩))
  have hservice : r ∈ s.requirementsAt (.service service) → r ∈ s.all := by
    intro hr
    obtain ⟨e, he, hreq⟩ := List.mem_map.1 hr
    exact mem_all.2 (.inr (.inl ⟨e, (List.mem_filter.1 he).1, hreq⟩))
  have hapi : r ∈ s.requirementsAt .api → r ∈ s.all := fun hr => mem_all.2 (.inl hr)
  unfold inForce mostSpecific at h
  split at h
  · cases h
  · split at h
    · exact hmethod h
    · split at h
      · exact hservice h
      · exact hapi h

/-! ### What a declaration adds at a node -/

/-- A requirement is added at the end of those at its own node, and nowhere else. -/
theorem requirementsAt_attach (s : SecurityRequirements) {d : Design} {target : Target}
    (h : d.Admits target) (r : Requirement) (t : Target) :
    (Builder.attach s target r).requirementsAt t =
      s.requirementsAt t ++ if t = target then [r] else [] := by
  cases target with
  | top => cases h
  | type name => cases h
  | api => cases t <;> simp [Builder.attach, requirementsAt, forService, forMethod]
  | service service =>
    cases t with
    | service name =>
      by_cases hname : name = service
      · simp [Builder.attach, requirementsAt, forService, hname]
      · simp [Builder.attach, requirementsAt, forService, hname, Ne.symm hname]
    | _ => simp [Builder.attach, requirementsAt, forMethod]
  | method service method =>
    cases t with
    | method owner name =>
      by_cases hname : service = owner ∧ method = name
      · obtain ⟨rfl, rfl⟩ := hname
        simp [Builder.attach, requirementsAt, forMethod, MethodSecurity.requirement?]
      · have hne : ¬(owner = service ∧ name = method) := fun h => hname ⟨h.1.symm, h.2.symm⟩
        simp [Builder.attach, requirementsAt, forMethod, hname, hne]
    | _ => simp [Builder.attach, requirementsAt, forService]

theorem noSecurity_mem_attach (s : SecurityRequirements) (target : Target) (r : Requirement)
    (service method : String) :
    MethodSecurity.noSecurity ∈ (Builder.attach s target r).forMethod service method ↔
      MethodSecurity.noSecurity ∈ s.forMethod service method := by
  cases target <;> simp [Builder.attach, forMethod]

theorem noSecurity_mem_append (s : SecurityRequirements) (owner name service method : String) :
    MethodSecurity.noSecurity ∈ SecurityRequirements.forMethod
        { s with methods := s.methods ++ [⟨owner, name, .noSecurity⟩] } service method ↔
      MethodSecurity.noSecurity ∈ s.forMethod service method ∨
        owner = service ∧ name = method := by
  simp [forMethod]

theorem requirementsAt_append_noSecurity (s : SecurityRequirements) (owner name : String)
    (t : Target) :
    SecurityRequirements.requirementsAt
        { s with methods := s.methods ++ [⟨owner, name, .noSecurity⟩] } t =
      s.requirementsAt t := by
  cases t with
  | method service method =>
    by_cases h : owner = service ∧ name = method <;>
      simp [requirementsAt, forMethod, h, MethodSecurity.requirement?]
  | _ => rfl

end SecurityRequirements

/-! ### What the declarations of a design add up to -/

theorem Accepted.noSecurity_mem_iff {d d' : Design} {x : Declaration} (h : Accepted d x d')
    (service method : String) :
    MethodSecurity.noSecurity ∈ d'.security.forMethod service method ↔
      MethodSecurity.noSecurity ∈ d.security.forMethod service method ∨
        x = .noSecurity (.method service method) := by
  cases h with
  | security _ _ _ =>
    rw [SecurityRequirements.noSecurity_mem_attach]
    simp
  | noSecurity _ =>
    rw [SecurityRequirements.noSecurity_mem_append]
    simp
  | _ => simp

/-- The requirement that a security declaration stands for: what its body makes of the schemes that
it refers to. -/
inductive SchemeRegistry.Declares (registry : SchemeRegistry) : Declaration → Requirement → Prop where
  | security {target : Target} {refs : List SchemeRef} {body : Script RequirementCall}
      {schemes : List SecurityScheme} (resolved : registry.Resolves refs schemes) :
      registry.Declares (.security target refs body) (.ofBody schemes body)

/-- A declaration requires security at a node. -/
def Declaration.requiresAt (target : Target) : Declaration → Bool
  | .security t _ _ => t = target
  | _ => false

theorem Declaration.requiresAt_iff (target : Target) (x : Declaration) :
    x.requiresAt target = true ↔ ∃ refs body, x = .security target refs body := by
  cases x <;> simp [requiresAt]

theorem Declaration.any_requiresAt_iff (target : Target) (xs : List Declaration) :
    xs.any (·.requiresAt target) = true ↔ ∃ refs body, .security target refs body ∈ xs := by
  simp only [List.any_eq_true, requiresAt_iff]
  constructor
  · rintro ⟨_, hx, refs, body, rfl⟩
    exact ⟨refs, body, hx⟩
  · rintro ⟨refs, body, hx⟩
    exact ⟨_, hx, refs, body, rfl⟩

/-- What a declaration stands for is not changed by schemes that are registered later. -/
theorem Accepted.declares {d d' : Design} {x y : Declaration} {r : Requirement}
    (h : Accepted d x d') (hr : d.schemes.Declares y r) : d'.schemes.Declares y r := by
  cases h with
  | scheme _ _ _ =>
    obtain ⟨resolved⟩ := hr
    exact .security (resolved.append _)
  | _ => exact hr

theorem AcceptedAll.declares {d d' : Design} {xs : List Declaration} {y : Declaration}
    {r : Requirement} (h : AcceptedAll d xs d') (hr : d.schemes.Declares y r) :
    d'.schemes.Declares y r := by
  induction h with
  | nil d => exact hr
  | cons hx _ ih => exact ih (hx.declares hr)

/-- A declaration adds its requirement at its own node, and nothing at any other. -/
theorem Accepted.requirementsAt {d d' : Design} {x : Declaration} (h : Accepted d x d')
    (target : Target) :
    ∃ added, d'.security.requirementsAt target = d.security.requirementsAt target ++ added ∧
      List.Forall₂ d'.schemes.Declares ([x].filter (·.requiresAt target)) added := by
  cases h with
  | @security node refs body schemes admitted _ resolved =>
    refine ⟨_, SecurityRequirements.requirementsAt_attach _ admitted _ target, ?_⟩
    by_cases hnode : node = target
    · rw [if_pos hnode.symm, List.filter_cons_of_pos (by simp [Declaration.requiresAt, hnode])]
      exact .cons (.security resolved) .nil
    · rw [if_neg (Ne.symm hnode),
        List.filter_cons_of_neg (by simp [Declaration.requiresAt, hnode])]
      exact .nil
  | noSecurity _ =>
    refine ⟨[], ?_, .nil⟩
    rw [SecurityRequirements.requirementsAt_append_noSecurity, List.append_nil]
  | _ => exact ⟨[], (List.append_nil _).symm, .nil⟩

/-- That no security applies stands at a method exactly if it was declared for it. -/
theorem AcceptedAll.noSecurity_mem_iff {d d' : Design} {xs : List Declaration}
    (h : AcceptedAll d xs d') (service method : String) :
    MethodSecurity.noSecurity ∈ d'.security.forMethod service method ↔
      MethodSecurity.noSecurity ∈ d.security.forMethod service method ∨
        .noSecurity (.method service method) ∈ xs := by
  induction h with
  | nil d => simp
  | cons hx _ ih =>
    rw [ih, hx.noSecurity_mem_iff, List.mem_cons, or_assoc]
    exact or_congr_right (or_congr_left eq_comm)

/-- **The requirements at a node** are those that the declarations for it stand for, in their
order. -/
theorem AcceptedAll.requirementsAt {d d' : Design} {xs : List Declaration}
    (h : AcceptedAll d xs d') (target : Target) :
    ∃ added, d'.security.requirementsAt target = d.security.requirementsAt target ++ added ∧
      List.Forall₂ d'.schemes.Declares (xs.filter (·.requiresAt target)) added := by
  induction h with
  | nil d => exact ⟨[], (List.append_nil _).symm, .nil⟩
  | @cons d d₁ d' x xs hx hxs ih =>
    obtain ⟨first, hfirst, hdeclared⟩ := hx.requirementsAt target
    obtain ⟨more, hmore, hrest⟩ := ih
    refine ⟨first ++ more, ?_, ?_⟩
    · rw [hmore, hfirst, List.append_assoc]
    · have hsplit : (x :: xs).filter (·.requiresAt target)
          = [x].filter (·.requiresAt target) ++ xs.filter (·.requiresAt target) := by
        rw [← List.filter_append, List.singleton_append]
      rw [hsplit]
      exact List.rel_append (hdeclared.imp fun _ _ hr => hxs.declares hr) hrest

end ApiDesign
