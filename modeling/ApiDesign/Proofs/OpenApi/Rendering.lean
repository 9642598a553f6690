import ApiDesign.OpenApi.Security
import ApiDesign.Proofs.KeyMap
import ApiDesign.Proofs.Security.InForce

/-!
# The security that an operation shows

While the security of an operation is written, the schemes it refers to are collected on the side.
What is written does not depend on that collection: it is a function of the requirements in force and
of the registry, and so is the one way in which writing can fail.

* `objectOf` — the object of one requirement, `objectOf_presents` — what it says;
* `securityOf`, `unknownScheme?` — the security of a method, and the scheme name that prevents it;
* `renderSecurity_effective` — writing comes to one of the two.
-/

namespace ApiDesign.OpenApi

/-! ### One requirement -/

/-- The scopes that stand behind a scheme name in the object of a requirement. -/
def scopesUnder (registry : SchemeRegistry) (r : Requirement) (name : String) : List String :=
  match registry.get? name with
  | some s => listedScopes s (requiredScopes s r)
  | none => []

/-- The object of a requirement whose schemes are registered. -/
def objectOf (registry : SchemeRegistry) (r : Requirement) : SecurityRequirementObject :=
  r.schemes.foldl (fun object name => object.insert name (scopesUnder registry r name)) .empty

/-- The object names exactly the schemes of the requirement, at least one; behind an OAuth2 scheme
stand the required scopes that it defines, in declaration order, and behind any other scheme none. -/
structure Presents (registry : SchemeRegistry) (r : Requirement)
    (object : SecurityRequirementObject) : Prop where
  nonempty : object.keys ≠ []
  keys : ∀ name, name ∈ object.keys ↔ name ∈ r.schemes
  scopes : ∀ name ∈ r.schemes, ∃ s, registry.get? name = some s ∧
    object.get? name = some (if s.kind = .oauth2 then r.scopes.filter s.hasScope else [])

theorem get?_objectOf (registry : SchemeRegistry) (r : Requirement) (name : String) :
    (objectOf registry r).get? name =
      if name ∈ r.schemes then some (scopesUnder registry r name) else none := by
  rw [objectOf, KeyMap.get?_foldl_insert, KeyMap.get?_empty]

theorem objectOf_presents {registry : SchemeRegistry} {r : Requirement}
    (h : r.WellFormed registry) : Presents registry r (objectOf registry r) := by
  have hkeys : ∀ name, name ∈ (objectOf registry r).keys ↔ name ∈ r.schemes := by
    intro name
    rw [KeyMap.mem_keys_iff, get?_objectOf]
    by_cases hname : name ∈ r.schemes <;> simp [hname]
  refine ⟨?_, hkeys, ?_⟩
  · obtain ⟨name, hname⟩ := List.exists_mem_of_ne_nil _ h.nonempty
    exact List.ne_nil_of_mem ((hkeys name).2 hname)
  · intro name hname
    obtain ⟨s, hs⟩ := Option.isSome_iff_exists.1 (h.registered name hname)
    refine ⟨s, hs, ?_⟩
    rw [get?_objectOf, if_pos hname, scopesUnder, hs]
    rfl

/-! ### Writing -/

/-- The first of the names under which no scheme is registered. -/
def firstUnknown (registry : SchemeRegistry) (names : List String) : Option String :=
  names.find? fun name => !registry.contains name

theorem firstUnknown_cons_of_get? {registry : SchemeRegistry} {name : String} {s : SecurityScheme}
    (h : registry.get? name = some s) (names : List String) :
    firstUnknown registry (name :: names) = firstUnknown registry names := by
  rw [firstUnknown, List.find?_cons, SchemeRegistry.contains, h]
  rfl

theorem firstUnknown_cons_of_none {registry : SchemeRegistry} {name : String}
    (h : registry.get? name = none) (names : List String) :
    firstUnknown registry (name :: names) = some name := by
  rw [firstUnknown, List.find?_cons, SchemeRegistry.contains, h]
  rfl

theorem firstUnknown_append (registry : SchemeRegistry) (names more : List String) :
    firstUnknown registry (names ++ more) =
      (firstUnknown registry names).or (firstUnknown registry more) :=
  List.find?_append

theorem firstUnknown_eq_none_iff (registry : SchemeRegistry) (names : List String) :
    firstUnknown registry names = none ↔ ∀ name ∈ names, registry.contains name = true := by
  simp [firstUnknown]

theorem renderSchemes_fst (registry : SchemeRegistry) (op : String) (r : Requirement)
    (names : List String) (object : SecurityRequirementObject) (referenced : Referenced) :
    (renderSchemes registry op r names object referenced).1 =
      match firstUnknown registry names with
      | some name => .error (.unknownScheme op name)
      | none => .ok (names.foldl
          (fun object name => object.insert name (scopesUnder registry r name)) object) := by
  induction names generalizing object referenced with
  | nil => rfl
  | cons name names ih =>
    rw [renderSchemes]
    cases hget : registry.get? name with
    | none => rw [firstUnknown_cons_of_none hget]
    | some s =>
      rw [firstUnknown_cons_of_get? hget, List.foldl_cons, scopesUnder, hget]
      exact ih _ _

theorem renderAlternatives_fst (registry : SchemeRegistry) (op : String) (rs : List Requirement)
    (referenced : Referenced) :
    (renderAlternatives registry op rs referenced).1 =
      match firstUnknown registry (rs.flatMap (·.schemes)) with
      | some name => .error (.unknownScheme op name)
      | none => .ok (rs.map (objectOf registry)) := by
  induction rs generalizing referenced with
  | nil => rfl
  | cons r rs ih =>
    -- the schemes of the first requirement come before all others, so an unknown one decides
    have hhead := renderSchemes_fst registry op r r.schemes .empty referenced
    rw [renderAlternatives, List.flatMap_cons, firstUnknown_append]
    cases hfirst : firstUnknown registry r.schemes with
    | some name =>
      rw [hfirst] at hhead
      split
      · rename_i e _ heq
        rw [heq] at hhead
        cases hhead
        rfl
      · rename_i object _ heq
        rw [heq] at hhead
        cases hhead
    | none =>
      rw [hfirst] at hhead
      split
      · rename_i e _ heq
        rw [heq] at hhead
        cases hhead
      · rename_i object referenced' heq
        rw [heq] at hhead
        cases hhead
        show ((renderAlternatives registry op rs referenced').1.map (objectOf registry r :: ·)) = _
        rw [ih referenced', Option.none_or]
        cases firstUnknown registry (rs.flatMap (·.schemes)) <;> rfl

end ApiDesign.OpenApi

/-! ### The security of a method -/

namespace ApiDesign

open OpenApi

/-- The first scheme name in the requirements in force for a method that is not registered. -/
def Design.unknownScheme? (d : Design) (service method : String) : Option String :=
  firstUnknown d.schemes ((d.security.inForce service method).flatMap (·.schemes))

/-- The security that the operations of a method show: none applies, nothing is said, or one object
for each requirement in force. -/
def Design.securityOf (d : Design) (service method : String) :
    Option (List SecurityRequirementObject) :=
  if MethodSecurity.noSecurity ∈ d.security.forMethod service method then some []
  else if d.security.mostSpecific service method = [] then none
  else some ((d.security.mostSpecific service method).map (objectOf d.schemes))

/-- **Writing the security of a method** fails with the first unknown scheme name or gives what the
declarations say, whatever was referred to before. -/
theorem Design.renderSecurity_effective (d : Design) (service method op : String)
    (referenced : Referenced) :
    (renderSecurity (d.security.effective service method) d.schemes op referenced).1 =
      match d.unknownScheme? service method with
      | some name => .error (.unknownScheme op name)
      | none => .ok (d.securityOf service method) := by
  rw [SecurityRequirements.effective_eq, unknownScheme?, securityOf, SecurityRequirements.inForce]
  by_cases hopen : MethodSecurity.noSecurity ∈ d.security.forMethod service method
  · rw [if_pos hopen, if_pos hopen, if_pos hopen]
    rfl
  · rw [if_neg hopen, if_neg hopen, if_neg hopen]
    by_cases hnil : d.security.mostSpecific service method = []
    · rw [if_pos hnil, if_pos hnil, hnil]
      rfl
    · rw [if_neg hnil, if_neg hnil]
      show (renderAlternatives d.schemes op _ referenced).1.map some = _
      rw [renderAlternatives_fst]
      cases firstUnknown d.schemes
        ((d.security.mostSpecific service method).flatMap (·.schemes)) <;> rfl

/-- In a well-formed design every scheme name is registered. -/
theorem Design.WellFormed.unknownScheme?_eq_none {d : Design} (hd : d.WellFormed)
    (service method : String) : d.unknownScheme? service method = none := by
  rw [Design.unknownScheme?, firstUnknown_eq_none_iff]
  intro name hname
  obtain ⟨r, hr, hmem⟩ := List.mem_flatMap.1 hname
  exact (hd.requirements r (SecurityRequirements.mem_all_of_mem_inForce hr)).registered name hmem

end ApiDesign
