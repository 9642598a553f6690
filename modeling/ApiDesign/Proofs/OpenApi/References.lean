import ApiDesign.Proofs.OpenApi.Rendering
import Mathlib.Data.List.TakeWhile

/-!
# The schemes that operations refer to

While the security of an operation is written, every scheme that a requirement names is noted down
with the scopes that are required from it.  What is noted down is a list of uses, up to the first
scheme that is not known, and the collection afterwards is told by the collection before and by
these uses, in whatever order they come.

* `SchemeUse`, `usesOf` — the uses of alternatives, in their order;
* `renderSecurity_snd` — writing notes down the known uses, also if it fails;
* `Referenced.refers_addUses`, `Referenced.requires_addUses` — what is in the collection afterwards;
* `Referenced.addUses_perm` — so the order of the uses does not matter.
-/

namespace ApiDesign.OpenApi

/-! ### Uses -/

/-- A requirement names a scheme. -/
structure SchemeUse where
  scheme : String
  requirement : Requirement

namespace SchemeUse

variable (registry : SchemeRegistry) (u : SchemeUse)

/-- The scheme is registered. -/
def known : Bool := registry.contains u.scheme

/-- The scopes that are required from the scheme: those of the requirement that it defines. -/
def scopes : List String :=
  match registry.get? u.scheme with
  | some s => requiredScopes s u.requirement
  | none => []

theorem mem_scopes_iff (scope : String) :
    scope ∈ u.scopes registry ↔
      ∃ s, registry.get? u.scheme = some s ∧ s.hasScope scope = true ∧
        scope ∈ u.requirement.scopes := by
  rw [scopes]
  cases registry.get? u.scheme with
  | none => simp
  | some s => simp [requiredScopes, and_comm]

end SchemeUse

/-- The uses of alternatives: requirement by requirement, and scheme by scheme. -/
def usesOf (alternatives : List Requirement) : List SchemeUse :=
  alternatives.flatMap fun r => r.schemes.map fun name => ⟨name, r⟩

theorem mem_usesOf {alternatives : List Requirement} {u : SchemeUse} :
    u ∈ usesOf alternatives ↔ u.requirement ∈ alternatives ∧ u.scheme ∈ u.requirement.schemes := by
  rw [usesOf, List.mem_flatMap]
  constructor
  · rintro ⟨r, hr, hu⟩
    obtain ⟨name, hname, rfl⟩ := List.mem_map.1 hu
    exact ⟨hr, hname⟩
  · rintro ⟨hr, hname⟩
    exact ⟨u.requirement, hr, List.mem_map.2 ⟨u.scheme, hname, rfl⟩⟩

/-- The first unknown name of alternatives is that of their first unknown use. -/
theorem firstUnknown_flatMap (registry : SchemeRegistry) (alternatives : List Requirement) :
    firstUnknown registry (alternatives.flatMap (·.schemes)) =
      ((usesOf alternatives).find? fun u => !u.known registry).map (·.scheme) := by
  have hnames : alternatives.flatMap (·.schemes) = (usesOf alternatives).map (·.scheme) := by
    rw [usesOf, List.map_flatMap]
    refine List.flatMap_congr fun r _ => ?_
    rw [List.map_map]
    exact (List.map_id _).symm
  rw [hnames, firstUnknown, List.find?_map]
  rfl

/-- The collection after some uses. -/
def Referenced.addUses (registry : SchemeRegistry) (referenced : Referenced)
    (uses : List SchemeUse) : Referenced :=
  uses.foldl (fun referenced u => referenced.add u.scheme (u.scopes registry)) referenced

theorem Referenced.addUses_append (registry : SchemeRegistry) (referenced : Referenced)
    (uses more : List SchemeUse) :
    referenced.addUses registry (uses ++ more) =
      (referenced.addUses registry uses).addUses registry more :=
  List.foldl_append

/-! ### What writing notes down -/

/-- The alternatives of the security in effect; there are none unless one must be met. -/
def alternativesOf : EffectiveSecurity → List Requirement
  | .required alternatives => alternatives
  | .unspecified => []
  | .disabled => []

variable (registry : SchemeRegistry) (op : String)

theorem renderSchemes_snd (r : Requirement) (names : List String)
    (object : SecurityRequirementObject) (referenced : Referenced) :
    (renderSchemes registry op r names object referenced).2 =
      referenced.addUses registry
        ((names.map fun name => ⟨name, r⟩).takeWhile (·.known registry)) := by
  induction names generalizing object referenced with
  | nil => rfl
  | cons name names ih =>
    rw [renderSchemes, List.map_cons]
    cases hget : registry.get? name with
    | none =>
      have hunknown : (SchemeUse.mk name r).known registry = false := by
        rw [SchemeUse.known, SchemeRegistry.contains, hget]
        rfl
      rw [List.takeWhile_cons_of_neg (by rw [hunknown]; exact Bool.false_ne_true)]
      rfl
    | some s =>
      have hknown : (SchemeUse.mk name r).known registry = true := by
        rw [SchemeUse.known, SchemeRegistry.contains, hget]
        rfl
      have hscopes : (SchemeUse.mk name r).scopes registry = requiredScopes s r := by
        rw [SchemeUse.scopes, hget]
      rw [List.takeWhile_cons_of_pos hknown, Referenced.addUses, List.foldl_cons, hscopes]
      exact ih _ _

/-- The schemes of a requirement are all known exactly if its object is written. -/
theorem renderSchemes_ok_iff (r : Requirement) (referenced : Referenced) :
    (∃ object, (renderSchemes registry op r r.schemes .empty referenced).1 = .ok object) ↔
      ∀ u ∈ r.schemes.map fun name => SchemeUse.mk name r, u.known registry = true := by
  rw [renderSchemes_fst]
  have hnone := firstUnknown_eq_none_iff registry r.schemes
  cases hfirst : firstUnknown registry r.schemes with
  | none =>
    rw [hfirst] at hnone
    refine iff_of_true ⟨_, rfl⟩ fun u hu => ?_
    obtain ⟨name, hname, rfl⟩ := List.mem_map.1 hu
    exact hnone.1 rfl name hname
  | some name =>
    rw [hfirst] at hnone
    refine iff_of_false (by rintro ⟨_, h⟩; cases h) fun hknown => ?_
    cases hnone.2 fun name hname => hknown _ (List.mem_map.2 ⟨name, hname, rfl⟩)

theorem renderAlternatives_snd (rs : List Requirement) (referenced : Referenced) :
    (renderAlternatives registry op rs referenced).2 =
      referenced.addUses registry ((usesOf rs).takeWhile (·.known registry)) := by
  induction rs generalizing referenced with
  | nil => rfl
  | cons r rs ih =>
    have hsnd := renderSchemes_snd registry op r r.schemes .empty referenced
    have hok := renderSchemes_ok_iff registry op r referenced
    have hsplit : usesOf (r :: rs) = (r.schemes.map fun name => SchemeUse.mk name r) ++ usesOf rs :=
      List.flatMap_cons
    rw [renderAlternatives, hsplit]
    split
    · rename_i e after heq
      rw [heq] at hsnd hok
      -- an unknown scheme of this requirement ends the list of uses as well
      have hnot : ¬∀ u ∈ r.schemes.map fun name => SchemeUse.mk name r,
          u.known registry = true := fun h => by
        obtain ⟨object, hobject⟩ := hok.2 h
        cases hobject
      rw [List.takeWhile_append, if_neg]
      · exact hsnd
      · intro hlen
        refine hnot (List.takeWhile_eq_self_iff.1 ?_)
        exact (List.takeWhile_prefix _).eq_of_length hlen
    · rename_i object after heq
      rw [heq] at hsnd hok
      have hknown := hok.1 ⟨object, rfl⟩
      rw [List.takeWhile_eq_self_iff.2 hknown] at hsnd
      rw [List.takeWhile_append_of_pos hknown, Referenced.addUses_append, ← hsnd]
      exact ih after

/-- **Writing notes down the known uses**, in their order and up to the first that is not known. -/
theorem renderSecurity_snd (effective : EffectiveSecurity) (referenced : Referenced) :
    (renderSecurity effective registry op referenced).2 =
      referenced.addUses registry
        ((usesOf (alternativesOf effective)).takeWhile (·.known registry)) := by
  cases effective with
  | unspecified => rfl
  | disabled => rfl
  | required alternatives => exact renderAlternatives_snd registry op alternatives referenced

/-! ### The collection afterwards -/

/-- The collection has the scheme. -/
def Referenced.Refers (referenced : Referenced) (scheme : String) : Prop :=
  ∃ required, referenced.get? scheme = some required

/-- The collection has the scheme, and the scope among those that are required from it. -/
def Referenced.Requires (referenced : Referenced) (scheme scope : String) : Prop :=
  ∃ required, referenced.get? scheme = some required ∧ scope ∈ required.keys

theorem NameSet.mem_keys_addAll (s : NameSet) (names : List String) (name : String) :
    name ∈ (s.addAll names).keys ↔ name ∈ s.keys ∨ name ∈ names := by
  rw [KeyMap.mem_keys_iff, KeyMap.mem_keys_iff, addAll, KeyMap.get?_foldl_insert]
  by_cases h : name ∈ names <;> simp [h]

namespace Referenced

variable {registry} (referenced : Referenced) (scheme : String) (scopes : List String)

theorem refers_add (name : String) :
    (referenced.add scheme scopes).Refers name ↔ referenced.Refers name ∨ name = scheme := by
  rw [Refers, Refers, add, KeyMap.get?_insert]
  by_cases h : name = scheme <;> simp [h]

theorem requires_add (name scope : String) :
    (referenced.add scheme scopes).Requires name scope ↔
      referenced.Requires name scope ∨ name = scheme ∧ scope ∈ scopes := by
  rw [Requires, Requires, add, KeyMap.get?_insert]
  by_cases h : name = scheme
  · subst h
    rw [if_pos rfl]
    constructor
    · rintro ⟨_, ⟨⟩, hscope⟩
      rcases (NameSet.mem_keys_addAll _ _ _).1 hscope with hold | hnew
      · cases hget : referenced.get? name with
        | none =>
          rw [hget] at hold
          cases hold
        | some required =>
          rw [hget] at hold
          exact .inl ⟨required, rfl, hold⟩
      · exact .inr ⟨rfl, hnew⟩
    · intro hscope
      refine ⟨_, rfl, (NameSet.mem_keys_addAll _ _ _).2 ?_⟩
      rcases hscope with ⟨required, hget, hold⟩ | ⟨-, hnew⟩
      · rw [hget]
        exact .inl hold
      · exact .inr hnew
  · simp [h]

/-- The schemes of the collection are those that it had before and those that are used. -/
theorem refers_addUses (uses : List SchemeUse) (name : String) :
    (referenced.addUses registry uses).Refers name ↔
      referenced.Refers name ∨ ∃ u ∈ uses, u.scheme = name := by
  induction uses generalizing referenced with
  | nil => simp [addUses]
  | cons u uses ih =>
    rw [addUses, List.foldl_cons, ← addUses, ih, refers_add, or_assoc, List.exists_mem_cons_iff,
      eq_comm]

/-- The scopes that are required from a scheme are those that were before and those of its uses. -/
theorem requires_addUses (uses : List SchemeUse) (name scope : String) :
    (referenced.addUses registry uses).Requires name scope ↔
      referenced.Requires name scope ∨
        ∃ u ∈ uses, u.scheme = name ∧ scope ∈ u.scopes registry := by
  induction uses generalizing referenced with
  | nil => simp [addUses]
  | cons u uses ih =>
    rw [addUses, List.foldl_cons, ← addUses, ih, requires_add, or_assoc, List.exists_mem_cons_iff,
      eq_comm]

end Referenced

/-! ### The order of uses -/

theorem NameSet.ext_keys {s t : NameSet} (h : ∀ name, name ∈ s.keys ↔ name ∈ t.keys) : s = t := by
  refine KeyMap.ext_get? fun name => ?_
  have hkeys := h name
  rw [KeyMap.mem_keys_iff, KeyMap.mem_keys_iff] at hkeys
  cases hs : s.get? name with
  | none =>
    rw [hs] at hkeys
    exact (Option.not_isSome_iff_eq_none.1 fun ht => by cases hkeys.2 ht).symm
  | some u =>
    rw [hs] at hkeys
    obtain ⟨v, hv⟩ := Option.isSome_iff_exists.1 (hkeys.1 rfl)
    rw [hv]

namespace Referenced

/-- A collection is told by its schemes and by the scopes that are required from them. -/
theorem ext_refers {r r' : Referenced} (hrefers : ∀ name, r.Refers name ↔ r'.Refers name)
    (hrequires : ∀ name scope, r.Requires name scope ↔ r'.Requires name scope) : r = r' := by
  refine KeyMap.ext_get? fun name => ?_
  cases hr : r.get? name with
  | none =>
    cases hr' : r'.get? name with
    | none => rfl
    | some required' =>
      obtain ⟨required, hrequired⟩ := (hrefers name).2 ⟨required', hr'⟩
      rw [hr] at hrequired
      cases hrequired
  | some required =>
    obtain ⟨required', hr'⟩ := (hrefers name).1 ⟨required, hr⟩
    have hkeys : ∀ scope, scope ∈ required.keys ↔ scope ∈ required'.keys := by
      intro scope
      have hscope := hrequires name scope
      rw [Requires, Requires, hr, hr'] at hscope
      simpa using hscope
    rw [hr', NameSet.ext_keys hkeys]

/-- The same uses in another order, and of schemes that define the same scopes, come to the same
collection. -/
theorem addUses_perm {registry registry' : SchemeRegistry} {referenced : Referenced}
    {uses uses' : List SchemeUse} (hperm : uses.Perm uses')
    (hscopes : ∀ u : SchemeUse, u.scopes registry' = u.scopes registry) :
    referenced.addUses registry uses = referenced.addUses registry' uses' := by
  refine ext_refers (fun name => ?_) fun name scope => ?_
  · rw [refers_addUses, refers_addUses]
    simp only [hperm.mem_iff]
  · rw [requires_addUses, requires_addUses]
    simp only [hperm.mem_iff, hscopes]

end Referenced

end ApiDesign.OpenApi
