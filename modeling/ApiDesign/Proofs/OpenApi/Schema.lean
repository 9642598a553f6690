import ApiDesign.OpenApi.Schema
import ApiDesign.Proofs.Attribute
import ApiDesign.Proofs.KeyMap

/-!
# Schemas and types

The schema of an object type tells of its fields the names, the schemas of their types and which of
them are required.

* `Schema.ofType_revise` — nothing else of a field is read, at any depth;
* `Schema.lookup_ofFields` — the properties, where the fields have different names.
-/

namespace ApiDesign

namespace Schema

theorem ofFields_eq_map (fields : List Attribute) :
    ofFields fields = fields.map fun a => (a.name, ofType a.type) := by
  induction fields with
  | nil => rfl
  | cons a fields ih =>
    cases a
    rw [ofFields, ih]
    rfl

/-- The schema of a type stays the same if fields keep their name and their type and stay required or
not. -/
theorem ofType_revise {g : Attribute → Attribute} (hname : ∀ a, (g a).name = a.name)
    (htype : ∀ a, (g a).type = a.type) (hrequired : ∀ a, (g a).required = a.required)
    (type : AttributeType) : ofType (type.revise (some ∘ g)) = ofType type := by
  induction type using AttributeType.induction with
  | primitive p => rfl
  | array element ih =>
    show (⟨some "array", none, some (ofType (element.revise (some ∘ g))), [], []⟩ : Schema) = _
    rw [ih]
    rfl
  | object fields ih =>
    have hfields : ofFields (Attribute.reviseAll (some ∘ g) fields) = ofFields fields := by
      rw [Attribute.reviseAll_eq_map, ofFields_eq_map, ofFields_eq_map, List.map_map]
      refine List.map_congr_left fun a ha => ?_
      show ((g (a.reviseType (some ∘ g))).name, ofType (g (a.reviseType (some ∘ g))).type) = _
      rw [hname, htype]
      exact congrArg (Prod.mk a.name) (ih a ha)
    have hnames : ((Attribute.reviseAll (some ∘ g) fields).filter (·.required)).map (·.name) =
        (fields.filter (·.required)).map (·.name) := by
      rw [Attribute.reviseAll_eq_map, List.filter_map, List.map_map]
      simp only [Function.comp_def, hname, hrequired]
      rfl
    show (⟨some "object", none, none, Entries.sort (ofFields (Attribute.reviseAll (some ∘ g) fields)),
      ((Attribute.reviseAll (some ∘ g) fields).filter (·.required)).map (·.name)⟩ : Schema) = _
    rw [hfields, hnames]
    rfl

/-- Where the fields have different names, each of them has its property, and no other property is
there. -/
theorem lookup_ofFields {fields : List Attribute} (h : (fields.map (·.name)).Nodup)
    {name : String} {schema : Schema} :
    Entries.lookup name (Entries.sort (ofFields fields)) = some schema ↔
      ∃ a ∈ fields, a.name = name ∧ ofType a.type = schema := by
  have hkeys : ((ofFields fields).map Prod.fst).Nodup := by
    rw [ofFields_eq_map, List.map_map]
    exact h
  rw [Entries.lookup_sort_of_nodup hkeys, Entries.lookup_eq_some_iff hkeys, ofFields_eq_map,
    List.mem_map]
  simp only [Prod.mk.injEq]

end Schema

end ApiDesign
