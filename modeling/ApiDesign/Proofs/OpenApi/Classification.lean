import ApiDesign.Proofs.OpenApi.Parameters
import ApiDesign.Proofs.PathTemplate.Grammar

/-!
# Parameters against the path template

Which attributes become path parameters is found by comparing their names with those that are read off
the text of the path.  In terms of the grammar, the names are compared with the wildcards among the
pieces in which the path is written, be they plain or catch-alls; a name that only begins like that of
a wildcard, or that goes on after it, is another one.

* `PathTemplate.HasName` — a wildcard of the name is among the pieces;
* `Parameter.Follows` — what a parameter takes over from its attribute and from the path;
* `classify_follows_template` — one parameter for each attribute without a credential, in order, and
  which of them stand in the path.
-/

namespace ApiDesign

namespace PathTemplate

/-- A wildcard of the name is among the pieces, with any number of stars before the name. -/
def HasName (pieces : List Piece) (name : String) : Prop :=
  ∃ stars wildcard, .wildcard stars wildcard ∈ pieces ∧ wildcard.chars = name.toList

theorem hasName_iff (pieces : List Piece) (name : String) :
    HasName pieces name ↔ name ∈ names pieces := by
  rw [names, List.mem_filterMap]
  constructor
  · rintro ⟨stars, wildcard, hmem, hchars⟩
    refine ⟨_, hmem, ?_⟩
    rw [Piece.name?, hchars, String.ofList_toList]
  · rintro ⟨piece, hmem, hname⟩
    cases piece with
    | literal c plain => cases hname
    | wildcard stars wildcard =>
      refine ⟨stars, wildcard, hmem, ?_⟩
      rw [← Option.some.inj hname, String.toList_ofList]

end PathTemplate

namespace OpenApi

open PathTemplate

/-! ### One attribute -/

/-- The parameter has the name of the attribute.  If a wildcard of the path has this name, it stands
in the path and is required, otherwise it stands in the query and is required if the attribute is.
It is exploded if the attribute is a list. -/
structure Parameter.Follows (pieces : List Piece) (a : Attribute) (p : Parameter) : Prop where
  name : p.name = a.name
  path : p.location = .path ∧ p.required = true ↔ HasName pieces a.name
  query : ¬HasName pieces a.name → p.location = .query ∧ p.required = a.required
  explode : p.explode = some true ↔ ∃ element, a.type = .array element
  unexploded : p.explode = none ↔ ¬∃ element, a.type = .array element

variable {wildcards : List String} {a : Attribute}

theorem ofAttribute_of_mem (h : a.name ∈ wildcards) (locale : String) :
    (Parameter.ofAttribute wildcards locale a).location = .path ∧
      (Parameter.ofAttribute wildcards locale a).required = true := by
  simp [Parameter.ofAttribute, h]

theorem ofAttribute_of_not_mem (h : a.name ∉ wildcards) (locale : String) :
    (Parameter.ofAttribute wildcards locale a).location = .query ∧
      (Parameter.ofAttribute wildcards locale a).required = a.required := by
  simp [Parameter.ofAttribute, h]

/-- A parameter follows its attribute if the names that it is compared with are those of the
pieces. -/
theorem ofAttribute_follows (pieces : List Piece) (locale : String) (a : Attribute) :
    Parameter.Follows pieces a (Parameter.ofAttribute (names pieces) locale a) where
  name := rfl
  path := by
    rw [hasName_iff]
    exact ⟨fun h => (ofAttribute_of_path h.1).1, fun h => ofAttribute_of_mem h locale⟩
  query := by
    rw [hasName_iff]
    exact fun h => ofAttribute_of_not_mem h locale
  explode := by
    simp only [Parameter.ofAttribute]
    cases a.type <;> simp [AttributeType.isArray]
  unexploded := by
    simp only [Parameter.ofAttribute]
    cases a.type <;> simp [AttributeType.isArray]

/-! ### All attributes -/

/-- The parameters of a path that is written in pieces. -/
theorem classify_of_isTemplate {path : String} {pieces : List Piece} (h : IsTemplate path pieces)
    (as : List Attribute) (locale : String) :
    classify as path locale =
      (as.filter (·.role.isNone)).map (Parameter.ofAttribute (names pieces) locale) := by
  rw [classify, h.wildcards_eq]

/-- **Parameters follow the path template.**  In a path that is accepted, the attributes without a
credential become one parameter each, in their order.  However the path is written in the grammar of
templates, the names of the parameters in the path are those that a wildcard shares with an attribute
without a credential. -/
theorem classify_follows_template {path : String} (h : check path = .ok ())
    (as : List Attribute) (locale : String) :
    (∃ pieces, IsTemplate path pieces) ∧
    ∀ pieces, IsTemplate path pieces →
      List.Forall₂ (Parameter.Follows pieces) (as.filter (·.role.isNone))
        (classify as path locale) ∧
      ∀ name, (∃ p ∈ classify as path locale, p.location = .path ∧ p.name = name) ↔
        HasName pieces name ∧ ∃ a ∈ as, a.role = none ∧ a.name = name := by
  refine ⟨(exists_isTemplate_iff path).1 h, fun pieces hpieces => ?_⟩
  rw [classify_of_isTemplate hpieces]
  constructor
  · rw [List.forall₂_map_right_iff, List.forall₂_same]
    exact fun a _ => ofAttribute_follows pieces locale a
  · intro name
    constructor
    · rintro ⟨p, hp, hlocation, rfl⟩
      obtain ⟨a, ha, rfl⟩ := List.mem_map.1 hp
      obtain ⟨hmem, hrole⟩ := List.mem_filter.1 ha
      have hname : a.name ∈ names pieces := (ofAttribute_of_path hlocation).1
      exact ⟨(hasName_iff pieces a.name).2 hname, a, hmem, Option.isNone_iff_eq_none.1 hrole, rfl⟩
    · rintro ⟨hname, a, hmem, hrole, rfl⟩
      have ha : a ∈ as.filter (·.role.isNone) :=
        List.mem_filter.2 ⟨hmem, Option.isNone_iff_eq_none.2 hrole⟩
      exact ⟨_, List.mem_map.2 ⟨a, ha, rfl⟩,
        (ofAttribute_of_mem ((hasName_iff pieces a.name).1 hname) locale).1, rfl⟩

/-- The attributes for reading a file: one is named like the catch-all of the path, one begins like
it, and one that carries a credential has the name of the other wildcard. -/
def readAttributes : List Attribute :=
  [.ofType "path" (.primitive .string),
    { Attribute.ofType "path.to" (.array (.primitive .string)) with required := true },
    Attribute.withRole (.ofType "owner" (.primitive .string)) .username]

/-- Two of the attributes become parameters, and of these only `path` stands in the path. -/
theorem read_follows_template :
    check "/drives/{owner}/{*path}" = .ok () ∧
      ∃ pieces, IsTemplate "/drives/{owner}/{*path}" pieces ∧
        (classify readAttributes "/drives/{owner}/{*path}" "en").length = 2 ∧
        ∀ name, (∃ p ∈ classify readAttributes "/drives/{owner}/{*path}" "en",
          p.location = .path ∧ p.name = name) ↔ name = "path" := by
  have hcheck : check "/drives/{owner}/{*path}" = .ok () := by decide +kernel
  obtain ⟨⟨pieces, hpieces⟩, hfollows⟩ := classify_follows_template hcheck readAttributes "en"
  obtain ⟨hall, hnames⟩ := hfollows pieces hpieces
  refine ⟨hcheck, pieces, hpieces, hall.length_eq.symm, fun name => ?_⟩
  have hwildcards : names pieces = ["owner", "path"] := by
    rw [← hpieces.wildcards_eq]
    decide +kernel
  rw [hnames, hasName_iff, hwildcards]
  constructor
  · rintro ⟨hname, a, ha, hrole, rfl⟩
    simp only [readAttributes, List.mem_cons, List.not_mem_nil, or_false] at ha
    rcases ha with rfl | rfl | rfl
    · rfl
    · revert hname
      decide
    · cases hrole
  · rintro rfl
    exact ⟨by decide, _, List.mem_cons_self, rfl, rfl⟩

end OpenApi

end ApiDesign
