import ApiDesign.DesignFile.Evaluation
import ApiDesign.Proofs.DesignFile.TypeGrammar

/-!
# Attributes of a design file

Which entries can be converted is said on the entries alone, and what comes out is said as a
relation between an entry and an attribute.  Both go down into the nested attributes, but only where
the type has fields: what is nested in an attribute of another type is not looked at.

* `AttributeEntry.Convertible` — the type can be read, and so can the nested attributes and the
  role;
* `AttributeEntry.MirroredBy` — the attribute says what the entry says;
* `exists_toAttributes_iff`, `mirrored_of_toAttributes` — the conversion does just that.
-/

namespace ApiDesign

/-! ### Roles -/

/-- The names of the roles. -/
def roleNames : List String := ["username", "password", "apiKey", "accessToken", "token"]

/-- The role of a name; an API key belongs to the scheme that is given beside it. -/
inductive IsRole (scheme : Option String) : String → SecurityRole → Prop where
  | username : IsRole scheme "username" .username
  | password : IsRole scheme "password" .password
  | accessToken : IsRole scheme "accessToken" .accessToken
  | token : IsRole scheme "token" .token
  | apiKey {key : String} (h : scheme = some key) : IsRole scheme "apiKey" (.apiKey key)

section Roles

variable {owner name : String} {scheme : Option String}

theorem roleOf_eq_ok_iff {role : SecurityRole} :
    roleOf owner name scheme = .ok role ↔ IsRole scheme name role := by
  constructor
  · intro h
    unfold roleOf at h
    split at h
    · cases h
      exact .username
    · cases h
      exact .password
    · cases h
      exact .accessToken
    · cases h
      exact .token
    · split at h
      · cases h
        exact .apiKey rfl
      · cases h
    · cases h
  · intro h
    cases h with
    | username => rfl
    | password => rfl
    | accessToken => rfl
    | token => rfl
    | apiKey h =>
      subst h
      rfl

theorem exists_isRole_iff :
    (∃ role, IsRole scheme name role) ↔ name ∈ roleNames ∧ (name = "apiKey" → scheme.isSome) := by
  constructor
  · rintro ⟨role, h⟩
    cases h with
    | apiKey h =>
      subst h
      exact ⟨by decide, fun _ => rfl⟩
    | _ => exact ⟨by decide, fun hkey => absurd hkey (by decide)⟩
  · rintro ⟨hname, hkey⟩
    simp only [roleNames, List.mem_cons, List.not_mem_nil, or_false] at hname
    rcases hname with rfl | rfl | rfl | rfl | rfl
    · exact ⟨_, .username⟩
    · exact ⟨_, .password⟩
    · obtain ⟨key, rfl⟩ := Option.isSome_iff_exists.1 (hkey rfl)
      exact ⟨_, .apiKey rfl⟩
    · exact ⟨_, .accessToken⟩
    · exact ⟨_, .token⟩

end Roles

namespace AttributeEntry

/-! ### What is asked of entries, and what comes out -/

/-- The entry can be converted: its type is written as an expression, the attributes nested in it can
be converted if the innermost type is an object, and its role is one, with a scheme if that is an API
key. -/
inductive Convertible : AttributeEntry → Prop where
  | intro {entry : AttributeEntry} {expression : TypeExpression}
      (written : TypeExpression.Derives entry.type.toList expression)
      (fields : expression.EndsInObject → ∀ field ∈ entry.attributes, field.Convertible)
      (role : ∀ name, entry.role = some name →
        name ∈ roleNames ∧ (name = "apiKey" → entry.scheme.isSome)) :
      entry.Convertible

/-- The attribute says what the entry says, with the type of its expression over fields that say what
the nested entries say. -/
inductive MirroredBy : AttributeEntry → Attribute → Prop where
  | intro {entry : AttributeEntry} {expression : TypeExpression} {fields : List Attribute}
      {type : AttributeType} {role : Option SecurityRole}
      (written : TypeExpression.Derives entry.type.toList expression)
      (fieldsMirrored : expression.EndsInObject →
        List.Forall₂ MirroredBy entry.attributes fields)
      (typeMirrored : TypeExpression.Denotes fields expression type)
      (roleMirrored : Option.Rel (IsRole entry.scheme) entry.role role) :
      entry.MirroredBy ⟨entry.name, type, entry.required, entry.description, entry.example?, role⟩

/-! ### The parts of the conversion -/

/-- Without fields, the type of an expression does not hang on them. -/
theorem type_of_not_hasFields {expression : TypeExpression} (h : expression.hasFields = false)
    (fields others : List Attribute) : expression.type fields = expression.type others := by
  induction expression with
  | primitive p => rfl
  | object => cases h
  | array element ih => exact congrArg AttributeType.array (ih h)

theorem typeOf_eq_ok_iff {written : String} {nested : Except DesignError (List Attribute)}
    {type : AttributeType} :
    typeOf written nested = .ok type ↔
      ∃ expression fields, TypeExpression.parse written = .ok expression ∧
        (expression.hasFields = true → nested = .ok fields) ∧ type = expression.type fields := by
  unfold typeOf
  cases hparse : TypeExpression.parse written with
  | error part => simp
  | ok expression =>
    simp only [Except.ok.injEq, exists_and_left, exists_eq_left']
    cases hfields : expression.hasFields with
    | true =>
      rw [if_pos rfl, map_eq_ok_iff]
      constructor
      · rintro ⟨fields, rfl, rfl⟩
        exact ⟨fields, fun _ => rfl, rfl⟩
      · rintro ⟨fields, hnested, rfl⟩
        exact ⟨fields, hnested rfl, rfl⟩
    | false =>
      rw [if_neg Bool.false_ne_true]
      constructor
      · rintro ⟨⟩
        exact ⟨[], fun habsurd => absurd habsurd Bool.false_ne_true, rfl⟩
      · rintro ⟨fields, -, rfl⟩
        rw [type_of_not_hasFields hfields fields []]

theorem roleOf?_eq_ok_iff {owner : String} {name scheme : Option String}
    {role : Option SecurityRole} :
    roleOf? owner name scheme = .ok role ↔ Option.Rel (IsRole scheme) name role := by
  cases name with
  | none =>
    constructor
    · rintro ⟨⟩
      exact .none
    · rintro ⟨⟩
      rfl
  | some name =>
    rw [roleOf?, map_eq_ok_iff]
    constructor
    · rintro ⟨r, hr, rfl⟩
      exact .some (roleOf_eq_ok_iff.1 hr)
    · intro h
      cases h with
      | some h => exact ⟨_, roleOf_eq_ok_iff.2 h, rfl⟩

theorem exists_roleOf?_iff {owner : String} {name scheme : Option String} :
    (∃ role, roleOf? owner name scheme = .ok role) ↔
      ∀ given, name = some given →
        given ∈ roleNames ∧ (given = "apiKey" → scheme.isSome) := by
  simp only [roleOf?_eq_ok_iff, ← exists_isRole_iff]
  cases name with
  | none => exact iff_of_true ⟨none, .none⟩ (by rintro _ ⟨⟩)
  | some name =>
    constructor
    · rintro ⟨_, h⟩ given ⟨⟩
      cases h with
      | some h => exact ⟨_, h⟩
    · intro h
      obtain ⟨role, hrole⟩ := h name rfl
      exact ⟨some role, .some hrole⟩

theorem exists_typeOf_iff {written : String} {nested : Except DesignError (List Attribute)} :
    (∃ type, typeOf written nested = .ok type) ↔
      ∃ expression, TypeExpression.parse written = .ok expression ∧
        (expression.hasFields = true → ∃ fields, nested = .ok fields) := by
  simp only [typeOf_eq_ok_iff]
  constructor
  · rintro ⟨type, expression, fields, hparse, hfields, -⟩
    exact ⟨expression, hparse, fun h => ⟨fields, hfields h⟩⟩
  · rintro ⟨expression, hparse, hfields⟩
    cases hnested : expression.hasFields with
    | true =>
      obtain ⟨fields, hok⟩ := hfields hnested
      exact ⟨_, expression, fields, hparse, fun _ => hok, rfl⟩
    | false =>
      refine ⟨_, expression, [], hparse, fun h => ?_, rfl⟩
      rw [hnested] at h
      cases h

theorem toAttribute_eq_ok_iff {entry : AttributeEntry} {a : Attribute} :
    entry.toAttribute = .ok a ↔
      ∃ type role, typeOf entry.type (toAttributes entry.attributes) = .ok type ∧
        roleOf? entry.name entry.role entry.scheme = .ok role ∧
        ⟨entry.name, type, entry.required, entry.description, entry.example?, role⟩ = a := by
  obtain ⟨name, type, required, description, example?, role, scheme, attributes⟩ := entry
  simp only [toAttribute, bind_eq_ok_iff, pure, Except.pure, Except.ok.injEq, exists_and_left]

theorem toAttributes_cons_eq_ok_iff {entry : AttributeEntry} {entries : List AttributeEntry}
    {l : List Attribute} :
    toAttributes (entry :: entries) = .ok l ↔
      ∃ a as, entry.toAttribute = .ok a ∧ toAttributes entries = .ok as ∧ a :: as = l := by
  simp only [toAttributes, bind_eq_ok_iff, pure, Except.pure, Except.ok.injEq, exists_and_left]

/-! ### The conversion -/

open TypeExpression

mutual

/-- What comes out of an entry says what the entry says. -/
theorem mirrored_of_toAttribute : ∀ {entry : AttributeEntry} {a : Attribute},
    entry.toAttribute = .ok a → entry.MirroredBy a
  | ⟨name, type, required, description, example?, role, scheme, attributes⟩, a, h => by
    obtain ⟨t, r, htype, hrole, rfl⟩ := toAttribute_eq_ok_iff.1 h
    obtain ⟨expression, fields, hparse, hfields, rfl⟩ := typeOf_eq_ok_iff.1 htype
    have hwritten : Derives type.toList expression := parseChars_eq_ok_iff.1 hparse
    exact .intro hwritten
      (fun hnested => mirrored_of_toAttributes (hfields (hasFields_iff.2 hnested)))
      (denotes_type expression fields) (roleOf?_eq_ok_iff.1 hrole)

theorem mirrored_of_toAttributes : ∀ {entries : List AttributeEntry} {l : List Attribute},
    toAttributes entries = .ok l → List.Forall₂ MirroredBy entries l
  | [], l, h => by
    cases h
    exact .nil
  | entry :: entries, l, h => by
    obtain ⟨a, as, ha, has, rfl⟩ := toAttributes_cons_eq_ok_iff.1 h
    exact .cons (mirrored_of_toAttribute ha) (mirrored_of_toAttributes has)

end

mutual

/-- An entry is converted exactly if it can be. -/
theorem exists_toAttribute_iff : ∀ {entry : AttributeEntry},
    (∃ a, entry.toAttribute = .ok a) ↔ entry.Convertible
  | ⟨name, type, required, description, example?, role, scheme, attributes⟩ => by
    constructor
    · rintro ⟨a, h⟩
      obtain ⟨t, r, htype, hrole, -⟩ := toAttribute_eq_ok_iff.1 h
      obtain ⟨expression, hparse, hfields⟩ := exists_typeOf_iff.1 ⟨t, htype⟩
      have hwritten : Derives type.toList expression := parseChars_eq_ok_iff.1 hparse
      exact .intro hwritten
        (fun hnested => exists_toAttributes_iff.1 (hfields (hasFields_iff.2 hnested)))
        (exists_roleOf?_iff.1 ⟨r, hrole⟩)
    · rintro ⟨hwritten, hfields, hrole⟩
      have hparse : parse type = .ok _ := parseChars_eq_ok_iff.2 hwritten
      obtain ⟨t, htype⟩ := exists_typeOf_iff.2 ⟨_, hparse,
        fun hnested => exists_toAttributes_iff.2 (hfields (hasFields_iff.1 hnested))⟩
      obtain ⟨r, hr⟩ := exists_roleOf?_iff.2 hrole
      exact ⟨_, toAttribute_eq_ok_iff.2 ⟨t, r, htype, hr, rfl⟩⟩

theorem exists_toAttributes_iff : ∀ {entries : List AttributeEntry},
    (∃ l, toAttributes entries = .ok l) ↔ ∀ entry ∈ entries, entry.Convertible
  | [] => ⟨fun _ _ h => absurd h List.not_mem_nil, fun _ => ⟨[], rfl⟩⟩
  | entry :: entries => by
    rw [List.forall_mem_cons, ← exists_toAttribute_iff, ← exists_toAttributes_iff]
    constructor
    · rintro ⟨l, h⟩
      obtain ⟨a, as, ha, has, -⟩ := toAttributes_cons_eq_ok_iff.1 h
      exact ⟨⟨a, ha⟩, as, has⟩
    · rintro ⟨⟨a, ha⟩, as, has⟩
      exact ⟨_, toAttributes_cons_eq_ok_iff.2 ⟨a, as, ha, has, rfl⟩⟩

end

end AttributeEntry

end ApiDesign
