import ApiDesign.Proofs.Attribute
import ApiDesign.Proofs.DesignFile.Attributes

/-!
# The types of type expressions

The type of an attribute is written as an expression, and its fields are declared beside it.  The
types of the texts follow the grammar of expressions, and every type can be written.

* `typeOf_eq_ok_iff_derives`, `typeOf_eq_error_iff_stopsAt` — the type of a text, or the part for
  which it is refused;
* `AttributeType.entries` — fields as they are written in a file;
* `type_expressions_follow_grammar` — the types of expressions, the parts that are refused, and the
  way back from a type to its expressions.
-/

namespace ApiDesign

open Text TypeExpression

/-! ### Types of expressions -/

section TypeOf

variable {text part : String} {e : TypeExpression} {nested : Except DesignError (List Attribute)}
  {fields : List Attribute}

/-- Around the primitive type, or the object type of the fields, stand arrays. -/
theorem typeOf_of_derives (hnested : nested = .ok fields) (h : Derives text.toList e) :
    typeOf text nested = .ok (e.type fields) :=
  AttributeEntry.typeOf_eq_ok_iff.2 ⟨e, fields, parseChars_of_derives h, fun _ => hnested, rfl⟩

theorem typeOf_of_stopsAt (h : StopsAt text.toList part.toList) :
    typeOf text nested = .error (.unknownType part) := by
  have hparse : parse text = .error part := parseChars_eq_error_iff.2 h
  rw [typeOf, hparse]

theorem typeOf_eq_ok_iff_derives (hnested : nested = .ok fields) {type : AttributeType} :
    typeOf text nested = .ok type ↔ ∃ e, Derives text.toList e ∧ type = e.type fields := by
  constructor
  · intro h
    obtain ⟨e, others, hparse, hothers, rfl⟩ := AttributeEntry.typeOf_eq_ok_iff.1 h
    have hderives : Derives text.toList e := parseChars_eq_ok_iff.1 hparse
    rw [typeOf_of_derives hnested hderives, Except.ok.injEq] at h
    exact ⟨e, hderives, h.symm⟩
  · intro h
    obtain ⟨e, hderives, rfl⟩ := h
    exact typeOf_of_derives hnested hderives

theorem typeOf_eq_error_iff_stopsAt (hnested : nested = .ok fields) {error : DesignError} :
    typeOf text nested = .error error ↔
      ∃ part : String, StopsAt text.toList part.toList ∧ error = .unknownType part := by
  constructor
  · intro h
    rcases derives_or_stopsAt text.toList with ⟨e, he⟩ | ⟨part, hpart⟩
    · rw [typeOf_of_derives hnested he] at h
      cases h
    · rw [← String.toList_ofList (l := part)] at hpart
      rw [typeOf_of_stopsAt hpart, Except.error.injEq] at h
      exact ⟨_, hpart, h.symm⟩
  · intro h
    obtain ⟨part, hpart, rfl⟩ := h
    exact typeOf_of_stopsAt hpart

end TypeOf

/-! ### Types as they are written -/

namespace AttributeType

/-- The expression of a type. -/
def expression : AttributeType → TypeExpression
  | .primitive p => .primitive p
  | .array element => .array element.expression
  | .object _ => .object

/-- The fields that are declared beside the expression of a type. -/
def fields : AttributeType → List Attribute
  | .primitive _ => []
  | .array element => element.fields
  | .object fields => fields

theorem type_expression (type : AttributeType) : type.expression.type type.fields = type := by
  induction type using AttributeType.induction with
  | primitive p => rfl
  | array element ih => exact congrArg array ih
  | object fields ih => rfl

end AttributeType

namespace SecurityRole

/-- The name of a role. -/
def word : SecurityRole → String
  | .username => "username"
  | .password => "password"
  | .apiKey _ => "apiKey"
  | .accessToken => "accessToken"
  | .token => "token"

/-- The scheme that is given beside the name of a role. -/
def scheme? : SecurityRole → Option String
  | .apiKey scheme => some scheme
  | _ => none

theorem isRole_word (role : SecurityRole) : IsRole role.scheme? role.word role := by
  cases role with
  | username => exact .username
  | password => exact .password
  | apiKey scheme => exact .apiKey rfl
  | accessToken => exact .accessToken
  | token => exact .token

end SecurityRole

mutual

/-- The fields of a type as they are written. -/
def AttributeType.entries : AttributeType → List AttributeEntry
  | .primitive _ => []
  | .array element => element.entries
  | .object fields => Attribute.entriesOf fields

/-- Attributes as they are written, their types without any blanks. -/
def Attribute.entriesOf : List Attribute → List AttributeEntry
  | [] => []
  | ⟨name, type, required, description, example?, role⟩ :: r =>
    ⟨name, String.ofList type.expression.chars, required, description, example?,
      role.map SecurityRole.word, role.bind SecurityRole.scheme?, type.entries⟩ ::
        Attribute.entriesOf r

end

/-- What is written for attributes is converted to these attributes, if that holds of the fields of
their types. -/
theorem Attribute.toAttributes_entriesOf {as : List Attribute}
    (h : ∀ a ∈ as, AttributeEntry.toAttributes a.type.entries = .ok a.type.fields) :
    AttributeEntry.toAttributes (entriesOf as) = .ok as := by
  induction as with
  | nil => rfl
  | cons a as ih =>
    obtain ⟨name, type, required, description, example?, role⟩ := a
    rw [List.forall_mem_cons] at h
    have hchars : Derives (String.ofList type.expression.chars).toList type.expression := by
      rw [String.toList_ofList]
      exact derives_chars type.expression
    have htype := typeOf_of_derives h.1 hchars
    rw [AttributeType.type_expression] at htype
    have hrole : roleOf? name (role.map SecurityRole.word) (role.bind SecurityRole.scheme?) =
        .ok role := by
      rw [AttributeEntry.roleOf?_eq_ok_iff]
      cases role with
      | none => exact .none
      | some role => exact .some role.isRole_word
    exact AttributeEntry.toAttributes_cons_eq_ok_iff.2 ⟨_, as,
      AttributeEntry.toAttribute_eq_ok_iff.2 ⟨type, role, htype, hrole, rfl⟩, ih h.2, rfl⟩

/-- What is written for the fields of a type is converted to these fields. -/
theorem AttributeType.toAttributes_entries (type : AttributeType) :
    AttributeEntry.toAttributes type.entries = .ok type.fields := by
  induction type using AttributeType.induction with
  | primitive p => rfl
  | array element ih => exact ih
  | object fields ih => exact Attribute.toAttributes_entriesOf ih

/-- **Type expressions follow the grammar.**  Beside nested attributes that can be converted, a text
has a type exactly if it is an expression: the primitive type, or the object type of the converted
attributes, with the arrays of the expression around it.  Any other text is refused for the part at
which it stops.  Every type comes back from each text of its expression, whatever blanks stand in it,
beside what is written for its fields. -/
theorem type_expressions_follow_grammar {entries : List AttributeEntry} {fields : List Attribute}
    (h : AttributeEntry.toAttributes entries = .ok fields) (text : String) :
    (∀ type, typeOf text (AttributeEntry.toAttributes entries) = .ok type ↔
      ∃ e, Derives text.toList e ∧ type = e.type fields) ∧
    (∀ error, typeOf text (AttributeEntry.toAttributes entries) = .error error ↔
      ∃ part : String, StopsAt text.toList part.toList ∧ error = .unknownType part) ∧
    ∀ type : AttributeType, Derives text.toList type.expression →
      typeOf text (AttributeEntry.toAttributes type.entries) = .ok type := by
  refine ⟨fun _ => typeOf_eq_ok_iff_derives h, fun _ => typeOf_eq_error_iff_stopsAt h, ?_⟩
  intro type htext
  rw [typeOf_of_derives type.toAttributes_entries htext, type.type_expression]

/-- A list of records, with blanks in its expression and an odd case in that of the field. -/
theorem records_follow_grammar :
    AttributeEntry.toAttributes
        [⟨"id", "\tInt64", true, none, none, none, none, []⟩] =
      .ok [⟨"id", .primitive .int64, true, none, none, none⟩] ∧
    typeOf " array< object >" (AttributeEntry.toAttributes
        [⟨"id", "\tInt64", true, none, none, none, none, []⟩]) =
      .ok (.array (.object [⟨"id", .primitive .int64, true, none, none, none⟩])) := by
  have hblank : Blanks [' '] := .singleton rfl
  have htab : Blanks ['\t'] := .singleton rfl
  have hword : IsKeyword ['I', 'n', 't', '6', '4'] .int64 := .name (by decide)
  have hfield : Derives "\tInt64".toList (.primitive .int64) := .primitive htab hword .nil
  have hlist : Derives " array< object >".toList (.array .object) :=
    .array hblank (.object hblank hblank) .nil
  have hid : AttributeEntry.toAttributes
      [⟨"id", "\tInt64", true, none, none, none, none, []⟩] =
        .ok [⟨"id", .primitive .int64, true, none, none, none⟩] :=
    AttributeEntry.toAttributes_cons_eq_ok_iff.2 ⟨_, [],
      AttributeEntry.toAttribute_eq_ok_iff.2 ⟨_, none, typeOf_of_derives rfl hfield, rfl, rfl⟩,
        rfl, rfl⟩
  exact ⟨hid, ((type_expressions_follow_grammar hid " array< object >").1 _).2 ⟨_, hlist, rfl⟩⟩

end ApiDesign
