import ApiDesign.Attribute
import ApiDesign.Text.Blank

/-!
# Type expressions

A type expression is a primitive keyword in any letter case, `object`, or `array<…>` around another
expression, with blanks around each.

* `TypeExpression` — the expressions;
* `TypeExpression.parse` — reads an expression, or tells the part that is none;
* `TypeExpression.type` — the type that an expression stands for.
-/

namespace ApiDesign

/-- A type expression. -/
inductive TypeExpression where
  | primitive (type : Primitive)
  /-- An object with the fields that are declared beside the expression. -/
  | object
  | array (element : TypeExpression)
  deriving DecidableEq, Repr, Inhabited

namespace TypeExpression

/-- What stands between `array<` and `>`, if the characters have that form. -/
def element? : List Char → Option (List Char)
  | 'a' :: 'r' :: 'r' :: 'a' :: 'y' :: '<' :: r =>
    if r.getLast? = some '>' then some r.dropLast else none
  | _ => none

theorem length_lt_of_element? {cs r : List Char} (h : element? cs = some r) :
    r.length < cs.length := by
  unfold element? at h
  split at h
  · split at h
    · simp only [Option.some.injEq] at h
      subst h
      simp only [List.length_cons, List.length_dropLast]
      omega
    · simp at h
  · simp at h

/-- Reads an expression; fails with the innermost part that is neither a keyword nor `object` nor an
array, without the blanks around it. -/
def parseChars (cs : List Char) : Except String TypeExpression :=
  let e := Text.trimChars cs
  match h : element? e with
  | some r =>
    have : r.length < cs.length :=
      Nat.lt_of_lt_of_le (length_lt_of_element? h) (Text.length_trimChars_le cs)
    array <$> parseChars r
  | none =>
    let word := String.ofList e
    if word = "object" then .ok .object
    else
      match Primitive.parse? word with
      | some p => .ok (.primitive p)
      | none => .error word
termination_by cs.length

/-- Reads an expression. -/
def parse (s : String) : Except String TypeExpression := parseChars s.toList

/-- The type that an expression stands for, given the fields that are declared beside it. -/
def type (fields : List Attribute) : TypeExpression → AttributeType
  | .primitive p => .primitive p
  | .object => .object fields
  | .array e => .array (e.type fields)

/-- Whether the innermost type is an object. -/
def hasFields : TypeExpression → Bool
  | .primitive _ => false
  | .object => true
  | .array e => e.hasFields

end TypeExpression

end ApiDesign
