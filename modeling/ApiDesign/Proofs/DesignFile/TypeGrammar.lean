import ApiDesign.DesignFile.TypeExpression
import ApiDesign.Proofs.Basics
import ApiDesign.Proofs.Text.Blank

/-!
# The grammar of type expressions

A type expression is a keyword, `object`, or `array<` and `>` around another expression, with any
blanks around each of these.  The reader takes the blanks and the brackets off and goes on with what
is left; the grammar puts them on, and says where a text stops to be an expression.

* `Derives`, `StopsAt` — the grammar, and the innermost part of a text that has no place in it;
* `Denotes` — the types that expressions stand for;
* `derives_or_stopsAt` — every text is an expression or stops somewhere;
* `parseChars_of_derives`, `parseChars_of_stopsAt` — what the reader makes of the two.
-/

namespace ApiDesign

open Text

namespace TypeExpression

/-! ### The grammar -/

/-- The characters of `object`. -/
def objectChars : List Char := ['o', 'b', 'j', 'e', 'c', 't']

/-- The characters of an array expression around those of its element. -/
def arrayChars (element : List Char) : List Char :=
  ['a', 'r', 'r', 'a', 'y', '<'] ++ element ++ ['>']

/-- The word names a primitive type by a keyword, in letters of any case. -/
inductive IsKeyword (word : List Char) : Primitive → Prop where
  | name {p : Primitive} (h : word.map Char.toLower = p.name.toList) : IsKeyword word p
  | bool (h : word.map Char.toLower = ['b', 'o', 'o', 'l']) : IsKeyword word .boolean

/-- The texts of an expression: any blanks may stand around it and around each part of it. -/
inductive Derives : List Char → TypeExpression → Prop where
  | primitive {before word after : List Char} {p : Primitive} (hbefore : Blanks before)
      (h : IsKeyword word p) (hafter : Blanks after) :
    Derives (before ++ word ++ after) (.primitive p)
  | object {before after : List Char} (hbefore : Blanks before) (hafter : Blanks after) :
    Derives (before ++ objectChars ++ after) .object
  | array {before element after : List Char} {e : TypeExpression} (hbefore : Blanks before)
      (h : Derives element e) (hafter : Blanks after) :
    Derives (before ++ arrayChars element ++ after) (.array e)

/-- Neither a keyword nor `object` nor an array of anything, without blanks around it. -/
structure Unknown (part : List Char) : Prop where
  trimmed : Trimmed part
  noKeyword : ∀ p, ¬IsKeyword part p
  noObject : part ≠ objectChars
  noArray : ∀ element, part ≠ arrayChars element

/-- Under blanks and brackets the text comes to a part that is no expression. -/
inductive StopsAt : List Char → List Char → Prop where
  | here {before part after : List Char} (hbefore : Blanks before) (h : Unknown part)
      (hafter : Blanks after) : StopsAt (before ++ part ++ after) part
  | inside {before element after part : List Char} (hbefore : Blanks before)
      (h : StopsAt element part) (hafter : Blanks after) :
    StopsAt (before ++ arrayChars element ++ after) part

/-- The innermost type of the expression is an object. -/
inductive EndsInObject : TypeExpression → Prop where
  | object : EndsInObject .object
  | array {e : TypeExpression} (h : EndsInObject e) : EndsInObject (.array e)

/-- The type that an expression stands for, given the fields that are declared beside it. -/
inductive Denotes (fields : List Attribute) : TypeExpression → AttributeType → Prop where
  | primitive (p : Primitive) : Denotes fields (.primitive p) (.primitive p)
  | object : Denotes fields .object (.object fields)
  | array {e : TypeExpression} {type : AttributeType} (h : Denotes fields e type) :
    Denotes fields (.array e) (.array type)

/-! ### The meaning of an expression -/

theorem hasFields_iff {e : TypeExpression} : e.hasFields = true ↔ e.EndsInObject := by
  constructor
  · intro h
    induction e with
    | primitive p => cases h
    | object => exact .object
    | array e ih => exact .array (ih h)
  · intro h
    induction h with
    | object => rfl
    | array h ih => exact ih

theorem denotes_type (e : TypeExpression) (fields : List Attribute) :
    Denotes fields e (e.type fields) := by
  induction e with
  | primitive p => exact .primitive p
  | object => exact .object
  | array e ih => exact .array ih

/-! ### The parts of an expression -/

variable {cs element word part : List Char} {e : TypeExpression} {p : Primitive}

theorem element?_arrayChars (element : List Char) :
    element? (arrayChars element) = some element := by
  show element? ('a' :: 'r' :: 'r' :: 'a' :: 'y' :: '<' :: (element ++ ['>'])) = some element
  simp [element?]

theorem eq_arrayChars_of_element? (h : element? cs = some element) : cs = arrayChars element := by
  unfold element? at h
  split at h
  · rename_i r
    split at h
    · rename_i hlast
      obtain ⟨inner, rfl⟩ := List.getLast?_eq_some_iff.1 hlast
      rw [List.dropLast_concat, Option.some.injEq] at h
      rw [h]
      rfl
    · cases h
  · cases h

theorem trimmed_arrayChars (element : List Char) : Trimmed (arrayChars element) where
  head := by
    intro c hc
    obtain rfl : 'a' = c := Option.some.inj hc
    decide
  last := by
    intro c hc
    rw [arrayChars, List.getLast?_concat] at hc
    obtain rfl : '>' = c := Option.some.inj hc
    decide

theorem trimmed_objectChars : Trimmed objectChars where
  head := by
    intro c hc
    obtain rfl : 'o' = c := Option.some.inj hc
    decide
  last := by
    intro c hc
    obtain rfl : 't' = c := Option.some.inj hc
    decide

/-! ### Keywords -/

/-- A blank has no case. -/
theorem toLower_of_isBlank {c : Char} (h : isBlank c = true) : c.toLower = c := by
  unfold Char.toLower
  split
  · rename_i hcase
    obtain ⟨hlow, hhigh⟩ := hcase
    have hlow' : 0x41 ≤ c.val.toNat := hlow
    have hhigh' : c.val.toNat ≤ 0x5A := hhigh
    rw [isBlank_of_visible (by omega) (by omega)] at h
    cases h
  · rfl

theorem of_all {cs : List Char} (h : (cs.all fun c => !isBlank c && c != '<') = true) {c : Char}
    (hc : c ∈ cs) : isBlank c = false ∧ c ≠ '<' := by
  simpa using List.all_eq_true.1 h c hc

/-- What a keyword is made of. -/
theorem of_mem_name (p : Primitive) {c : Char} (hc : c ∈ p.name.toList) :
    isBlank c = false ∧ c ≠ '<' :=
  of_all (by cases p <;> rfl) hc

theorem IsKeyword.of_mem (h : IsKeyword word p) {c : Char} (hc : c ∈ word) :
    isBlank c = false ∧ c ≠ '<' := by
  have hlower : isBlank c.toLower = false ∧ c.toLower ≠ '<' := by
    have hmem : c.toLower ∈ word.map Char.toLower := List.mem_map_of_mem hc
    cases h with
    | name h =>
      rw [h] at hmem
      exact of_mem_name p hmem
    | bool h =>
      rw [h] at hmem
      exact of_all rfl hmem
  constructor
  · cases hblank : isBlank c with
    | false => rfl
    | true =>
      rw [toLower_of_isBlank hblank, hblank] at hlower
      exact hlower.1
  · intro heq
    rw [heq] at hlower
    exact hlower.2 rfl

theorem IsKeyword.trimmed (h : IsKeyword word p) : Trimmed word where
  head := fun _ hc => (h.of_mem (List.mem_of_head? hc)).1
  last := fun _ hc => (h.of_mem (List.mem_of_getLast? hc)).1

theorem IsKeyword.ne_arrayChars (h : IsKeyword word p) (element : List Char) :
    word ≠ arrayChars element := by
  intro heq
  have hmem : '<' ∈ word := by
    rw [heq, arrayChars]
    simp
  exact (h.of_mem hmem).2 rfl

theorem IsKeyword.ne_objectChars (h : IsKeyword word p) : word ≠ objectChars := by
  intro heq
  subst heq
  cases h with
  | name h =>
    have hname : ∀ p : Primitive, objectChars.map Char.toLower ≠ p.name.toList := by
      intro p
      cases p <;> decide
    exact hname p h
  | bool h => exact absurd h (by decide)

/-- A word that keeps its letters in lower case is looked for among the keywords. -/
theorem isKeyword_iff_lower {lower : String} (hlower : lower.toList = word.map Char.toLower) :
    IsKeyword word p ↔ lower = p.name ∨ lower = "bool" ∧ p = .boolean := by
  constructor
  · intro h
    cases h with
    | name h => exact .inl (String.ext (hlower.trans h))
    | bool h => exact .inr ⟨String.ext (hlower.trans h), rfl⟩
  · rintro (rfl | ⟨rfl, rfl⟩)
    · exact .name hlower.symm
    · exact .bool hlower.symm

theorem nodup_map_name : (Primitive.all.map Primitive.name).Nodup := by decide

theorem mem_all (p : Primitive) : p ∈ Primitive.all := by
  cases p <;> decide

theorem parse?_eq_some_iff : Primitive.parse? (String.ofList word) = some p ↔ IsKeyword word p := by
  have hlower : (String.ofList word).toLower.toList = word.map Char.toLower := by
    show ((String.ofList word).map Char.toLower).toList = _
    rw [String.toList_map, String.toList_ofList]
  rw [isKeyword_iff_lower hlower, Primitive.parse?, Primitive.ofKeyword?]
  split
  · rename_i hbool
    have hname : "bool" ≠ p.name := by cases p <;> decide
    rw [hbool, Option.some.injEq, eq_comm]
    simp [hname]
  · rename_i hbool
    constructor
    · intro h
      have hname := List.find?_some h
      exact .inl (of_decide_eq_true hname).symm
    · rintro (hname | ⟨h, -⟩)
      · rw [hname]
        exact find?_key_of_mem nodup_map_name (mem_all p)
      · exact absurd h hbool

theorem parse?_eq_none_iff :
    Primitive.parse? (String.ofList word) = none ↔ ∀ p, ¬IsKeyword word p := by
  rw [Option.eq_none_iff_forall_ne_some]
  exact forall_congr' fun p => not_congr parse?_eq_some_iff

/-! ### What the reader makes of each form -/

variable {before after : List Char}

theorem parseChars_arrayChars (hbefore : Blanks before) (hafter : Blanks after) :
    parseChars (before ++ arrayChars element ++ after) = array <$> parseChars element := by
  have htrim := trimChars_append hbefore (trimmed_arrayChars element) hafter
  have helement := element?_arrayChars element
  rw [← htrim] at helement
  rw [parseChars]
  split
  · rename_i r h
    obtain rfl : element = r := Option.some.inj (helement.symm.trans h)
    rfl
  · rename_i h
    rw [helement] at h
    cases h

/-- A part that is no array is read as a word. -/
theorem parseChars_word (hbefore : Blanks before) (htrimmed : Trimmed part)
    (hpart : ∀ element, part ≠ arrayChars element) (hafter : Blanks after) :
    parseChars (before ++ part ++ after) =
      if part = objectChars then .ok .object
      else
        (Primitive.parse? (String.ofList part)).elim (.error (String.ofList part)) fun p =>
          .ok (.primitive p) := by
  have htrim := trimChars_append hbefore htrimmed hafter
  have hobject : String.ofList part = "object" ↔ part = objectChars := by
    rw [← String.toList_inj, String.toList_ofList]
    rfl
  rw [parseChars]
  split
  · rename_i r h
    rw [htrim] at h
    exact absurd (eq_arrayChars_of_element? h) (hpart r)
  · simp only [htrim, hobject]
    by_cases hpartObject : part = objectChars
    · rw [if_pos hpartObject, if_pos hpartObject]
    · rw [if_neg hpartObject, if_neg hpartObject]
      cases Primitive.parse? (String.ofList part) <;> rfl

/-- Expressions are read. -/
theorem parseChars_of_derives (h : Derives cs e) : parseChars cs = .ok e := by
  induction h with
  | primitive hbefore h hafter =>
    rw [parseChars_word hbefore h.trimmed h.ne_arrayChars hafter, if_neg h.ne_objectChars,
      parse?_eq_some_iff.2 h]
    rfl
  | object hbefore hafter =>
    have hobject : ∀ element, objectChars ≠ arrayChars element := by
      intro element h
      exact absurd (List.cons.inj h).1 (by decide)
    rw [parseChars_word hbefore trimmed_objectChars hobject hafter, if_pos rfl]
  | array hbefore h hafter ih =>
    rw [parseChars_arrayChars hbefore hafter, ih]
    rfl

/-- A text that stops is refused for the part at which it does. -/
theorem parseChars_of_stopsAt (h : StopsAt cs part) :
    parseChars cs = .error (String.ofList part) := by
  induction h with
  | here hbefore h hafter =>
    rw [parseChars_word hbefore h.trimmed h.noArray hafter, if_neg h.noObject,
      parse?_eq_none_iff.2 h.noKeyword]
    rfl
  | inside hbefore h hafter ih =>
    rw [parseChars_arrayChars hbefore hafter, ih]
    rfl

/-- Every text is an expression, or it stops at a part. -/
theorem derives_or_stopsAt (cs : List Char) : (∃ e, Derives cs e) ∨ ∃ part, StopsAt cs part := by
  obtain ⟨before, core, after, hbefore, hcore, hafter, rfl⟩ := exists_trimmed cs
  -- What stands between the brackets of an array is shorter than the text.
  by_cases harray : ∃ element, core = arrayChars element
  · obtain ⟨element, rfl⟩ := harray
    rcases derives_or_stopsAt element with ⟨e, h⟩ | ⟨part, h⟩
    · exact .inl ⟨_, .array hbefore h hafter⟩
    · exact .inr ⟨_, .inside hbefore h hafter⟩
  · by_cases hobject : core = objectChars
    · subst hobject
      exact .inl ⟨_, .object hbefore hafter⟩
    · by_cases hkeyword : ∃ p, IsKeyword core p
      · obtain ⟨p, h⟩ := hkeyword
        exact .inl ⟨_, .primitive hbefore h hafter⟩
      · have hunknown : Unknown core :=
          ⟨hcore, not_exists.1 hkeyword, hobject, not_exists.1 harray⟩
        exact .inr ⟨_, .here hbefore hunknown hafter⟩
termination_by cs.length
decreasing_by
  subst_vars
  simp [arrayChars]
  omega

/-- The reader accepts the texts of expressions, each as the expression that it is a text of. -/
theorem parseChars_eq_ok_iff : parseChars cs = .ok e ↔ Derives cs e := by
  constructor
  · intro h
    rcases derives_or_stopsAt cs with ⟨e', he⟩ | ⟨part, hpart⟩
    · rw [parseChars_of_derives he, Except.ok.injEq] at h
      rwa [h] at he
    · rw [parseChars_of_stopsAt hpart] at h
      cases h
  · exact parseChars_of_derives

/-- The reader refuses the other texts for the part at which they stop. -/
theorem parseChars_eq_error_iff {part : String} :
    parseChars cs = .error part ↔ StopsAt cs part.toList := by
  constructor
  · intro h
    rcases derives_or_stopsAt cs with ⟨e, he⟩ | ⟨part', hpart⟩
    · rw [parseChars_of_derives he] at h
      cases h
    · rw [parseChars_of_stopsAt hpart, Except.error.injEq] at h
      rwa [← h, String.toList_ofList]
  · intro h
    rw [parseChars_of_stopsAt h, String.ofList_toList]

/-- An expression without any blanks. -/
def chars : TypeExpression → List Char
  | .primitive p => p.name.toList
  | .object => objectChars
  | .array e => arrayChars e.chars

theorem derives_chars (e : TypeExpression) : Derives e.chars e := by
  induction e with
  | primitive p =>
    have hlower : p.name.toList.map Char.toLower = p.name.toList := by cases p <;> decide
    have h := Derives.primitive .nil (.name hlower) .nil
    rwa [List.nil_append, List.append_nil] at h
  | object => exact .object .nil .nil
  | array e ih =>
    have h := Derives.array .nil ih .nil
    rwa [List.nil_append, List.append_nil] at h

end TypeExpression

end ApiDesign
