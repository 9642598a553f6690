import ApiDesign.Decode.Fault
import ApiDesign.KeyMap

/-!
# Localized values

A localized value carries a default and the variants that translators have supplied for single
locales.

* `Localized.resolve` — the variant for a locale, else the default;
* `Localized.toJson` — the plain default if there is no translation, otherwise an object with one
  key per locale and the key `default`;
* `Localized.ofJson` — reads an object that has a key `default` as such an object and everything
  else as a plain value.
-/

namespace ApiDesign

/-- A value with variants for single locales. -/
structure Localized (α : Type) where
  default : α
  translations : KeyMap α

namespace Localized

variable {α β : Type}

/-- The key under which the default stands among the translations. -/
def defaultKey : String := "default"

/-- A value without translations. -/
def plain (value : α) : Localized α := ⟨value, .empty⟩

/-- The value with one more translation; an earlier one for the locale is replaced. -/
def withTranslation (v : Localized α) (locale : String) (value : α) : Localized α :=
  { v with translations := v.translations.insert locale value }

/-- The variant for a locale: its translation, else the default. -/
def resolve (v : Localized α) (locale : String) : α :=
  (v.translations.get? locale).getD v.default

/-- The locales that have a translation of their own. -/
def locales (v : Localized α) : List String := v.translations.keys

/-- The translations together with the default.  A translation for a locale that is itself called
`default` keeps its place. -/
def withDefault (v : Localized α) : KeyMap α :=
  match v.translations.get? defaultKey with
  | some _ => v.translations
  | none => v.translations.insert defaultKey v.default

/-- The written form: the plain default if there are no translations, otherwise an object. -/
def toJson (write : α → Json) (v : Localized α) : Json :=
  if v.translations.isEmpty then write v.default
  else .obj (v.withDefault.map write).entries

/-- Reads the values of an object with a key `default`, in order. -/
def ofEntries (read : Json → Except Decode.Fault α) (entries : List (String × Json)) :
    Except Decode.Fault (Localized α) := do
  let values ← entries.mapM fun e => do return (e.1, ← read e.2)
  match Entries.lookup defaultKey values with
  | some value => return ⟨value, .ofList (values.filter fun e => e.1 ≠ defaultKey)⟩
  | none => throw (.missingField defaultKey)

/-- Reads a localized value: an object that has a key `default` holds variants by locale, and
anything else is a plain value. -/
def ofJson (read : Json → Except Decode.Fault α) (v : Json) :
    Except Decode.Fault (Localized α) :=
  match v with
  | .obj entries =>
    if (Entries.lookup defaultKey entries).isSome then ofEntries read entries
    else plain <$> read v
  | v => plain <$> read v

theorem resolve_plain (value : α) (locale : String) : (plain value).resolve locale = value := rfl

theorem resolve_withTranslation (v : Localized α) (locale other : String) (value : α) :
    (v.withTranslation locale value).resolve other =
      if other = locale then value else v.resolve other := by
  simp only [resolve, withTranslation, KeyMap.get?_insert]
  split <;> rfl

end Localized

end ApiDesign
