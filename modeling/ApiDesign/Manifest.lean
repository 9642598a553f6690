import ApiDesign.Files.Path
import ApiDesign.Json.Reader
import ApiDesign.Locale
import ApiDesign.Yaml.Printer
import ApiDesign.Yaml.Reader

/-!
# Project manifests

A manifest names the locales of a project and the directory that documents are written to.

* `Manifest.parse` — reads a manifest; a blank text is the empty manifest;
* `Manifest.outputDir` — the directory, seen from the place of the manifest;
* `resolveLocales` — an explicit list wins over the manifest.
-/

namespace ApiDesign

/-- A project manifest. -/
structure Manifest where
  /-- The codes of the locales, the main one first. -/
  locales : List String
  /-- The directory that documents are written to. -/
  output : Option String
  deriving DecidableEq, Repr, Inhabited

namespace Manifest

open Decode Source

/-- The manifest that says nothing. -/
def empty : Manifest := ⟨[], none⟩

/-- The format of manifests. -/
def format {R : Type → Type} [Source R] : RecordFormat R Manifest where
  type := "ProjectManifest"
  strict := true
  initial := empty
  fields := [
    .optional "locales" (list text) fun v m => { m with locales := v },
    .optional "output" (option path) fun v m => { m with output := v }]

/-- Reads a manifest; the path of its file only shows in messages. -/
def parse (text path : String) : Except ConfigError Manifest :=
  if (Text.trim text).isEmpty then .ok empty
  else
    match Yaml.readText (record format) text with
    | .ok manifest => .ok manifest
    | .error e => .error (.manifest ("failed to parse " ++ path ++ ": " ++ e.message))

/-- A manifest as JSON; what it does not say is left out. -/
def toJson (m : Manifest) : Json :=
  .record [("locales", if m.locales.isEmpty then none else some (.texts m.locales)),
    ("output", m.output.map .str)]

/-- A manifest as a document. -/
def toYaml (m : Manifest) : String := Yaml.print m.toJson

/-- The directory that documents are written to, seen from a base. -/
def outputDir (m : Manifest) (base : String) : Option String := m.output.map (FilePath.join base)

end Manifest

/-- The locales of a run: an explicit list, else those of the manifest. -/
def resolveLocales (explicit : Option String) (manifest : Option Manifest) :
    Except ConfigError LocaleSet :=
  match explicit, manifest with
  | some list, _ => LocaleSet.parse list
  | none, some manifest => LocaleSet.ofCodes manifest.locales
  | none, none => .error .missingLocales

end ApiDesign
