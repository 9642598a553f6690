import ApiDesign.Json.Model
import ApiDesign.Manifest
import ApiDesign.Proofs.DesignFile.LocalizedValues
import ApiDesign.Proofs.Json.Records

/-!
# Model values and their JSON

The records and names of a design are read back from the JSON that they are written as, whichever of
their fields are there.  Only localized texts set a condition: a translation under the reserved key
would be taken for the default.

* `Json.Reader.Written.needed`, `Json.Reader.Written.text?` and so on — how a field is written and
  read back, by its kind;
* `Json.Reader.record_host_iff`, `Json.Reader.record_server_iff` — the records with localized texts;
* `model_values_read_back` — all the records and names.
-/

namespace ApiDesign

open Decode

namespace Json.Reader

variable {α β : Type} {name : String} {read : Reader β} {set : β → α → α} {value : Json} {v : β}
  {a b : α} {fields : List (Field Reader α)} {entries : List (String × Json)}
  {all : List (String × Option Json)}

/-! ### Fields -/

theorem read_field (h : read value = .ok v) :
    (set <$> read : Reader (α → α)) value = .ok (set v) := by
  show set <$> read value = _
  rw [h]
  rfl

theorem Written.needed (hread : read value = .ok v) (h : Written fields entries (set v a) b) :
    Written (.needed name read set :: fields) ((name, value) :: entries) a b :=
  Written.entry (read_field hread) h

theorem Written.optional (hread : read value = .ok v) (h : Written fields entries (set v a) b) :
    Written (.optional name read set :: fields) ((name, value) :: entries) a b :=
  Written.entry (read_field hread) h

theorem option_ofText? (expected : String) (s : Option String) :
    (Source.option (Source.wording expected) : Reader (Option String)) (.ofText? s) = .ok s := by
  cases s <;> rfl

theorem list_texts (items : List String) :
    (Source.list Source.text : Reader (List String)) (.texts items) = .ok items :=
  list_map_eq_ok_iff.2 fun _ _ => rfl

/-- The entries of an object of which some values may be left out. -/
def present (all : List (String × Option Json)) : List (String × Json) :=
  all.filterMap fun f => f.2.map fun v => (f.1, v)

theorem Written.needed_some (hread : read value = .ok v)
    (h : Written fields (present all) (set v a) b) :
    Written (.needed name read set :: fields) (present ((name, some value) :: all)) a b :=
  .needed hread h

/-- A text that is left out if it is absent. -/
theorem Written.text? {expected : String} {set : Option String → α → α} {s : Option String}
    (hnone : set none a = a)
    (h : Written fields (present all) (set s a) b) :
    Written (.optional name (Source.option (Source.wording expected)) set :: fields)
      (present ((name, s.map .str) :: all)) a b := by
  cases s with
  | none =>
    rw [hnone] at h
    exact .leftOut rfl h
  | some s => exact .optional (option_ofText? expected (some s)) h

/-- A list of texts that is left out if it is empty. -/
theorem Written.texts? {set : List String → α → α} {items : List String} (hnil : set [] a = a)
    (h : Written fields (present all) (set items a) b) :
    Written (.optional name (Source.list Source.text) set :: fields)
      (present ((name, if items.isEmpty then none else some (.texts items)) :: all)) a b := by
  cases items with
  | nil =>
    rw [hnil] at h
    exact .leftOut rfl h
  | cons s items => exact .optional (list_texts (s :: items)) h

/-- An optional localized text is read back exactly if no translation is stored under the reserved
key. -/
theorem option_ofLocalized?_iff {s : Option (Localized String)} :
    (Source.option Source.localizedText : Reader (Option (Localized String))) (.ofLocalized? s) =
      .ok s ↔ ∀ v ∈ s, Localized.defaultKey ∉ v.locales := by
  cases s with
  | none => exact iff_of_true rfl fun _ hv => by cases hv
  | some v =>
    -- A localized text is never written as null.
    have hread : (Source.option Source.localizedText : Reader (Option (Localized String)))
        (v.toJson .str) = some <$> Localized.ofJson Json.readText (v.toJson .str) := by
      rw [Localized.toJson]
      split <;> rfl
    show (Source.option Source.localizedText : Reader (Option (Localized String))) (v.toJson .str) =
      _ ↔ _
    rw [hread, map_eq_ok_iff]
    simp only [Option.some.injEq, exists_eq_right, Option.mem_def, forall_eq']
    exact Localized.text_roundTrips_iff

/-! ### Names -/

theorem primitive_name (p : Primitive) : (primitive : Reader Primitive) (.str p.name) = .ok p :=
  choice_name (by decide) (by cases p <;> decide)

theorem verb_name (v : Verb) : (verb : Reader Verb) (.str v.name) = .ok v :=
  choice_name (by decide) (by cases v <;> decide)

theorem schemeKind_name (k : SchemeKind) : (schemeKind : Reader SchemeKind) (.str k.name) = .ok k :=
  choice_name (by decide) (by cases k <;> decide)

theorem flowKind_name (k : FlowKind) : (flowKind : Reader FlowKind) (.str k.name) = .ok k :=
  choice_name (by decide) (by cases k <;> decide)

/-- A role is read back, with its scheme if it names one. -/
theorem role_toJson (r : SecurityRole) : SecurityRole.ofJson r.toJson = .ok r := by
  cases r <;> rfl

/-! ### Records -/

theorem record_contact (c : Contact) : record contact c.toJson = .ok c :=
  record_of_written (by decide) <| .optional (option_ofText? _ c.name) <|
    .optional (option_ofText? _ c.url) <| .optional (option_ofText? _ c.email) <| .nil _

theorem record_license (l : License) : record license l.toJson = .ok l :=
  record_of_written (by decide) <| .optional (option_ofText? _ l.name) <|
    .optional (option_ofText? _ l.url) <| .nil _

theorem record_flow (f : Flow) : record flow f.toJson = .ok f :=
  record_of_written (by decide) <| .needed_some (flowKind_name f.kind) <| .text? rfl <|
    .text? rfl <| .text? rfl <| .nil _

theorem record_scope (s : Scope) : record scope s.toJson = .ok s :=
  record_of_written (by decide) <| .needed rfl <| .needed rfl <| .nil _

theorem record_requirement (type : String) (strict : Bool) (r : Requirement) :
    record (requirement type strict) r.toJson = .ok r :=
  record_of_written (show ["schemes", "scopes"].Nodup by decide) <|
    .needed_some (list_texts r.schemes) <| .texts? rfl <| .nil _

theorem record_route (type : String) (strict : Bool) (r : Route) :
    record (route type strict) r.toJson = .ok r :=
  record_of_written (show ["verb", "path"].Nodup by decide) <|
    .needed (verb_name r.verb) <| .needed rfl <| .nil _

theorem record_manifest (m : Manifest) : record Manifest.format m.toJson = .ok m :=
  record_of_written (by decide) <| .texts? rfl <| .text? rfl <| .nil _

/-- A host is read back exactly if its description is. -/
theorem record_host_iff {h : Host} :
    record host h.toJson = .ok h ↔ ∀ v ∈ h.description, Localized.defaultKey ∉ v.locales := by
  constructor
  · have hyields : Promises.Yields (R := Reader) (Source.record host)
        fun h => ∀ v ∈ h.description, Localized.defaultKey ∉ v.locales :=
      yields_host fun _ _ => Localized.default_not_mem_locales
    exact hyields _ h
  · intro hdescription
    exact record_of_written (by decide) <| .needed rfl <|
      .optional (option_ofLocalized?_iff.2 hdescription) <| .optional (list_texts h.uris) <| .nil _

/-- A server is read back exactly if its description and those of its hosts are. -/
theorem record_server_iff {s : Server} :
    record server s.toJson = .ok s ↔ s.EveryText (Localized.defaultKey ∉ ·.locales) := by
  constructor
  · have hyields : Promises.Yields (R := Reader) (Source.record server)
        fun s => s.EveryText (Localized.defaultKey ∉ ·.locales) :=
      yields_server fun _ _ => Localized.default_not_mem_locales
    exact hyields _ s
  · intro ⟨hdescription, hhosts⟩
    have hread : (Source.list (Source.record host) : Reader (List Host))
        (.arr (s.hosts.map Host.toJson)) = .ok s.hosts :=
      list_map_eq_ok_iff.2 fun h hh => record_host_iff.2 (hhosts h hh)
    exact record_of_written (by decide) <| .needed rfl <|
      .optional (option_ofLocalized?_iff.2 hdescription) <| .optional hread <| .nil _

end Json.Reader

open Json (Reader)
open Json.Reader

/-- **The values of the model are read back.**  Every contact, licence, host, server, primitive type,
role, verb, kind of scheme, grant, flow, scope, requirement, route and manifest is read back from the
JSON that it is written as, provided that no description of a host or a server has a translation under
the reserved key. -/
theorem model_values_read_back :
    (∀ c : Contact, record contact c.toJson = .ok c) ∧
    (∀ l : License, record license l.toJson = .ok l) ∧
    (∀ h : Host, record host h.toJson = .ok h ↔ ∀ v ∈ h.description, "default" ∉ v.locales) ∧
    (∀ s : Server, record server s.toJson = .ok s ↔ s.EveryText ("default" ∉ ·.locales)) ∧
    (∀ p : Primitive, (primitive : Reader Primitive) (.str p.name) = .ok p) ∧
    (∀ r : SecurityRole, SecurityRole.ofJson r.toJson = .ok r) ∧
    (∀ v : Verb, (verb : Reader Verb) (.str v.name) = .ok v) ∧
    (∀ k : SchemeKind, (schemeKind : Reader SchemeKind) (.str k.name) = .ok k) ∧
    (∀ k : FlowKind, (flowKind : Reader FlowKind) (.str k.name) = .ok k) ∧
    (∀ f : Flow, record flow f.toJson = .ok f) ∧
    (∀ s : Scope, record scope s.toJson = .ok s) ∧
    (∀ r : Requirement, record (requirement "Requirement" false) r.toJson = .ok r) ∧
    (∀ r : Route, record (route "Route" false) r.toJson = .ok r) ∧
    ∀ m : Manifest, record Manifest.format m.toJson = .ok m :=
  ⟨record_contact, record_license, fun _ => record_host_iff, fun _ => record_server_iff,
    primitive_name, role_toJson, verb_name, schemeKind_name, flowKind_name, record_flow,
    record_scope, record_requirement _ _, record_route _ _, record_manifest⟩

/-- A server with a Dutch description, whose only host has none and no addresses. -/
theorem translated_server_read_back :
    let s : Server := ⟨"main", some ((Localized.plain "all requests").withTranslation "nl" "alles"),
      [⟨"local", none, []⟩]⟩
    s.EveryText ("default" ∉ ·.locales) ∧ record server s.toJson = .ok s := by
  intro s
  have htexts : s.EveryText ("default" ∉ ·.locales) := by
    refine ⟨fun v hv => ?_, fun h hh v hv => ?_⟩
    · obtain rfl := Option.some.inj hv
      decide
    · obtain rfl := List.mem_singleton.1 hh
      cases hv
  exact ⟨htexts, (model_values_read_back.2.2.2.1 s).2 htexts⟩

end ApiDesign
