import ApiDesign.DesignFile.Evaluation
import ApiDesign.Proofs.Decode.Refusals

/-!
# Keys of design files

Which keys a design file may have at which place, and what becomes of a file that has others.  They
are refused at every depth, except in five kinds of mappings, where they are passed over: contacts,
licences, servers, hosts, and the mappings that hold the attributes of a payload.

* `DesignFile.sections` — the keys of the format;
* `DesignFile.refuses_designFile` — no file is read that has another key where others are refused;
* `Decode.RecordFormat.Overlooks` — a record is read as if other keys were not there;
* `DesignFile.lenient_records_overlook_keys`, `DesignFile.unknown_keys_refused` — what becomes of
  keys that are not defined.
-/

namespace ApiDesign

open Decode

/-! ### Keys that are passed over -/

namespace Yaml

variable {α : Type}

/-- Of the entries of a lenient record, those of other keys do not matter. -/
theorem Reader.fill_overlooks {r : RecordFormat Reader α} {p : Place}
    {before after : List (Tree × Tree)} {key : Scalar} {value : Tree}
    (hlenient : r.strict = false) (hkey : key.text ∉ r.names) (f : Filling α) :
    fill r p f (before ++ (.scalar key, value) :: after) = fill r p f (before ++ after) := by
  induction before generalizing f with
  | nil =>
    have hread : wording "field identifier" p (.scalar key) = pure key.text := rfl
    rw [List.nil_append, List.nil_append, fill, hread, pure_bind,
      RecordFormat.select_of_lenient hlenient hkey]
    rfl
  | cons e before ih =>
    rw [List.cons_append, List.cons_append, fill, fill]
    refine bind_congr fun name => bind_congr fun selected => ?_
    cases selected with
    | ignored => exact ih f
    | field field =>
      show (if f.names.contains name then _ else _) = if f.names.contains name then _ else _
      split
      · rfl
      · exact bind_congr fun change => ih _

theorem Matcher.fill_overlooks {r : RecordFormat Matcher α} {before after : List (Value × Value)}
    {name : String} {v : Value} (hlenient : r.strict = false) (hname : name ∉ r.names)
    (f : Filling α) :
    fill r f (before ++ (.text name, v) :: after) = fill r f (before ++ after) := by
  induction before generalizing f with
  | nil =>
    rw [List.nil_append, List.nil_append, fill, select,
      RecordFormat.select_of_lenient hlenient hname]
    rfl
  | cons e before ih =>
    rw [List.cons_append, List.cons_append, fill, fill]
    refine bind_congr fun selected => ?_
    cases selected with
    | ignored => exact ih f
    | field field =>
      show (if f.names.contains field.name then _ else _) =
        if f.names.contains field.name then _ else _
      split
      · rfl
      · exact bind_congr fun change => ih _

end Yaml

/-- A record is read as if keys that are not its own were not there. -/
def Decode.RecordFormat.Overlooks {α : Type} (r : RecordFormat Yaml.Reader α) : Prop :=
  ∀ p tag before after (key : Yaml.Scalar) value, key.text ∉ r.names →
    Yaml.Reader.record r p (.mapping tag (before ++ (.scalar key, value) :: after)) =
      Yaml.Reader.record r p (.mapping tag (before ++ after))

theorem Decode.RecordFormat.overlooks {α : Type} {r : RecordFormat Yaml.Reader α}
    (hlenient : r.strict = false) : r.Overlooks := by
  intro p tag before after key value hkey
  refine congrArg p.locate (bind_congr fun p' => ?_)
  rw [Yaml.Reader.recordFrom, Yaml.Reader.recordFrom, Yaml.Reader.fill_overlooks hlenient hkey]

namespace DesignFile

open Yaml (Content KeyTable Anchors)
open Refusals

/-! ### The keys of the format -/

/-- The kinds of mappings of a design file. -/
inductive Section where
  | file | api | contact | license | server | host | scheme | scope | flow | type
  /-- An attribute, in a payload or in a type. -/
  | attribute (inPayload : Bool)
  | service | method | payload | route | requirement

/-- The keys of a design file.  In payloads, whose types are settled first, keys may be numbers. -/
def sections : KeyTable Section where
  entries
    | .file => [("api", .record .api), ("schemes", .list (.record .scheme)),
        ("types", .list (.record .type)), ("services", .list (.record .service))]
    | .api => [("name", .text), ("title", .free), ("description", .free), ("termsOfService", .text),
        ("contact", .record .contact), ("license", .record .license), ("version", .text),
        ("servers", .list (.record .server)), ("security", .list (.record .requirement))]
    | .contact => [("name", .text), ("url", .text), ("email", .text)]
    | .license => [("name", .text), ("url", .text)]
    | .server => [("name", .text), ("description", .free), ("hosts", .list (.record .host))]
    | .host => [("name", .text), ("description", .free), ("uris", .list .text)]
    | .scheme => [("kind", .text), ("name", .text), ("description", .free),
        ("scopes", .list (.record .scope)), ("flows", .list (.record .flow))]
    | .scope => [("name", .text), ("description", .text)]
    | .flow => [("kind", .text), ("authorizationUrl", .text), ("tokenUrl", .text),
        ("refreshUrl", .text)]
    | .type => [("name", .text), ("attributes", .list (.record (.attribute false)))]
    | .attribute inPayload => [("name", .text), ("type", .text), ("required", .text),
        ("description", .free), ("example", .free), ("role", .text), ("scheme", .text),
        ("attributes", .list (.record (.attribute inPayload)))]
    | .service => [("name", .text), ("description", .free),
        ("security", .list (.record .requirement)), ("methods", .list (.record .method))]
    | .method => [("name", .text), ("description", .free), ("payload", .record .payload),
        ("result", .record .payload), ("security", .list (.record .requirement)),
        ("noSecurity", .text), ("routes", .list (.record .route))]
    | .payload => [("attributes", .list (.record (.attribute true)))]
    | .route => [("verb", .text), ("path", .text)]
    | .requirement => [("schemes", .list .text), ("scopes", .list .text)]
  strict
    | .contact | .license | .server | .host | .payload => false
    | _ => true
  settled
    | .payload => true
    | .attribute inPayload => inPayload
    | _ => false

/-! ### What the formats refuse -/

variable {anchors : Anchors}

theorem matches_of {R : Type → Type} {α : Type} {r : RecordFormat R α} {kind : Section}
    {Q : R (α → α) → Content Section → Prop} (hstrict : r.strict = sections.strict kind)
    (hfields : List.Forall₂ (fun f e => f.name = e.1 ∧ Q f.read e.2) r.fields
      (sections.entries kind)) : r.Matches sections kind Q :=
  ⟨hstrict, _, List.prefix_rfl, fun _ => rfl, hfields⟩

section Records

variable {R : Type → Type} [Source R] [Refusals R]

theorem refuses_text : Refuses (R := R) sections anchors Source.text .text := wording _

theorem refuses_text? : Refuses (R := R) sections anchors (Source.option Source.text) .text :=
  Refusals.option refuses_text

/-- Attributes, by the number of attributes that may be nested in each other. -/
theorem refuses_attribute (depth : Nat) :
    Refuses (R := R) sections anchors (Source.record (AttributeEntry.format depth))
      (.record (.attribute (settled R))) := by
  induction depth with
  | zero =>
    -- No attribute can be nested any deeper: no key is known, and all of them are refused.
    exact Refusals.record rfl ⟨rfl, [], List.nil_prefix, nofun, .nil⟩
  | succ depth ih =>
    refine Refusals.record rfl (matches_of rfl ?_)
    exact .cons ⟨rfl, map _ refuses_text⟩ <| .cons ⟨rfl, map _ refuses_text⟩ <|
      .cons ⟨rfl, map _ flag⟩ <| .cons ⟨rfl, free _⟩ <| .cons ⟨rfl, free _⟩ <|
      .cons ⟨rfl, map _ refuses_text?⟩ <| .cons ⟨rfl, map _ refuses_text?⟩ <|
      .cons ⟨rfl, map _ (Refusals.list ih)⟩ .nil

/-- The attributes of a type, or of a payload, depending on the reader. -/
theorem refuses_attributes :
    Refuses (R := R) sections anchors AttributeEntry.reader
      (.list (.record (.attribute (settled R)))) :=
  Refusals.list (refuses_attribute Yaml.maxDepth)

end Records

/-- A reader of trees refuses the keys that are not defined for what it reads. -/
abbrev Refuses {α : Type} (anchors : Anchors) (read : Yaml.Reader α) (c : Content Section) : Prop :=
  Refusals.Refuses sections anchors read c

theorem refuses_contact : Refuses anchors (Source.record contact) (.record .contact) :=
  Refusals.record rfl <| matches_of rfl <| .cons ⟨rfl, map _ refuses_text?⟩ <|
    .cons ⟨rfl, map _ refuses_text?⟩ <| .cons ⟨rfl, map _ refuses_text?⟩ .nil

theorem refuses_license : Refuses anchors (Source.record license) (.record .license) :=
  Refusals.record rfl <| matches_of rfl <| .cons ⟨rfl, map _ refuses_text?⟩ <|
    .cons ⟨rfl, map _ refuses_text?⟩ .nil

theorem refuses_host : Refuses anchors (Source.record host) (.record .host) :=
  Refusals.record rfl <| matches_of rfl <| .cons ⟨rfl, map _ refuses_text⟩ <|
    .cons ⟨rfl, free _⟩ <| .cons ⟨rfl, map _ (Refusals.list refuses_text)⟩ .nil

theorem refuses_server : Refuses anchors (Source.record server) (.record .server) :=
  Refusals.record rfl <| matches_of rfl <| .cons ⟨rfl, map _ refuses_text⟩ <|
    .cons ⟨rfl, free _⟩ <| .cons ⟨rfl, map _ (Refusals.list refuses_host)⟩ .nil

theorem refuses_requirement :
    Refuses anchors (Source.list (Source.record requirementEntry)) (.list (.record .requirement)) :=
  Refusals.list <| Refusals.record rfl <| matches_of rfl <|
    .cons ⟨rfl, map _ (Refusals.list refuses_text)⟩ <|
    .cons ⟨rfl, map _ (Refusals.list refuses_text)⟩ .nil

theorem refuses_route : Refuses anchors (Source.record routeEntry) (.record .route) :=
  Refusals.record rfl <| matches_of rfl <| .cons ⟨rfl, map _ (choice _)⟩ <|
    .cons ⟨rfl, map _ refuses_text⟩ .nil

theorem refuses_api : Refuses anchors (Source.record ApiEntry.format) (.record .api) :=
  Refusals.record rfl <| matches_of rfl <| .cons ⟨rfl, map _ refuses_text⟩ <|
    .cons ⟨rfl, free _⟩ <| .cons ⟨rfl, free _⟩ <| .cons ⟨rfl, map _ refuses_text?⟩ <|
    .cons ⟨rfl, map _ (Refusals.option refuses_contact)⟩ <|
    .cons ⟨rfl, map _ (Refusals.option refuses_license)⟩ <| .cons ⟨rfl, map _ refuses_text?⟩ <|
    .cons ⟨rfl, map _ (Refusals.list refuses_server)⟩ <| .cons ⟨rfl, map _ refuses_requirement⟩ .nil

theorem refuses_scope : Refuses anchors (Source.record ScopeEntry.format) (.record .scope) :=
  Refusals.record rfl <| matches_of rfl <| .cons ⟨rfl, map _ refuses_text⟩ <|
    .cons ⟨rfl, map _ refuses_text?⟩ .nil

theorem refuses_flow : Refuses anchors (Source.record FlowEntry.format) (.record .flow) :=
  Refusals.record rfl <| matches_of rfl <| .cons ⟨rfl, map _ (choice _)⟩ <|
    .cons ⟨rfl, map _ refuses_text⟩ <| .cons ⟨rfl, map _ refuses_text⟩ <|
    .cons ⟨rfl, map _ refuses_text⟩ .nil

theorem refuses_scheme : Refuses anchors (Source.record SchemeEntry.format) (.record .scheme) :=
  Refusals.record rfl <| matches_of rfl <| .cons ⟨rfl, map _ (choice _)⟩ <|
    .cons ⟨rfl, map _ refuses_text⟩ <| .cons ⟨rfl, free _⟩ <|
    .cons ⟨rfl, map _ (Refusals.list refuses_scope)⟩ <|
    .cons ⟨rfl, map _ (Refusals.list refuses_flow)⟩ .nil

theorem refuses_type : Refuses anchors (Source.record TypeEntry.format) (.record .type) :=
  Refusals.record rfl <| matches_of rfl <| .cons ⟨rfl, map _ refuses_text⟩ <|
    .cons ⟨rfl, map _ refuses_attributes⟩ .nil

/-- In the mapping of a payload other keys are passed over, but not in the attributes under its own
key. -/
theorem refuses_payload : Refuses anchors PayloadEntry.reader (.record .payload) := by
  have hinline : Yaml.Matcher.Refuses sections anchors
      (Yaml.Matcher.record PayloadEntry.inlineFormat) (.record .payload) :=
    Refusals.record (R := Yaml.Matcher) rfl <| matches_of rfl <|
      .cons ⟨rfl, map _ refuses_attributes⟩ .nil
  intro n hn p
  refine Yaml.Reading.gives_bind (Yaml.Reading.gives_shows p n) fun value hvalue => ?_
  have hnone : PayloadEntry.ofValue? value = none := by
    have hread := hinline n hn value hvalue
    rcases hn.collection with ⟨tag, entries, hmeant⟩ | ⟨tag, items, hmeant⟩
    · obtain ⟨ws, rfl, -⟩ := hvalue.mapping hmeant
      rw [PayloadEntry.ofValue?]
      exact congrArg (PayloadEntry.inline <$> ·) hread
    · obtain ⟨vs, rfl, -⟩ := hvalue.sequence hmeant
      rfl
  rw [hnone]
  exact Yaml.Reading.gives_throw _

theorem refuses_method : Refuses anchors (Source.record MethodEntry.format) (.record .method) :=
  Refusals.record rfl <| matches_of rfl <| .cons ⟨rfl, map _ refuses_text⟩ <|
    .cons ⟨rfl, free _⟩ <| .cons ⟨rfl, map _ (Refusals.option refuses_payload)⟩ <|
    .cons ⟨rfl, map _ (Refusals.option refuses_payload)⟩ <|
    .cons ⟨rfl, map _ refuses_requirement⟩ <| .cons ⟨rfl, map _ flag⟩ <|
    .cons ⟨rfl, map _ (Refusals.list refuses_route)⟩ .nil

theorem refuses_service : Refuses anchors (Source.record ServiceEntry.format) (.record .service) :=
  Refusals.record rfl <| matches_of rfl <| .cons ⟨rfl, map _ refuses_text⟩ <|
    .cons ⟨rfl, free _⟩ <| .cons ⟨rfl, map _ refuses_requirement⟩ <|
    .cons ⟨rfl, map _ (Refusals.list refuses_method)⟩ .nil

theorem refuses_designFile : Refuses anchors (Source.record DesignFile.format) (.record .file) :=
  Refusals.record rfl <| matches_of rfl <| .cons ⟨rfl, map _ refuses_api⟩ <|
    .cons ⟨rfl, map _ (Refusals.list refuses_scheme)⟩ <|
    .cons ⟨rfl, map _ (Refusals.list refuses_type)⟩ <|
    .cons ⟨rfl, map _ (Refusals.list refuses_service)⟩ .nil

/-! ### Files with other keys -/

/-- A file with a key that is not defined where others are refused is not read. -/
theorem exists_error_of_stray {text : String} {d : Yaml.Document} {root : Yaml.Node}
    (hd : Yaml.Document.ofText text = .ok d) (hroot : d.root = some root)
    (h : sections.Stray d.anchors (.record .file) root) :
    ∃ e, DesignFile.ofText text = .error e := by
  cases hfile : DesignFile.ofText text with
  | error e => exact ⟨e, rfl⟩
  | ok f =>
    exfalso
    unfold DesignFile.ofText Yaml.readText at hfile
    split at hfile
    · cases hfile
    · rename_i d' hd'
      obtain rfl : d = d' := Except.ok.inj (hd.symm.trans hd')
      split at hfile
      · cases hfile
      · rename_i value left hread
        rw [Yaml.Document.tree, hroot] at hread
        exact refuses_designFile root h .root d.aliasLimit value left hread

/-- Beside the attributes of a payload other keys are passed over, whatever they hold. -/
theorem ofValue?_overlooks {name : String} (hname : name ≠ "attributes")
    (before after : List (Yaml.Value × Yaml.Value)) (v : Yaml.Value) :
    PayloadEntry.ofValue? (.mapping (before ++ (.text name, v) :: after)) =
      PayloadEntry.ofValue? (.mapping (before ++ after)) := by
  have hnames : name ∉ PayloadEntry.inlineFormat.names := by
    rintro (_ | ⟨_, h⟩)
    · exact hname rfl
    · cases h
  rw [PayloadEntry.ofValue?, PayloadEntry.ofValue?, Yaml.Matcher.recordFrom,
    Yaml.Matcher.recordFrom, Yaml.Matcher.fill_overlooks rfl hnames]

/-- Contacts, licences, servers, hosts and the mappings that hold the attributes of a payload are
read as if keys that are not their own were not there. -/
theorem lenient_records_overlook_keys :
    (contact : RecordFormat Yaml.Reader Contact).Overlooks ∧
    (license : RecordFormat Yaml.Reader License).Overlooks ∧
    (server : RecordFormat Yaml.Reader Server).Overlooks ∧
    (host : RecordFormat Yaml.Reader Host).Overlooks ∧
    ∀ before after name v, name ≠ "attributes" →
      PayloadEntry.ofValue? (.mapping (before ++ (.text name, v) :: after)) =
        PayloadEntry.ofValue? (.mapping (before ++ after)) :=
  ⟨RecordFormat.overlooks rfl, RecordFormat.overlooks rfl, RecordFormat.overlooks rfl,
    RecordFormat.overlooks rfl,
    fun before after _ v hname => ofValue?_overlooks hname before after v⟩

/-- **Unknown keys are refused.**  A file is invalid if anywhere in it, outside of localized values
and examples, there is a key that the format does not define at its place, unless the key stands in
one of the mappings that overlook such keys. -/
theorem unknown_keys_refused {text : String} {d : Yaml.Document} {root : Yaml.Node}
    (hd : Yaml.Document.ofText text = .ok d) (hroot : d.root = some root)
    (h : sections.Stray d.anchors (.record .file) root) :
    ∃ message, Design.parse text = .error [.invalidDesignFile message] := by
  obtain ⟨e, he⟩ := exists_error_of_stray hd hroot h
  refine ⟨e.message, ?_⟩
  rw [Design.parse, he]

/-- A misspelled key of an API. -/
theorem misspelled_version_refused :
    sections.strayIn [0, 1] (.record .file) "api:\n  name: shop\n  verison: '2'\n" = true ∧
      ∃ message, Design.parse "api:\n  name: shop\n  verison: '2'\n" =
        .error [.invalidDesignFile message] := by
  have hstray :
      sections.strayIn [0, 1] (.record .file) "api:\n  name: shop\n  verison: '2'\n" = true := by
    decide +kernel
  obtain ⟨d, root, hd, hroot, h⟩ := KeyTable.exists_stray_of_strayIn hstray
  exact ⟨hstray, unknown_keys_refused hd hroot h⟩

/-- A misspelled key of a contact goes unnoticed. -/
theorem not_all_unknown_keys_refused :
    ¬∀ text d root, Yaml.Document.ofText text = .ok d → d.root = some root →
      { sections with strict := fun _ => true }.Stray d.anchors (.record .file) root →
      ∃ message, Design.parse text = .error [.invalidDesignFile message] := by
  intro hall
  have hstray : { sections with strict := fun _ => true }.strayIn [0, 1, 0] (.record .file)
      "api:\n  name: x\n  contact:\n    mail: a\n" = true := by
    decide +kernel
  have hread : (Design.parse "api:\n  name: x\n  contact:\n    mail: a\n").toBool = true := by
    decide +kernel
  obtain ⟨d, root, hd, hroot, h⟩ := KeyTable.exists_stray_of_strayIn hstray
  obtain ⟨message, hparse⟩ := hall _ d root hd hroot h
  rw [hparse] at hread
  cases hread

end DesignFile

end ApiDesign
