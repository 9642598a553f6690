import ApiDesign.DesignFile.Evaluation
import ApiDesign.Proofs.Decode.Yields
import ApiDesign.Proofs.Localized

/-!
# The localized values of a design file

Texts and examples stand everywhere in a design file, in payloads also where the type of a value is
settled first.  All of them are read in one way, so what holds of whatever is read in this way holds
throughout a file.

* `DesignFile.EveryText` — a condition on every text and one on every example, at every depth;
* `DesignFile.everyText_of_ofText` — what reading ensures holds of a file that was read;
* `localized_values_round_trip` — which localized values are read back from their written form.
-/

namespace ApiDesign

open Decode Source Promises

/-! ### Every text and every example -/

section Conditions

variable (T : Localized String → Prop) (J : Localized Json → Prop)

/-- The texts of the attribute, and of those nested in it, satisfy the one condition, and the
examples the other. -/
inductive AttributeEntry.EveryText : AttributeEntry → Prop where
  | intro {a : AttributeEntry} (description : ∀ v ∈ a.description, T v)
      (value : ∀ v ∈ a.example?, J v) (attributes : ∀ b ∈ a.attributes, b.EveryText) :
    a.EveryText

/-- The same for the attributes of a payload. -/
inductive PayloadEntry.EveryText : PayloadEntry → Prop where
  | named (type : String) : (named type).EveryText
  | inline {attributes : List AttributeEntry} (h : ∀ a ∈ attributes, a.EveryText T J) :
    (inline attributes).EveryText

/-- The same for a method, its payload and its result. -/
structure MethodEntry.EveryText (m : MethodEntry) : Prop where
  description : ∀ v ∈ m.description, T v
  payload : ∀ p ∈ m.payload, p.EveryText T J
  result : ∀ p ∈ m.result, p.EveryText T J

structure ServiceEntry.EveryText (s : ServiceEntry) : Prop where
  description : ∀ v ∈ s.description, T v
  methods : ∀ m ∈ s.methods, m.EveryText T J

structure Server.EveryText (s : Server) : Prop where
  description : ∀ v ∈ s.description, T v
  hosts : ∀ h ∈ s.hosts, ∀ v ∈ h.description, T v

structure Api.EveryText (a : Api) : Prop where
  title : ∀ v ∈ a.title, T v
  description : ∀ v ∈ a.description, T v
  servers : ∀ s ∈ a.servers, s.EveryText T

/-- Every text of the file satisfies the one condition, and every example the other. -/
structure DesignFile.EveryText (f : DesignFile) : Prop where
  api : f.api.api.EveryText T
  schemes : ∀ s ∈ f.schemes, ∀ v ∈ s.description, T v
  types : ∀ t ∈ f.types, ∀ a ∈ t.attributes, a.EveryText T J
  services : ∀ s ∈ f.services, s.EveryText T J

end Conditions

/-! ### What the formats ensure -/

section Formats

variable {R : Type → Type} [Source R] [Promises R]
variable {T : Localized String → Prop} {J : Localized Json → Prop}
variable (hT : ∀ x v, Localized.ofJson Json.readText x = .ok v → T v)
  (hJ : ∀ x v, Localized.ofJson .ok x = .ok v → J v)

include hT

theorem yields_text? : Yields (R := R) (option localizedText) fun x => ∀ v ∈ x, T v :=
  Promises.option (Promises.localizedText hT)

theorem yields_host : Yields (R := R) (record host) fun h => ∀ v ∈ h.description, T v := by
  refine Promises.record (forall_mem_none _) ?_
  simp only [host, List.forall_mem_cons]
  exact ⟨Field.keeps_needed (any _) fun _ _ _ h => h,
    Field.keeps_optional (yields_text? hT) fun _ hv _ _ => hv,
    Field.keeps_optional (any _) fun _ _ _ h => h, List.forall_mem_nil _⟩

theorem yields_server : Yields (R := R) (record server) fun s => s.EveryText T := by
  refine Promises.record ⟨forall_mem_none _, List.forall_mem_nil _⟩ ?_
  simp only [server, List.forall_mem_cons]
  exact ⟨Field.keeps_needed (any _) fun _ _ _ h => ⟨h.description, h.hosts⟩,
    Field.keeps_optional (yields_text? hT) fun _ hv _ h => ⟨hv, h.hosts⟩,
    Field.keeps_optional (Promises.list (yields_host hT)) fun _ hv _ h => ⟨h.description, hv⟩,
    List.forall_mem_nil _⟩

theorem yields_api : Yields (record ApiEntry.format) fun a => a.api.EveryText T := by
  refine Promises.record ⟨forall_mem_none _, forall_mem_none _, List.forall_mem_nil _⟩ ?_
  simp only [ApiEntry.format, List.forall_mem_cons]
  exact ⟨Field.keeps_needed (any _) fun _ _ _ h => ⟨h.title, h.description, h.servers⟩,
    Field.keeps_optional (yields_text? hT) fun _ hv _ h => ⟨hv, h.description, h.servers⟩,
    Field.keeps_optional (yields_text? hT) fun _ hv _ h => ⟨h.title, hv, h.servers⟩,
    Field.keeps_optional (any _) fun _ _ _ h => ⟨h.title, h.description, h.servers⟩,
    Field.keeps_optional (any _) fun _ _ _ h => ⟨h.title, h.description, h.servers⟩,
    Field.keeps_optional (any _) fun _ _ _ h => ⟨h.title, h.description, h.servers⟩,
    Field.keeps_optional (any _) fun _ _ _ h => ⟨h.title, h.description, h.servers⟩,
    Field.keeps_optional (Promises.list (yields_server hT))
      fun _ hv _ h => ⟨h.title, h.description, hv⟩,
    Field.keeps_optional (any _) fun _ _ _ h => h, List.forall_mem_nil _⟩

theorem yields_scheme :
    Yields (record SchemeEntry.format) fun s => ∀ v ∈ s.description, T v := by
  refine Promises.record (forall_mem_none _) ?_
  simp only [SchemeEntry.format, List.forall_mem_cons]
  exact ⟨Field.keeps_needed (any _) fun _ _ _ h => h, Field.keeps_needed (any _) fun _ _ _ h => h,
    Field.keeps_optional (yields_text? hT) fun _ hv _ _ => hv,
    Field.keeps_optional (any _) fun _ _ _ h => h, Field.keeps_optional (any _) fun _ _ _ h => h,
    List.forall_mem_nil _⟩

include hJ

/-- Attributes, by the number of attributes that may be nested in each other. -/
theorem yields_attribute (depth : Nat) :
    Yields (R := R) (record (AttributeEntry.format depth)) fun a => a.EveryText T J := by
  have hblank : AttributeEntry.blank.EveryText T J :=
    .intro (forall_mem_none _) (forall_mem_none _) (List.forall_mem_nil _)
  induction depth with
  | zero => exact Promises.record hblank (List.forall_mem_nil _)
  | succ depth ih =>
    refine Promises.record hblank ?_
    simp only [AttributeEntry.format, List.forall_mem_cons]
    exact ⟨Field.keeps_needed (any _) fun _ _ _ ⟨hd, he, has⟩ => ⟨hd, he, has⟩,
      Field.keeps_needed (any _) fun _ _ _ ⟨hd, he, has⟩ => ⟨hd, he, has⟩,
      Field.keeps_optional (any _) fun _ _ _ ⟨hd, he, has⟩ => ⟨hd, he, has⟩,
      Field.keeps_optional (yields_text? hT) fun _ hv _ ⟨_, he, has⟩ => ⟨hv, he, has⟩,
      Field.keeps_optional (Promises.option (Promises.localizedJson hJ))
        fun _ hv _ ⟨hd, _, has⟩ => ⟨hd, hv, has⟩,
      Field.keeps_optional (any _) fun _ _ _ ⟨hd, he, has⟩ => ⟨hd, he, has⟩,
      Field.keeps_optional (any _) fun _ _ _ ⟨hd, he, has⟩ => ⟨hd, he, has⟩,
      Field.keeps_optional (Promises.list ih) fun _ hv _ ⟨hd, he, _⟩ => ⟨hd, he, hv⟩,
      List.forall_mem_nil _⟩

theorem yields_attributes :
    Yields (R := R) AttributeEntry.reader fun as => ∀ a ∈ as, a.EveryText T J :=
  Promises.list (yields_attribute hT hJ Yaml.maxDepth)

theorem everyText_of_ofValue? {value : Yaml.Value} {p : PayloadEntry}
    (h : PayloadEntry.ofValue? value = some p) : p.EveryText T J := by
  have hinline : Yields (record PayloadEntry.inlineFormat) fun as => ∀ a ∈ as, a.EveryText T J := by
    refine Promises.record (List.forall_mem_nil _) ?_
    simp only [PayloadEntry.inlineFormat, List.forall_mem_cons]
    exact ⟨Field.keeps_needed (yields_attributes hT hJ) fun _ hv _ _ => hv, List.forall_mem_nil _⟩
  unfold PayloadEntry.ofValue? at h
  split at h
  · cases h
    exact .named _
  · rename_i entries
    obtain ⟨as, has, rfl⟩ := Option.map_eq_some_iff.1 h
    exact .inline (hinline (.mapping entries) as has)
  · cases h

theorem yields_payload : Yields PayloadEntry.reader fun p => p.EveryText T J := by
  intro p t
  refine Yaml.Reading.gives_bind (Yaml.Reading.gives_any _) fun value _ => ?_
  cases hvalue : PayloadEntry.ofValue? value with
  | none => exact Yaml.Reading.gives_throw _
  | some payload => exact Yaml.Reading.gives_pure (everyText_of_ofValue? hT hJ hvalue)

theorem yields_type :
    Yields (record TypeEntry.format) fun t => ∀ a ∈ t.attributes, a.EveryText T J := by
  refine Promises.record (List.forall_mem_nil _) ?_
  simp only [TypeEntry.format, List.forall_mem_cons]
  exact ⟨Field.keeps_needed (any _) fun _ _ _ h => h,
    Field.keeps_optional (yields_attributes hT hJ) fun _ hv _ _ => hv, List.forall_mem_nil _⟩

theorem yields_method : Yields (record MethodEntry.format) fun m => m.EveryText T J := by
  have hpayload := Promises.option (yields_payload hT hJ)
  refine Promises.record ⟨forall_mem_none _, forall_mem_none _, forall_mem_none _⟩ ?_
  simp only [MethodEntry.format, List.forall_mem_cons]
  exact ⟨Field.keeps_needed (any _) fun _ _ _ h => ⟨h.description, h.payload, h.result⟩,
    Field.keeps_optional (yields_text? hT) fun _ hv _ h => ⟨hv, h.payload, h.result⟩,
    Field.keeps_optional hpayload fun _ hv _ h => ⟨h.description, hv, h.result⟩,
    Field.keeps_optional hpayload fun _ hv _ h => ⟨h.description, h.payload, hv⟩,
    Field.keeps_optional (any _) fun _ _ _ h => ⟨h.description, h.payload, h.result⟩,
    Field.keeps_optional (any _) fun _ _ _ h => ⟨h.description, h.payload, h.result⟩,
    Field.keeps_optional (any _) fun _ _ _ h => ⟨h.description, h.payload, h.result⟩,
    List.forall_mem_nil _⟩

theorem yields_service : Yields (record ServiceEntry.format) fun s => s.EveryText T J := by
  refine Promises.record ⟨forall_mem_none _, List.forall_mem_nil _⟩ ?_
  simp only [ServiceEntry.format, List.forall_mem_cons]
  exact ⟨Field.keeps_needed (any _) fun _ _ _ h => ⟨h.description, h.methods⟩,
    Field.keeps_optional (yields_text? hT) fun _ hv _ h => ⟨hv, h.methods⟩,
    Field.keeps_optional (any _) fun _ _ _ h => ⟨h.description, h.methods⟩,
    Field.keeps_optional (Promises.list (yields_method hT hJ))
      fun _ hv _ h => ⟨h.description, hv⟩, List.forall_mem_nil _⟩

theorem yields_designFile : Yields (record DesignFile.format) fun f => f.EveryText T J := by
  have hempty : (Api.ofName "").EveryText T :=
    ⟨forall_mem_none _, forall_mem_none _, List.forall_mem_nil _⟩
  refine Promises.record ⟨hempty, List.forall_mem_nil _, List.forall_mem_nil _,
    List.forall_mem_nil _⟩ ?_
  simp only [DesignFile.format, List.forall_mem_cons]
  exact ⟨Field.keeps_needed (yields_api hT) fun _ hv _ h => ⟨hv, h.schemes, h.types, h.services⟩,
    Field.keeps_optional (Promises.list (yields_scheme hT))
      fun _ hv _ h => ⟨h.api, hv, h.types, h.services⟩,
    Field.keeps_optional (Promises.list (yields_type hT hJ))
      fun _ hv _ h => ⟨h.api, h.schemes, hv, h.services⟩,
    Field.keeps_optional (Promises.list (yields_service hT hJ))
      fun _ hv _ h => ⟨h.api, h.schemes, h.types, hv⟩, List.forall_mem_nil _⟩

/-- What reading ensures of texts and examples holds throughout a file that was read. -/
theorem DesignFile.everyText_of_ofText {text : String} {f : DesignFile}
    (h : DesignFile.ofText text = .ok f) : f.EveryText T J := by
  unfold DesignFile.ofText Yaml.readText at h
  split at h
  · cases h
  · rename_i d _
    split at h
    · cases h
    · rename_i value left hread
      cases h
      exact yields_designFile hT hJ .root d.tree d.aliasLimit f left hread

end Formats

/-! ### Round trips -/

/-- **Localized values round-trip, except where the two written forms overlap.**  A localized text or
JSON value is read back from its written form exactly if no translation is stored under the reserved
key and, for a JSON value without translations, the default is no object with that key.  Every text of
a design file is read back, with the same variant for every locale; an example of a design file is not
read back exactly if it is a plain object with the reserved key. -/
theorem localized_values_round_trip :
    (∀ v : Localized String, v.RoundTrips .str Json.readText ↔ "default" ∉ v.locales) ∧
    (∀ v : Localized Json, v.RoundTrips id .ok ↔
      "default" ∉ v.locales ∧ (v.locales = [] → v.default.get? "default" = none)) ∧
    ∀ text f, DesignFile.ofText text = .ok f →
      f.EveryText
        (fun v => v.RoundTrips .str Json.readText ∧
          ∀ w, Localized.ofJson Json.readText (v.toJson .str) = .ok w →
            ∀ locale, w.resolve locale = v.resolve locale)
        (fun v => ¬v.RoundTrips id .ok ↔
          v.locales = [] ∧ (v.default.get? "default").isSome) := by
  refine ⟨fun v => Localized.text_roundTrips_iff, fun v => Localized.json_roundTrips_iff, ?_⟩
  intro text f hf
  refine DesignFile.everyText_of_ofText ?_ ?_ hf
  · intro x v hv
    have htrip : v.RoundTrips .str Json.readText :=
      Localized.text_roundTrips_iff.2 (Localized.default_not_mem_locales hv)
    refine ⟨htrip, fun w hw locale => ?_⟩
    obtain rfl : v = w := Except.ok.inj (htrip.symm.trans hw)
    rfl
  · intro x v hv
    rw [Localized.json_roundTrips_iff, and_iff_right (Localized.default_not_mem_locales hv),
      Classical.not_imp, ← ne_eq, Option.ne_none_iff_isSome]
    rfl

/-- A file with a text that is translated, and an example whose default is an object with the reserved
key. -/
def pondFile : String :=
  "api:\n name: pond\n description:\n  default: Pond\n  nl: Vijver\n"
    ++ "types:\n- name: Fish\n  attributes:\n  - name: size\n    type: int\n"
    ++ "    example:\n     default:\n      default: 3\n"

/-- The text of the file is read back, and the example is not. -/
theorem pond_text_round_trips :
    ∃ f description t a value, DesignFile.ofText pondFile = .ok f ∧
      f.api.api.description = some description ∧ description.locales = ["nl"] ∧
      description.RoundTrips .str Json.readText ∧
      t ∈ f.types ∧ a ∈ t.attributes ∧ a.example? = some value ∧
      ¬value.RoundTrips id .ok := by
  have hread : (DesignFile.ofText pondFile).toOption.map (fun f =>
      (f.api.api.description.map (·.locales),
        ((f.types.head?.bind (·.attributes.head?)).bind (·.example?)).map fun value =>
          (value.locales, (value.default.get? "default").isSome))) =
      some (some ["nl"], some ([], true)) := by decide +kernel
  cases hf : DesignFile.ofText pondFile with
  | error e =>
    rw [hf] at hread
    cases hread
  | ok f =>
    rw [hf] at hread
    obtain ⟨hlocales, hreserved⟩ := Prod.mk.inj (Option.some.inj hread)
    obtain ⟨description, hdescription, hlocales⟩ := Option.map_eq_some_iff.1 hlocales
    obtain ⟨value, hvalue, hreserved⟩ := Option.map_eq_some_iff.1 hreserved
    obtain ⟨a, ha, hvalue⟩ := Option.bind_eq_some_iff.1 hvalue
    obtain ⟨t, ht, ha⟩ := Option.bind_eq_some_iff.1 ha
    have htype : t ∈ f.types := List.mem_of_mem_head? ht
    have hattribute : a ∈ t.attributes := List.mem_of_mem_head? ha
    obtain ⟨-, -, hfile⟩ := localized_values_round_trip
    have hevery := hfile pondFile f hf
    obtain ⟨-, hexample, -⟩ := hevery.types t htype a hattribute
    exact ⟨f, description, t, a, value, rfl, hdescription, hlocales,
      (hevery.api.description description hdescription).1, htype, hattribute, hvalue,
      (hexample value hvalue).2 (Prod.mk.inj hreserved)⟩

/-- An object with the reserved key is taken for a value with a default of its own. -/
example : Localized.ofJson .ok ((Localized.plain (.obj [("default", .bool true)])).toJson id) =
    .ok (.plain (.bool true)) := rfl

end ApiDesign
