import ApiDesign.Proofs.OpenApi.Parameters
import ApiDesign.Proofs.OpenApi.Schema

/-!
# Credentials and parameters

An attribute of a payload that carries a credential becomes no parameter.  Inside the types of the
others it is treated like any field: the schema of a parameter reads no role, so a credential that is
a field has its property there and stands among the required ones.

* `ofType_withoutCredentials_iff` — the schema of a type changes without the credentials exactly if
  the type has some;
* `classify_withoutCredentials_iff` — so do the parameters;
* `parameters_without_credentials` — the parameters of an operation.
-/

namespace ApiDesign

/-- The attribute without its role. -/
def Attribute.withoutRole (a : Attribute) : Attribute := { a with role := none }

/-- The attribute with its role, but with none in its type. -/
def Attribute.withPlainFields (a : Attribute) : Attribute := a.reviseType (some ∘ withoutRole)

namespace Schema

/-- Roles are not read. -/
theorem ofType_withPlainFields (a : Attribute) : ofType a.withPlainFields.type = ofType a.type :=
  ofType_revise (g := Attribute.withoutRole) (fun _ => rfl) (fun _ => rfl) (fun _ => rfl) a.type

/-- Where fields have different names, a field that is left out takes its property away, and the
properties of the others show whether their schemas change. -/
theorem fields_kept_of_properties_eq {fields : List Attribute}
    (hnames : (fields.map (·.name)).Nodup)
    (h : Entries.sort (ofFields (Attribute.withoutCredentials fields)) =
      Entries.sort (ofFields fields)) :
    ∀ a ∈ fields, a.role = none ∧ ofType a.type.withoutCredentials = ofType a.type := by
  intro a ha
  have hleft : ((Attribute.withoutCredentials fields).map (·.name)).Nodup := by
    rw [Attribute.withoutCredentials_eq, List.map_map]
    exact hnames.sublist (List.filter_sublist.map _)
  have hproperty := (lookup_ofFields hnames).2 ⟨a, ha, rfl, rfl⟩
  rw [← h, lookup_ofFields hleft, Attribute.withoutCredentials_eq] at hproperty
  obtain ⟨c, hc, hname, hschema⟩ := hproperty
  obtain ⟨b, hb, rfl⟩ := List.mem_map.1 hc
  obtain ⟨hb, hrole⟩ := List.mem_filter.1 hb
  have heq : b = a := List.inj_on_of_nodup_map hnames hb ha hname
  subst heq
  exact ⟨Option.isNone_iff_eq_none.1 hrole, hschema⟩

/-- Where fields have different names, a schema stays the same without the credentials exactly if
there are none. -/
theorem ofType_withoutCredentials_iff {type : AttributeType} (h : type.DistinctFields) :
    ofType type.withoutCredentials = ofType type ↔ ¬type.HasCredential := by
  refine ⟨fun heq => ?_, fun hnone => by rw [AttributeType.withoutCredentials_of_not hnone]⟩
  induction type using AttributeType.induction with
  | primitive p => rintro ⟨⟩
  | array element ih =>
    cases h with
    | array inside =>
      have hitems := Option.some.inj (congrArg Schema.items heq)
      rintro ⟨helement⟩
      exact ih inside hitems helement
  | object fields ih =>
    cases h with
    | object names inside =>
      have hfields := fields_kept_of_properties_eq names (congrArg properties heq)
      intro hcredential
      cases hcredential with
      | @field _ a ha hrole =>
        rw [(hfields a ha).1] at hrole
        cases hrole
      | @inside _ a ha hmem => exact ih a ha (inside a ha) (hfields a ha).2 hmem

end Schema

namespace OpenApi

variable {d : Design} {locale : String} {doc : Document}

/-! ### Parameters of revised attributes -/

/-- Of a revised type, only the schema shows in the parameter. -/
theorem ofAttribute_reviseType_eq_iff (f : Attribute → Option Attribute) (wildcards : List String)
    (locale : String) (a : Attribute) :
    Parameter.ofAttribute wildcards locale (a.reviseType f) =
        Parameter.ofAttribute wildcards locale a ↔
      Schema.ofType (a.type.revise f) = Schema.ofType a.type := by
  have harray : (a.type.revise f).isArray = a.type.isArray := by cases a.type <;> rfl
  constructor
  · intro h
    exact congrArg Parameter.schema h
  · intro h
    show { Parameter.ofAttribute wildcards locale a with
      explode := if (a.type.revise f).isArray then some true else none
      schema := Schema.ofType (a.type.revise f) } = _
    rw [harray, h]
    rfl

/-- Only the attributes without a credential are read. -/
theorem classify_filter (as : List Attribute) (path locale : String) :
    classify (as.filter (·.role.isNone)) path locale = classify as path locale := by
  rw [classify, List.filter_filter]
  simp only [Bool.and_self]
  rfl

/-- Where only types are revised, the parameters stay the same exactly if the schemas do. -/
theorem classify_reviseType_iff (f : Attribute → Option Attribute) (as : List Attribute)
    (path locale : String) :
    classify (as.map (Attribute.reviseType f)) path locale = classify as path locale ↔
      ∀ a ∈ as.filter (·.role.isNone),
        Schema.ofType (a.type.revise f) = Schema.ofType a.type := by
  have hroles : (as.map (Attribute.reviseType f)).filter (·.role.isNone) =
      (as.filter (·.role.isNone)).map (Attribute.reviseType f) := List.filter_map
  rw [classify, classify, hroles, List.map_map, List.map_inj_left]
  exact forall₂_congr fun a _ => ofAttribute_reviseType_eq_iff f _ locale a

/-- The roles inside the types are not read. -/
theorem classify_withPlainFields (as : List Attribute) (path locale : String) :
    classify (as.map Attribute.withPlainFields) path locale = classify as path locale :=
  (classify_reviseType_iff _ as path locale).2 fun a _ => Schema.ofType_withPlainFields a

/-- Without the credentials the parameters stay the same exactly if the schemas of their types do. -/
theorem classify_withoutCredentials_iff (as : List Attribute) (path locale : String) :
    classify (Attribute.withoutCredentials as) path locale = classify as path locale ↔
      ∀ a ∈ as.filter (·.role.isNone),
        Schema.ofType a.type.withoutCredentials = Schema.ofType a.type := by
  rw [Attribute.withoutCredentials_eq, ← classify_filter as, classify_reviseType_iff,
    List.filter_filter]
  simp only [Bool.and_self]
  rfl

/-! ### Parameters of operations -/

/-- **Credentials and parameters.**  The parameters of an operation are those of the attributes of its
payload that carry no credential; the roles inside the types of these attributes make no difference.
So the parameters stay the same without the credentials of every depth where no type has credentials
inside, and, as far as the fields of the types have different names, only there. -/
theorem parameters_without_credentials (h : assemble d locale = .ok (some doc)) {path : String}
    {verb : Verb} {o : Operation} (ho : doc.operation? path verb = some o) :
    ∃ e ∈ d.routes, e.route = ⟨verb, path⟩ ∧
      o.parameters = classify e.method.parameterAttributes path locale ∧
      o.parameters =
        classify (e.method.payloadAttributes.map Attribute.withPlainFields) path locale ∧
      ((∀ a ∈ e.method.parameterAttributes, ¬a.type.HasCredential) →
        classify (Attribute.withoutCredentials e.method.payloadAttributes) path locale =
          o.parameters) ∧
      ((∀ a ∈ e.method.parameterAttributes, a.type.DistinctFields) →
        classify (Attribute.withoutCredentials e.method.payloadAttributes) path locale =
          o.parameters →
        ∀ a ∈ e.method.parameterAttributes, ¬a.type.HasCredential) := by
  obtain ⟨e, he, hroute, rfl⟩ := exists_route_of_operation? h ho
  have hparameters : (d.operationOf locale e).parameters =
      classify e.method.payloadAttributes path locale := by
    rw [parameters_operationOf, hroute]
    rfl
  refine ⟨e, he, hroute, ?_, ?_, ?_, ?_⟩
  · rw [hparameters]
    exact (classify_filter _ path locale).symm
  · rw [hparameters, classify_withPlainFields]
  · intro hnone
    rw [hparameters, classify_withoutCredentials_iff]
    intro a ha
    rw [AttributeType.withoutCredentials_of_not (hnone a ha)]
  · intro hdistinct hsame a ha
    rw [hparameters, classify_withoutCredentials_iff] at hsame
    exact (Schema.ofType_withoutCredentials_iff (hdistinct a ha)).1 (hsame a ha)

/-- A clinic that finds patients by an object without credentials; the caller shows a token. -/
def clinicDeclarations : List Declaration :=
  [.service "clinic" (.single (.method "find" (.all [
    .single (.payload [
      .add (Attribute.withRole (.ofType "token" (.primitive .string)) .token),
      .add (.ofType "patient" (.object [
        .ofType "name" (.primitive .string),
        .ofType "visits" (.array (.object [.ofType "day" (.primitive .int)]))]))]),
    .single (.route .get "/patients")])))]

/-- The design of the clinic. -/
def clinic : Design := ((Builder.start "clinic").declareAll clinicDeclarations).design

/-- The parameters of the search for patients are the same without the token. -/
theorem clinic_parameters_without_credentials :
    ∃ doc o, assemble clinic "en" = .ok (some doc) ∧
      doc.operation? "/patients" .get = some o ∧ o.parameters.length = 1 ∧
        ∃ e ∈ clinic.routes, e.method.payloadAttributes.length = 2 ∧
          classify (Attribute.withoutCredentials e.method.payloadAttributes) "/patients" "en" =
            o.parameters := by
  obtain ⟨doc, o, hdoc, ho, hlength⟩ : ∃ doc o, assemble clinic "en" = .ok (some doc) ∧
      doc.operation? "/patients" .get = some o ∧ o.parameters.length = 1 :=
    ⟨_, _, rfl, rfl, rfl⟩
  obtain ⟨e, he, -, -, -, hsame, -⟩ := parameters_without_credentials hdoc ho
  obtain rfl := List.mem_singleton.1 he
  refine ⟨doc, o, hdoc, ho, hlength, _, he, rfl, hsame fun a ha => ?_⟩
  obtain rfl := List.mem_singleton.1 ha
  simp [Attribute.ofType]

/-- A shop whose search takes a filter with a key in it. -/
def filteredDeclarations : List Declaration :=
  [.service "shop" (.single (.method "find" (.all [
    .single (.payload [
      .add (.ofType "filter" (.object [
        .ofType "text" (.primitive .string),
        Attribute.withRole (.ofType "key" (.primitive .string)) .token]))]),
    .single (.route .get "/items")])))]

/-- The design of the shop with the filter. -/
def filtered : Design := ((Builder.start "shop").declareAll filteredDeclarations).design

/-- The key is a property of the filter, which is lost without the credentials. -/
theorem not_parameters_without_nested_credentials :
    ¬∀ d : Design, d.Built → ∀ locale doc, assemble d locale = .ok (some doc) →
      ∀ e ∈ d.routes, ∀ o, doc.operation? e.route.path e.route.verb = some o →
        classify (Attribute.withoutCredentials e.method.payloadAttributes) e.route.path locale =
          o.parameters := by
  intro h
  have hbuilt : filtered.Built := ⟨"shop", filteredDeclarations, rfl⟩
  obtain ⟨doc, e, o, hdoc, he, ho, hproperties⟩ : ∃ doc e o,
      assemble filtered "en" = .ok (some doc) ∧ e ∈ filtered.routes ∧
        doc.operation? e.route.path e.route.verb = some o ∧
          ((classify (Attribute.withoutCredentials e.method.payloadAttributes) e.route.path
              "en").map (·.schema.properties.length)) ≠
            o.parameters.map (·.schema.properties.length) :=
    ⟨_, _, _, rfl, List.mem_cons_self, rfl, by decide +kernel⟩
  exact hproperties (by rw [h filtered hbuilt "en" doc hdoc e he o ho])

end OpenApi

end ApiDesign
