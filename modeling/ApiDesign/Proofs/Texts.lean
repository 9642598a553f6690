import ApiDesign.Design
import ApiDesign.Proofs.Attribute
import ApiDesign.Proofs.KeyMap

/-!
# The texts of a design

Texts and examples stand everywhere in a design, and each of them may be translated.  What is done to
localized values is done to all of them at once, at every depth of the types; and the locales for
which something is translated are gathered in the same places.

* `Design.mapTexts` — every localized value is replaced; `Design.project` and `Design.defaults` leave
  the plain values for one locale and the default values;
* `Design.locales` — the locales for which some value has a translation;
* `Design.project_eq_defaults` — for a locale without a translation, these are the same.
-/

namespace ApiDesign

/-- A change of localized values, whatever they are values of. -/
abbrev TextChange : Type 1 := (α : Type) → Localized α → Localized α

/-! ### Replacing the texts -/

section Change

variable (f : TextChange)

/-- The attribute with its own texts replaced. -/
def Attribute.mapOwnTexts (a : Attribute) : Attribute :=
  { a with description := a.description.map (f _), example? := a.example?.map (f _) }

/-- The attributes with their texts replaced, and those in their types. -/
def Attribute.mapAllTexts (as : List Attribute) : List Attribute :=
  reviseAll (some ∘ mapOwnTexts f) as

def Host.mapTexts (h : Host) : Host := { h with description := h.description.map (f _) }

def Server.mapTexts (s : Server) : Server :=
  { s with description := s.description.map (f _), hosts := s.hosts.map (Host.mapTexts f) }

def Api.mapTexts (api : Api) : Api :=
  { api with
    title := api.title.map (f _)
    description := api.description.map (f _)
    servers := api.servers.map (Server.mapTexts f) }

def UserType.mapTexts (t : UserType) : UserType :=
  { t with attributes := Attribute.mapAllTexts f t.attributes }

def Payload.mapTexts (p : Payload) : Payload :=
  { p with attributes := Attribute.mapAllTexts f p.attributes }

def Method.mapTexts (m : Method) : Method :=
  { m with
    description := m.description.map (f _)
    payload := m.payload.map (Payload.mapTexts f)
    result := m.result.map (Payload.mapTexts f) }

def Service.mapTexts (s : Service) : Service :=
  { s with description := s.description.map (f _), methods := s.methods.map (Method.mapTexts f) }

def SecurityScheme.mapTexts (s : SecurityScheme) : SecurityScheme :=
  { s with description := s.description.map (f _) }

def SchemeRegistry.mapTexts (r : SchemeRegistry) : SchemeRegistry :=
  ⟨r.schemes.map (SecurityScheme.mapTexts f)⟩

/-- The design with every text and every example replaced. -/
def Design.mapTexts (d : Design) : Design :=
  { d with
    api := d.api.mapTexts f
    types := d.types.map (UserType.mapTexts f)
    services := d.services.map (Service.mapTexts f)
    schemes := d.schemes.mapTexts f }

end Change

/-- The design with the plain values that the texts and examples have for a locale. -/
def Design.project (d : Design) (locale : String) : Design :=
  d.mapTexts fun _ v => .plain (v.resolve locale)

/-- The design with the default values of the texts and examples. -/
def Design.defaults (d : Design) : Design := d.mapTexts fun _ v => .plain v.default

/-! ### Gathering the locales -/

/-- The locales for which an optional value has a translation. -/
def localesOf {α : Type} (text : Option (Localized α)) : List String :=
  match text with
  | some v => v.locales
  | none => []

mutual

/-- The locales for which something in the type has a translation. -/
def AttributeType.locales : AttributeType → List String
  | .primitive _ => []
  | .array element => element.locales
  | .object fields => Attribute.allLocales fields

/-- The locales for which something in the attributes has a translation. -/
def Attribute.allLocales : List Attribute → List String
  | [] => []
  | ⟨_, type, _, description, example?, _⟩ :: r =>
    localesOf description ++ localesOf example? ++ type.locales ++ Attribute.allLocales r

end

def Server.locales (s : Server) : List String :=
  localesOf s.description ++ s.hosts.flatMap fun h => localesOf h.description

def Api.locales (api : Api) : List String :=
  localesOf api.title ++ localesOf api.description ++ api.servers.flatMap Server.locales

def Payload.locales (p : Payload) : List String := Attribute.allLocales p.attributes

def Method.locales (m : Method) : List String :=
  localesOf m.description ++ m.payload.toList.flatMap Payload.locales ++
    m.result.toList.flatMap Payload.locales

def Service.locales (s : Service) : List String :=
  localesOf s.description ++ s.methods.flatMap Method.locales

/-- The locales for which some text or example of the design has a translation. -/
def Design.locales (d : Design) : List String :=
  d.api.locales ++ d.types.flatMap (fun t => Attribute.allLocales t.attributes) ++
    d.services.flatMap Service.locales ++ d.schemes.schemes.flatMap fun s => localesOf s.description

theorem Attribute.allLocales_eq (as : List Attribute) :
    allLocales as = as.flatMap fun a =>
      localesOf a.description ++ localesOf a.example? ++ a.type.locales := by
  induction as with
  | nil => rfl
  | cons a as ih =>
    cases a
    rw [allLocales, ih]
    rfl

/-! ### Locales without a translation -/

section Untranslated

variable {α β : Type} {f g : TextChange} {locale : String}

/-- What has no translation in a list has none in its elements. -/
theorem map_congr_of_locales {F G : α → β} {locales : α → List String} {xs : List α}
    (hF : ∀ x, locale ∉ locales x → F x = G x) (hxs : locale ∉ xs.flatMap locales) :
    xs.map F = xs.map G := by
  refine List.map_congr_left fun x hx => hF x fun hmem => hxs ?_
  exact List.mem_flatMap.2 ⟨x, hx, hmem⟩

variable (h : ∀ (α : Type) (v : Localized α), locale ∉ v.locales → f α v = g α v)
include h

theorem map_text_congr {text : Option (Localized α)} (ht : locale ∉ localesOf text) :
    text.map (f α) = text.map (g α) := by
  cases text with
  | none => rfl
  | some v => exact congrArg some (h α v ht)

theorem Attribute.mapOwnTexts_congr {a : Attribute} (hdescription : locale ∉ localesOf a.description)
    (hexample : locale ∉ localesOf a.example?) : a.mapOwnTexts f = a.mapOwnTexts g := by
  rw [mapOwnTexts, mapOwnTexts, map_text_congr h hdescription, map_text_congr h hexample]

theorem AttributeType.revise_congr {type : AttributeType} (ht : locale ∉ type.locales) :
    type.revise (some ∘ Attribute.mapOwnTexts f) = type.revise (some ∘ Attribute.mapOwnTexts g) := by
  induction type using AttributeType.induction with
  | primitive p => rfl
  | array element ih => exact congrArg array (ih ht)
  | object fields ih =>
    have hlocales : locale ∉ Attribute.allLocales fields := ht
    rw [Attribute.allLocales_eq] at hlocales
    refine congrArg object ?_
    rw [Attribute.reviseAll_eq_map, Attribute.reviseAll_eq_map]
    refine List.map_congr_left fun a ha => ?_
    have hfield : locale ∉ localesOf a.description ++ localesOf a.example? ++ a.type.locales :=
      fun hmem => hlocales (List.mem_flatMap.2 ⟨a, ha, hmem⟩)
    rw [List.mem_append, List.mem_append, not_or, not_or] at hfield
    obtain ⟨⟨hdescription, hexample⟩, htype⟩ := hfield
    rw [Attribute.reviseType, ih a ha htype]
    exact Attribute.mapOwnTexts_congr h hdescription hexample

theorem Attribute.mapAllTexts_congr {as : List Attribute} (has : locale ∉ allLocales as) :
    mapAllTexts f as = mapAllTexts g as := by
  have hobject : (AttributeType.object as).revise (some ∘ mapOwnTexts f) =
      (AttributeType.object as).revise (some ∘ mapOwnTexts g) :=
    AttributeType.revise_congr h has
  exact AttributeType.object.inj hobject

theorem Server.mapTexts_congr {s : Server} (hs : locale ∉ s.locales) :
    s.mapTexts f = s.mapTexts g := by
  rw [locales, List.mem_append, not_or] at hs
  obtain ⟨hdescription, hhosts⟩ := hs
  have hhost : ∀ host : Host, locale ∉ localesOf host.description →
      host.mapTexts f = host.mapTexts g := by
    intro host hlocales
    rw [Host.mapTexts, Host.mapTexts, map_text_congr h hlocales]
  rw [mapTexts, mapTexts, map_text_congr h hdescription, map_congr_of_locales hhost hhosts]

theorem Api.mapTexts_congr {api : Api} (hapi : locale ∉ api.locales) :
    api.mapTexts f = api.mapTexts g := by
  rw [locales, List.mem_append, List.mem_append, not_or, not_or] at hapi
  obtain ⟨⟨htitle, hdescription⟩, hservers⟩ := hapi
  rw [mapTexts, mapTexts, map_text_congr h htitle, map_text_congr h hdescription,
    map_congr_of_locales (fun _ => Server.mapTexts_congr h) hservers]

theorem Payload.map_mapTexts_congr {p : Option Payload}
    (hp : locale ∉ p.toList.flatMap Payload.locales) :
    p.map (mapTexts f) = p.map (mapTexts g) := by
  cases p with
  | none => rfl
  | some p =>
    have hattributes : locale ∉ Attribute.allLocales p.attributes := by
      simpa [Payload.locales] using hp
    rw [Option.map_some, Option.map_some, mapTexts, mapTexts,
      Attribute.mapAllTexts_congr h hattributes]

theorem Method.mapTexts_congr {m : Method} (hm : locale ∉ m.locales) :
    m.mapTexts f = m.mapTexts g := by
  rw [locales, List.mem_append, List.mem_append, not_or, not_or] at hm
  obtain ⟨⟨hdescription, hpayload⟩, hresult⟩ := hm
  rw [mapTexts, mapTexts, map_text_congr h hdescription, Payload.map_mapTexts_congr h hpayload,
    Payload.map_mapTexts_congr h hresult]

theorem Service.mapTexts_congr {s : Service} (hs : locale ∉ s.locales) :
    s.mapTexts f = s.mapTexts g := by
  rw [locales, List.mem_append, not_or] at hs
  obtain ⟨hdescription, hmethods⟩ := hs
  rw [mapTexts, mapTexts, map_text_congr h hdescription,
    map_congr_of_locales (fun _ => Method.mapTexts_congr h) hmethods]

/-- Changes that do the same to every value without a translation for the locale do the same to a
design without one. -/
theorem Design.mapTexts_congr {d : Design} (hd : locale ∉ d.locales) :
    d.mapTexts f = d.mapTexts g := by
  simp only [locales, List.mem_append, not_or] at hd
  obtain ⟨⟨⟨hapi, htypes⟩, hservices⟩, hschemes⟩ := hd
  have htype : ∀ t : UserType, locale ∉ Attribute.allLocales t.attributes →
      t.mapTexts f = t.mapTexts g := by
    intro t hlocales
    rw [UserType.mapTexts, UserType.mapTexts, Attribute.mapAllTexts_congr h hlocales]
  have hscheme : ∀ s : SecurityScheme, locale ∉ localesOf s.description →
      s.mapTexts f = s.mapTexts g := by
    intro s hlocales
    rw [SecurityScheme.mapTexts, SecurityScheme.mapTexts, map_text_congr h hlocales]
  rw [mapTexts, mapTexts, Api.mapTexts_congr h hapi, map_congr_of_locales htype htypes,
    map_congr_of_locales (fun _ => Service.mapTexts_congr h) hservices,
    SchemeRegistry.mapTexts, SchemeRegistry.mapTexts, map_congr_of_locales hscheme hschemes]

end Untranslated

/-- For a locale without a translation, the default values are left. -/
theorem Design.project_eq_defaults {d : Design} {locale : String} (h : locale ∉ d.locales) :
    d.project locale = d.defaults := by
  refine mapTexts_congr (fun α v hv => ?_) h
  have hnone : v.translations.get? locale = none := by
    rw [Localized.locales, KeyMap.mem_keys_iff] at hv
    simpa using hv
  rw [Localized.resolve, hnone]
  rfl

end ApiDesign
