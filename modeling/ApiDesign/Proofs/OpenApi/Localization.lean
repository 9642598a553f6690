import ApiDesign.Proofs.OpenApi.Credentials
import ApiDesign.Proofs.OpenApi.Likeness
import ApiDesign.Proofs.Texts

/-!
# Localization and assembly

A document is made for a locale.  The texts may just as well be chosen first: a design whose texts
and examples are the plain values for the locale has the same document, for whatever locale it is
assembled then.  So every text that is written is chosen once, and with the locale of the document.

* `assemble_mapTexts` — texts may be replaced by others that read the same, each in its locale;
* `localization_commutes` — by the plain values for a locale, or by the default values where nothing
  is translated.
-/

namespace ApiDesign

namespace OpenApi

section Reading

variable {f : TextChange} {locale locale' : String}
variable (h : ∀ (α : Type) (v : Localized α), (f α v).resolve locale' = v.resolve locale)
include h

/-! ### Texts that read the same -/

theorem map_resolve_mapTexts {α : Type} (text : Option (Localized α)) :
    (text.map (f α)).map (·.resolve locale') = text.map (·.resolve locale) := by
  cases text with
  | none => rfl
  | some v => exact congrArg some (h α v)

theorem localText_mapTexts (text : Option (Localized String)) :
    localText (text.map (f String)) locale' = localText text locale :=
  map_resolve_mapTexts h text

theorem infoOf_mapTexts (api : Api) : infoOf (api.mapTexts f) locale' = infoOf api locale := by
  simp only [infoOf, Api.mapTexts, localText_mapTexts h]

theorem serversOf_mapTexts (api : Api) :
    serversOf (api.mapTexts f) locale' = serversOf api locale := by
  simp only [serversOf, Api.mapTexts, Server.mapTexts, Host.mapTexts, List.flatMap_map,
    localText_mapTexts h]

theorem ofAttribute_mapOwnTexts (wildcards : List String) (a : Attribute) :
    Parameter.ofAttribute wildcards locale' (a.mapOwnTexts f) =
      Parameter.ofAttribute wildcards locale a := by
  show { Parameter.ofAttribute wildcards locale a with
    description := localText (a.description.map (f String)) locale'
    example? := (a.example?.map (f Json)).map fun v : Localized Json => v.resolve locale' } = _
  rw [localText_mapTexts h, map_resolve_mapTexts h]
  rfl

/-- The texts inside the types do not show at all, since a schema has none. -/
theorem classify_mapTexts (as : List Attribute) (path : String) :
    classify (Attribute.mapAllTexts f as) path locale' = classify as path locale := by
  have hschema : ∀ a : Attribute, Schema.ofType (a.type.revise (some ∘ Attribute.mapOwnTexts f)) =
      Schema.ofType a.type := fun a =>
    Schema.ofType_revise (g := Attribute.mapOwnTexts f) (fun _ => rfl) (fun _ => rfl)
      (fun _ => rfl) a.type
  rw [classify, classify, Attribute.mapAllTexts, Attribute.reviseAll_eq_map, List.filter_map,
    List.map_map]
  refine List.map_congr_left fun a _ => ?_
  refine (ofAttribute_mapOwnTexts h _ _).trans ?_
  exact (ofAttribute_reviseType_eq_iff _ _ locale a).2 (hschema a)

theorem schemesAlike_mapTexts (s : SecurityScheme) :
    SchemesAlike locale locale' s (s.mapTexts f) where
  kind := rfl
  scopes := rfl
  component := by
    intro required
    have hdescription : localText (s.mapTexts f).description locale' =
        localText s.description locale := localText_mapTexts h s.description
    unfold renderScheme
    rw [hdescription]
    rfl

end Reading

end OpenApi

/-! ### Designs with other texts -/

/-- The route with the texts of its service and its method replaced. -/
def RouteEntry.mapTexts (f : TextChange) (e : RouteEntry) : RouteEntry :=
  ⟨e.service.mapTexts f, e.method.mapTexts f, e.route⟩

theorem Design.routes_mapTexts (f : TextChange) (d : Design) :
    (d.mapTexts f).routes = d.routes.map (RouteEntry.mapTexts f) := by
  simp only [routes, mapTexts, Service.mapTexts, Method.mapTexts, List.flatMap_map, List.map_flatMap,
    List.map_map, Function.comp_def, RouteEntry.mapTexts]

theorem SchemeRegistry.get?_mapTexts (f : TextChange) (r : SchemeRegistry) (name : String) :
    (r.mapTexts f).get? name = (r.get? name).map (SecurityScheme.mapTexts f) := by
  rw [get?, get?, mapTexts, List.find?_map]
  rfl

theorem Method.payloadAttributes_mapTexts (f : TextChange) (m : Method) :
    (m.mapTexts f).payloadAttributes = Attribute.mapAllTexts f m.payloadAttributes := by
  rw [payloadAttributes, payloadAttributes, mapTexts]
  cases m.payload <;> rfl

namespace OpenApi

variable {f : TextChange} {locale locale' : String}

/-- Texts that read the same do not show in any part of a design. -/
theorem designsAlike_mapTexts
    (h : ∀ (α : Type) (v : Localized α), (f α v).resolve locale' = v.resolve locale) (d : Design) :
    DesignsAlike locale locale' d (d.mapTexts f) (RouteEntry.mapTexts f) where
  info := infoOf_mapTexts h d.api
  servers := serversOf_mapTexts h d.api
  routes := d.routes_mapTexts f
  route := fun _ _ => rfl
  operation := by
    intro e _ security
    have hdescription : localText (e.mapTexts f).method.description locale' =
        localText e.method.description locale := localText_mapTexts h e.method.description
    have hparameters : classify (e.mapTexts f).method.payloadAttributes e.route.path locale' =
        classify e.method.payloadAttributes e.route.path locale := by
      rw [← classify_mapTexts h, ← Method.payloadAttributes_mapTexts]
      rfl
    show Operation.mk e.operationId (localText (e.mapTexts f).method.description locale')
      (classify (e.mapTexts f).method.payloadAttributes e.route.path locale') .empty security = _
    rw [hdescription, hparameters]
    rfl
  security := fun _ _ => rfl
  schemes := by
    intro name _
    rw [AlikeAt, Design.mapTexts, SchemeRegistry.get?_mapTexts]
    cases d.schemes.get? name with
    | none => exact .none
    | some s => exact .some (schemesAlike_mapTexts h s)

/-- **Localization commutes with assembly.**  The document of a locale, or the error, is that of the
design with the plain values for this locale, whatever locale that is assembled for.  If nothing is
translated for the locale, it is that of the design with the default values. -/
theorem localization_commutes (d : Design) (locale locale' : String) :
    assemble d locale = assemble (d.project locale) locale' ∧
      (locale ∉ d.locales → assemble d locale = assemble d.defaults locale') := by
  have hproject : assemble (d.project locale) locale' = assemble d locale :=
    assemble_alike (designsAlike_mapTexts (fun _ v => Localized.resolve_plain _ locale') d)
  refine ⟨hproject.symm, fun hnone => ?_⟩
  rw [← Design.project_eq_defaults hnone, hproject]

/-- A museum that is described in English, in parts also in Dutch and in German. -/
def museumDeclarations : List Declaration :=
  [.api [.title ((Localized.plain "Museum").withTranslation "nl" "Het museum")],
    .service "museum" (.single (.method "find" (.all [
      .single (.description (.plain "Find works")),
      .single (.payload [
        .add { Attribute.ofType "painter" (.primitive .string) with
          description := some ((Localized.plain "The painter").withTranslation "de" "Malerin") }]),
      .single (.route .get "/works")])))]

/-- The design of the museum. -/
def museum : Design := ((Builder.start "museum").declareAll museumDeclarations).design

/-- The Dutch document has the Dutch title, also if the German one is asked for after the Dutch texts
were chosen; the French one has the English texts. -/
theorem museum_localized :
    (∃ doc, assemble museum "nl" = .ok (some doc) ∧ doc.info.title = "Het museum" ∧
      assemble (museum.project "nl") "de" = .ok (some doc)) ∧
    "fr" ∉ museum.locales ∧
    ∃ doc, assemble museum "fr" = .ok (some doc) ∧ doc.info.title = "Museum" ∧
      assemble museum.defaults "de" = .ok (some doc) := by
  have hnone : "fr" ∉ museum.locales := by decide
  refine ⟨?_, hnone, ?_⟩
  · obtain ⟨doc, hdoc, htitle⟩ : ∃ doc, assemble museum "nl" = .ok (some doc) ∧
        doc.info.title = "Het museum" := ⟨_, rfl, rfl⟩
    exact ⟨doc, hdoc, htitle, (localization_commutes museum "nl" "de").1 ▸ hdoc⟩
  · obtain ⟨doc, hdoc, htitle⟩ : ∃ doc, assemble museum "fr" = .ok (some doc) ∧
        doc.info.title = "Museum" := ⟨_, rfl, rfl⟩
    exact ⟨doc, hdoc, htitle, (localization_commutes museum "fr" "de").2 hnone ▸ hdoc⟩

end OpenApi

end ApiDesign
