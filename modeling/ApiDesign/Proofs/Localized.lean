import ApiDesign.Json.Reader
import ApiDesign.Proofs.Basics
import ApiDesign.Proofs.KeyMap

/-!
# Localized values and their written forms

A localized value without translations is written as its plain default, and any other as an object
in which the default has a key of its own.  The two forms overlap: a plain value may be an object
with that key, and a translation may be stored under it.  Where neither is the case the value is
read back, and only there.

* `Localized.RoundTrips` — what is read from the written form is the value;
* `Localized.default_not_mem_locales` — no value that was read has a translation under the reserved
  key;
* `Localized.roundTrips_iff` — which values are read back.
-/

namespace ApiDesign

open Decode (Fault)

variable {α : Type}

/-- What stands in an object is smaller than the object. -/
theorem Json.sizeOf_lt_of_get? {v x : Json} {key : String} (h : v.get? key = some x) :
    sizeOf x < sizeOf v := by
  cases v with
  | obj entries =>
    have hmem : (key, x) ∈ entries := Entries.mem_of_lookup h
    have hlt := List.sizeOf_lt_of_mem hmem
    simp only [Prod.mk.sizeOf_spec] at hlt
    simp only [obj.sizeOf_spec]
    omega
  | _ => cases h

namespace Localized

variable {write : α → Json} {read : Json → Except Fault α} {v : Localized α} {x : Json}

/-- What is read from the written form of the value is the value. -/
def RoundTrips (write : α → Json) (read : Json → Except Fault α) (v : Localized α) : Prop :=
  ofJson read (v.toJson write) = .ok v

theorem not_mem_locales_iff {locale : String} :
    locale ∉ v.locales ↔ v.translations.get? locale = none := by
  rw [locales, KeyMap.mem_keys_iff, Bool.not_eq_true, Option.isSome_eq_false_iff,
    Option.isNone_iff_eq_none]

theorem locales_eq_nil_iff : v.locales = [] ↔ v.translations.isEmpty = true := by
  rw [locales, KeyMap.keys, List.map_eq_nil_iff, KeyMap.isEmpty, List.isEmpty_iff]

/-! ### Reading -/

/-- Without the reserved key a value is plain. -/
theorem ofJson_of_get?_eq_none (h : x.get? defaultKey = none) :
    ofJson read x = plain <$> read x := by
  cases x with
  | obj entries =>
    have hlookup : Entries.lookup defaultKey entries = none := h
    rw [ofJson, hlookup]
    rfl
  | _ => rfl

theorem ofJson_of_lookup {entries : List (String × Json)}
    (h : Entries.lookup defaultKey entries = some x) :
    ofJson read (.obj entries) = ofEntries read entries := by
  rw [ofJson, h]
  rfl

/-- Read entries have the keys that are written, each with the value that is read under it. -/
theorem mapM_eq_ok_iff {entries : List (String × Json)} {values : List (String × α)} :
    (entries.mapM fun e => do return (e.1, ← read e.2)) = .ok values ↔
      List.Forall₂ (fun e d => e.1 = d.1 ∧ read e.2 = .ok d.2) entries values := by
  induction entries generalizing values with
  | nil =>
    rw [List.mapM_nil, List.forall₂_nil_left_iff]
    exact ⟨fun h => (Except.ok.inj h).symm, fun h => h ▸ rfl⟩
  | cons e entries ih =>
    rw [List.mapM_cons, bind_eq_ok_iff, List.forall₂_cons_left_iff]
    constructor
    · intro h
      obtain ⟨d, hd, hrest⟩ := h
      obtain ⟨a, ha, hpair⟩ := bind_eq_ok_iff.1 hd
      obtain rfl := Except.ok.inj hpair
      obtain ⟨ds, hds, hcons⟩ := bind_eq_ok_iff.1 hrest
      exact ⟨_, ds, ⟨rfl, ha⟩, ih.1 hds, (Except.ok.inj hcons).symm⟩
    · intro h
      obtain ⟨⟨name, a⟩, ds, ⟨hname, ha⟩, hds, rfl⟩ := h
      obtain rfl : e.1 = name := hname
      exact ⟨(e.1, a), bind_eq_ok_iff.2 ⟨a, ha, rfl⟩, bind_eq_ok_iff.2 ⟨ds, ih.2 hds, rfl⟩⟩

theorem rel_lookup_of_forall₂ {entries : List (String × Json)} {values : List (String × α)}
    (h : List.Forall₂ (fun e d => e.1 = d.1 ∧ read e.2 = .ok d.2) entries values) (key : String) :
    Option.Rel (fun x a => read x = .ok a) (Entries.lookup key entries)
      (Entries.lookup key values) := by
  induction h with
  | nil => exact .none
  | @cons e d entries values hed _ ih =>
    obtain ⟨name, x⟩ := e
    obtain ⟨name', a⟩ := d
    obtain ⟨hname, ha⟩ := hed
    obtain rfl : name = name' := hname
    by_cases hkey : key = name
    · rw [Entries.lookup, Entries.lookup, if_pos hkey, if_pos hkey]
      exact .some ha
    · rw [Entries.lookup, Entries.lookup, if_neg hkey, if_neg hkey]
      exact ih

/-- The value under the reserved key is the default, and the other ones are the translations. -/
theorem ofEntries_eq_ok_iff {entries : List (String × Json)} :
    ofEntries read entries = .ok v ↔ ∃ values,
      List.Forall₂ (fun e d => e.1 = d.1 ∧ read e.2 = .ok d.2) entries values ∧
      Entries.lookup defaultKey values = some v.default ∧
      KeyMap.ofList (values.filter fun e => e.1 ≠ defaultKey) = v.translations := by
  rw [ofEntries, bind_eq_ok_iff]
  refine exists_congr fun values => ?_
  rw [mapM_eq_ok_iff]
  refine and_congr_right fun _ => ?_
  cases hlookup : Entries.lookup defaultKey values with
  | none => exact iff_of_false (by intro h; cases h) (by intro h; cases h.1)
  | some value =>
    obtain ⟨default, translations⟩ := v
    show Except.ok _ = Except.ok _ ↔ _
    rw [Except.ok.injEq, mk.injEq, Option.some.injEq]

/-- No value that is read has a translation under the reserved key. -/
theorem default_not_mem_locales (h : ofJson read x = .ok v) : defaultKey ∉ v.locales := by
  rw [not_mem_locales_iff]
  cases hkey : x.get? defaultKey with
  | none =>
    rw [ofJson_of_get?_eq_none hkey, map_eq_ok_iff] at h
    obtain ⟨a, -, rfl⟩ := h
    rfl
  | some y =>
    cases x with
    | obj entries =>
      rw [ofJson_of_lookup hkey] at h
      obtain ⟨values, -, -, htranslations⟩ := ofEntries_eq_ok_iff.1 h
      rw [← htranslations, KeyMap.get?, KeyMap.ofList, Entries.lookup_sort, ← List.filter_reverse,
        Entries.lookup_filter fun key => key ≠ defaultKey]
      rfl
    | _ => cases hkey

/-! ### Reading what was written -/

theorem toJson_of_locales_eq_nil (h : v.locales = []) : v.toJson write = write v.default := by
  rw [toJson, if_pos (locales_eq_nil_iff.1 h)]

theorem toJson_of_locales_ne_nil (h : v.locales ≠ []) :
    v.toJson write = .obj (v.withDefault.map write).entries := by
  rw [toJson, if_neg fun hempty => h (locales_eq_nil_iff.2 hempty)]

theorem withDefault_of_not_mem (h : defaultKey ∉ v.locales) :
    v.withDefault = v.translations.insert defaultKey v.default := by
  rw [withDefault, not_mem_locales_iff.1 h]

/-- Without the reserved key, the entries that are written are the translations. -/
theorem ofList_filter_withDefault (h : defaultKey ∉ v.locales) :
    KeyMap.ofList (v.withDefault.entries.filter fun e => e.1 ≠ defaultKey) = v.translations := by
  have hnodup : ((v.withDefault.entries.filter fun e => e.1 ≠ defaultKey).map Prod.fst).Nodup :=
    (Entries.nodup_keys v.withDefault.sorted).sublist (List.filter_sublist.map _)
  refine KeyMap.ext_get? fun key => ?_
  have hget : Entries.lookup key v.withDefault.entries = v.withDefault.get? key := rfl
  rw [KeyMap.get?_ofList hnodup, Entries.lookup_filter fun key => key ≠ defaultKey, hget,
    withDefault_of_not_mem h, KeyMap.get?_insert]
  by_cases hkey : key = defaultKey
  · rw [hkey, not_mem_locales_iff.1 h]
    rfl
  · simp [hkey]

/-- With translations, none of which is stored under the reserved key, a value is read back. -/
theorem roundTrips_of_locales_ne_nil (hread : ∀ a, read (write a) = .ok a) (hv : v.locales ≠ [])
    (h : defaultKey ∉ v.locales) : v.RoundTrips write read := by
  have hdefault : v.withDefault.get? defaultKey = some v.default := by
    rw [withDefault_of_not_mem h, KeyMap.get?_insert, if_pos rfl]
  have hlookup : Entries.lookup defaultKey (v.withDefault.map write).entries =
      some (write v.default) := by
    have hmap := KeyMap.get?_map write v.withDefault defaultKey
    rwa [hdefault] at hmap
  have hvalues : List.Forall₂ (fun e d => e.1 = d.1 ∧ read e.2 = .ok d.2)
      (v.withDefault.map write).entries v.withDefault.entries := by
    show List.Forall₂ _ (v.withDefault.entries.map fun e => (e.1, write e.2)) _
    rw [List.forall₂_map_left_iff, List.forall₂_same]
    exact fun e _ => ⟨rfl, hread e.2⟩
  rw [RoundTrips, toJson_of_locales_ne_nil hv, ofJson_of_lookup hlookup, ofEntries_eq_ok_iff]
  exact ⟨v.withDefault.entries, hvalues, hdefault, ofList_filter_withDefault h⟩

/-- A plain value is read back unless it has the reserved key: then a part of it is taken for the
whole. -/
theorem roundTrips_iff_of_locales_eq_nil (hread : ∀ x a, read x = .ok a ↔ write a = x)
    (hv : v.locales = []) : v.RoundTrips write read ↔ (write v.default).get? defaultKey = none := by
  have hplain : plain v.default = v := by
    obtain ⟨default, translations⟩ := v
    rw [plain, ← KeyMap.eq_empty_of_isEmpty (locales_eq_nil_iff.1 hv)]
  rw [RoundTrips, toJson_of_locales_eq_nil hv]
  constructor
  · intro h
    cases hkey : (write v.default).get? defaultKey with
    | none => rfl
    | some y =>
      -- The part under the reserved key would have to be the whole, and it is smaller.
      exfalso
      cases hx : write v.default with
      | obj entries =>
        rw [hx] at h hkey
        rw [ofJson_of_lookup hkey] at h
        obtain ⟨values, hvalues, hdefault, -⟩ := ofEntries_eq_ok_iff.1 h
        have hrel := rel_lookup_of_forall₂ hvalues defaultKey
        have hlookup : Entries.lookup defaultKey entries = some y := hkey
        rw [hlookup, hdefault, Option.rel_some_some, hread, hx] at hrel
        have hlt := Json.sizeOf_lt_of_get? hkey
        rw [hrel] at hlt
        exact Nat.lt_irrefl _ hlt
      | _ =>
        rw [hx] at hkey
        cases hkey
  · intro hkey
    rw [ofJson_of_get?_eq_none hkey, (hread _ _).2 rfl]
    exact congrArg Except.ok hplain

/-- A value is read back exactly if no translation is stored under the reserved key and, without any
translation, the default is no object with that key. -/
theorem roundTrips_iff (hread : ∀ x a, read x = .ok a ↔ write a = x) :
    v.RoundTrips write read ↔
      defaultKey ∉ v.locales ∧ (v.locales = [] → (write v.default).get? defaultKey = none) := by
  constructor
  · intro h
    exact ⟨default_not_mem_locales h, fun hv => (roundTrips_iff_of_locales_eq_nil hread hv).1 h⟩
  · intro ⟨hkey, hplain⟩
    by_cases hv : v.locales = []
    · exact (roundTrips_iff_of_locales_eq_nil hread hv).2 (hplain hv)
    · exact roundTrips_of_locales_ne_nil (fun a => (hread _ _).2 rfl) hv hkey

/-! ### Texts and JSON values -/

theorem readText_eq_ok_iff (x : Json) (s : String) : Json.readText x = .ok s ↔ .str s = x := by
  cases x with
  | str t =>
    rw [Json.str.injEq]
    exact ⟨fun h => (Except.ok.inj h).symm, fun h => h ▸ rfl⟩
  | _ => exact iff_of_false (by intro h; cases h) (by intro h; cases h)

theorem text_roundTrips_iff {v : Localized String} :
    v.RoundTrips .str Json.readText ↔ defaultKey ∉ v.locales := by
  rw [roundTrips_iff readText_eq_ok_iff]
  exact and_iff_left fun _ => rfl

theorem json_roundTrips_iff {v : Localized Json} :
    v.RoundTrips id .ok ↔
      defaultKey ∉ v.locales ∧ (v.locales = [] → v.default.get? defaultKey = none) :=
  roundTrips_iff fun _ _ => ⟨Except.ok.inj ∘ Eq.symm, fun h => h ▸ rfl⟩

end Localized

end ApiDesign
