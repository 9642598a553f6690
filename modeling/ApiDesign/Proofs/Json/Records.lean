import ApiDesign.Decode.Model
import ApiDesign.Json.Reader
import ApiDesign.Proofs.Decode.Yields

/-!
# Reading records from JSON

An object that has the fields of a record in order, of which some may be left out, is read as what
the fields make of the initial record, one after the other.

* `Json.Reader.list_map_eq_ok_iff`, `Json.Reader.choice_name` — lists and names are read back;
* `Json.Reader.Written` — the entries of an object are those of the fields of a record;
* `Json.Reader.record_of_written` — such an object is read;
* `Json.Reader.Yields` — a condition on whatever is read, with its laws.
-/

namespace ApiDesign

namespace Json.Reader

open Decode

variable {α β : Type}

/-! ### Lists and names -/

theorem mapM_map_eq_ok_iff {ε : Type} {read : β → Except ε α} {write : α → β} {as : List α} :
    (as.map write).mapM read = .ok as ↔ ∀ a ∈ as, read (write a) = .ok a := by
  induction as with
  | nil => exact iff_of_true rfl (List.forall_mem_nil _)
  | cons a as ih =>
    rw [List.map_cons, List.mapM_cons, bind_eq_ok_iff, List.forall_mem_cons, ← ih]
    constructor
    · rintro ⟨b, hb, hrest⟩
      obtain ⟨bs, hbs, hcons⟩ := bind_eq_ok_iff.1 hrest
      obtain ⟨rfl, rfl⟩ := List.cons.inj (Except.ok.inj hcons)
      exact ⟨hb, hbs⟩
    · rintro ⟨ha, has⟩
      exact ⟨a, ha, bind_eq_ok_iff.2 ⟨as, has, rfl⟩⟩

theorem forall_mem_of_mapM {ε : Type} {read : β → Except ε α} {P : α → Prop}
    (h : ∀ v a, read v = .ok a → P a) {items : List β} {as : List α}
    (has : items.mapM read = .ok as) : ∀ a ∈ as, P a := by
  induction items generalizing as with
  | nil =>
    obtain rfl := Except.ok.inj has
    exact List.forall_mem_nil P
  | cons v items ih =>
    rw [List.mapM_cons] at has
    obtain ⟨a, ha, hrest⟩ := bind_eq_ok_iff.1 has
    obtain ⟨rest, hitems, hcons⟩ := bind_eq_ok_iff.1 hrest
    obtain rfl := Except.ok.inj hcons
    exact List.forall_mem_cons.2 ⟨h v a ha, ih hitems⟩

/-- A list is read back exactly if every item is. -/
theorem list_map_eq_ok_iff {read : Reader α} {write : α → Json} {as : List α} :
    list read (.arr (as.map write)) = .ok as ↔ ∀ a ∈ as, read (write a) = .ok a :=
  mapM_map_eq_ok_iff

/-- Where the names are different, each of them is read as what it names. -/
theorem choice_name {name : α → String} {all : List α} (hall : (all.map name).Nodup) {a : α}
    (ha : a ∈ all) : choice (named name all) (.str (name a)) = .ok a := by
  have hfind : (named name all).find? (·.1 = name a) = some (name a, a) := by
    rw [named, List.find?_map]
    show (all.find? fun b => name b = name a).map _ = _
    rw [find?_key_of_mem hall ha]
    rfl
  simp only [choice, readVariant, bind, Except.bind, hfind]
  rfl

/-! ### Objects -/

/-- The entries are those of the fields, in order, and make one record of another.  A field that may
be left out has no entry then, and changes nothing. -/
inductive Written : List (Field Reader α) → List (String × Json) → α → α → Prop where
  | nil (a : α) : Written [] [] a a
  | entry {field : Field Reader α} {fields : List (Field Reader α)} {value : Json}
    {entries : List (String × Json)} {change : α → α} {a b : α}
    (hread : field.read value = .ok change) (h : Written fields entries (change a) b) :
    Written (field :: fields) ((field.name, value) :: entries) a b
  | leftOut {field : Field Reader α} {fields : List (Field Reader α)}
    {entries : List (String × Json)} {a b : α} (hfield : field.required = false)
    (h : Written fields entries a b) : Written (field :: fields) entries a b

variable {r : RecordFormat Reader α} {fields : List (Field Reader α)}
  {entries : List (String × Json)} {f : Filling α} {a b : α}

theorem select_of_mem (hr : r.names.Nodup) {field : Field Reader α} (h : field ∈ r.fields) :
    r.select field.name = .ok (.field field) := by
  rw [RecordFormat.select, find?_key_of_mem (f := Field.name) hr h]

/-- One more entry is filled in. -/
theorem fill_entry (hr : r.names.Nodup) {field : Field Reader α} (hfield : field ∈ r.fields)
    {value : Json} {change : α → α} (hread : field.read value = .ok change)
    (hnew : field.name ∉ f.names) :
    fill r f ((field.name, value) :: entries) = fill r (f.fill field.name change) entries := by
  rw [fill, select_of_mem hr hfield]
  show (if f.names.contains field.name then _ else _) = _
  rw [if_neg (by simpa using hnew), hread]
  rfl

/-- After the fields before them, the other fields are filled in. -/
theorem fill_of_written (before : List (Field Reader α)) (hr : r.names.Nodup)
    (h : Written fields entries a b) (hfields : r.fields = before ++ fields) (hvalue : f.value = a)
    (hknown : ∀ name ∈ f.names, name ∈ before.map (·.name))
    (hneeded : ∀ field ∈ before, field.required = true → field.name ∈ f.names) :
    ∃ filled, fill r f entries = .ok filled ∧ filled.value = b ∧
      ∀ field ∈ r.fields, field.required = true → field.name ∈ filled.names := by
  induction h generalizing before f with
  | nil a =>
    rw [List.append_nil] at hfields
    rw [← hfields] at hneeded
    exact ⟨f, rfl, hvalue, hneeded⟩
  | @entry field fields value entries change a b hread h ih =>
    have hmem : field ∈ r.fields := by simp [hfields]
    have hnew : field.name ∉ f.names := by
      intro hname
      have hnodup := hr
      rw [RecordFormat.names, hfields, List.map_append, List.nodup_append] at hnodup
      exact hnodup.2.2 _ (hknown _ hname) _ List.mem_cons_self rfl
    rw [fill_entry hr hmem hread hnew]
    refine ih (before ++ [field]) (by simp [hfields]) (congrArg change hvalue) ?_ ?_
    · intro name hname
      rw [List.map_append, List.mem_append]
      rcases List.mem_cons.1 hname with rfl | hname
      · exact .inr List.mem_cons_self
      · exact .inl (hknown name hname)
    · exact forall_mem_concat
        (fun other hother hrequired => List.mem_cons_of_mem _ (hneeded other hother hrequired))
        fun _ => List.mem_cons_self
  | @leftOut field fields entries a b hfield h ih =>
    refine ih (before ++ [field]) (by simp [hfields]) hvalue ?_ ?_
    · intro name hname
      rw [List.map_append, List.mem_append]
      exact .inl (hknown name hname)
    · refine forall_mem_concat hneeded fun hrequired => ?_
      rw [hfield] at hrequired
      cases hrequired

/-- What the fields of a record make of the initial record is read. -/
theorem record_of_written (hr : r.names.Nodup) (h : Written r.fields entries r.initial b) :
    record r (.obj entries) = .ok b := by
  obtain ⟨filled, hfill, rfl, hneeded⟩ := fill_of_written [] (f := .start r) hr h rfl rfl
    (List.forall_mem_nil _) (List.forall_mem_nil _)
  have hfind : (r.fields.find? fun field => field.required && !filled.names.contains field.name) =
      none := by
    rw [List.find?_eq_none]
    intro field hfield hmissing
    rw [Bool.and_eq_true] at hmissing
    have hname := hneeded field hfield hmissing.1
    simp [hname] at hmissing
  show (do (← fill r (.start r) entries).finish r) = _
  rw [hfill]
  show filled.finish r = _
  rw [Filling.finish, hfind]

/-! ### What is read -/

/-- Every value that the reader gives satisfies the condition. -/
def Yields (read : Reader α) (P : α → Prop) : Prop := ∀ v a, read v = .ok a → P a

variable {P : α → Prop} {Q : β → Prop}

theorem yields_map {read : Reader β} {f : β → α} (h : Yields read Q) (hf : ∀ b, Q b → P (f b)) :
    Yields (f <$> read : Reader α) P := by
  intro v a ha
  obtain ⟨b, hb, rfl⟩ := map_eq_ok_iff.1 (show f <$> read v = .ok a from ha)
  exact hf b (h v b hb)

theorem yields_option {read : Reader α} (h : Yields read P) :
    Yields (option read) fun x => ∀ a ∈ x, P a := by
  have hsome (v : Json) (x : Option α) (hx : some <$> read v = .ok x) : ∀ a ∈ x, P a := by
    obtain ⟨b, hb, rfl⟩ := map_eq_ok_iff.1 hx
    intro a ha
    obtain rfl := Option.some.inj ha
    exact h v b hb
  intro v x hx
  cases v with
  | null =>
    obtain rfl := Except.ok.inj hx
    exact forall_mem_none P
  | _ => exact hsome _ x hx

theorem yields_list {read : Reader α} (h : Yields read P) :
    Yields (list read) fun as => ∀ a ∈ as, P a := by
  intro v as has
  cases v with
  | arr items => exact forall_mem_of_mapM h has
  | _ => cases has

theorem value_of_fill
    (hfields : ∀ f ∈ r.fields, Yields f.read fun change => ∀ a, P a → P (change a))
    (hf : P f.value) {filled : Filling α} (h : fill r f entries = .ok filled) :
    P filled.value := by
  induction entries generalizing f with
  | nil =>
    obtain rfl := Except.ok.inj h
    exact hf
  | cons e entries ih =>
    obtain ⟨key, value⟩ := e
    obtain ⟨selected, hselected, h⟩ := bind_eq_ok_iff.1 h
    cases selected with
    | ignored => exact ih hf h
    | field field =>
      replace h : (if f.names.contains key then throw (.duplicateField key) else do
        fill r (f.fill key (← field.read value)) entries) = .ok filled := h
      split at h
      · cases h
      · obtain ⟨change, hchange, h⟩ := bind_eq_ok_iff.1 h
        exact ih (hfields field (mem_fields_of_select hselected) value change hchange _ hf) h

theorem value_of_fillInOrder {length number : Nat} {fields : List (Field Reader α)}
    (hfields : ∀ f ∈ fields, Yields f.read fun change => ∀ a, P a → P (change a))
    {values : List Json} (hf : P f.value) {filled : Filling α}
    (h : fillInOrder r length f number fields values = .ok filled) : P filled.value := by
  induction fields generalizing f number values with
  | nil =>
    cases values with
    | nil =>
      obtain rfl := Except.ok.inj h
      exact hf
    | cons v values => cases h
  | cons field fields ih =>
    obtain ⟨hfield, hrest⟩ := List.forall_mem_cons.1 hfields
    cases values with
    | nil =>
      rw [fillInOrder] at h
      split at h
      · cases h
      · exact ih hrest hf h
    | cons v values =>
      obtain ⟨change, hchange, h⟩ := bind_eq_ok_iff.1 h
      exact ih hrest (hfield v change hchange _ hf) h

theorem yields_record (hinitial : P r.initial)
    (hfields : ∀ f ∈ r.fields, Yields f.read fun change => ∀ a, P a → P (change a)) :
    Yields (record r) P := by
  intro v a ha
  cases v with
  | obj entries =>
    obtain ⟨filled, hfill, hfinish⟩ := bind_eq_ok_iff.1 ha
    rw [← Filling.value_of_finish hfinish]
    exact value_of_fill hfields hinitial hfill
  | arr values =>
    obtain ⟨filled, hfill, hfinish⟩ := bind_eq_ok_iff.1 ha
    rw [← Filling.value_of_finish hfinish]
    exact value_of_fillInOrder hfields hinitial hfill
  | _ => cases ha

instance : Promises Reader where
  Yields := Yields
  any _ _ _ _ := trivial
  map := yields_map
  option := yields_option
  list := yields_list
  localizedText h := h
  localizedJson h := h
  record := yields_record

end Json.Reader

end ApiDesign
