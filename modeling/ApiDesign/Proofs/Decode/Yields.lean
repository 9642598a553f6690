import ApiDesign.Proofs.Basics
import ApiDesign.Yaml.Value

/-!
# What readers give

What is known of the values that a reader gives is put together as the reader is: from its parts.  A
record satisfies a condition if its initial value does and every field keeps it, whatever the order
in which the fields are found.

* `Decode.Promises` — a kind of readers with the laws for conditions on values;
* `Decode.Field.Keeps` — the field keeps a condition on records;
* the instances for the readers of trees and of values.
-/

namespace ApiDesign

namespace Decode

/-- A kind of readers, with conditions that hold of every value that a reader gives. -/
class Promises (R : Type → Type) [Source R] where
  /-- Every value that the reader gives satisfies the condition. -/
  Yields : {α : Type} → R α → (α → Prop) → Prop
  any {α : Type} (read : R α) : Yields read fun _ => True
  map {α β : Type} {read : R α} {P : α → Prop} {Q : β → Prop} {f : α → β} (h : Yields read P)
    (hf : ∀ a, P a → Q (f a)) : Yields (f <$> read) Q
  option {α : Type} {read : R α} {P : α → Prop} (h : Yields read P) :
    Yields (Source.option read) fun x => ∀ a ∈ x, P a
  list {α : Type} {read : R α} {P : α → Prop} (h : Yields read P) :
    Yields (Source.list read) fun as => ∀ a ∈ as, P a
  localizedText {P : Localized String → Prop}
    (h : ∀ x v, Localized.ofJson Json.readText x = .ok v → P v) :
    Yields (Source.localizedText (R := R)) P
  localizedJson {P : Localized Json → Prop} (h : ∀ x v, Localized.ofJson .ok x = .ok v → P v) :
    Yields (Source.localizedJson (R := R)) P
  record {α : Type} {r : RecordFormat R α} {P : α → Prop} (hinitial : P r.initial)
    (hfields : ∀ f ∈ r.fields, Yields f.read fun change => ∀ a, P a → P (change a)) :
    Yields (Source.record r) P

open Promises

/-- An absent value satisfies every condition on what is there. -/
theorem forall_mem_none {α : Type} (P : α → Prop) : ∀ a ∈ (none : Option α), P a :=
  fun a ha => absurd ha (Option.not_mem_none a)

section Fields

variable {R : Type → Type} [Source R] [Promises R] {α β : Type} {P : α → Prop} {Q : β → Prop}
  {name : String} {read : R β} {set : β → α → α}

/-- The field keeps a condition on records. -/
def Field.Keeps (P : α → Prop) (f : Field R α) : Prop :=
  Yields f.read fun change => ∀ a, P a → P (change a)

theorem Field.keeps_needed (hread : Yields read Q) (hset : ∀ v, Q v → ∀ a, P a → P (set v a)) :
    (Field.needed name read set).Keeps P :=
  map hread hset

theorem Field.keeps_optional (hread : Yields read Q) (hset : ∀ v, Q v → ∀ a, P a → P (set v a)) :
    (Field.optional name read set).Keeps P :=
  map hread hset

end Fields

theorem mem_fields_of_select {R : Type → Type} {α : Type} {r : RecordFormat R α} {key : String}
    {f : Field R α} (h : r.select key = .ok (.field f)) : f ∈ r.fields := by
  unfold RecordFormat.select at h
  split at h
  · rename_i field hfind
    cases h
    exact List.mem_of_find?_eq_some hfind
  · split at h <;> cases h

theorem Filling.value_of_finish {R : Type → Type} {α : Type} {f : Filling α}
    {r : RecordFormat R α} {a : α} (h : f.finish r = .ok a) : f.value = a := by
  unfold Filling.finish at h
  split at h
  · cases h
  · exact Except.ok.inj h

end Decode

namespace Yaml

open Decode

variable {α β : Type} {P : α → Prop} {Q : β → Prop} {p : Place} {t : Tree}

/-! ### Outcomes of reading -/

namespace Reading

/-- Every value that comes of the reading satisfies the condition. -/
def Gives (x : Reading α) (P : α → Prop) : Prop :=
  ∀ left value left', x left = .ok (value, left') → P value

theorem gives_any (x : Reading α) : Gives x fun _ => True := fun _ _ _ _ => trivial

theorem gives_pure {a : α} (h : P a) : Gives (pure a) P := by
  intro left value left' hvalue
  obtain rfl : a = value := (Prod.mk.inj (Except.ok.inj hvalue)).1
  exact h

theorem gives_throw (e : ReadError) : Gives (throw e : Reading α) P := by
  intro left value left' hvalue
  cases hvalue

theorem gives_bind {x : Reading β} {f : β → Reading α} (hx : Gives x Q)
    (hf : ∀ b, Q b → Gives (f b) P) : Gives (x >>= f) P := by
  intro left value left' hvalue
  obtain ⟨⟨b, middle⟩, hb, hrest⟩ := exists_of_bind_ok hvalue
  exact hf b (hx left b middle hb) middle value left' hrest

theorem gives_map {x : Reading β} {f : β → α} (hx : Gives x Q) (hf : ∀ b, Q b → P (f b)) :
    Gives (f <$> x) P := by
  rw [map_eq_pure_bind]
  exact gives_bind hx fun b hb => gives_pure (hf b hb)

theorem gives_locate {x : Reading α} (hx : Gives x P) : Gives (p.locate x) P := by
  intro left value left' hvalue
  cases hx' : x left with
  | error e =>
    rw [Place.locate, hx'] at hvalue
    cases hvalue
  | ok outcome =>
    rw [Place.locate, hx'] at hvalue
    obtain rfl := Except.ok.inj hvalue
    exact hx left value left' hx'

theorem gives_settle {outcome : Except Fault α} (h : ∀ a, outcome = .ok a → P a) :
    Gives (p.settle outcome) P := by
  cases outcome with
  | error fault => exact gives_throw _
  | ok a => exact gives_pure (h a rfl)

theorem gives_settleUnplaced {format : Decode.Format} {outcome : Except Fault α}
    (h : ∀ a, outcome = .ok a → P a) : Gives (settleUnplaced format outcome) P := by
  cases outcome with
  | error fault => exact gives_throw _
  | ok a => exact gives_pure (h a rfl)

theorem gives_mismatch (expected : String) : Gives (Reader.mismatch p t expected) P := by
  cases t with
  | scalar s => exact gives_bind (gives_any _) fun _ _ => gives_throw _
  | _ => exact gives_throw _

end Reading

open Reading

/-! ### Readers of trees -/

namespace Reader

/-- Every value that the reader gives satisfies the condition, wherever the tree stands. -/
def Yields (read : Reader α) (P : α → Prop) : Prop := ∀ p t, Gives (read p t) P

theorem yields_followed {read : Reader α} (h : Yields read P) : Yields (followed read) P := by
  intro p t
  unfold followed
  split
  · exact gives_bind (gives_any _) fun _ _ => h p _
  · exact h p _

theorem yields_option {read : Reader α} (h : Yields read P) :
    Yields (option read) fun x => ∀ a ∈ x, P a := by
  have hsome (p : Place) (t : Tree) : Gives (some <$> read p t) fun x => ∀ a ∈ x, P a := by
    refine gives_map (h p t) fun a ha b hb => ?_
    obtain rfl := Option.some.inj hb
    exact ha
  have hnone : Gives (pure (none : Option α)) fun x => ∀ a ∈ x, P a :=
    gives_pure (forall_mem_none P)
  refine yields_followed fun p t => ?_
  cases t with
  | scalar s =>
    refine gives_bind (gives_any _) fun absent _ => ?_
    cases absent with
    | true => exact hnone
    | false => exact hsome p _
  | absent => exact hnone
  | _ => exact hsome p _

theorem gives_items {read : Reader α} (h : Yields read P) (number : Nat) (ts : List Tree) :
    Gives (items read p number ts) fun as => ∀ a ∈ as, P a := by
  induction ts generalizing number with
  | nil => exact gives_pure (List.forall_mem_nil P)
  | cons t ts ih =>
    refine gives_bind (h _ t) fun a ha => gives_bind (ih _) fun as has => gives_pure ?_
    exact List.forall_mem_cons.2 ⟨ha, has⟩

theorem yields_list {read : Reader α} (h : Yields read P) :
    Yields (list read) fun as => ∀ a ∈ as, P a := by
  have hnil : Gives (pure ([] : List α)) fun as => ∀ a ∈ as, P a :=
    gives_pure (List.forall_mem_nil P)
  refine yields_followed fun p t => ?_
  cases t with
  | sequence tag ts => exact gives_locate (gives_bind (gives_any _) fun p' _ => gives_items h 0 ts)
  | scalar s =>
    show Gives (if s.isOmitted then pure [] else _) _
    split
    · exact hnil
    · exact gives_mismatch _
  | absent => exact hnil
  | _ => exact gives_mismatch _

/-- What every field keeps is kept, in whatever order they are found. -/
theorem gives_fill {r : RecordFormat Reader α}
    (hfields : ∀ f ∈ r.fields, Yields f.read fun change => ∀ a, P a → P (change a))
    (entries : List (Tree × Tree)) {f : Filling α} (hf : P f.value) :
    Gives (fill r p f entries) fun f => P f.value := by
  induction entries generalizing f with
  | nil => exact gives_pure hf
  | cons e entries ih =>
    refine gives_bind (gives_any _) fun name _ =>
      gives_bind (gives_settle (P := fun selected => r.select name = .ok selected) fun _ h => h)
        fun selected hselected => ?_
    cases selected with
    | ignored => exact ih hf
    | field field =>
      show Gives (if f.names.contains name then _ else _) _
      split
      · exact gives_throw _
      · have hread := hfields field (mem_fields_of_select hselected)
        exact gives_bind (hread _ _) fun change hchange => ih (hchange f.value hf)

theorem yields_record {r : RecordFormat Reader α} (hinitial : P r.initial)
    (hfields : ∀ f ∈ r.fields, Yields f.read fun change => ∀ a, P a → P (change a)) :
    Yields (record r) P := by
  have hentries (p : Place) (entries : List (Tree × Tree)) : Gives (recordFrom r p entries) P := by
    refine gives_bind (gives_fill hfields entries hinitial) fun f hf => gives_settle fun a ha => ?_
    rwa [← Filling.value_of_finish ha]
  refine yields_followed fun p t => ?_
  cases t with
  | mapping tag entries => exact gives_locate (gives_bind (gives_any _) fun p' _ => hentries p' _)
  | scalar s =>
    show Gives (if s.isOmitted then recordFrom r p [] else _) _
    split
    · exact hentries p []
    · exact gives_mismatch _
  | absent => exact hentries p []
  | _ => exact gives_mismatch _

theorem yields_localized {read : Json → Except Fault α} {P : Localized α → Prop}
    (h : ∀ x v, Localized.ofJson read x = .ok v → P v) : Yields (localized read) P :=
  fun _ _ => gives_bind (gives_any _) fun x _ => gives_settleUnplaced (h x)

end Reader

instance : Promises Reader where
  Yields := Reader.Yields
  any _ _ _ := gives_any _
  map h hf p t := gives_map (h p t) hf
  option := Reader.yields_option
  list := Reader.yields_list
  localizedText := Reader.yields_localized
  localizedJson := Reader.yields_localized
  record := Reader.yields_record

/-! ### Readers of values -/

namespace Matcher

/-- Every value that the reader gives satisfies the condition. -/
def Yields (read : Matcher α) (P : α → Prop) : Prop := ∀ v, ∀ a ∈ read v, P a

theorem forall_mem_bind {x : Option β} {f : β → Option α} (h : ∀ b ∈ x, ∀ a ∈ f b, P a) :
    ∀ a ∈ x >>= f, P a := by
  intro a ha
  obtain ⟨b, hb, hf⟩ := Option.bind_eq_some_iff.1 ha
  exact h b hb a hf

theorem forall_mem_map {x : Option β} {f : β → α} (h : ∀ b ∈ x, P (f b)) : ∀ a ∈ f <$> x, P a := by
  intro a ha
  obtain ⟨b, hb, rfl⟩ := Option.map_eq_some_iff.1 ha
  exact h b hb

theorem forall_mem_toOption {outcome : Except Fault α} (h : ∀ a, outcome = .ok a → P a) :
    ∀ a ∈ outcome.toOption, P a := by
  intro a ha
  cases outcome with
  | error fault => cases ha
  | ok b =>
    obtain rfl := Option.some.inj ha
    exact h b rfl

theorem yields_option {read : Matcher α} (h : Yields read P) :
    Yields (Source.option read) fun x => ∀ a ∈ x, P a := by
  have hsome (v : Value) : ∀ x ∈ some <$> read v, ∀ a ∈ x, P a := by
    refine forall_mem_map fun b hb a ha => ?_
    obtain rfl := Option.some.inj ha
    exact h v b hb
  intro v
  cases v with
  | null =>
    intro x hx
    obtain rfl := Option.some.inj hx
    exact forall_mem_none P
  | _ => exact hsome _

theorem yields_list {read : Matcher α} (h : Yields read P) :
    Yields (Source.list read) fun as => ∀ a ∈ as, P a := by
  have hitems (read : Value → Option α) (h : ∀ v, ∀ a ∈ read v, P a) (values : List Value) :
      ∀ as ∈ values.mapM read, ∀ a ∈ as, P a := by
    induction values with
    | nil =>
      intro as has
      obtain rfl := Option.some.inj has
      exact List.forall_mem_nil P
    | cons v values ih =>
      rw [List.mapM_cons]
      refine forall_mem_bind fun a ha => forall_mem_bind fun as has => ?_
      intro all hall
      obtain rfl := Option.some.inj hall
      exact List.forall_mem_cons.2 ⟨h v a ha, ih as has⟩
  intro v
  cases v with
  | sequence values => exact hitems read h values
  | _ =>
    intro as has
    cases has

theorem mem_fields_of_select {r : RecordFormat Matcher α} {key : Value} {f : Field Matcher α}
    (h : .field f ∈ select r key) : f ∈ r.fields := by
  unfold select at h
  split at h
  · exact forall_mem_toOption (P := fun selected => ∀ f, selected = .field f → f ∈ r.fields)
      (fun selected hselected f hf => Decode.mem_fields_of_select (hf ▸ hselected)) _ h f rfl
  · split at h
    -- A number selects a field by its place.
    · rename_i field hfield
      cases h
      exact List.mem_of_getElem? hfield
    · split at h <;> cases h
  · cases h

variable {r : RecordFormat Matcher α}

theorem value_of_fill
    (hfields : ∀ f ∈ r.fields, Yields f.read fun change => ∀ a, P a → P (change a))
    (entries : List (Value × Value)) {f : Filling α} (hf : P f.value) :
    ∀ filled ∈ fill r f entries, P filled.value := by
  induction entries generalizing f with
  | nil =>
    intro filled hfilled
    obtain rfl := Option.some.inj hfilled
    exact hf
  | cons e entries ih =>
    refine forall_mem_bind fun selected hselected => ?_
    cases selected with
    | ignored => exact ih hf
    | field field =>
      show ∀ filled ∈ (if f.names.contains field.name then none else _), _
      split
      · intro filled hfilled
        cases hfilled
      · refine forall_mem_bind fun change hchange => ih ?_
        exact hfields field (mem_fields_of_select hselected) _ change hchange f.value hf

theorem value_of_fillInOrder {fields : List (Field Matcher α)}
    (hfields : ∀ f ∈ fields, Yields f.read fun change => ∀ a, P a → P (change a))
    (values : List Value) {f : Filling α} (hf : P f.value) :
    ∀ filled ∈ fillInOrder f fields values, P filled.value := by
  induction values generalizing f fields with
  | nil =>
    intro filled hfilled
    have hsome : fillInOrder f fields [] = some f := by cases fields <;> rfl
    rw [hsome] at hfilled
    obtain rfl := Option.some.inj hfilled
    exact hf
  | cons v values ih =>
    cases fields with
    | nil =>
      intro filled hfilled
      cases hfilled
    | cons field fields =>
      obtain ⟨hfield, hrest⟩ := List.forall_mem_cons.1 hfields
      exact forall_mem_bind fun change hchange => ih hrest (hfield v change hchange f.value hf)

theorem yields_record (hinitial : P r.initial)
    (hfields : ∀ f ∈ r.fields, Yields f.read fun change => ∀ a, P a → P (change a)) :
    Yields (record r) P := by
  have hfinish {x : Option (Filling α)} (hx : ∀ filled ∈ x, P filled.value) :
      ∀ a ∈ x >>= fun filled => (filled.finish r).toOption, P a := by
    refine forall_mem_bind fun filled hfilled => forall_mem_toOption fun a ha => ?_
    rw [← Filling.value_of_finish ha]
    exact hx filled hfilled
  intro v
  cases v with
  | mapping entries => exact hfinish (value_of_fill hfields entries hinitial)
  | sequence values => exact hfinish (value_of_fillInOrder hfields values hinitial)
  | _ =>
    intro a ha
    cases ha

theorem yields_localized {read : Json → Except Fault α} {P : Localized α → Prop}
    (h : ∀ x v, Localized.ofJson read x = .ok v → P v) : Yields (localized read) P :=
  fun _ => forall_mem_bind fun x _ => forall_mem_toOption (h x)

end Matcher

instance : Promises Matcher where
  Yields := Matcher.Yields
  any _ _ _ _ := trivial
  map h hf v := Matcher.forall_mem_map fun a ha => hf a (h v a ha)
  option := Matcher.yields_option
  list := Matcher.yields_list
  localizedText := Matcher.yields_localized
  localizedJson := Matcher.yields_localized
  record := Matcher.yields_record

end Yaml

end ApiDesign
