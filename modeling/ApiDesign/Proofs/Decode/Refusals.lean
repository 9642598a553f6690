import ApiDesign.Proofs.Decode.Yields
import ApiDesign.Proofs.Yaml.Keys

/-!
# What readers refuse

A reader refuses the keys that its format does not define if its parts do, at every depth and behind
aliases: then no value comes of a node with such a key.

* `Decode.RecordFormat.Matches` — the fields of a record are those that a table of keys defines;
* `Decode.Refusals` — a kind of readers with the laws for refusing keys;
* `Yaml.Shows` — the value that a node has when its type is settled;
* the instances for the readers of trees and of values.
-/

namespace ApiDesign

namespace Decode

open Yaml

variable {S : Type} {R : Type → Type} {α : Type}

/-! ### Fields and keys -/

/-- The field that a key selects, by its name or by its place. -/
def RecordFormat.fieldAt? (r : RecordFormat R α) : Key → Option (Field R α)
  | .name name => r.fields.find? fun field => field.name = name
  | .number n => r.fields[n]?

theorem RecordFormat.select_of_some {r : RecordFormat R α} {name : String} {f : Field R α}
    (h : r.fieldAt? (.name name) = some f) : r.select name = .ok (.field f) := by
  have hfind : (r.fields.find? fun field => field.name = name) = some f := h
  rw [select, hfind]

theorem RecordFormat.select_of_none {r : RecordFormat R α} {name : String}
    (h : r.fieldAt? (.name name) = none) (hstrict : r.strict = true) :
    r.select name = .error (.unknownField name r.names) := by
  have hfind : (r.fields.find? fun field => field.name = name) = none := h
  rw [select, hfind, if_pos hstrict]

theorem RecordFormat.select_of_lenient {r : RecordFormat R α} {name : String}
    (hlenient : r.strict = false) (hname : name ∉ r.names) : r.select name = .ok .ignored := by
  have hfind : (r.fields.find? fun field => field.name = name) = none :=
    find?_key_eq_none_iff.2 fun field hfield heq => hname (heq ▸ List.mem_map_of_mem hfield)
  rw [select, hfind]
  exact if_neg (by rw [hlenient]; exact Bool.false_ne_true)

/-- The fields of a record have the keys that a table defines, in order, and satisfy a condition
with what stands under them.  A record that refuses other keys may lack the last ones. -/
structure RecordFormat.Matches (t : KeyTable S) (kind : S) (Q : R (α → α) → Content S → Prop)
    (r : RecordFormat R α) : Prop where
  strict : r.strict = t.strict kind
  fields : ∃ entries, entries <+: t.entries kind ∧ (r.strict = false → entries = t.entries kind) ∧
    List.Forall₂ (fun f e => f.name = e.1 ∧ Q f.read e.2) r.fields entries

section Matches

variable {t : KeyTable S} {kind : S} {Q : R (α → α) → Content S → Prop} {r : RecordFormat R α}
  {key : Key} {c : Content S}

theorem fieldAt?_of_forall₂ {entries : List (String × Content S)}
    (h : List.Forall₂ (fun f e => f.name = e.1 ∧ Q f.read e.2) r.fields entries) (key : Key) :
    (r.fieldAt? key = none ∧ key.entry? entries = none) ∨
      ∃ f e, r.fieldAt? key = some f ∧ key.entry? entries = some e ∧ Q f.read e.2 := by
  cases key with
  | name name =>
    simp only [RecordFormat.fieldAt?, Key.entry?]
    generalize r.fields = fields at h ⊢
    induction h with
    | nil => exact .inl ⟨rfl, rfl⟩
    | @cons f e fields entries hfe h ih =>
      rw [List.find?_cons, List.find?_cons, hfe.1]
      by_cases hname : e.1 = name
      · simp only [hname, decide_true]
        exact .inr ⟨f, e, rfl, rfl, hfe.2⟩
      · simp only [hname, decide_false]
        exact ih
  | number n =>
    simp only [RecordFormat.fieldAt?, Key.entry?]
    generalize r.fields = fields at h ⊢
    induction h generalizing n with
    | nil => exact .inl ⟨rfl, rfl⟩
    | @cons f e fields entries hfe h ih =>
      cases n with
      | zero => exact .inr ⟨f, e, rfl, rfl, hfe.2⟩
      | succ n => exact ih n

theorem entry?_mono {entries all : List (String × Content S)} (h : entries <+: all)
    {e : String × Content S} (he : key.entry? entries = some e) : key.entry? all = some e := by
  cases key with
  | name name => exact h.find?_eq_some he
  | number n =>
    obtain ⟨hn, rfl⟩ := List.getElem?_eq_some_iff.1 he
    exact List.prefix_iff_getElem?.1 h n hn

/-- A key that is not defined selects no field. -/
theorem RecordFormat.Matches.fieldAt?_eq_none (h : r.Matches t kind Q)
    (hkey : t.entryAt? kind key = none) : r.fieldAt? key = none := by
  obtain ⟨entries, hprefix, -, hfields⟩ := h.fields
  rcases fieldAt?_of_forall₂ hfields key with ⟨hfield, -⟩ | ⟨f, e, -, hentry, -⟩
  · exact hfield
  · rw [KeyTable.entryAt?, entry?_mono hprefix hentry] at hkey
    cases hkey

/-- A key that is defined selects its field, or is refused. -/
theorem RecordFormat.Matches.fieldAt?_of_some (h : r.Matches t kind Q)
    (hkey : t.entryAt? kind key = some c) :
    (∃ f, r.fieldAt? key = some f ∧ Q f.read c) ∨ (r.fieldAt? key = none ∧ r.strict = true) := by
  obtain ⟨entries, hprefix, hall, hfields⟩ := h.fields
  obtain ⟨e, he, rfl⟩ := Option.map_eq_some_iff.1 hkey
  rcases fieldAt?_of_forall₂ hfields key with ⟨hfield, hentry⟩ | ⟨f, e', hfield, hentry, hQ⟩
  · refine .inr ⟨hfield, ?_⟩
    cases hstrict : r.strict with
    | true => rfl
    | false =>
      rw [← hall hstrict, hentry] at he
      cases he
  · rw [entry?_mono hprefix hentry] at he
    obtain rfl := Option.some.inj he
    exact .inl ⟨f, hfield, hQ⟩

/-- A key that should not be there, or has such a key under it, selects a field that finds something
else than it should, or is refused. -/
theorem RecordFormat.Matches.of_strayEntry {anchors : Anchors} {key value : Node}
    (h : r.Matches t kind Q) (hentry : t.StrayEntry anchors kind key value) {k : Option Key}
    (hk : (anchors.follow key).key? (t.settled kind) = k) :
    (∃ f c, k.bind r.fieldAt? = some f ∧ Q f.read c ∧ t.Stray anchors c value) ∨
      (k.bind r.fieldAt? = none ∧ r.strict = true) := by
  rw [KeyTable.StrayEntry, KeyTable.under?, hk] at hentry
  cases k with
  | none => exact .inr ⟨rfl, h.strict.trans hentry⟩
  | some k =>
    rw [Option.bind_some] at hentry ⊢
    split at hentry
    · rename_i c hc
      rcases h.fieldAt?_of_some hc with ⟨f, hfield, hQ⟩ | hfield
      · exact .inl ⟨f, c, hfield, hQ, hentry⟩
      · exact .inr hfield
    · rename_i hc
      exact .inr ⟨h.fieldAt?_eq_none hc, h.strict.trans hentry⟩

/-- The field at the place of an item of a sequence finds in it what the table says. -/
theorem RecordFormat.Matches.of_item (h : r.Matches t kind Q) (hsettled : t.settled kind = true)
    {i : Nat} {f : Field R α} (hf : r.fieldAt? (.number i) = some f)
    (hc : t.item? (.record kind) i = some c) : Q f.read c := by
  rw [KeyTable.item?, if_pos hsettled, Option.some.injEq] at hc
  cases hentry : t.entryAt? kind (.number i) with
  | none =>
    rw [h.fieldAt?_eq_none hentry] at hf
    cases hf
  | some c' =>
    rw [hentry] at hc
    obtain rfl : c' = c := hc
    rcases h.fieldAt?_of_some hentry with ⟨f', hf', hQ⟩ | ⟨hnone, -⟩
    · rw [hf] at hf'
      obtain rfl := Option.some.inj hf'
      exact hQ
    · rw [hf] at hnone
      cases hnone

end Matches

/-- A kind of readers, with what they refuse. -/
class Refusals (R : Type → Type) [Source R] where
  /-- Whether the types of values are settled before they are read. -/
  settled : Bool
  /-- No value comes of a node with a key that should not be there. -/
  Refuses {S : Type} (t : KeyTable S) (anchors : Anchors) {α : Type} : R α → Content S → Prop
  free {S : Type} {t : KeyTable S} {anchors : Anchors} {α : Type} (read : R α) :
    Refuses t anchors read .free
  wording {S : Type} {t : KeyTable S} {anchors : Anchors} (expected : String) :
    Refuses t anchors (Source.wording (R := R) expected) .text
  flag {S : Type} {t : KeyTable S} {anchors : Anchors} :
    Refuses t anchors (Source.flag (R := R)) .text
  choice {S : Type} {t : KeyTable S} {anchors : Anchors} {α : Type} (variants : List (String × α)) :
    Refuses t anchors (Source.choice (R := R) variants) .text
  map {S : Type} {t : KeyTable S} {anchors : Anchors} {α β : Type} {read : R α} {c : Content S}
    (f : α → β) (h : Refuses t anchors read c) : Refuses t anchors (f <$> read) c
  option {S : Type} {t : KeyTable S} {anchors : Anchors} {α : Type} {read : R α} {c : Content S}
    (h : Refuses t anchors read c) : Refuses t anchors (Source.option read) c
  list {S : Type} {t : KeyTable S} {anchors : Anchors} {α : Type} {read : R α} {c : Content S}
    (h : Refuses t anchors read c) : Refuses t anchors (Source.list read) (.list c)
  record {S : Type} {t : KeyTable S} {anchors : Anchors} {α : Type} {r : RecordFormat R α}
    {kind : S} (hsettled : t.settled kind = settled) (h : r.Matches t kind (Refuses t anchors)) :
    Refuses t anchors (Source.record r) (.record kind)

end Decode

namespace Yaml

open Decode Reading

variable {S : Type} {t : KeyTable S} {anchors : Anchors} {kind : S} {c : Content S} {α β : Type}
  {P : α → Prop} {p : Place} {n : Node}

/-! ### Trees of nodes -/

/-- The trees of the parts of a node in which a number of collections may be nested. -/
def Tree.part (anchors : Anchors) : Nat → Node → Tree
  | 0, _ => .absent
  | room + 1, n => Tree.within anchors room n

/-- The tree of what a node means. -/
def Tree.meant (anchors : Anchors) (room : Nat) (n : Node) : Tree :=
  ofContents (part anchors room) (anchors.follow n)

theorem Tree.within_eq (anchors : Anchors) (room : Nat) (n : Node) :
    within anchors room n = ofNode anchors (part anchors room) n := by
  cases room <;> rfl

theorem Tree.meant_eq (anchors : Anchors) (room : Nat) (n : Node) :
    meant anchors room n = match anchors.follow n with
      | .scalar s => .scalar s
      | .sequence tag items => .sequence tag (items.map (part anchors room))
      | .mapping tag entries =>
        .mapping tag (entries.map fun e => (part anchors room e.1, part anchors room e.2))
      | .alias _ => .absent := by
  rw [meant]
  cases anchors.follow n <;> rfl

theorem Tree.target_eq (anchors : Anchors) (room anchor : Nat) :
    ((anchors.node? anchor).map (ofContents (part anchors room))).getD .absent =
      meant anchors room (.alias anchor) := by
  rw [meant, Anchors.follow]
  cases anchors.node? anchor <;> rfl

/-- The parts of a collection are seen from the place of the parts. -/
theorem Reading.gives_enter (anchors : Anchors) : Gives p.enter fun p' => Tree.part anchors p.room =
    Tree.within anchors p'.room := by
  unfold Place.enter
  split
  · exact gives_throw _
  · rename_i room hroom
    refine gives_pure ?_
    rw [hroom]
    rfl

theorem Reading.gives_refused {x : Reading β} {f : β → Reading α} (hx : Gives x fun _ => False) :
    Gives (x >>= f) P :=
  gives_bind hx fun _ h => h.elim

namespace Reader

/-! ### Readers of trees -/

/-- No value comes of a node with a key that should not be there. -/
def Refuses (t : KeyTable S) (anchors : Anchors) (read : Reader α) (c : Content S) : Prop :=
  ∀ n, t.Stray anchors c n → ∀ p, Gives (read p (.within anchors p.room n)) fun _ => False

/-- What is read from the meaning of a node is read from the node, be it an alias. -/
theorem gives_followed {read : Reader α} (h : Gives (read p (.meant anchors p.room n)) P) :
    Gives (followed read p (.within anchors p.room n)) P := by
  rw [Tree.within_eq]
  cases n with
  | «alias» anchor =>
    refine gives_bind (gives_any _) fun _ _ => ?_
    rw [Tree.target_eq]
    exact h
  | _ => exact h

/-- A reader refuses such keys if it does so in what nodes mean, which are collections. -/
theorem refuses_followed {read : Reader α}
    (hmapping : ∀ tag entries p, t.Stray anchors c (.mapping tag entries) →
      Gives (read p (.mapping tag (entries.map fun e =>
        (.part anchors p.room e.1, .part anchors p.room e.2)))) fun _ => False)
    (hsequence : ∀ tag items p, t.Stray anchors c (.sequence tag items) →
      Gives (read p (.sequence tag (items.map (.part anchors p.room)))) fun _ => False) :
    Refuses t anchors (followed read) c := by
  intro n hn p
  refine gives_followed ?_
  rw [Tree.meant_eq]
  -- The reader sees the same collection whether the node is the collection or an alias of it.
  have hfollow := hn.follow
  rcases hn.collection with ⟨tag, entries, hmeant⟩ | ⟨tag, items, hmeant⟩
  · rw [hmeant] at hfollow ⊢
    exact hmapping tag entries p hfollow
  · rw [hmeant] at hfollow ⊢
    exact hsequence tag items p hfollow

theorem refuses_wording (expected : String) : Refuses t anchors (wording expected) .text :=
  refuses_followed (fun _ _ _ _ => gives_mismatch _) fun _ _ _ _ => gives_mismatch _

theorem refuses_flag : Refuses t anchors flag .text :=
  refuses_followed (fun _ _ _ _ => gives_mismatch _) fun _ _ _ _ => gives_mismatch _

theorem gives_checkBare {tree : Tree}
    (htree : (∃ tag entries, tree = .mapping tag entries) ∨
      ∃ tag items, tree = .sequence tag items) : Gives (checkBare p tree) fun _ => False := by
  rcases htree with ⟨tag, entries, rfl⟩ | ⟨tag, items, rfl⟩
  · exact gives_mismatch (t := .mapping tag entries) _
  · exact gives_mismatch (t := .sequence tag items) _

/-- Nothing but a scalar may stand for a name, or beside a name that is written as a tag. -/
theorem refuses_choice (variants : List (String × α)) :
    Refuses t anchors (choice variants) .text := by
  refine refuses_followed (fun tag entries p _ => ?_) fun tag items p _ => ?_
  · split
    · exact gives_bind (gives_any _) fun _ _ => gives_refused (gives_checkBare (.inl ⟨_, _, rfl⟩))
    · exact gives_mismatch _
  · split
    · exact gives_bind (gives_any _) fun _ _ => gives_refused (gives_checkBare (.inr ⟨_, _, rfl⟩))
    · exact gives_mismatch _

theorem refuses_map {read : Reader α} (f : α → β) (h : Refuses t anchors read c) :
    Refuses t anchors (f <$> read : Reader β) c :=
  fun n hn p => gives_map (h n hn p) fun _ h => h

theorem refuses_option {read : Reader α} (h : Refuses t anchors read c) :
    Refuses t anchors (option read) c := by
  refine refuses_followed (fun tag entries p hn => ?_) fun tag items p hn => ?_
  · have hread := h _ hn p
    rw [Tree.within_eq] at hread
    exact gives_map hread fun _ h => h
  · have hread := h _ hn p
    rw [Tree.within_eq] at hread
    exact gives_map hread fun _ h => h

theorem gives_items_of_mem {read : Reader α} (h : Refuses t anchors read c) {items : List Node}
    {item : Node} (hmem : item ∈ items) (hitem : t.Stray anchors c item) (number : Nat) :
    Gives (Reader.items read p number (items.map (.within anchors p.room))) fun _ => False := by
  induction items generalizing number with
  | nil => cases hmem
  | cons m items ih =>
    rcases List.mem_cons.1 hmem with rfl | hmem
    · exact gives_refused (h item hitem (p.step (.index number)))
    · exact gives_bind (gives_any _) fun _ _ => gives_refused (ih hmem _)

theorem refuses_list {read : Reader α} (h : Refuses t anchors read c) :
    Refuses t anchors (list read) (.list c) := by
  refine refuses_followed (fun _ _ _ _ => gives_mismatch _) fun tag items p hn => ?_
  refine gives_locate (gives_bind (gives_enter anchors) fun p' hp' => ?_)
  rw [hp']
  obtain ⟨i, item, c', hitem, hc, hstray⟩ := hn.item_of_sequence rfl
  obtain rfl := Option.some.inj hc
  exact gives_items_of_mem h (List.mem_of_getElem? hitem) hstray 0

/-- The key of an entry is the text of a scalar. -/
theorem gives_key (expected : String) (key : Node) :
    Gives (wording expected p (.within anchors p.room key)) fun name =>
      (anchors.follow key).key? false = some (.name name) := by
  refine gives_followed ?_
  rw [Tree.meant_eq]
  cases anchors.follow key with
  | scalar s => exact gives_pure rfl
  | «alias» anchor => exact gives_mismatch (t := .absent) expected
  | _ => exact gives_mismatch _

theorem gives_fill_of_mem {r : RecordFormat Reader α} (hsettled : t.settled kind = false)
    (h : r.Matches t kind (Refuses t anchors)) {entries : List (Node × Node)} {key value : Node}
    (hmem : (key, value) ∈ entries) (hentry : t.StrayEntry anchors kind key value) (f : Filling α) :
    Gives (fill r p f (entries.map fun e =>
        (.within anchors p.room e.1, .within anchors p.room e.2))) fun _ => False := by
  induction entries generalizing f with
  | nil => cases hmem
  | cons e entries ih =>
    refine gives_bind (gives_key _ _) fun name hname =>
      gives_bind (gives_settle (P := fun selected => r.select name = .ok selected) fun _ h => h)
        fun selected hselected => ?_
    rcases List.mem_cons.1 hmem with rfl | hmem
    · rw [← hsettled] at hname
      rcases h.of_strayEntry hentry hname with
        ⟨field, c, hfield, hrefuses, hvalue⟩ | ⟨hfield, hstrict⟩
      · rw [RecordFormat.select_of_some hfield] at hselected
        cases hselected
        show Gives (if f.names.contains name then _ else _) _
        split
        · exact gives_throw _
        · exact gives_refused (hrefuses value hvalue _)
      · rw [RecordFormat.select_of_none hfield hstrict] at hselected
        cases hselected
    · cases selected with
      | ignored => exact ih hmem f
      | field field =>
        show Gives (if f.names.contains name then _ else _) _
        split
        · exact gives_throw _
        · exact gives_bind (gives_any _) fun change _ => ih hmem _

theorem refuses_record {r : RecordFormat Reader α} (hsettled : t.settled kind = false)
    (h : r.Matches t kind (Refuses t anchors)) : Refuses t anchors (record r) (.record kind) := by
  refine refuses_followed (fun tag entries p hn => ?_) fun _ _ _ _ => gives_mismatch _
  refine gives_locate (gives_bind (gives_enter anchors) fun p' hp' => gives_refused ?_)
  rw [hp']
  obtain ⟨key, value, hmem, hentry⟩ := hn.entry_of_mapping rfl
  exact gives_fill_of_mem hsettled h hmem hentry _

end Reader

instance : Refusals Reader where
  settled := false
  Refuses t anchors _ := Reader.Refuses t anchors
  free _ _ hn := (KeyTable.not_stray_free hn).elim
  wording := Reader.refuses_wording
  flag := Reader.refuses_flag
  choice := Reader.refuses_choice
  map := Reader.refuses_map
  option := Reader.refuses_option
  list := Reader.refuses_list
  record := Reader.refuses_record

/-! ### Values of nodes -/

/-- A value that the node has when its type is settled. -/
def Shows (anchors : Anchors) (n : Node) (v : Value) : Prop :=
  ∃ p left left', Value.ofTree p (.within anchors p.room n) left = .ok (v, left')

theorem Reading.gives_shows (p : Place) (n : Node) :
    Gives (Value.ofTree p (.within anchors p.room n)) (Shows anchors n) :=
  fun left _ left' h => ⟨p, left, left', h⟩

namespace Shows

variable {v : Value}

theorem of_gives {P : Value → Prop} (h : Shows anchors n v)
    (hgives : ∀ p, Gives (Value.ofTree p (.meant anchors p.room n)) P) : P v := by
  obtain ⟨p, left, left', h⟩ := h
  rw [Tree.within_eq] at h
  cases n with
  | «alias» anchor =>
    have hbound : Gives (do countAlias; Value.ofTree p (.meant anchors p.room (.alias anchor))) P :=
      gives_bind (gives_any _) fun _ _ => hgives p
    rw [← Tree.target_eq] at hbound
    refine hbound left v left' ?_
    rw [← h, Tree.ofNode, Value.ofTree]
  | _ => exact hgives p left v left' h

theorem scalar {s : Scalar} (h : Shows anchors n v) (hn : anchors.follow n = .scalar s) :
    s.toValue = .ok v := by
  refine h.of_gives (P := fun v => s.toValue = .ok v) fun p => ?_
  rw [Tree.meant_eq, hn, Value.ofTree]
  exact gives_settle fun _ h => h

theorem gives_ofItems (number : Nat) (items : List Node) :
    Gives (Value.ofItems p number (items.map (.within anchors p.room)))
      (List.Forall₂ (Shows anchors) items) := by
  induction items generalizing number with
  | nil => exact gives_pure .nil
  | cons item items ih =>
    rw [List.map_cons, Value.ofItems]
    exact gives_bind (gives_shows _ item) fun v hv =>
      gives_bind (ih _) fun vs hvs => gives_pure (.cons hv hvs)

theorem sequence {tag : Option Tag} {items : List Node} (h : Shows anchors n v)
    (hn : anchors.follow n = .sequence tag items) :
    ∃ vs, v = .sequence vs ∧ List.Forall₂ (Shows anchors) items vs := by
  refine of_gives (P := fun v => ∃ vs, v = .sequence vs ∧ List.Forall₂ (Shows anchors) items vs) h
    fun p => ?_
  rw [Tree.meant_eq, hn, Value.ofTree]
  refine gives_bind (gives_any _) fun _ _ => gives_bind (gives_enter anchors) fun p' hp' => ?_
  rw [hp']
  exact gives_bind (gives_ofItems 0 items) fun vs hvs => gives_pure ⟨vs, rfl, hvs⟩

theorem gives_ofEntries (entries : List (Node × Node)) :
    Gives (Value.ofEntries p (entries.map fun e =>
        (.within anchors p.room e.1, .within anchors p.room e.2)))
      (List.Forall₂ (fun e w => Shows anchors e.1 w.1 ∧ Shows anchors e.2 w.2) entries) := by
  induction entries with
  | nil => exact gives_pure .nil
  | cons e entries ih =>
    rw [List.map_cons, Value.ofEntries]
    exact gives_bind (gives_shows p e.1) fun k hk => gives_bind (gives_shows _ e.2) fun w hw =>
      gives_bind ih fun ws hws => gives_pure (.cons ⟨hk, hw⟩ hws)

theorem mapping {tag : Option Tag} {entries : List (Node × Node)} (h : Shows anchors n v)
    (hn : anchors.follow n = .mapping tag entries) :
    ∃ ws, v = .mapping ws ∧
      List.Forall₂ (fun e w => Shows anchors e.1 w.1 ∧ Shows anchors e.2 w.2) entries ws := by
  refine of_gives (P := fun v => ∃ ws, v = .mapping ws ∧
    List.Forall₂ (fun e w => Shows anchors e.1 w.1 ∧ Shows anchors e.2 w.2) entries ws) h
    fun p => ?_
  rw [Tree.meant_eq, hn, Value.ofTree]
  refine gives_bind (gives_any _) fun _ _ => gives_bind (gives_enter anchors) fun p' hp' => ?_
  rw [hp']
  exact gives_bind (gives_ofEntries entries) fun ws hws => gives_pure ⟨ws, rfl, hws⟩

/-- A value says as a key what its node says. -/
theorem key? (h : Shows anchors n v) : (anchors.follow n).key? true = v.key? := by
  cases hn : anchors.follow n with
  | scalar s =>
    show s.toValue.toOption.bind Value.key? = v.key?
    rw [h.scalar hn]
    rfl
  | sequence tag items =>
    obtain ⟨vs, rfl, -⟩ := h.sequence hn
    rfl
  | mapping tag entries =>
    obtain ⟨ws, rfl, -⟩ := h.mapping hn
    rfl
  | «alias» anchor =>
    refine h.of_gives (P := fun v => none = v.key?) fun p => ?_
    rw [Tree.meant_eq, hn, Value.ofTree]
    exact gives_pure rfl

end Shows

/-! ### Readers of values -/

namespace Matcher

/-- No value of a node with a key that should not be there fits. -/
def Refuses (t : KeyTable S) (anchors : Anchors) (read : Matcher α) (c : Content S) : Prop :=
  ∀ n, t.Stray anchors c n → ∀ v, Shows anchors n v → read v = none

/-- A reader refuses such keys if it does so in the values of mappings and sequences. -/
theorem refuses_of_collections {read : Matcher α}
    (hmapping : ∀ {n tag entries ws}, t.Stray anchors c n →
      anchors.follow n = .mapping tag entries → Shows anchors n (.mapping ws) →
      List.Forall₂ (fun e w => Shows anchors e.1 w.1 ∧ Shows anchors e.2 w.2) entries ws →
      read (.mapping ws) = none)
    (hsequence : ∀ {n tag items vs}, t.Stray anchors c n → anchors.follow n = .sequence tag items →
      Shows anchors n (.sequence vs) → List.Forall₂ (Shows anchors) items vs →
      read (.sequence vs) = none) :
    Refuses t anchors read c := by
  intro n hn v hv
  rcases hn.collection with ⟨tag, entries, hmeant⟩ | ⟨tag, items, hmeant⟩
  · obtain ⟨ws, rfl, hws⟩ := hv.mapping hmeant
    exact hmapping hn hmeant hv hws
  · obtain ⟨vs, rfl, hvs⟩ := hv.sequence hmeant
    exact hsequence hn hmeant hv hvs

theorem refuses_wording (expected : String) :
    Refuses t anchors (Source.wording (R := Matcher) expected) .text :=
  refuses_of_collections (fun _ _ _ _ => rfl) fun _ _ _ _ => rfl

theorem refuses_flag : Refuses t anchors (Source.flag (R := Matcher)) .text :=
  refuses_of_collections (fun _ _ _ _ => rfl) fun _ _ _ _ => rfl

theorem refuses_choice (variants : List (String × α)) :
    Refuses t anchors (Source.choice (R := Matcher) variants) .text :=
  refuses_of_collections (fun _ _ _ _ => rfl) fun _ _ _ _ => rfl

theorem refuses_map {read : Matcher α} (f : α → β) (h : Refuses t anchors read c) :
    Refuses t anchors (f <$> read : Matcher β) c := by
  intro n hn v hv
  show f <$> read v = none
  rw [h n hn v hv]
  rfl

theorem refuses_option {read : Matcher α} (h : Refuses t anchors read c) :
    Refuses t anchors (Source.option read) c := by
  refine refuses_of_collections (fun {n tag entries ws} hn _ hv _ => ?_)
    fun {n tag items vs} hn _ hv _ => ?_
  · show some <$> read (.mapping ws) = none
    rw [h n hn _ hv]
    rfl
  · show some <$> read (.sequence vs) = none
    rw [h n hn _ hv]
    rfl

theorem mapM_eq_none_of_mem {read : β → Option α} {vs : List β} {v : β} (hmem : v ∈ vs)
    (h : read v = none) : vs.mapM read = none := by
  induction vs with
  | nil => cases hmem
  | cons w vs ih =>
    rw [List.mapM_cons]
    rcases List.mem_cons.1 hmem with rfl | hmem
    · rw [h]
      rfl
    · rw [ih hmem]
      cases read w <;> rfl

theorem refuses_list {read : Matcher α} (h : Refuses t anchors read c) :
    Refuses t anchors (Source.list read) (.list c) := by
  refine refuses_of_collections (fun _ _ _ _ => rfl) fun hn hmeant _ hvs => ?_
  obtain ⟨i, item, c', hitem, hc, hstray⟩ := hn.item_of_sequence hmeant
  obtain rfl := Option.some.inj hc
  obtain ⟨v, hmem, hv⟩ := exists_mem_of_forall₂ hvs (List.mem_of_getElem? hitem)
  exact mapM_eq_none_of_mem hmem (h item hstray v hv)

variable {r : RecordFormat Matcher α}

theorem select_of_some {key : Value} {f : Field Matcher α} (h : key.key?.bind r.fieldAt? = some f) :
    select r key = some (.field f) := by
  cases key with
  | text name =>
    have hname : r.fieldAt? (.name name) = some f := h
    rw [select, RecordFormat.select_of_some hname]
    rfl
  | whole i =>
    cases i with
    | ofNat n =>
      have hplace : r.fields[n]? = some f := h
      rw [select, hplace]
    | negSucc n => cases h
  | _ => cases h

theorem select_of_none {key : Value} (h : key.key?.bind r.fieldAt? = none)
    (hstrict : r.strict = true) : select r key = none := by
  cases key with
  | text name =>
    have hname : r.fieldAt? (.name name) = none := h
    rw [select, RecordFormat.select_of_none hname hstrict]
    rfl
  | whole i =>
    cases i with
    | ofNat n =>
      have hplace : r.fields[n]? = none := h
      rw [select, hplace]
      exact if_pos hstrict
    | negSucc n => rfl
  | _ => rfl

theorem fill_eq_none_of_mem (hsettled : t.settled kind = true)
    (h : r.Matches t kind (Refuses t anchors)) {entries : List (Node × Node)}
    {ws : List (Value × Value)}
    (hws : List.Forall₂ (fun e w => Shows anchors e.1 w.1 ∧ Shows anchors e.2 w.2) entries ws)
    {key value : Node} (hmem : (key, value) ∈ entries)
    (hentry : t.StrayEntry anchors kind key value) (f : Filling α) : fill r f ws = none := by
  induction hws generalizing f with
  | nil => cases hmem
  | @cons e w entries ws hw hws ih =>
    obtain ⟨k, v⟩ := w
    rw [fill]
    -- Either this is the entry, or it is passed and the entry is found among the others.
    rcases List.mem_cons.1 hmem with rfl | hmem
    · have hkey := hw.1.key?
      rw [← hsettled] at hkey
      rcases h.of_strayEntry hentry hkey with
        ⟨field, c, hfield, hrefuses, hvalue⟩ | ⟨hfield, hstrict⟩
      · rw [select_of_some hfield]
        show (if f.names.contains field.name then none else _) = _
        split
        · rfl
        · rw [hrefuses value hvalue v hw.2]
          rfl
      · rw [select_of_none hfield hstrict]
        rfl
    · cases hselected : select r k with
      | none => rfl
      | some selected =>
        cases selected with
        | ignored => exact ih hmem f
        | field field =>
          show (if f.names.contains field.name then none else _) = _
          split
          · rfl
          · cases hread : field.read v with
            | none => rfl
            | some change => exact ih hmem _

/-- Fields that are given in order are refused if one of them is. -/
theorem fillInOrder_eq_none {fields : List (Field Matcher α)} {vs : List Value} {i : Nat}
    {v : Value} (hv : vs[i]? = some v) (h : ∀ f, fields[i]? = some f → f.read v = none)
    (f : Filling α) : fillInOrder f fields vs = none := by
  induction fields generalizing vs i f with
  | nil =>
    cases vs with
    | nil => cases hv
    | cons w vs => rfl
  | cons field fields ih =>
    cases vs with
    | nil => cases hv
    | cons w vs =>
      rw [fillInOrder]
      cases i with
      | zero =>
        obtain rfl := Option.some.inj hv
        rw [h field rfl]
        rfl
      | succ i =>
        have hrest : vs[i]? = some v := hv
        cases hread : field.read w with
        | none => rfl
        | some change => exact ih hrest h _

theorem refuses_record (hsettled : t.settled kind = true)
    (h : r.Matches t kind (Refuses t anchors)) : Refuses t anchors (record r) (.record kind) := by
  refine refuses_of_collections (fun hn hmeant _ hws => ?_)
    fun {n tag items vs} hn hmeant _ hvs => ?_
  · obtain ⟨key, value, hmem, hentry⟩ := hn.entry_of_mapping hmeant
    rw [record, recordFrom, fill_eq_none_of_mem hsettled h hws hmem hentry]
    rfl
  · obtain ⟨i, item, c, hitem, hc, hstray⟩ := hn.item_of_sequence hmeant
    obtain ⟨hi, rfl⟩ := List.getElem?_eq_some_iff.1 hitem
    have hi' : i < vs.length := hvs.length_eq ▸ hi
    have hfield (f : Field Matcher α) (hf : r.fieldAt? (.number i) = some f) :
        f.read vs[i] = none :=
      h.of_item hsettled hf hc _ hstray _ (hvs.get hi hi')
    rw [record, fillInOrder_eq_none (List.getElem?_eq_getElem hi') hfield]
    rfl

end Matcher

instance : Refusals Matcher where
  settled := true
  Refuses t anchors _ := Matcher.Refuses t anchors
  free _ _ hn := (KeyTable.not_stray_free hn).elim
  wording := Matcher.refuses_wording
  flag := Matcher.refuses_flag
  choice := Matcher.refuses_choice
  map := Matcher.refuses_map
  option := Matcher.refuses_option
  list := Matcher.refuses_list
  record := Matcher.refuses_record

end Yaml

end ApiDesign
