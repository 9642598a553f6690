import ApiDesign.Yaml.Value

/-!
# Keys that a format does not define

A format says of every place of a document what stands there: anything, a scalar, a list, or a
record with its keys.  What is said here is independent of how the document is read.

* `KeyTable` — the keys of the records of a format, and what stands under them;
* `KeyTable.Stray` — somewhere in a node there is a key that the format does not define there;
* `KeyTable.strayAt`, `KeyTable.strayIn` — the way to such a key, for documents that are given.
-/

namespace ApiDesign.Yaml

/-! ### Formats -/

/-- What stands at a place; `S` are the kinds of records. -/
inductive Content (S : Type) where
  /-- Anything, with whatever keys. -/
  | free
  /-- A scalar. -/
  | text
  | record (kind : S)
  | list (item : Content S)

/-- What a key says. -/
inductive Key where
  | name (text : String)
  | number (n : Nat)

/-- The entry that a key selects, by its name or by its place. -/
def Key.entry? {α : Type} (entries : List (String × α)) : Key → Option (String × α)
  | .name text => entries.find? fun e => e.1 = text
  | .number n => entries[n]?

/-- The keys of the records of a format. -/
structure KeyTable (S : Type) where
  /-- The keys of a record, in order, with what stands under them. -/
  entries : S → List (String × Content S)
  /-- Whether other keys are forbidden. -/
  strict : S → Bool
  /-- Whether the type of a key is settled first.  Then a number is the key of its place, and a
  sequence holds what stands under the keys, in order. -/
  settled : S → Bool

/-- The text or number that a value is as a key. -/
def Value.key? : Value → Option Key
  | .text name => some (.name name)
  | .whole (.ofNat n) => some (.number n)
  | _ => none

/-- What a scalar says as a key. -/
def Scalar.key? (settled : Bool) (s : Scalar) : Option Key :=
  if settled then s.toValue.toOption.bind Value.key? else some (.name s.text)

/-- What a node says as a key: collections say nothing. -/
def Node.key? (settled : Bool) : Node → Option Key
  | .scalar s => s.key? settled
  | _ => none

/-- The node that is meant: an alias means the node that it stands for. -/
def Anchors.follow (a : Anchors) : Node → Node
  | .alias anchor => (a.node? anchor).getD (.alias anchor)
  | n => n

namespace KeyTable

variable {S : Type} (t : KeyTable S) (anchors : Anchors)

/-- What stands under a key. -/
def entryAt? (kind : S) (key : Key) : Option (Content S) :=
  (key.entry? (t.entries kind)).map (·.2)

/-- What stands under a key of a document, if the format defines it. -/
def under? (kind : S) (key : Node) : Option (Content S) :=
  ((anchors.follow key).key? (t.settled kind)).bind (t.entryAt? kind)

/-- What the items of a sequence are where something is to stand; they have no keys where it is no
list. -/
def item? : Content S → Nat → Option (Content S)
  | .free, _ => none
  | .text, _ => some .text
  | .list item, _ => some item
  | .record kind, i =>
    some (if t.settled kind then (t.entryAt? kind (.number i)).getD .text else .text)

/-- Somewhere in the node there is a key that the format does not define, in a record that forbids
other keys or where there should not be any keys. -/
inductive Stray : Content S → Node → Prop where
  /-- The key of a record is not defined. -/
  | key {kind : S} {n key value : Node} {tag : Option Tag} {entries : List (Node × Node)}
    (hn : anchors.follow n = .mapping tag entries) (hmem : (key, value) ∈ entries)
    (hstrict : t.strict kind = true) (hkey : t.under? anchors kind key = none) :
    Stray (.record kind) n
  /-- It is found under a key that is defined. -/
  | value {kind : S} {n key value : Node} {tag : Option Tag} {entries : List (Node × Node)}
    {c : Content S} (hn : anchors.follow n = .mapping tag entries) (hmem : (key, value) ∈ entries)
    (hkey : t.under? anchors kind key = some c) (h : Stray c value) : Stray (.record kind) n
  | item {c c' : Content S} {n item : Node} {tag : Option Tag} {items : List Node} {i : Nat}
    (hn : anchors.follow n = .sequence tag items) (hitem : items[i]? = some item)
    (hc : t.item? c i = some c') (h : Stray c' item) : Stray c n
  /-- There are keys where a scalar should stand. -/
  | atText {n : Node} {tag : Option Tag} {entries : List (Node × Node)}
    (hn : anchors.follow n = .mapping tag entries) (hne : entries ≠ []) : Stray .text n
  /-- There are keys where a list should stand. -/
  | atList {c : Content S} {n : Node} {tag : Option Tag} {entries : List (Node × Node)}
    (hn : anchors.follow n = .mapping tag entries) (hne : entries ≠ []) : Stray (.list c) n

/-! ### Documents that are given -/

/-- Whether a way leads to a key that the format does not define: its steps are the numbers of items
and entries. -/
def strayAt : List Nat → Content S → Node → Bool
  | [], _, _ => false
  | i :: path, c, n =>
    match anchors.follow n with
    | .mapping _ entries =>
      match c, entries[i]? with
      | .record kind, some (key, value) =>
        match t.under? anchors kind key with
        | some c => strayAt path c value
        | none => t.strict kind
      | .text, some _ => true
      | .list _, some _ => true
      | _, _ => false
    | .sequence _ items =>
      match t.item? c i, items[i]? with
      | some c, some item => strayAt path c item
      | _, _ => false
    | _ => false

variable {t anchors}

theorem stray_of_strayAt {path : List Nat} {c : Content S} {n : Node}
    (h : t.strayAt anchors path c n = true) : t.Stray anchors c n := by
  induction path generalizing c n with
  | nil => cases h
  | cons i path ih =>
    rw [strayAt] at h
    split at h
    · rename_i tag entries hn
      split at h
      · rename_i kind key value hentry
        split at h
        · rename_i c' hkey
          exact .value hn (List.mem_of_getElem? hentry) hkey (ih h)
        · rename_i hkey
          exact .key hn (List.mem_of_getElem? hentry) h hkey
      · rename_i hentry
        exact .atText hn (List.ne_nil_of_mem (List.mem_of_getElem? hentry))
      · rename_i hentry
        exact .atList hn (List.ne_nil_of_mem (List.mem_of_getElem? hentry))
      · cases h
    · rename_i tag items hn
      split at h
      · rename_i c' item hc hitem
        exact .item hn hitem hc (ih h)
      · cases h
    · cases h

/-- Whether a way leads to such a key in the document of a text. -/
def strayIn (t : KeyTable S) (path : List Nat) (c : Content S) (text : String) : Bool :=
  match Document.ofText text with
  | .ok ⟨some root, anchors⟩ => t.strayAt anchors path c root
  | _ => false

theorem exists_stray_of_strayIn {path : List Nat} {c : Content S} {text : String}
    (h : t.strayIn path c text = true) :
    ∃ d root, Document.ofText text = .ok d ∧ d.root = some root ∧ t.Stray d.anchors c root := by
  unfold strayIn at h
  split at h
  · rename_i root anchors hd
    exact ⟨⟨some root, anchors⟩, root, hd, rfl, stray_of_strayAt h⟩
  · cases h

/-! ### Nodes with such keys -/

/-- The entry of a record has such a key, or holds one. -/
def StrayEntry (t : KeyTable S) (anchors : Anchors) (kind : S) (key value : Node) : Prop :=
  match t.under? anchors kind key with
  | some c => t.Stray anchors c value
  | none => t.strict kind = true

variable {kind : S} {c : Content S} {n : Node}

theorem not_stray_free : ¬t.Stray anchors .free n := by
  intro h
  cases h with
  | item hn hitem hc h => cases hc

/-- In a mapping that is a record, such keys are found in one of the entries. -/
theorem Stray.entry_of_mapping {tag : Option Tag} {entries : List (Node × Node)}
    (h : t.Stray anchors (.record kind) n) (hn : anchors.follow n = .mapping tag entries) :
    ∃ key value, (key, value) ∈ entries ∧ t.StrayEntry anchors kind key value := by
  cases h with
  | key hn' hmem hstrict hkey =>
    rw [hn] at hn'
    cases hn'
    exact ⟨_, _, hmem, by rwa [StrayEntry, hkey]⟩
  | value hn' hmem hkey h =>
    rw [hn] at hn'
    cases hn'
    exact ⟨_, _, hmem, by rwa [StrayEntry, hkey]⟩
  | item hn' =>
    rw [hn] at hn'
    cases hn'

/-- In a sequence, such keys are found in one of the items. -/
theorem Stray.item_of_sequence {tag : Option Tag} {items : List Node} (h : t.Stray anchors c n)
    (hn : anchors.follow n = .sequence tag items) :
    ∃ i item c', items[i]? = some item ∧ t.item? c i = some c' ∧ t.Stray anchors c' item := by
  cases h with
  | key hn' | value hn' | atText hn' | atList hn' =>
    rw [hn] at hn'
    cases hn'
  | item hn' hitem hc h =>
    rw [hn] at hn'
    cases hn'
    exact ⟨_, _, _, hitem, hc, h⟩

/-- Such keys are found in collections alone. -/
theorem Stray.collection (h : t.Stray anchors c n) :
    (∃ tag entries, anchors.follow n = .mapping tag entries) ∨
    ∃ tag items, anchors.follow n = .sequence tag items := by
  cases h with
  | key hn | value hn | atText hn | atList hn => exact .inl ⟨_, _, hn⟩
  | item hn => exact .inr ⟨_, _, hn⟩

/-- Such keys stand in what is meant. -/
theorem Stray.follow (h : t.Stray anchors c n) : t.Stray anchors c (anchors.follow n) := by
  have hfollow {m : Node} (hn : anchors.follow n = m) (hm : anchors.follow m = m) :
      anchors.follow (anchors.follow n) = m := by rw [hn, hm]
  cases h with
  | key hn hmem hstrict hkey => exact .key (hfollow hn rfl) hmem hstrict hkey
  | value hn hmem hkey h => exact .value (hfollow hn rfl) hmem hkey h
  | item hn hitem hc h => exact .item (hfollow hn rfl) hitem hc h
  | atText hn hne => exact .atText (hfollow hn rfl) hne
  | atList hn hne => exact .atList (hfollow hn rfl) hne

end KeyTable

end ApiDesign.Yaml
