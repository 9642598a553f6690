/-!
# Maps from texts

A `KeyMap` holds one value per key and lists its entries by the code points of the keys.  Its entry
list is canonical: two maps with the same look-ups are equal (`KeyMap.ext_get?`).

* `Entries.lookup`, `Entries.insert` — the operations on entry lists, which need no order;
* `Entries.Sorted` — strictly increasing keys;
* `KeyMap` — a sorted entry list.
-/

namespace ApiDesign

namespace Entries

variable {α β : Type}

/-- The value of the first entry with the key. -/
def lookup (key : String) : List (String × α) → Option α
  | [] => none
  | (k, v) :: r => if key = k then some v else lookup key r

/-- Puts the value at its place by key and replaces a value that is already there. -/
def insert (key : String) (value : α) : List (String × α) → List (String × α)
  | [] => [(key, value)]
  | (k, v) :: r =>
    if key < k then (key, value) :: (k, v) :: r
    else if key = k then (key, value) :: r
    else (k, v) :: insert key value r

/-- The keys increase strictly. -/
def Sorted (entries : List (String × α)) : Prop := entries.Pairwise fun a b => a.1 < b.1

instance (entries : List (String × α)) : Decidable (Sorted entries) :=
  inferInstanceAs (Decidable (entries.Pairwise fun a b => a.1 < b.1))

theorem lookup_insert_self (key : String) (value : α) (es : List (String × α)) :
    lookup key (insert key value es) = some value := by
  induction es with
  | nil => simp [insert, lookup]
  | cons e r ih =>
    obtain ⟨k, v⟩ := e
    rw [insert]
    split
    · simp [lookup]
    · split
      · simp [lookup]
      · rename_i h; simp [lookup, h, ih]

theorem lookup_insert_of_ne {key other : String} (h : other ≠ key) (value : α)
    (es : List (String × α)) : lookup other (insert key value es) = lookup other es := by
  induction es with
  | nil => simp [insert, lookup, h]
  | cons e r ih =>
    obtain ⟨k, v⟩ := e
    rw [insert]
    split
    · simp [lookup, h]
    · split
      · rename_i hk; subst hk; simp [lookup, h]
      · simp [lookup, ih]

theorem lookup_insert (key other : String) (value : α) (es : List (String × α)) :
    lookup other (insert key value es) = if other = key then some value else lookup other es := by
  by_cases h : other = key
  · subst h; simp [lookup_insert_self]
  · simp [h, lookup_insert_of_ne h]

theorem mem_insert {key : String} {value : α} {e : String × α} {es : List (String × α)}
    (h : e ∈ insert key value es) : e = (key, value) ∨ e ∈ es := by
  induction es with
  | nil => simp only [insert, List.mem_singleton] at h; exact .inl h
  | cons f r ih =>
    obtain ⟨k, v⟩ := f
    rw [insert] at h
    split at h
    · simpa using h
    · split at h
      · simp only [List.mem_cons] at h ⊢
        rcases h with h | h
        · exact .inl h
        · exact .inr (.inr h)
      · simp only [List.mem_cons] at h ⊢
        rcases h with h | h
        · exact .inr (.inl h)
        · rcases ih h with h | h
          · exact .inl h
          · exact .inr (.inr h)

theorem sorted_insert (key : String) (value : α) {es : List (String × α)} (h : Sorted es) :
    Sorted (insert key value es) := by
  induction es with
  | nil => simp [insert, Sorted]
  | cons e r ih =>
    obtain ⟨k, v⟩ := e
    have hr : Sorted r := List.Pairwise.of_cons h
    have hk : ∀ f ∈ r, k < f.1 := fun f hf => List.rel_of_pairwise_cons h hf
    rw [insert]
    split
    · rename_i hlt
      refine List.Pairwise.cons (fun f hf => ?_) h
      rcases List.mem_cons.1 hf with rfl | hf
      · exact hlt
      · exact String.lt_trans hlt (hk f hf)
    · rename_i hlt
      split
      · rename_i heq
        subst heq
        exact List.Pairwise.cons hk hr
      · rename_i hne
        refine List.Pairwise.cons (fun f hf => ?_) (ih hr)
        rcases mem_insert hf with rfl | hf
        · rcases Decidable.em (k < key) with h' | h'
          · exact h'
          · exact absurd (String.le_antisymm (String.not_lt.1 h') (String.not_lt.1 hlt)) hne
        · exact hk f hf

theorem lookup_eq_none_of_lt {key : String} {es : List (String × α)}
    (h : ∀ f ∈ es, key < f.1) : lookup key es = none := by
  induction es with
  | nil => rfl
  | cons e r ih =>
    obtain ⟨k, v⟩ := e
    have hk : key ≠ k := by
      rintro rfl
      exact String.lt_irrefl _ (h (key, v) List.mem_cons_self)
    simp [lookup, hk, ih fun f hf => h f (List.mem_cons_of_mem _ hf)]

/-- Sorted entry lists with the same look-ups are equal. -/
theorem eq_of_lookup_eq {es fs : List (String × α)} (he : Sorted es) (hf : Sorted fs)
    (h : ∀ key, lookup key es = lookup key fs) : es = fs := by
  induction es generalizing fs with
  | nil =>
    cases fs with
    | nil => rfl
    | cons f r => have := h f.1; simp [lookup] at this
  | cons e r ih =>
    obtain ⟨k, v⟩ := e
    have hk : ∀ g ∈ r, k < g.1 := fun g hg => List.rel_of_pairwise_cons he hg
    cases fs with
    | nil => have := h k; simp [lookup] at this
    | cons f s =>
      obtain ⟨l, w⟩ := f
      have hl : ∀ g ∈ s, l < g.1 := fun g hg => List.rel_of_pairwise_cons hf hg
      have hkl : k = l := by
        rcases Decidable.em (k = l) with h' | h'
        · exact h'
        · exfalso
          rcases Decidable.em (k < l) with hlt | hge
          · have := h k
            have hnone : lookup k ((l, w) :: s) = none := lookup_eq_none_of_lt (by
              intro g hg
              rcases List.mem_cons.1 hg with rfl | hg
              · exact hlt
              · exact String.lt_trans hlt (hl g hg))
            rw [hnone] at this
            simp [lookup] at this
          · have hgt : l < k := by
              rcases Decidable.em (l < k) with h'' | h''
              · exact h''
              · exact absurd (String.le_antisymm (String.not_lt.1 h'') (String.not_lt.1 hge)) h'
            have := h l
            have hnone : lookup l ((k, v) :: r) = none := lookup_eq_none_of_lt (by
              intro g hg
              rcases List.mem_cons.1 hg with rfl | hg
              · exact hgt
              · exact String.lt_trans hgt (hk g hg))
            rw [hnone] at this
            simp [lookup] at this
      subst hkl
      have hvw : v = w := by simpa [lookup] using h k
      subst hvw
      have : r = s := by
        refine ih (List.Pairwise.of_cons he) (List.Pairwise.of_cons hf) fun key => ?_
        by_cases hkey : key = k
        · subst hkey
          rw [lookup_eq_none_of_lt hk, lookup_eq_none_of_lt hl]
        · simpa [lookup, hkey] using h key
      rw [this]

/-- The entries in the order of insertion into an empty list; the last value of a key stays. -/
def sort (entries : List (String × α)) : List (String × α) :=
  entries.foldl (fun es e => insert e.1 e.2 es) []

theorem sorted_foldl_insert (entries : List (String × α)) {es : List (String × α)}
    (h : Sorted es) : Sorted (entries.foldl (fun es e => insert e.1 e.2 es) es) := by
  induction entries generalizing es with
  | nil => exact h
  | cons e r ih => exact ih (sorted_insert e.1 e.2 h)

theorem sorted_sort (entries : List (String × α)) : Sorted (sort entries) :=
  sorted_foldl_insert entries List.Pairwise.nil

end Entries

/-- A finite map from texts: one value per key, listed by the code points of the keys. -/
structure KeyMap (α : Type) where
  entries : List (String × α)
  sorted : Entries.Sorted entries

namespace KeyMap

variable {α β : Type}

/-- The map without entries. -/
def empty : KeyMap α := ⟨[], List.Pairwise.nil⟩

instance : EmptyCollection (KeyMap α) := ⟨empty⟩

instance : Inhabited (KeyMap α) := ⟨empty⟩

instance [DecidableEq α] : DecidableEq (KeyMap α) := fun a b =>
  if h : a.entries = b.entries then
    isTrue (by cases a; cases b; simp only [mk.injEq]; exact h)
  else isFalse (fun e => h (by rw [e]))

/-- The value at a key. -/
def get? (m : KeyMap α) (key : String) : Option α := Entries.lookup key m.entries

/-- The keys in order. -/
def keys (m : KeyMap α) : List String := m.entries.map Prod.fst

/-- Whether the map has no entry. -/
def isEmpty (m : KeyMap α) : Bool := m.entries.isEmpty

/-- The map with the value at the key, in place of any former one. -/
def insert (m : KeyMap α) (key : String) (value : α) : KeyMap α :=
  ⟨Entries.insert key value m.entries, Entries.sorted_insert key value m.sorted⟩

/-- The map of the pairs; of several values for a key the last one stays. -/
def ofList (pairs : List (String × α)) : KeyMap α :=
  ⟨Entries.sort pairs, Entries.sorted_sort pairs⟩

/-- The map with every value replaced. -/
def map (f : α → β) (m : KeyMap α) : KeyMap β :=
  ⟨m.entries.map fun e => (e.1, f e.2), by
    simpa [Entries.Sorted, List.pairwise_map] using m.sorted⟩

@[simp] theorem get?_empty (key : String) : (empty : KeyMap α).get? key = none := rfl

theorem get?_insert (m : KeyMap α) (key other : String) (value : α) :
    (m.insert key value).get? other = if other = key then some value else m.get? other :=
  Entries.lookup_insert key other value m.entries

/-- Maps with the same look-ups are equal. -/
theorem ext_get? {a b : KeyMap α} (h : ∀ key, a.get? key = b.get? key) : a = b := by
  have : a.entries = b.entries := Entries.eq_of_lookup_eq a.sorted b.sorted h
  cases a; cases b; simp only [mk.injEq]; exact this

end KeyMap

end ApiDesign
