import ApiDesign.KeyMap
import Mathlib.Data.List.Nodup

/-!
# Maps from texts: entries and look-ups

The entries of a map are its look-ups; and writing a value under every name of a list leaves exactly
those values, in whatever order the names come and however often.

* `KeyMap.mem_entries_iff`, `KeyMap.mem_keys_iff` — entries and keys are told by look-ups;
* `KeyMap.get?_foldl_insert` — the look-ups after writing under every name of a list;
* `Entries.lookup_sort` — of the values of one key the last one is found;
* `KeyMap.get?_map`, `KeyMap.get?_ofList`, `Entries.lookup_filterMap`, `Entries.lookup_filter` — the
  look-ups in maps that are made from others.
-/

namespace ApiDesign

namespace Entries

variable {α β : Type}

theorem mem_of_lookup {es : List (String × α)} {key : String} {value : α}
    (h : lookup key es = some value) : (key, value) ∈ es := by
  induction es with
  | nil => cases h
  | cons e r ih =>
    obtain ⟨k, v⟩ := e
    rw [lookup] at h
    split at h
    · rename_i heq
      cases h
      rw [heq]
      exact List.mem_cons_self
    · exact List.mem_cons_of_mem _ (ih h)

theorem nodup_keys {es : List (String × α)} (h : Sorted es) : (es.map Prod.fst).Nodup := by
  rw [List.Nodup, List.pairwise_map]
  refine h.imp ?_
  intro a b hlt heq
  rw [heq] at hlt
  exact String.lt_irrefl _ hlt

/-- Where the keys are different, an entry is found under its key. -/
theorem lookup_of_mem {es : List (String × α)} (h : (es.map Prod.fst).Nodup) {key : String}
    {value : α} (hmem : (key, value) ∈ es) : lookup key es = some value := by
  induction es with
  | nil => cases hmem
  | cons e r ih =>
    obtain ⟨k, v⟩ := e
    obtain ⟨hfresh, hr⟩ := List.nodup_cons.1 h
    rcases List.mem_cons.1 hmem with heq | hmem
    · cases heq
      simp [lookup]
    · have hkey : key ∈ r.map Prod.fst := List.mem_map.2 ⟨_, hmem, rfl⟩
      have hne : key ≠ k := by
        rintro rfl
        exact hfresh hkey
      rw [lookup, if_neg hne]
      exact ih hr hmem

/-- Something is found under exactly those keys that entries have, however often. -/
theorem isSome_lookup_iff {es : List (String × α)} {key : String} :
    (lookup key es).isSome = true ↔ ∃ e ∈ es, e.1 = key := by
  induction es with
  | nil => simp [lookup]
  | cons e r ih =>
    obtain ⟨k, v⟩ := e
    by_cases h : key = k
    · simp [lookup, h]
    · have h' : ¬k = key := fun heq => h heq.symm
      simp [lookup, h, h', ih]

theorem lookup_eq_some_iff {es : List (String × α)} (h : (es.map Prod.fst).Nodup) {key : String}
    {value : α} : lookup key es = some value ↔ (key, value) ∈ es :=
  ⟨mem_of_lookup, lookup_of_mem h⟩

/-! ### Entries that are replaced, left out or put in place -/

theorem lookup_map (f : α → β) (es : List (String × α)) (key : String) :
    lookup key (es.map fun e => (e.1, f e.2)) = (lookup key es).map f := by
  induction es with
  | nil => rfl
  | cons e r ih =>
    obtain ⟨k, v⟩ := e
    by_cases h : key = k <;> simp [lookup, h, ih]

/-- Values that are replaced or left out under their keys: what is found is what is left of the value
that was found before. -/
theorem lookup_filterMap (f : String → α → Option β) {es : List (String × α)} (h : Sorted es)
    (key : String) :
    lookup key (es.filterMap fun e => (f e.1 e.2).map fun v => (e.1, v)) =
      (lookup key es).bind (f key) := by
  induction es with
  | nil => rfl
  | cons e r ih =>
    obtain ⟨k, v⟩ := e
    have hr : Sorted r := List.Pairwise.of_cons h
    by_cases hkey : key = k
    · subst hkey
      have hnone : lookup key r = none :=
        lookup_eq_none_of_lt fun g hg => List.rel_of_pairwise_cons h hg
      have hrest := ih hr
      rw [hnone] at hrest
      rw [List.filterMap_cons]
      cases hv : f key v with
      | none => simpa [lookup, hv] using hrest
      | some w => simp [lookup, hv]
    · rw [List.filterMap_cons]
      cases hv : f k v with
      | none => simpa [lookup, hkey] using ih hr
      | some w => simpa [lookup, hkey] using ih hr

theorem sorted_filterMap (f : String → α → Option β) {es : List (String × α)} (h : Sorted es) :
    Sorted (es.filterMap fun e => (f e.1 e.2).map fun v => (e.1, v)) := by
  refine List.Pairwise.filterMap _ ?_ h
  intro a b hlt x hx y hy
  obtain ⟨v, -, rfl⟩ := Option.map_eq_some_iff.1 hx
  obtain ⟨w, -, rfl⟩ := Option.map_eq_some_iff.1 hy
  exact hlt

/-- Entries are put in place one by one, so that the last value of a key stays. -/
theorem lookup_sort (es : List (String × α)) (key : String) :
    lookup key (sort es) = lookup key es.reverse := by
  rw [sort, List.foldl_eq_foldr_reverse]
  induction es.reverse with
  | nil => rfl
  | cons e r ih =>
    rw [List.foldr_cons, lookup_insert, ih]
    rfl

/-- Where the keys are different, no entry replaces another. -/
theorem lookup_sort_of_nodup {es : List (String × α)} (h : (es.map Prod.fst).Nodup)
    (key : String) : lookup key (sort es) = lookup key es := by
  have hreverse : (es.reverse.map Prod.fst).Nodup := by
    rw [List.map_reverse, List.nodup_reverse]
    exact h
  refine Option.ext fun value => ?_
  rw [lookup_sort, lookup_eq_some_iff hreverse, lookup_eq_some_iff h, List.mem_reverse]

theorem sort_eq_self {es : List (String × α)} (h : Sorted es) : sort es = es :=
  eq_of_lookup_eq (sorted_sort es) h (lookup_sort_of_nodup (nodup_keys h))

/-- Entries that are left out by their keys are not found, and the others are. -/
theorem lookup_filter (p : String → Bool) (es : List (String × α)) (key : String) :
    lookup key (es.filter fun e => p e.1) = if p key then lookup key es else none := by
  induction es with
  | nil => split <;> rfl
  | cons e es ih =>
    obtain ⟨name, a⟩ := e
    by_cases hkey : key = name
    · subst hkey
      cases hp : p key <;> simp_all [lookup]
    · cases hp : p name <;> simp_all [lookup]

end Entries

namespace KeyMap

variable {α β : Type}

theorem mem_entries_iff (m : KeyMap α) (key : String) (value : α) :
    (key, value) ∈ m.entries ↔ m.get? key = some value :=
  (Entries.lookup_eq_some_iff (Entries.nodup_keys m.sorted)).symm

theorem mem_keys_iff (m : KeyMap α) (key : String) :
    key ∈ m.keys ↔ (m.get? key).isSome = true := by
  rw [keys, List.mem_map, Option.isSome_iff_exists]
  constructor
  · rintro ⟨⟨k, v⟩, hmem, rfl⟩
    exact ⟨v, (m.mem_entries_iff k v).1 hmem⟩
  · rintro ⟨v, hv⟩
    exact ⟨(key, v), (m.mem_entries_iff key v).2 hv, rfl⟩

theorem eq_empty_of_isEmpty {m : KeyMap α} (h : m.isEmpty = true) : m = .empty := by
  obtain ⟨entries, hsorted⟩ := m
  obtain rfl : entries = [] := List.isEmpty_iff.1 h
  rfl

/-- What is written under a name depends on the name alone, so it does not matter how often and in
which order the names come. -/
theorem get?_foldl_insert (m : KeyMap α) (names : List String) (f : String → α) (key : String) :
    (names.foldl (fun m name => m.insert name (f name)) m).get? key =
      if key ∈ names then some (f key) else m.get? key := by
  induction names generalizing m with
  | nil => simp
  | cons name names ih =>
    rw [List.foldl_cons, ih, get?_insert]
    by_cases hmem : key ∈ names
    · rw [if_pos hmem, if_pos (List.mem_cons_of_mem _ hmem)]
    · rw [if_neg hmem]
      by_cases heq : key = name
      · subst heq
        rw [if_pos rfl, if_pos List.mem_cons_self]
      · rw [if_neg heq, if_neg (by simp [heq, hmem])]

@[simp] theorem get?_map (f : α → β) (m : KeyMap α) (key : String) :
    (m.map f).get? key = (m.get? key).map f :=
  Entries.lookup_map f m.entries key

@[simp] theorem keys_map (f : α → β) (m : KeyMap α) : (m.map f).keys = m.keys := by
  simp [keys, map, Function.comp_def]

theorem map_insert (f : α → β) (m : KeyMap α) (key : String) (value : α) :
    (m.insert key value).map f = (m.map f).insert key (f value) := by
  refine ext_get? fun other => ?_
  rw [get?_map, get?_insert, get?_insert, get?_map]
  split <;> rfl

theorem get?_ofList {pairs : List (String × α)} (h : (pairs.map Prod.fst).Nodup) (key : String) :
    (ofList pairs).get? key = Entries.lookup key pairs :=
  Entries.lookup_sort_of_nodup h key

end KeyMap

end ApiDesign
