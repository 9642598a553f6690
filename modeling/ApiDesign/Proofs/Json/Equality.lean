import ApiDesign.Json.Basic
import ApiDesign.Proofs.Basics
import ApiDesign.Proofs.KeyMap

/-!
# What equal JSON values have in common

Written forms can be compared as they are, or with the entries of their objects in the order of the
keys, as a reader holds them that does not keep the order of a text.  What is concluded from an
equality of written forms holds for both.

* `Json.sorted` — the entries of every object in the order of their keys;
* `Json.Equality` — an equality of values under which texts, items and entries are equal;
* `Json.Equality.fields` — objects with fixed keys agree in each of them;
* `Json.Equality.eq_of_map`, `eq_of_arr`, `eq_of_unlessEmpty`, `eq_of_obj` — what is equal if its
  written forms are.
-/

namespace ApiDesign

variable {α : Type}

namespace Json

/-! ### The order of entries -/

mutual

/-- The value with the entries of every object in the order of their keys. -/
def sorted : Json → Json
  | .arr items => .arr (sortedItems items)
  | .obj entries => .object (sortedEntries entries)
  | v => v

/-- The items, each with its entries in order. -/
def sortedItems : List Json → List Json
  | [] => []
  | v :: r => v.sorted :: sortedItems r

/-- The entries with their values in order, in the order in which they are listed. -/
def sortedEntries : List (String × Json) → List (String × Json)
  | [] => []
  | (key, v) :: r => (key, v.sorted) :: sortedEntries r

end

theorem sortedItems_eq_map (items : List Json) : sortedItems items = items.map sorted := by
  induction items with
  | nil => rfl
  | cons v items ih => rw [sortedItems, ih, List.map_cons]

theorem sortedEntries_eq_map (entries : List (String × Json)) :
    sortedEntries entries = entries.map fun e => (e.1, e.2.sorted) := by
  induction entries with
  | nil => rfl
  | cons e entries ih => rw [sortedEntries, ih, List.map_cons]

/-- The entries of every object are in the order of their keys. -/
def Ordered (v : Json) : Prop := v.sorted = v

/-! ### Equalities -/

/-- An equality of values: equal texts are the same text, equal lists have equal items, and equal
objects have equal values under their keys and, if their keys are as asked for, equal lists of
entries. -/
structure Equality (E : Json → Json → Prop) (Listed : List String → Prop) : Prop where
  str : ∀ {s t : String}, E (.str s) (.str t) → s = t
  bool : ∀ {a b : Bool}, E (.bool a) (.bool b) → a = b
  arr : ∀ {vs ws : List Json}, E (.arr vs) (.arr ws) → List.Forall₂ E vs ws
  lookup : ∀ {es fs : List (String × Json)}, (es.map Prod.fst).Nodup → (fs.map Prod.fst).Nodup →
    E (.obj es) (.obj fs) → ∀ key, Option.Rel E (Entries.lookup key es) (Entries.lookup key fs)
  obj : ∀ {es fs : List (String × Json)}, Listed (es.map Prod.fst) → Listed (fs.map Prod.fst) →
    E (.obj es) (.obj fs) → List.Forall₂ (fun e f => e.1 = f.1 ∧ E e.2 f.2) es fs
  listed : ∀ {keys : List String}, keys.Pairwise (· < ·) → Listed keys

theorem equality_eq : Equality (· = ·) fun _ => True where
  str := Json.str.inj
  bool := Json.bool.inj
  arr := by
    intro vs ws h
    rw [List.forall₂_eq_eq_eq]
    exact Json.arr.inj h
  lookup := by
    intro es fs _ _ h key
    rw [Json.obj.inj h]
    cases Entries.lookup key fs with
    | none => exact .none
    | some v => exact .some rfl
  obj := by
    intro es fs _ _ h
    rw [Json.obj.inj h]
    exact List.forall₂_same.2 fun _ _ => ⟨rfl, rfl⟩
  listed := fun _ => trivial

theorem equality_sorted :
    Equality (fun v w => v.sorted = w.sorted) fun keys => keys.Pairwise (· < ·) where
  str := Json.str.inj
  bool := Json.bool.inj
  arr := by
    intro vs ws h
    rw [sorted, sorted, sortedItems_eq_map, sortedItems_eq_map, Json.arr.injEq] at h
    exact forall₂_of_map_eq_map (fun _ _ hvw => hvw) h
  lookup := by
    intro es fs hes hfs h key
    have hnodup {gs : List (String × Json)} (hgs : (gs.map Prod.fst).Nodup) :
        ((gs.map fun e => (e.1, e.2.sorted)).map Prod.fst).Nodup := by
      rw [List.map_map]
      exact hgs
    rw [sorted, sorted, object, object, sortedEntries_eq_map, sortedEntries_eq_map,
      Json.obj.injEq] at h
    have hkey := congrArg (Entries.lookup key) h
    rw [Entries.lookup_sort_of_nodup (hnodup hes), Entries.lookup_sort_of_nodup (hnodup hfs),
      Entries.lookup_map, Entries.lookup_map] at hkey
    exact rel_of_map_eq_map (fun _ _ hvw => hvw) hkey
  obj := by
    intro es fs hes hfs h
    have hsorted {gs : List (String × Json)} (hgs : (gs.map Prod.fst).Pairwise (· < ·)) :
        Entries.sort (gs.map fun e => (e.1, e.2.sorted)) = gs.map fun e => (e.1, e.2.sorted) := by
      rw [List.pairwise_map] at hgs
      exact Entries.sort_eq_self (List.pairwise_map.2 hgs)
    rw [sorted, sorted, object, object, sortedEntries_eq_map, sortedEntries_eq_map, hsorted hes,
      hsorted hfs, Json.obj.injEq] at h
    exact forall₂_of_map_eq_map (fun _ _ hef => Prod.mk.inj hef) h
  listed := fun h => h

/-! ### Fixed keys -/

/-- The entries of the fields that are there. -/
def present (fields : List (String × Option Json)) : List (String × Json) :=
  fields.filterMap fun f => f.2.map fun v => (f.1, v)

theorem mem_keys_of_mem_present {fields : List (String × Option Json)} {e : String × Json}
    (h : e ∈ present fields) : e.1 ∈ fields.map Prod.fst := by
  obtain ⟨f, hf, hv⟩ := List.mem_filterMap.1 h
  obtain ⟨v, -, rfl⟩ := Option.map_eq_some_iff.1 hv
  exact List.mem_map.2 ⟨f, hf, rfl⟩

theorem nodup_keys_present {fields : List (String × Option Json)}
    (h : (fields.map Prod.fst).Nodup) : ((present fields).map Prod.fst).Nodup := by
  induction fields with
  | nil => exact List.nodup_nil
  | cons f fields ih =>
    obtain ⟨name, x⟩ := f
    rw [List.map_cons, List.nodup_cons] at h
    cases x with
    | none => exact ih h.2
    | some v =>
      refine List.nodup_cons.2 ⟨fun hmem => ?_, ih h.2⟩
      obtain ⟨e, he, hkey⟩ := List.mem_map.1 hmem
      have hname : e.1 ∈ fields.map Prod.fst := mem_keys_of_mem_present he
      rw [hkey] at hname
      exact h.1 hname

theorem lookup_present_of_not_mem {fields : List (String × Option Json)} {key : String}
    (h : key ∉ fields.map Prod.fst) : Entries.lookup key (present fields) = none := by
  cases hlookup : Entries.lookup key (present fields) with
  | none => rfl
  | some v => exact absurd (mem_keys_of_mem_present (Entries.mem_of_lookup hlookup)) h

/-- Of the fields the first one is found under its name, and the others as without it. -/
theorem lookup_present_cons {key name : String} {x : Option Json}
    {fields : List (String × Option Json)} (hname : name ∉ fields.map Prod.fst) :
    Entries.lookup key (present ((name, x) :: fields)) =
      if key = name then x else Entries.lookup key (present fields) := by
  cases x with
  | none =>
    show Entries.lookup key (present fields) = _
    by_cases hkey : key = name
    · rw [if_pos hkey, hkey]
      exact lookup_present_of_not_mem hname
    · rw [if_neg hkey]
  | some v => rfl

theorem rel_fields_of_lookup {R : Json → Json → Prop} {fs gs : List (String × Option Json)}
    (hkeys : fs.map Prod.fst = gs.map Prod.fst) (hnodup : (fs.map Prod.fst).Nodup)
    (h : ∀ key, Option.Rel R (Entries.lookup key (present fs)) (Entries.lookup key (present gs))) :
    List.Forall₂ (fun f g => Option.Rel R f.2 g.2) fs gs := by
  induction fs generalizing gs with
  | nil =>
    rw [List.map_nil, eq_comm, List.map_eq_nil_iff] at hkeys
    rw [hkeys]
    exact .nil
  | cons f fs ih =>
    cases gs with
    | nil => cases hkeys
    | cons g gs =>
      obtain ⟨name, x⟩ := f
      obtain ⟨name', y⟩ := g
      obtain ⟨hname, hrest⟩ := List.cons.inj hkeys
      obtain rfl : name = name' := hname
      obtain ⟨hfresh, hnodup⟩ := List.nodup_cons.1 hnodup
      have hfresh' : name ∉ gs.map Prod.fst := hrest ▸ hfresh
      refine .cons ?_ (ih hrest hnodup fun key => ?_)
      · have hfirst := h name
        rwa [lookup_present_cons hfresh, lookup_present_cons hfresh', if_pos rfl,
          if_pos rfl] at hfirst
      -- The name of the first field is not among the others, where nothing is found under it.
      · by_cases hkey : key = name
        · rw [hkey, lookup_present_of_not_mem hfresh, lookup_present_of_not_mem hfresh']
          exact .none
        · have hother := h key
          rwa [lookup_present_cons hfresh, lookup_present_cons hfresh', if_neg hkey,
            if_neg hkey] at hother

/-! ### What is equal if its written forms are -/

section WrittenForms

variable {R : Json → Json → Prop} {f : α → Json}

theorem eq_of_map {x y : Option α} (hf : ∀ a ∈ x, ∀ b ∈ y, R (f a) (f b) → a = b)
    (h : Option.Rel R (x.map f) (y.map f)) : x = y := by
  cases x with
  | none =>
    cases y with
    | none => rfl
    | some b => cases h
  | some a =>
    cases y with
    | none => cases h
    | some b =>
      cases h with
      | some h => rw [hf a rfl b rfl h]

theorem eq_of_unlessEmpty {g : List α → Json} {xs ys : List α} (hg : R (g xs) (g ys) → xs = ys)
    (h : Option.Rel R (if xs.isEmpty then none else some (g xs))
      (if ys.isEmpty then none else some (g ys))) : xs = ys := by
  cases xs with
  | nil =>
    cases ys with
    | nil => rfl
    | cons y ys => cases h
  | cons x xs =>
    cases ys with
    | nil => cases h
    | cons y ys =>
      cases h with
      | some h => exact hg h

theorem eq_of_forall₂ {β : Type} {R : β → β → Prop} {f : α → β} {xs ys : List α}
    (hf : ∀ a ∈ xs, ∀ b ∈ ys, R (f a) (f b) → a = b)
    (h : List.Forall₂ R (xs.map f) (ys.map f)) : xs = ys := by
  induction xs generalizing ys with
  | nil =>
    cases ys with
    | nil => rfl
    | cons b ys => cases h
  | cons a xs ih =>
    cases ys with
    | nil => cases h
    | cons b ys =>
      obtain ⟨hab, hrest⟩ := List.forall₂_cons.1 h
      have hhead : a = b := hf a List.mem_cons_self b List.mem_cons_self hab
      have htail : xs = ys := ih (fun a' ha' b' hb' =>
        hf a' (List.mem_cons_of_mem _ ha') b' (List.mem_cons_of_mem _ hb')) hrest
      rw [hhead, htail]

end WrittenForms

namespace Equality

variable {E : Json → Json → Prop} {Listed : List String → Prop} {f : α → Json}

/-- Objects with the same fixed keys agree in each field, also in whether it is there. -/
theorem fields (hE : Equality E Listed) {fs gs : List (String × Option Json)}
    (h : E (.record fs) (.record gs)) (hkeys : fs.map Prod.fst = gs.map Prod.fst)
    (hnodup : (fs.map Prod.fst).Nodup) : List.Forall₂ (fun f g => Option.Rel E f.2 g.2) fs gs :=
  rel_fields_of_lookup hkeys hnodup
    (hE.lookup (nodup_keys_present hnodup) (nodup_keys_present (hkeys ▸ hnodup)) h)

theorem eq_of_arr (hE : Equality E Listed) {xs ys : List α}
    (hf : ∀ a ∈ xs, ∀ b ∈ ys, E (f a) (f b) → a = b)
    (h : E (.arr (xs.map f)) (.arr (ys.map f))) : xs = ys :=
  eq_of_forall₂ hf (hE.arr h)

theorem eq_of_obj (hE : Equality E Listed) {es fs : List (String × α)}
    (hes : Listed (es.map Prod.fst)) (hfs : Listed (fs.map Prod.fst))
    (hf : ∀ e ∈ es, ∀ d ∈ fs, E (f e.2) (f d.2) → e.2 = d.2)
    (h : E (.obj (es.map fun e => (e.1, f e.2))) (.obj (fs.map fun e => (e.1, f e.2)))) :
    es = fs := by
  have hkeys {gs : List (String × α)} (hgs : Listed (gs.map Prod.fst)) :
      Listed ((gs.map fun e => (e.1, f e.2)).map Prod.fst) := by
    rw [List.map_map]
    exact hgs
  refine eq_of_forall₂ ?_ (hE.obj (hkeys hes) (hkeys hfs) h)
  intro e he d hd hed
  exact Prod.ext hed.1 (hf e he d hd hed.2)

theorem eq_of_entries (hE : Equality E Listed) {m n : KeyMap α}
    (hf : ∀ e ∈ m.entries, ∀ d ∈ n.entries, E (f e.2) (f d.2) → e.2 = d.2)
    (h : E (.obj (m.map f).entries) (.obj (n.map f).entries)) : m = n := by
  have hentries : m.entries = n.entries :=
    hE.eq_of_obj (hE.listed (List.pairwise_map.2 m.sorted))
      (hE.listed (List.pairwise_map.2 n.sorted)) hf h
  cases m
  cases n
  cases hentries
  rfl

/-- Lists of texts are told apart, and so are optional texts. -/
theorem eq_of_texts (hE : Equality E Listed) {xs ys : List String} (h : E (.texts xs) (.texts ys)) :
    xs = ys :=
  hE.eq_of_arr (fun _ _ _ _ => hE.str) h

theorem eq_of_text? (hE : Equality E Listed) {x y : Option String}
    (h : Option.Rel E (x.map .str) (y.map .str)) : x = y :=
  eq_of_map (fun _ _ _ _ => hE.str) h

theorem eq_of_text (hE : Equality E Listed) {s t : String}
    (h : Option.Rel E (some (.str s)) (some (.str t))) : s = t :=
  hE.str (Option.rel_some_some.1 h)

end Equality

end Json

end ApiDesign
