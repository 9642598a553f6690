import Mathlib.Data.List.Forall2
import Mathlib.Data.List.Nodup
import Mathlib.Data.Option.Basic

/-!
# Results and lists

Facts that the proofs about builders and documents share: how a result that went through came about,
and lists whose elements are found by a key.
-/

namespace ApiDesign

variable {α β γ ε : Type}

/-- A result that went through came from a first part that went through. -/
theorem exists_of_bind_ok {x : Except ε α} {f : α → Except ε β} {b : β} (h : x >>= f = .ok b) :
    ∃ a, x = .ok a ∧ f a = .ok b := by
  cases x with
  | error e => cases h
  | ok a => exact ⟨a, rfl, h⟩

theorem bind_eq_ok_iff {x : Except ε α} {f : α → Except ε β} {b : β} :
    x >>= f = .ok b ↔ ∃ a, x = .ok a ∧ f a = .ok b := by
  constructor
  · exact exists_of_bind_ok
  · rintro ⟨a, rfl, h⟩
    exact h

theorem map_eq_ok_iff {x : Except ε α} {f : α → β} {b : β} :
    f <$> x = .ok b ↔ ∃ a, x = .ok a ∧ f a = b := by
  cases x with
  | error e => exact iff_of_false (by rintro ⟨⟩) (by rintro ⟨a, ⟨⟩, -⟩)
  | ok a =>
    constructor
    · intro h
      exact ⟨a, rfl, Except.ok.inj h⟩
    · rintro ⟨_, ⟨⟩, rfl⟩
      rfl

theorem guarded_map_eq_ok_iff {c : Prop} [Decidable c] {e : ε} {x : Except ε α} {f : α → β} {b : β} :
    (if c then .error e else f <$> x) = .ok b ↔ ¬c ∧ ∃ a, x = .ok a ∧ f a = b := by
  split
  · rename_i h
    exact iff_of_false (by rintro ⟨⟩) fun hb => hb.1 h
  · rename_i h
    rw [map_eq_ok_iff, and_iff_right h]

/-- The error of a result that did not go through. -/
def errorOf? : Except ε α → Option ε
  | .error e => some e
  | .ok _ => none

theorem errorOf?_eq_none_iff {x : Except ε α} : errorOf? x = none ↔ ∃ a, x = .ok a := by
  cases x <;> simp [errorOf?]

theorem errorOf?_map (f : α → β) (x : Except ε α) : errorOf? (f <$> x) = errorOf? x := by
  cases x <;> rfl

theorem errorOf?_guarded {c : Prop} [Decidable c] {e : ε} {x : Except ε α} :
    errorOf? (if c then .error e else x) = if c then some e else errorOf? x := by
  split <;> rfl

/-- Of two parts, the second one is to blame only if the first went through. -/
theorem errorOf?_bind {x : Except ε α} {f : α → Except ε β} {o : Option ε}
    (h : ∀ a, x = .ok a → errorOf? (f a) = o) : errorOf? (x >>= f) = (errorOf? x).or o := by
  cases x with
  | error e => rfl
  | ok a => exact h a rfl

/-- Checks that are made one after the other end with the first that fails. -/
theorem errorOf?_forM (f : α → Except ε PUnit) (xs : List α) :
    errorOf? (forM xs f) = xs.findSome? fun x => errorOf? (f x) := by
  induction xs with
  | nil => rfl
  | cons x xs ih =>
    rw [List.forM_cons, errorOf?_bind fun _ _ => ih, List.findSome?_cons]
    cases errorOf? (f x) <;> rfl

/-- A list is converted up to the first element that cannot be. -/
theorem errorOf?_mapM (f : α → Except ε β) (xs : List α) :
    errorOf? (xs.mapM f) = xs.findSome? fun x => errorOf? (f x) := by
  induction xs with
  | nil => rfl
  | cons x xs ih =>
    have hrest (b : β) : errorOf? (do return b :: (← xs.mapM f)) =
        xs.findSome? fun x => errorOf? (f x) := (errorOf?_map _ _).trans ih
    rw [List.mapM_cons, errorOf?_bind fun b _ => hrest b, List.findSome?_cons]
    cases errorOf? (f x) <;> rfl

/-- Steps that fail whatever came before end with the first that fails. -/
theorem errorOf?_foldlM {step : β → α → Except ε β} {fault : α → Option ε}
    (h : ∀ b x, errorOf? (step b x) = fault x) (xs : List α) (b : β) :
    errorOf? (xs.foldlM step b) = xs.findSome? fault := by
  induction xs generalizing b with
  | nil => rfl
  | cons x xs ih =>
    rw [List.foldlM_cons, errorOf?_bind fun b' _ => ih b', h, List.findSome?_cons]
    cases fault x <;> rfl

/-- The first element with something wrong is the first that is not as it should be. -/
theorem findSome?_guarded {p : α → Prop} [DecidablePred p] (f : α → β) (xs : List α) :
    (xs.findSome? fun x => if p x then none else some (f x)) = (xs.find? fun x => ¬p x).map f := by
  induction xs with
  | nil => rfl
  | cons x xs ih =>
    rw [List.findSome?_cons]
    by_cases hx : p x
    · rw [if_pos hx, List.find?_cons_of_neg (by simpa using hx)]
      exact ih
    · rw [if_neg hx, List.find?_cons_of_pos (by simpa using hx)]
      rfl

/-- Nothing is wrong if neither the first check finds something nor the others do. -/
theorem guarded_eq_none_iff {c : Prop} [Decidable c] {e : ε} {o : Option ε} :
    (if c then some e else o) = none ↔ ¬c ∧ o = none := by
  split
  · rename_i h
    exact iff_of_false (Option.some_ne_none e) fun hnone => hnone.1 h
  · rename_i h
    exact (and_iff_right h).symm

/-- Two results with the same image are the same error, or both went through. -/
theorem cases_of_map_eq_map {x : Except ε α} {y : Except ε β} {f : α → γ} {g : β → γ}
    (h : x.map f = y.map g) :
    (∃ e, x = .error e ∧ y = .error e) ∨ ∃ a b, x = .ok a ∧ y = .ok b ∧ f a = g b := by
  cases x with
  | error e =>
    cases y with
    | error e' =>
      cases h
      exact .inl ⟨e, rfl, rfl⟩
    | ok b => cases h
  | ok a =>
    cases y with
    | error e => cases h
    | ok b => exact .inr ⟨a, b, rfl, rfl, Except.ok.inj h⟩

/-- Optional values with the same image are both there or both not. -/
theorem rel_of_map_eq_map {f : α → β} {R : α → α → Prop}
    (hR : ∀ a b, f a = f b → R a b) {x y : Option α} (h : x.map f = y.map f) :
    Option.Rel R x y := by
  cases x with
  | none =>
    cases y with
    | none => exact .none
    | some b => cases h
  | some a =>
    cases y with
    | none => cases h
    | some b => exact .some (hR a b (Option.some.inj h))

theorem forall₂_of_map_eq_map {f : α → β} {R : α → α → Prop}
    (hR : ∀ a b, f a = f b → R a b) {xs ys : List α} (h : xs.map f = ys.map f) :
    List.Forall₂ R xs ys := by
  have heq : List.Forall₂ (· = ·) (xs.map f) (ys.map f) := by
    rw [h, List.forall₂_eq_eq_eq]
  rw [List.forall₂_map_left_iff, List.forall₂_map_right_iff] at heq
  exact heq.imp hR

/-- A list is related to what is made of its elements if each element is. -/
theorem forall₂_map_of_forall {R : α → β → Prop} {f : α → β} (h : ∀ a, R a (f a)) (xs : List α) :
    List.Forall₂ R xs (xs.map f) :=
  List.forall₂_map_right_iff.2 (List.forall₂_same.2 fun a _ => h a)

/-- A fresh key at the end keeps the keys different. -/
theorem nodup_map_concat (f : α → β) {l : List α} {x : α} (hl : (l.map f).Nodup)
    (hx : ∀ y ∈ l, f y ≠ f x) : ((l ++ [x]).map f).Nodup := by
  rw [List.map_append, List.nodup_append]
  refine ⟨hl, by simp, ?_⟩
  intro a ha b hb
  obtain ⟨y, hy, rfl⟩ := List.mem_map.1 ha
  rw [List.map_singleton, List.mem_singleton] at hb
  rw [hb]
  exact hx y hy

/-- What holds of some elements and of one more holds of all of them. -/
theorem forall_mem_concat {P : α → Prop} {l : List α} {x : α} (hl : ∀ y ∈ l, P y) (hx : P x) :
    ∀ y ∈ l ++ [x], P y := by
  intro y hy
  rw [List.mem_append, List.mem_singleton] at hy
  rcases hy with hy | rfl
  · exact hl y hy
  · exact hx

/-- A look-up fails exactly if the key is free. -/
theorem find?_key_eq_none_iff [DecidableEq β] {f : α → β} {l : List α} {key : β} :
    l.find? (fun x => f x = key) = none ↔ ∀ x ∈ l, f x ≠ key := by
  simp

theorem not_isSome_find?_key_iff [DecidableEq β] {f : α → β} {l : List α} {key : β} :
    ¬(l.find? fun x => f x = key).isSome = true ↔ ∀ x ∈ l, f x ≠ key := by
  rw [Bool.not_eq_true, Option.isSome_eq_false_iff, Option.isNone_iff_eq_none]
  exact find?_key_eq_none_iff

theorem ne_of_find?_key [DecidableEq β] {f : α → β} {l : List α} {key : β}
    (h : ¬(l.find? fun x => f x = key).isSome = true) : ∀ x ∈ l, f x ≠ key :=
  not_isSome_find?_key_iff.1 h

/-- Where the keys are different, an element is found under its key. -/
theorem find?_key_of_mem [DecidableEq β] {f : α → β} {l : List α} (hl : (l.map f).Nodup) {x : α}
    (hx : x ∈ l) : (l.find? fun y => f y = f x) = some x := by
  have hsome : (l.find? fun y => f y = f x).isSome = true := by
    rw [List.find?_isSome]
    exact ⟨x, hx, by simp⟩
  obtain ⟨y, hy⟩ := Option.isSome_iff_exists.1 hsome
  have hkey : f y = f x := by simpa using List.find?_some hy
  rw [hy, List.inj_on_of_nodup_map hl (List.mem_of_find?_eq_some hy) hx hkey]

/-- Where the keys are different, at most one element has a key. -/
theorem filter_key_eq_toList [DecidableEq β] {f : α → β} {l : List α} (hl : (l.map f).Nodup)
    (key : β) : (l.filter fun x => f x = key) = (l.find? fun x => f x = key).toList := by
  induction l with
  | nil => rfl
  | cons x l ih =>
    rw [List.map_cons, List.nodup_cons] at hl
    obtain ⟨hx, hl⟩ := hl
    by_cases hkey : f x = key
    · have hrest : (l.filter fun y => f y = key) = [] := by
        rw [List.filter_eq_nil_iff]
        intro y hy hyk
        rw [decide_eq_true_eq] at hyk
        exact hx (List.mem_map.2 ⟨y, hy, hyk.trans hkey.symm⟩)
      rw [List.filter_cons_of_pos (by simpa using hkey), hrest,
        List.find?_cons_of_pos (by simpa using hkey)]
      rfl
    · rw [List.filter_cons_of_neg (by simpa using hkey), List.find?_cons_of_neg (by simpa using hkey)]
      exact ih hl

/-! ### Stores that take entries under fresh keys -/

theorem exists_mem_of_forall₂ {R : α → β → Prop} {xs : List α} {ys : List β}
    (h : List.Forall₂ R xs ys) {x : α} (hx : x ∈ xs) : ∃ y ∈ ys, R x y := by
  induction h with
  | nil => cases hx
  | cons hy _ ih =>
    rcases List.mem_cons.1 hx with rfl | hx
    · exact ⟨_, List.mem_cons_self, hy⟩
    · obtain ⟨y, hmem, hR⟩ := ih hx
      exact ⟨y, List.mem_cons_of_mem _ hmem, hR⟩

theorem map_eq_map_of_forall₂ {R : α → β → Prop} {f : α → γ} {g : β → γ}
    (hR : ∀ x y, R x y → g y = f x) {xs : List α} {ys : List β} (h : List.Forall₂ R xs ys) :
    ys.map g = xs.map f := by
  induction h with
  | nil => rfl
  | cons hy _ ih => rw [List.map_cons, List.map_cons, ih, hR _ _ hy]

/-- All elements have a partner exactly if each of them has one. -/
theorem exists_forall₂_iff {R : α → β → Prop} {xs : List α} :
    (∃ ys, List.Forall₂ R xs ys) ↔ ∀ x ∈ xs, ∃ y, R x y := by
  induction xs with
  | nil => exact iff_of_true ⟨[], .nil⟩ (by simp)
  | cons x xs ih =>
    rw [List.forall_mem_cons, ← ih]
    constructor
    · rintro ⟨_, h⟩
      cases h with
      | cons hy hys => exact ⟨⟨_, hy⟩, _, hys⟩
    · rintro ⟨⟨y, hy⟩, ys, hys⟩
      exact ⟨y :: ys, .cons hy hys⟩

section Stores

variable {σ κ : Type} {add : σ → α → Except ε σ}
variable (store : List β → σ) (key : α → κ) (name : β → κ) (R : α → β → Prop)

/-- Entries that are added to a store one by one, each as a node under a fresh name, all go in
exactly if their keys are different from each other and from the names in the store, and if there is
a node for each of them. -/
theorem foldlM_append_iff
    (hadd : ∀ ys x s, add (store ys) x = .ok s ↔
      (∀ y ∈ ys, name y ≠ key x) ∧ ∃ y, R x y ∧ store (ys ++ [y]) = s)
    (hkey : ∀ x y, R x y → name y = key x) {xs : List α} {ys : List β} {s : σ} :
    xs.foldlM add (store ys) = .ok s ↔
      (xs.map key).Nodup ∧ (∀ x ∈ xs, ∀ y ∈ ys, name y ≠ key x) ∧
        ∃ zs, List.Forall₂ R xs zs ∧ store (ys ++ zs) = s := by
  induction xs generalizing ys with
  | nil =>
    constructor
    · rintro ⟨⟩
      exact ⟨List.nodup_nil, by simp, [], .nil, by rw [List.append_nil]⟩
    · rintro ⟨-, -, zs, hzs, rfl⟩
      cases hzs
      rw [List.append_nil]
      rfl
  | cons x xs ih =>
    rw [List.foldlM_cons, bind_eq_ok_iff, List.map_cons, List.nodup_cons, List.forall_mem_cons]
    constructor
    · rintro ⟨_, hx, hxs⟩
      obtain ⟨hfresh, y, hy, rfl⟩ := (hadd ys x _).1 hx
      obtain ⟨hnodup, hfreshs, zs, hzs, rfl⟩ := ih.1 hxs
      refine ⟨⟨fun hmem => ?_, hnodup⟩, ⟨hfresh, fun x' hx' y' hy' => ?_⟩, y :: zs, .cons hy hzs, ?_⟩
      · obtain ⟨x', hx', hkeys⟩ := List.mem_map.1 hmem
        exact hfreshs x' hx' y (by simp) ((hkey x y hy).trans hkeys.symm)
      · exact hfreshs x' hx' y' (List.mem_append_left _ hy')
      · rw [List.append_assoc]
        rfl
    · rintro ⟨⟨hnew, hnodup⟩, ⟨hfresh, hfreshs⟩, _, hzs, rfl⟩
      cases hzs with
      | @cons _ y _ zs hy hzs =>
        refine ⟨store (ys ++ [y]), (hadd ys x _).2 ⟨hfresh, y, hy, rfl⟩,
          ih.2 ⟨hnodup, ?_, zs, hzs, ?_⟩⟩
        · intro x' hx'
          refine forall_mem_concat (hfreshs x' hx') fun hname => hnew ?_
          rw [← hkey x y hy, hname]
          exact List.mem_map_of_mem hx'
        · rw [List.append_assoc]
          rfl

/-- The same for a store that is empty at first. -/
theorem foldlM_append_nil_iff
    (hadd : ∀ ys x s, add (store ys) x = .ok s ↔
      (∀ y ∈ ys, name y ≠ key x) ∧ ∃ y, R x y ∧ store (ys ++ [y]) = s)
    (hkey : ∀ x y, R x y → name y = key x) {xs : List α} {s : σ} :
    xs.foldlM add (store []) = .ok s ↔
      (xs.map key).Nodup ∧ ∃ zs, List.Forall₂ R xs zs ∧ store zs = s := by
  rw [foldlM_append_iff store key name R hadd hkey]
  simp

end Stores

end ApiDesign
