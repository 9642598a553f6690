import ApiDesign.Proofs.Builder.Runs
import Mathlib.Data.List.Perm.Basic

/-!
# Reordered designs

The parts of a design refer to each other by name, so it says the same if services, methods, routes
and schemes stand in another order.  Only security declarations for one node keep theirs.

* `Rearranged` — lists that match element by element after one of them is permuted;
* `Method.Reordered`, `Service.Reordered`, `Design.Reordered` — the parts in another order, level by
  level;
* `Design.reordered_reversed` — every design can be turned round;
* `Design.Reordered.get?_eq` — a name stands for the same scheme;
* `Design.Reordered.wellFormed` — a reordered design is well formed if the design is.
-/

namespace ApiDesign

variable {α β γ : Type}

/-! ### Lists in another order -/

/-- The second list has a partner for every element of the first one, in any order. -/
def Rearranged (R : α → β → Prop) (xs : List α) (ys : List β) : Prop :=
  ∃ middle, xs.Perm middle ∧ List.Forall₂ R middle ys

namespace Rearranged

variable {R : α → β → Prop} {xs : List α} {ys : List β}

theorem exists_of_mem_left (h : Rearranged R xs ys) {x : α} (hx : x ∈ xs) : ∃ y ∈ ys, R x y := by
  obtain ⟨middle, hperm, hall⟩ := h
  exact exists_mem_of_forall₂ hall (hperm.mem_iff.1 hx)

theorem exists_of_mem_right (h : Rearranged R xs ys) {y : β} (hy : y ∈ ys) : ∃ x ∈ xs, R x y := by
  obtain ⟨middle, hperm, hall⟩ := h
  obtain ⟨x, hx, hR⟩ := exists_mem_of_forall₂ hall.flip hy
  exact ⟨x, hperm.mem_iff.2 hx, hR⟩

/-- What partners have in common is a permutation. -/
theorem map_perm (h : Rearranged R xs ys) {f : α → γ} {g : β → γ}
    (hR : ∀ x y, R x y → g y = f x) : (xs.map f).Perm (ys.map g) := by
  obtain ⟨middle, hperm, hall⟩ := h
  have heq : ys.map g = middle.map f := map_eq_map_of_forall₂ hR hall
  rw [heq]
  exact hperm.map f

/-- If the lists that partners stand for are permutations, then so are all of them together. -/
theorem flatMap_perm (h : Rearranged R xs ys) {f : α → List γ} {g : β → List γ}
    (hR : ∀ x y, R x y → (f x).Perm (g y)) : (xs.flatMap f).Perm (ys.flatMap g) := by
  obtain ⟨middle, hperm, hall⟩ := h
  refine (hperm.flatMap_right f).trans ?_
  clear hperm
  induction hall with
  | nil => exact .nil
  | cons hxy _ ih =>
    rw [List.flatMap_cons, List.flatMap_cons]
    exact (hR _ _ hxy).append ih

/-- A list is rearranged by putting a partner of every element in the opposite order. -/
theorem map_reverse {f : α → β} (hR : ∀ x, R x (f x)) (xs : List α) :
    Rearranged R xs (xs.map f).reverse := by
  refine ⟨xs.reverse, xs.reverse_perm.symm, ?_⟩
  rw [← List.map_reverse, List.forall₂_map_right_iff]
  exact List.forall₂_same.2 fun x _ => hR x

end Rearranged

/-- Where the keys are different, a look-up gives the element with the key. -/
theorem find?_key_eq_some_iff [DecidableEq β] {f : α → β} {l : List α} (hl : (l.map f).Nodup)
    {key : β} {x : α} : (l.find? fun y => f y = key) = some x ↔ x ∈ l ∧ f x = key := by
  constructor
  · intro h
    exact ⟨List.mem_of_find?_eq_some h, by simpa using List.find?_some h⟩
  · rintro ⟨hx, rfl⟩
    exact find?_key_of_mem hl hx

/-- Where the keys are different, a look-up does not hang on the order. -/
theorem find?_key_perm [DecidableEq β] {f : α → β} {l l' : List α} (hperm : l.Perm l')
    (hl : (l.map f).Nodup) (key : β) :
    (l.find? fun y => f y = key) = l'.find? fun y => f y = key := by
  have hl' : (l'.map f).Nodup := (hperm.map f).nodup_iff.1 hl
  ext x
  rw [find?_key_eq_some_iff hl, find?_key_eq_some_iff hl', hperm.mem_iff]

/-! ### Designs in another order -/

/-- A method with its routes in another order. -/
structure Method.Reordered (m n : Method) : Prop where
  same : n = { m with routes := n.routes }
  routes : m.routes.Perm n.routes

/-- A service with its methods in another order, and their routes as well. -/
structure Service.Reordered (s t : Service) : Prop where
  same : t = { s with methods := t.methods }
  methods : Rearranged Method.Reordered s.methods t.methods

/-- Security declarations of which those for one node stand in the same order. -/
structure SecurityRequirements.SameAtNodes (s t : SecurityRequirements) : Prop where
  api : t.api = s.api
  services : ∀ service, t.forService service = s.forService service
  methods : ∀ service method, t.forMethod service method = s.forMethod service method

/-- A design with its parts in another order. -/
structure Design.Reordered (d d' : Design) : Prop where
  api : d'.api = d.api
  types : d.types.Perm d'.types
  services : Rearranged Service.Reordered d.services d'.services
  schemes : d.schemes.schemes.Perm d'.schemes.schemes
  security : d.security.SameAtNodes d'.security

/-- The design with all of its parts in the opposite order. -/
def Design.reversed (d : Design) : Design where
  api := d.api
  types := d.types.reverse
  services := (d.services.map fun s => { s with
    methods := (s.methods.map fun m => { m with routes := m.routes.reverse }).reverse }).reverse
  schemes := ⟨d.schemes.schemes.reverse⟩
  security := d.security

theorem Design.reordered_reversed (d : Design) : d.Reordered d.reversed where
  api := rfl
  types := d.types.reverse_perm.symm
  services := by
    refine Rearranged.map_reverse (fun s => ⟨rfl, ?_⟩) d.services
    exact Rearranged.map_reverse (fun m => ⟨rfl, m.routes.reverse_perm.symm⟩) s.methods
  schemes := d.schemes.schemes.reverse_perm.symm
  security := ⟨rfl, fun _ => rfl, fun _ _ => rfl⟩

namespace Method.Reordered

variable {m n : Method} (h : m.Reordered n)
include h

theorem name_eq : n.name = m.name := by
  rw [h.same]

theorem payload_eq : n.payload = m.payload := by
  rw [h.same]

theorem result_eq : n.result = m.result := by
  rw [h.same]

end Method.Reordered

namespace Service.Reordered

variable {s t : Service} (h : s.Reordered t)
include h

theorem name_eq : t.name = s.name := by
  rw [h.same]

end Service.Reordered

/-! ### Well-formed designs in another order -/

theorem Payload.Mirrors.perm {types types' : List UserType} (hperm : types.Perm types')
    (hnodup : (types.map (·.name)).Nodup) {p : Payload} (h : p.Mirrors types) :
    p.Mirrors types' := by
  intro name hname
  rw [← find?_key_perm hperm hnodup]
  exact h name hname

namespace SecurityRequirements

theorem mem_services_iff {s : SecurityRequirements} {e : ServiceRequirement} :
    e ∈ s.services ↔ e.requirement ∈ s.forService e.service := by
  rw [forService, List.mem_map]
  constructor
  · intro he
    exact ⟨e, List.mem_filter.2 ⟨he, by simp⟩, rfl⟩
  · rintro ⟨⟨service, requirement⟩, hmem, rfl⟩
    obtain ⟨hf, hservice⟩ := List.mem_filter.1 hmem
    rw [decide_eq_true_eq] at hservice
    obtain rfl := hservice
    exact hf

theorem mem_methods_iff {s : SecurityRequirements} {e : MethodRequirement} :
    e ∈ s.methods ↔ e.security ∈ s.forMethod e.service e.method := by
  rw [forMethod, List.mem_map]
  constructor
  · intro he
    exact ⟨e, List.mem_filter.2 ⟨he, by simp⟩, rfl⟩
  · rintro ⟨⟨service, method, security⟩, hmem, rfl⟩
    obtain ⟨hf, hmethod⟩ := List.mem_filter.1 hmem
    rw [decide_eq_true_eq] at hmethod
    obtain ⟨rfl, rfl⟩ := hmethod
    exact hf

namespace SameAtNodes

variable {s t : SecurityRequirements} (h : s.SameAtNodes t)
include h

theorem mem_services {e : ServiceRequirement} (he : e ∈ t.services) : e ∈ s.services := by
  rw [mem_services_iff, ← h.services]
  exact mem_services_iff.1 he

theorem mem_methods {e : MethodRequirement} (he : e ∈ t.methods) : e ∈ s.methods := by
  rw [mem_methods_iff, ← h.methods]
  exact mem_methods_iff.1 he

theorem mem_all {r : Requirement} (hr : r ∈ t.all) : r ∈ s.all := by
  rw [SecurityRequirements.mem_all] at hr ⊢
  rcases hr with hr | ⟨e, he, hr⟩ | ⟨e, he, hr⟩
  · exact .inl (h.api ▸ hr)
  · exact .inr (.inl ⟨e, h.mem_services he, hr⟩)
  · exact .inr (.inr ⟨e, h.mem_methods he, hr⟩)

end SameAtNodes

end SecurityRequirements

theorem Method.Reordered.wellFormed {m n : Method} (h : m.Reordered n) {types types' : List UserType}
    (hperm : types.Perm types') (hnodup : (types.map (·.name)).Nodup) (hm : m.WellFormed types) :
    n.WellFormed types' where
  routes := fun r hr => hm.routes r (h.routes.mem_iff.2 hr)
  payload := fun p hp => (hm.payload p (h.payload_eq ▸ hp)).perm hperm hnodup
  result := fun p hp => (hm.result p (h.result_eq ▸ hp)).perm hperm hnodup

theorem Service.Reordered.wellFormed {s t : Service} (h : s.Reordered t)
    {types types' : List UserType} (hperm : types.Perm types')
    (hnodup : (types.map (·.name)).Nodup) (hs : s.WellFormed types) : t.WellFormed types' where
  names := (h.methods.map_perm fun _ _ hm => hm.name_eq).nodup_iff.1 hs.names
  methods := by
    intro n hn
    obtain ⟨m, hm, hreordered⟩ := h.methods.exists_of_mem_right hn
    exact hreordered.wellFormed hperm hnodup (hs.methods m hm)

theorem Requirement.WellFormed.of_get?_eq {registry registry' : SchemeRegistry}
    (hget : ∀ name, registry'.get? name = registry.get? name) {r : Requirement}
    (hr : r.WellFormed registry) : r.WellFormed registry' where
  nonempty := hr.nonempty
  registered := by
    intro name hname
    rw [SchemeRegistry.contains, hget]
    exact hr.registered name hname
  scopes := by
    intro scope hscope
    obtain ⟨name, hname, s, hs, hdefined⟩ := hr.scopes scope hscope
    exact ⟨name, hname, s, (hget name).trans hs, hdefined⟩

namespace Design.Reordered

variable {d d' : Design} (h : d.Reordered d')
include h

theorem hasService {name : String} (hs : d.HasService name) : d'.HasService name := by
  obtain ⟨s, hs, hname⟩ := hs
  obtain ⟨t, ht, hreordered⟩ := h.services.exists_of_mem_left hs
  exact ⟨t, ht, hreordered.name_eq.trans hname⟩

theorem hasMethod {service method : String} (hm : d.HasMethod service method) :
    d'.HasMethod service method := by
  obtain ⟨s, hs, hservice, m, hm, hmethod⟩ := hm
  obtain ⟨t, ht, hreordered⟩ := h.services.exists_of_mem_left hs
  obtain ⟨n, hn, hmn⟩ := hreordered.methods.exists_of_mem_left hm
  exact ⟨t, ht, hreordered.name_eq.trans hservice, n, hn, hmn.name_eq.trans hmethod⟩

variable (hd : d.WellFormed)
include hd

/-- A name stands for the same scheme. -/
theorem get?_eq (name : String) : d'.schemes.get? name = d.schemes.get? name :=
  (find?_key_perm h.schemes hd.schemeNames name).symm

/-- **Another order keeps a design well formed.** -/
theorem wellFormed : d'.WellFormed where
  serviceNames := (h.services.map_perm fun _ _ hs => hs.name_eq).nodup_iff.1 hd.serviceNames
  typeNames := (h.types.map _).nodup_iff.1 hd.typeNames
  schemeNames := (h.schemes.map _).nodup_iff.1 hd.schemeNames
  services := by
    intro t ht
    obtain ⟨s, hs, hreordered⟩ := h.services.exists_of_mem_right ht
    exact hreordered.wellFormed h.types hd.typeNames (hd.services s hs)
  schemes := fun s hs => hd.schemes s (h.schemes.mem_iff.2 hs)
  requirements := fun r hr =>
    (hd.requirements r (h.security.mem_all hr)).of_get?_eq (h.get?_eq hd)
  serviceTargets := fun e he => h.hasService (hd.serviceTargets e (h.security.mem_services he))
  methodTargets := fun e he => h.hasMethod (hd.methodTargets e (h.security.mem_methods he))

end Design.Reordered

end ApiDesign
