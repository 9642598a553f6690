import ApiDesign.Proofs.Builder.WellFormed

/-!
# Histories of a registry

A registry takes calls one after the other: registrations, of which some are refused, and look-ups.
It only ever grows at its end, so that a handle keeps its meaning; and no name is taken twice, so
that a name has the same meaning as the handle of its registration.

* `SchemeRegistry.Call`, `SchemeRegistry.call` — the calls and their answers;
* `SchemeRegistry.registrations` — the registrations of a history that went through;
* `SchemeRegistry.Remembers` — the registry holds these registrations and nothing else;
* `SchemeRegistry.Remembers.call`, `SchemeRegistry.Remembers.after` — the step and the run;
* `SchemeRegistry.registry_remembers` — what names and handles stand for after any history.
-/

namespace ApiDesign

namespace SchemeRegistry

/-! ### Calls -/

/-- A call on a registry. -/
inductive Call where
  | register (scheme : SecurityScheme)
  | contains (name : String)
  | get (name : String)
  | resolve (ref : SchemeRef)

/-- What a call answers. -/
inductive Answer where
  | registered (handle : SchemeHandle)
  | refused (e : DesignError)
  | contained (answer : Bool)
  | got (scheme : Option SecurityScheme)
  | resolved (outcome : Except DesignError SecurityScheme)

/-- The registry after a call, with the answer. -/
def call (r : SchemeRegistry) : Call → SchemeRegistry × Answer
  | .register scheme =>
    match r.register scheme with
    | .ok (handle, r') => (r', .registered handle)
    | .error e => (r, .refused e)
  | .contains name => (r, .contained (r.contains name))
  | .get name => (r, .got (r.get? name))
  | .resolve ref => (r, .resolved (r.resolve ref))

/-- The registry after some calls. -/
def after (r : SchemeRegistry) (calls : List Call) : SchemeRegistry :=
  calls.foldl (fun r c => (r.call c).1) r

/-- A registration that went through, with the handle that it returned. -/
structure Registration where
  scheme : SecurityScheme
  handle : SchemeHandle

/-- The registration that a call is, if it goes through. -/
def registration? (r : SchemeRegistry) (c : Call) : Option Registration :=
  match c, (r.call c).2 with
  | .register scheme, .registered handle => some ⟨scheme, handle⟩
  | _, _ => none

/-- The registrations among some calls that go through, in order. -/
def registrations (r : SchemeRegistry) : List Call → List Registration
  | [] => []
  | c :: calls => (r.registration? c).toList ++ registrations (r.call c).1 calls

/-! ### What a registry remembers -/

/-- The registry holds the schemes of some registrations, in order and with different names, and the
handles count them. -/
structure Remembers (r : SchemeRegistry) (done : List Registration) : Prop where
  schemes : r.schemes = done.map (·.scheme)
  names : (done.map (·.scheme.name)).Nodup
  handles : done.map (·.handle) = (List.range done.length).map .mk

theorem remembers_empty : Remembers empty [] := ⟨rfl, List.nodup_nil, rfl⟩

namespace Remembers

variable {r : SchemeRegistry} {done : List Registration}

/-- A name is taken exactly if a scheme was registered under it. -/
theorem contains_iff (h : r.Remembers done) (name : String) :
    r.contains name = true ↔ ∃ e ∈ done, e.scheme.name = name := by
  rw [SchemeRegistry.contains_iff, h.schemes]
  simp

/-- A scheme whose name is taken is refused, and the registry stays as it is. -/
theorem register_taken (h : r.Remembers done) {scheme : SecurityScheme}
    (htaken : ∃ e ∈ done, e.scheme.name = scheme.name) :
    r.call (.register scheme) = (r, .refused (.duplicateScheme scheme.name)) := by
  have hcontains : r.contains scheme.name = true := (h.contains_iff _).2 htaken
  rw [SchemeRegistry.call, register, if_pos hcontains]

/-- Every other scheme is put at the end, and its handle is the number of the schemes before it. -/
theorem register_free (h : r.Remembers done) {scheme : SecurityScheme}
    (hfree : ∀ e ∈ done, e.scheme.name ≠ scheme.name) :
    r.call (.register scheme) = (⟨r.schemes ++ [scheme]⟩, .registered ⟨done.length⟩) := by
  have hcontains : ¬r.contains scheme.name = true := by
    rw [h.contains_iff]
    rintro ⟨e, he, hname⟩
    exact hfree e he hname
  have hlength : r.schemes.length = done.length := by rw [h.schemes, List.length_map]
  rw [SchemeRegistry.call, register, if_neg hcontains, hlength]

/-- After a call, the registration that it may be is remembered as well. -/
theorem call (h : r.Remembers done) (c : Call) :
    (r.call c).1.Remembers (done ++ (r.registration? c).toList) := by
  cases c with
  | register scheme =>
    by_cases htaken : ∃ e ∈ done, e.scheme.name = scheme.name
    · have hnone : r.registration? (.register scheme) = none := by
        simp only [registration?, h.register_taken htaken]
      rw [hnone, h.register_taken htaken, Option.toList_none, List.append_nil]
      exact h
    · have hfree : ∀ e ∈ done, e.scheme.name ≠ scheme.name := fun e he hname =>
        htaken ⟨e, he, hname⟩
      have hsome : r.registration? (.register scheme) = some ⟨scheme, ⟨done.length⟩⟩ := by
        simp only [registration?, h.register_free hfree]
      rw [hsome, h.register_free hfree]
      refine ⟨?_, nodup_map_concat _ h.names hfree, ?_⟩
      · rw [Option.toList_some, List.map_append, ← h.schemes]
        rfl
      · rw [Option.toList_some, List.map_append, List.length_append, h.handles,
          List.length_singleton, List.range_succ, List.map_append]
        rfl
  | _ =>
    show r.Remembers (done ++ [])
    rw [List.append_nil]
    exact h

/-- After some calls, the registrations among them are remembered as well. -/
theorem after (h : r.Remembers done) (calls : List Call) :
    (r.after calls).Remembers (done ++ r.registrations calls) := by
  induction calls generalizing r done with
  | nil =>
    rw [registrations, List.append_nil]
    exact h
  | cons c calls ih =>
    rw [registrations, ← List.append_assoc]
    exact ih (h.call c)

/-! ### Looking schemes up -/

/-- A registration is found by its number, which its handle is. -/
theorem resolve_handle (h : r.Remembers done) {n : Nat} {e : Registration}
    (he : done[n]? = some e) : e.handle = ⟨n⟩ ∧ r.resolve (.handle e.handle) = .ok e.scheme := by
  have hhandle : e.handle = ⟨n⟩ := by
    have hmap : (done.map (·.handle))[n]? = some e.handle := by
      rw [List.getElem?_map, he]
      rfl
    have hlt : n < done.length := (List.getElem?_eq_some_iff.1 he).1
    rw [h.handles, List.getElem?_map, List.getElem?_range hlt] at hmap
    exact (Option.some.inj hmap).symm
  have hscheme : r.schemes[n]? = some e.scheme := by
    rw [h.schemes, List.getElem?_map, he]
    rfl
  rw [hhandle, resolve, hscheme]
  exact ⟨rfl, rfl⟩

/-- There are no other handles. -/
theorem resolve_other_handle (h : r.Remembers done) {n : Nat} (hn : done.length ≤ n) :
    r.resolve (.handle ⟨n⟩) = .error (.unknownScheme ("#" ++ toString n)) := by
  have hscheme : r.schemes[n]? = none := by
    rw [h.schemes, List.getElem?_map, List.getElem?_eq_none hn]
    rfl
  rw [resolve, hscheme]

theorem names_schemes (h : r.Remembers done) : (r.schemes.map (·.name)).Nodup := by
  rw [h.schemes, List.map_map]
  exact h.names

theorem get?_eq_some_iff (h : r.Remembers done) {name : String} {scheme : SecurityScheme} :
    r.get? name = some scheme ↔ scheme ∈ r.schemes ∧ scheme.name = name := by
  constructor
  · exact get?_mem
  · rintro ⟨hmem, rfl⟩
    exact get?_name_of_mem h.names_schemes hmem

end Remembers

theorem resolve_name (r : SchemeRegistry) (name : String) :
    (∀ scheme, r.resolve (.name name) = .ok scheme ↔ r.get? name = some scheme) ∧
      (r.resolve (.name name) = .error (.unknownScheme name) ↔ r.contains name = false) := by
  rw [resolve, contains]
  cases r.get? name with
  | none =>
    refine ⟨fun scheme => ?_, iff_of_true rfl rfl⟩
    exact iff_of_false (by intro h; cases h) (by intro h; cases h)
  | some found =>
    refine ⟨fun scheme => ?_, iff_of_false (by intro h; cases h) (by intro h; cases h)⟩
    rw [Except.ok.injEq, Option.some.injEq]

/-- **A registry remembers what it was told.**  It was empty at first, and any calls were made.  Its
schemes are those that were registered, in order and with different names.  A scheme is refused
exactly if one of its name was registered before, and then nothing changes; otherwise its handle is
its number, which stands for it ever after.  No other handle stands for anything.  A name stands for
the scheme that has it, in whatever way it is looked up, and so does the handle of that scheme. -/
theorem registry_remembers {calls : List Call} {r : SchemeRegistry} {done : List Registration}
    (hr : empty.after calls = r) (hdone : empty.registrations calls = done) :
    r.schemes = done.map (·.scheme) ∧ (r.schemes.map (·.name)).Nodup ∧
    (∀ scheme, (∃ e ∈ done, e.scheme.name = scheme.name) →
      r.call (.register scheme) = (r, .refused (.duplicateScheme scheme.name))) ∧
    (∀ scheme, (∀ e ∈ done, e.scheme.name ≠ scheme.name) →
      r.call (.register scheme) = (⟨r.schemes ++ [scheme]⟩, .registered ⟨done.length⟩)) ∧
    (∀ n (e : Registration), done[n]? = some e → e.handle = ⟨n⟩ ∧
      ∀ later, (r.after later).resolve (.handle e.handle) = .ok e.scheme) ∧
    (∀ n, done.length ≤ n →
      r.resolve (.handle ⟨n⟩) = .error (.unknownScheme ("#" ++ toString n))) ∧
    (∀ name, (r.contains name = true ↔ ∃ s ∈ r.schemes, s.name = name) ∧
      (∀ s, r.get? name = some s ↔ s ∈ r.schemes ∧ s.name = name) ∧
      (∀ s, r.resolve (.name name) = .ok s ↔ r.get? name = some s) ∧
      (r.resolve (.name name) = .error (.unknownScheme name) ↔ r.contains name = false)) ∧
    ∀ e ∈ done, r.resolve (.name e.scheme.name) = r.resolve (.handle e.handle) := by
  have h : r.Remembers done := by
    have hafter := remembers_empty.after calls
    rwa [hr, hdone] at hafter
  refine ⟨h.schemes, h.names_schemes, fun _ => h.register_taken, fun _ => h.register_free,
    fun n e he => ⟨(h.resolve_handle he).1, fun later => ?_⟩, fun n => h.resolve_other_handle,
    fun name => ⟨SchemeRegistry.contains_iff r name, fun _ => h.get?_eq_some_iff,
      resolve_name r name⟩, fun e he => ?_⟩
  · have hprefix : (done ++ r.registrations later)[n]? = some e := by
      rw [List.getElem?_append_left (List.getElem?_eq_some_iff.1 he).1, he]
    exact ((h.after later).resolve_handle hprefix).2
  · obtain ⟨n, hn⟩ := List.getElem?_of_mem he
    have hmem : e.scheme ∈ r.schemes := by
      rw [h.schemes]
      exact List.mem_map_of_mem he
    rw [(h.resolve_handle hn).2]
    exact ((resolve_name r _).1 _).2 (h.get?_eq_some_iff.2 ⟨hmem, rfl⟩)

/-- Two schemes are registered; between them one is looked up, and one of a name that is taken is
refused. -/
def visits : List Call := [.register (.ofKind .jwt "staff"), .get "guest",
  .register (.ofKind .basic "staff"), .register (.ofKind .basic "guest")]

/-- The second scheme is found at its number whatever comes later. -/
theorem guest_remembered :
    (empty.after visits).call (.register (.ofKind .oauth2 "guest")) =
      (empty.after visits, .refused (.duplicateScheme "guest")) ∧
    ((empty.after visits).call (.register (.ofKind .oauth2 "partner"))).2 = .registered ⟨2⟩ ∧
    (∀ later, ((empty.after visits).after later).resolve (.handle ⟨1⟩) =
      .ok (.ofKind .basic "guest")) ∧
    (empty.after visits).resolve (.handle ⟨2⟩) = .error (.unknownScheme "#2") := by
  have hdone : empty.registrations visits =
      [⟨.ofKind .jwt "staff", ⟨0⟩⟩, ⟨.ofKind .basic "guest", ⟨1⟩⟩] := rfl
  obtain ⟨-, -, htaken, hfree, hhandles, hothers, -, -⟩ := registry_remembers rfl hdone
  have hpartner := hfree (.ofKind .oauth2 "partner") (by simp [SecurityScheme.ofKind])
  refine ⟨htaken _ ⟨_, List.mem_of_getElem? (i := 1) rfl, rfl⟩, ?_, (hhandles 1 _ rfl).2,
    hothers 2 Nat.le.refl⟩
  rw [hpartner]
  rfl

end SchemeRegistry

end ApiDesign
