import ApiDesign.Proofs.OpenApi.References

/-!
# Operations that share a collection

The operations of a document note down the schemes they refer to in one collection, one after the
other.  An operation that names an unknown scheme fails in the middle of its work, and what it noted
down before stays.  All the same the collection is a join: it holds what it held at first, and what
each operation refers to before its first unknown scheme.  So nothing is ever lost, and neither the
collection nor what becomes of an operation hangs on the order.

* `SecurityCall`, `SecurityCall.renderAll` — operations whose security is written in turn;
* `Referenced.Joins`, `Referenced.eq_addUses_iff` — the join of a collection with uses, which is the
  collection after these uses;
* `SecurityCall.render_eq`, `SecurityCall.renderAll_eq` — the step and the run: what is written is
  told by the operation alone, and what is noted down are its uses up to the first unknown one;
* `SecurityCall.references_accumulate` — the collection and the results, whatever the operations.
-/

namespace ApiDesign.OpenApi

/-! ### Joins -/

namespace Referenced

variable (registry : SchemeRegistry)

/-- A collection is another one joined with some uses: it has the schemes of both, and from each
scheme it requires what was required before and the scopes of its uses that the scheme defines. -/
structure Joins (before : Referenced) (uses : List SchemeUse) (after : Referenced) : Prop where
  schemes : ∀ name, after.Refers name ↔ before.Refers name ∨ ∃ u ∈ uses, u.scheme = name
  scopes : ∀ name scope, after.Requires name scope ↔
    before.Requires name scope ∨ ∃ u ∈ uses, u.scheme = name ∧
      ∃ s, registry.get? u.scheme = some s ∧ s.hasScope scope = true ∧
        scope ∈ u.requirement.scopes

/-- A collection has nothing that another one has not. -/
structure Within (r r' : Referenced) : Prop where
  schemes : ∀ name, r.Refers name → r'.Refers name
  scopes : ∀ name scope, r.Requires name scope → r'.Requires name scope

variable {registry}

theorem joins_addUses (referenced : Referenced) (uses : List SchemeUse) :
    Joins registry referenced uses (referenced.addUses registry uses) := by
  constructor
  · exact refers_addUses referenced uses
  · intro name scope
    simp only [requires_addUses, SchemeUse.mem_scopes_iff]

/-- There is only one join. -/
theorem Joins.unique {before after after' : Referenced} {uses : List SchemeUse}
    (h : Joins registry before uses after) (h' : Joins registry before uses after') :
    after = after' :=
  ext_refers (fun name => (h.schemes name).trans (h'.schemes name).symm)
    fun name scope => (h.scopes name scope).trans (h'.scopes name scope).symm

theorem eq_addUses_iff {referenced after : Referenced} {uses : List SchemeUse} :
    after = referenced.addUses registry uses ↔ Joins registry referenced uses after := by
  constructor
  · rintro rfl
    exact joins_addUses referenced uses
  · intro h
    exact h.unique (joins_addUses referenced uses)

/-- Nothing is lost by a join. -/
theorem Joins.within {before after : Referenced} {uses : List SchemeUse}
    (h : Joins registry before uses after) : before.Within after :=
  ⟨fun name hold => (h.schemes name).2 (.inl hold),
    fun name scope hold => (h.scopes name scope).2 (.inl hold)⟩

end Referenced

/-! ### One operation -/

/-- An operation whose security is to be written. -/
structure SecurityCall where
  effective : EffectiveSecurity
  operationId : String

namespace SecurityCall

/-- What becomes of an operation: its security, or the error that there is none. -/
abbrev Result := Except CompileError (Option (List SecurityRequirementObject))

variable (registry : SchemeRegistry) (c : SecurityCall)

/-- Writes the security of the operation. -/
def render (referenced : Referenced) : Result × Referenced :=
  renderSecurity c.effective registry c.operationId referenced

/-- The schemes that the operation names: requirement by requirement, and scheme by scheme. -/
def uses : List SchemeUse := usesOf (alternativesOf c.effective)

/-- The uses before the first scheme that is not known. -/
def knownUses : List SchemeUse := c.uses.takeWhile (·.known registry)

/-- The operation comes upon a scheme that is not known, and all schemes before it are known. -/
def Meets (u : SchemeUse) : Prop :=
  ∃ before after, c.uses = before ++ u :: after ∧ (∀ v ∈ before, v.known registry = true) ∧
    u.known registry = false

/-- The security of an operation whose schemes are all known. -/
def security : Option (List SecurityRequirementObject) :=
  match c.effective with
  | .unspecified => none
  | .disabled => some []
  | .required alternatives => some (alternatives.map (objectOf registry))

/-- What becomes of the operation, whatever was referred to before. -/
def result : Result :=
  match c.uses.find? fun u => !u.known registry with
  | some u => .error (.unknownScheme c.operationId u.scheme)
  | none => .ok (c.security registry)

theorem render_fst (referenced : Referenced) :
    (c.render registry referenced).1 = c.result registry := by
  obtain ⟨effective, op⟩ := c
  cases effective with
  | unspecified => rfl
  | disabled => rfl
  | required alternatives =>
    show (renderAlternatives registry op alternatives referenced).1.map some = _
    rw [renderAlternatives_fst, firstUnknown_flatMap, result]
    show _ = match (usesOf alternatives).find? fun u => !u.known registry with
      | some u => _
      | none => _
    cases (usesOf alternatives).find? fun u => !u.known registry <;> rfl

/-- **One operation.**  What becomes of it does not hang on the collection, and what it notes down are
its uses up to the first unknown one, also if it fails. -/
theorem render_eq (referenced : Referenced) :
    c.render registry referenced =
      (c.result registry, referenced.addUses registry (c.knownUses registry)) :=
  Prod.ext (c.render_fst registry referenced)
    (renderSecurity_snd registry c.operationId c.effective referenced)

/-- The operation fails exactly if it meets an unknown scheme, which the error names. -/
theorem result_eq_error_iff (e : CompileError) :
    c.result registry = .error e ↔
      ∃ u, c.Meets registry u ∧ e = .unknownScheme c.operationId u.scheme := by
  have hmeets : ∀ u, c.Meets registry u ↔ c.uses.find? (fun u => !u.known registry) = some u := by
    intro u
    rw [List.find?_eq_some_iff_append]
    simp only [Meets, Bool.not_eq_true', Bool.not_not]
    constructor
    · rintro ⟨before, after, heq, hbefore, hunknown⟩
      exact ⟨hunknown, before, after, heq, hbefore⟩
    · rintro ⟨hunknown, before, after, heq, hbefore⟩
      exact ⟨before, after, heq, hbefore, hunknown⟩
  simp only [hmeets]
  rw [result]
  cases c.uses.find? fun u => !u.known registry with
  | none => simp
  | some u => simp [eq_comm]

/-- An operation without requirements notes nothing down. -/
theorem knownUses_of_alternatives_nil (h : alternativesOf c.effective = []) :
    c.knownUses registry = [] := by
  rw [knownUses, uses, h]
  rfl

/-! ### Operations one after the other -/

/-- Writes the security of operations in turn; the collection is handed on, also by one that fails. -/
def renderAll : List SecurityCall → Referenced → List Result × Referenced
  | [], referenced => ([], referenced)
  | c :: calls, referenced =>
    let (result, noted) := c.render registry referenced
    let (results, final) := renderAll calls noted
    (result :: results, final)

/-- **All operations.**  Each of them becomes what it would become alone, and the collection takes up
what each of them refers to. -/
theorem renderAll_eq (calls : List SecurityCall) (referenced : Referenced) :
    renderAll registry calls referenced =
      (calls.map (·.result registry),
        referenced.addUses registry (calls.flatMap (·.knownUses registry))) := by
  -- the collection is general, because each operation hands on one of its own
  induction calls generalizing referenced with
  | nil => rfl
  | cons c calls ih =>
    rw [renderAll, c.render_eq]
    dsimp only
    rw [ih, List.map_cons, List.flatMap_cons, Referenced.addUses_append]

variable {registry} {calls : List SecurityCall} {referenced final : Referenced}
variable {results : List Result}

/-- **References accumulate.**  Operations share a collection, and some of them may fail.  The
collection afterwards is the one from before joined with the uses of each operation up to its first
unknown scheme.  Nothing that was in it at any point is lost, and an operation that is open or says
nothing leaves it as it is.  An operation fails exactly if it meets an unknown scheme.  In any other
order the collection is the same, and so is what becomes of each operation. -/
theorem references_accumulate (h : renderAll registry calls referenced = (results, final)) :
    (∀ r, r = final ↔
      Referenced.Joins registry referenced (calls.flatMap (·.knownUses registry)) r) ∧
    (∀ earlier later, calls = earlier ++ later →
      (renderAll registry earlier referenced).2.Within final) ∧
    (∀ (c : SecurityCall) (r : Referenced), c.effective = .unspecified ∨ c.effective = .disabled →
      (c.render registry r).2 = r) ∧
    (∀ (i : Nat) c, calls[i]? = some c → ∃ result, results[i]? = some result ∧
      ∀ e, result = .error e ↔
        ∃ u, c.Meets registry u ∧ e = .unknownScheme c.operationId u.scheme) ∧
    ∀ calls', calls.Perm calls' →
      (renderAll registry calls' referenced).2 = final ∧
      ∀ i j : Nat, calls[i]? = calls'[j]? →
        results[i]? = (renderAll registry calls' referenced).1[j]? := by
  rw [renderAll_eq] at h
  obtain ⟨rfl, rfl⟩ := Prod.mk.inj h
  simp only [renderAll_eq]
  refine ⟨fun r => Referenced.eq_addUses_iff, ?_, ?_, ?_, ?_⟩
  · intro earlier later heq
    rw [heq, List.flatMap_append, Referenced.addUses_append]
    exact (Referenced.joins_addUses _ _).within
  · intro c r hopen
    have hnil : alternativesOf c.effective = [] := by
      rcases hopen with hopen | hopen <;> rw [hopen] <;> rfl
    rw [c.render_eq, c.knownUses_of_alternatives_nil registry hnil]
    rfl
  · intro i c hc
    refine ⟨c.result registry, ?_, c.result_eq_error_iff registry⟩
    rw [List.getElem?_map, hc]
    rfl
  · intro calls' hperm
    refine ⟨Referenced.addUses_perm (hperm.symm.flatMap_right _) fun _ => rfl, fun i j hij => ?_⟩
    rw [List.getElem?_map, List.getElem?_map, hij]

/-- A token with two scopes, and a key. -/
def archiveSchemes : SchemeRegistry :=
  ⟨[{ SecurityScheme.ofKind .jwt "token" with scopes := [⟨"read", "Read"⟩, ⟨"write", "Write"⟩] },
    .ofKind .basic "key"]⟩

/-- An operation that names a scheme that is not registered between two that are, and a scope that no
scheme defines. -/
def archiveFault : SecurityCall :=
  ⟨.required [⟨["token", "ghost", "key"], ["read", "admin"]⟩], "archive#open"⟩

/-- Two operations after it, the first of which is open. -/
def archiveCalls : List SecurityCall :=
  [archiveFault, ⟨.disabled, "archive#look"⟩,
    ⟨.required [⟨["key"], []⟩, ⟨["token"], ["write"]⟩], "archive#fill"⟩]

/-- What the failed operation noted down stays, and it fails as the last one just as it does as the
first. -/
theorem archive_accumulates :
    (renderAll archiveSchemes archiveCalls .empty).2.Requires "token" "read" ∧
    (renderAll archiveSchemes [archiveFault] .empty).2.Within
      (renderAll archiveSchemes archiveCalls .empty).2 ∧
    (∀ r, (SecurityCall.render archiveSchemes ⟨.disabled, "archive#look"⟩ r).2 = r) ∧
    (renderAll archiveSchemes archiveCalls.reverse .empty).2 =
      (renderAll archiveSchemes archiveCalls .empty).2 ∧
    (renderAll archiveSchemes archiveCalls.reverse .empty).1[2]? =
      some (.error (.unknownScheme "archive#open" "ghost")) := by
  have hrun : renderAll archiveSchemes archiveCalls .empty =
      ((renderAll archiveSchemes archiveCalls .empty).1,
        (renderAll archiveSchemes archiveCalls .empty).2) := rfl
  obtain ⟨hjoin, hearlier, hopen, hfails, hperm⟩ := references_accumulate hrun
  obtain ⟨hfinal, hresults⟩ := hperm _ (List.reverse_perm _).symm
  refine ⟨?_, hearlier [archiveFault] _ rfl, fun r => hopen _ r (.inr rfl), hfinal, ?_⟩
  · have hscopes := ((hjoin _).1 rfl).scopes "token" "read"
    refine hscopes.2 (.inr ⟨⟨"token", _⟩, List.mem_cons_self, rfl, _, rfl, rfl, ?_⟩)
    exact List.mem_cons_self
  · obtain ⟨result, hresult, herror⟩ := hfails 0 archiveFault rfl
    have hmeets : archiveFault.Meets archiveSchemes ⟨"ghost", ⟨_, ["read", "admin"]⟩⟩ :=
      ⟨[⟨"token", _⟩], [⟨"key", _⟩], rfl, by decide, rfl⟩
    rw [← hresults 0 2 rfl, hresult, (herror _).2 ⟨_, hmeets, rfl⟩]
    rfl

end SecurityCall

end ApiDesign.OpenApi
