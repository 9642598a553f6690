import ApiDesign.Proofs.DesignFile.Validity

/-!
# Verdicts on the entries of a design file

Every entry of a design file is accepted or rejected, and it is rejected with one error.  What is
wrong with an entry is told by the entry and by the entries accepted before it, without a builder: its
name may be taken, a part of it may be wrong, or it may refer to what was not accepted.

* `Verdict.judge` — the verdicts on a list of entries, one for each;
* `SchemeEntry.fault`, `TypeEntry.fault`, `MethodEntry.fault`, `ServiceEntry.fault`,
  `Requirement.fault` — what is wrong with an entry;
* `SchemeEntry.fault_eq_none_iff` and its siblings — an entry is accepted exactly if it is valid and
  its name is free;
* `DesignFile.rejections` — the errors of a file in the order in which they are reported.
-/

namespace ApiDesign

/-! ### Verdicts -/

/-- What becomes of an entry: it is accepted, or it is rejected with an error. -/
structure Verdict (α : Type) where
  entry : α
  error : Option DesignError

namespace Verdict

variable {α : Type}

/-- The entries that are accepted, in their order. -/
def accepted (verdicts : List (Verdict α)) : List α :=
  (verdicts.filter (·.error.isNone)).map (·.entry)

/-- The errors of the entries that are rejected, one for each and in their order. -/
def errors (verdicts : List (Verdict α)) : List DesignError := verdicts.filterMap (·.error)

/-- The verdicts on entries, each of which is judged after those that were accepted before it. -/
def judge (fault : List α → α → Option DesignError) (earlier : List α) : List α → List (Verdict α)
  | [] => []
  | x :: xs =>
    ⟨x, fault earlier x⟩ ::
      judge fault (if (fault earlier x).isNone then earlier ++ [x] else earlier) xs

variable {fault : List α → α → Option DesignError} {earlier : List α} {x : α} {xs : List α}

theorem judge_cons_of_none (h : fault earlier x = none) :
    judge fault earlier (x :: xs) = ⟨x, none⟩ :: judge fault (earlier ++ [x]) xs := by
  rw [judge, h]
  rfl

theorem judge_cons_of_some {e : DesignError} (h : fault earlier x = some e) :
    judge fault earlier (x :: xs) = ⟨x, some e⟩ :: judge fault earlier xs := by
  rw [judge, h]
  rfl

theorem accepted_cons_none (x : α) (verdicts : List (Verdict α)) :
    accepted (⟨x, none⟩ :: verdicts) = x :: accepted verdicts := rfl

theorem accepted_cons_some (x : α) (e : DesignError) (verdicts : List (Verdict α)) :
    accepted (⟨x, some e⟩ :: verdicts) = accepted verdicts := rfl

theorem errors_cons_none (x : α) (verdicts : List (Verdict α)) :
    errors (⟨x, none⟩ :: verdicts) = errors verdicts := rfl

theorem errors_cons_some (x : α) (e : DesignError) (verdicts : List (Verdict α)) :
    errors (⟨x, some e⟩ :: verdicts) = e :: errors verdicts := rfl

end Verdict

/-! ### What is wrong with an entry -/

/-- The scheme has no mechanism, its name is taken, or its flows do not fit its kind. -/
def SchemeEntry.fault (earlier : List SchemeEntry) (s : SchemeEntry) : Option DesignError :=
  if s.kind = .none then
    some (.incompatibleContext s.kind.declaration
      ("security scheme " ++ DesignError.inQuotes s.name))
  else if ∃ t ∈ earlier, t.name = s.name then some (.duplicateScheme s.name)
  else if s.kind ≠ .oauth2 ∧ s.flows ≠ [] then some (.invalidSchemeKind s.name)
  else if s.kind = .oauth2 ∧ s.flows = [] then some (.missingFlows s.name)
  else none

/-- The name of the type is taken, or an attribute cannot be converted. -/
def TypeEntry.fault (earlier : List TypeEntry) (t : TypeEntry) : Option DesignError :=
  if ∃ u ∈ earlier, u.name = t.name then some (.duplicateType t.name)
  else errorOf? (AttributeEntry.toAttributes t.attributes)

/-- The payload names a type that was not accepted, or an attribute of it cannot be converted. -/
def PayloadEntry.fault (types : List TypeEntry) : Option PayloadEntry → Option DesignError
  | none => none
  | some (.named name) => if ∃ t ∈ types, t.name = name then none else some (.unknownType name)
  | some (.inline entries) => errorOf? (AttributeEntry.toAttributes entries)

/-- The name of the method is taken in its service, or else the first of these is wrong: the payload,
the result, and the paths one after the other. -/
def MethodEntry.fault (types : List TypeEntry) (service : String) (earlier : List MethodEntry)
    (m : MethodEntry) : Option DesignError :=
  if ∃ n ∈ earlier, n.name = m.name then some (.duplicateMethod service m.name)
  else (PayloadEntry.fault types m.payload).or ((PayloadEntry.fault types m.result).or
    (m.routes.findSome? fun r => errorOf? (PathTemplate.check r.path)))

/-- The name of the service is taken. -/
def ServiceEntry.fault (earlier : List ServiceEntry) (s : ServiceEntry) : Option DesignError :=
  if ∃ t ∈ earlier, t.name = s.name then some (.duplicateService s.name) else none

/-- The requirement names no scheme, or a scheme that was not accepted, or else it lists a scope that
none of its own schemes defines. -/
def Requirement.fault (schemes : List SchemeEntry) (r : Requirement) : Option DesignError :=
  if r.schemes = [] then some .emptyRequirement
  else ((r.schemes.find? fun name => ¬∃ s ∈ schemes, s.name = name).map .unknownScheme).or
    ((r.scopes.find? fun scope =>
        ¬∃ s ∈ schemes, s.name ∈ r.schemes ∧ ∃ c ∈ s.scopes, c.name = scope).map fun scope =>
      .unknownScope scope (", ".intercalate (r.schemes.map DesignError.inQuotes)))

/-! ### What is accepted -/

theorem SchemeEntry.fault_eq_none_iff {earlier : List SchemeEntry} {s : SchemeEntry} :
    s.fault earlier = none ↔ (∀ t ∈ earlier, t.name ≠ s.name) ∧ s.Valid := by
  rw [fault, guarded_eq_none_iff, guarded_eq_none_iff, guarded_eq_none_iff, guarded_eq_none_iff]
  constructor
  · rintro ⟨hmechanism, hnew, hextra, hmissing, -⟩
    refine ⟨fun t ht hname => hnew ⟨t, ht, hname⟩, hmechanism, ?_⟩
    constructor
    · intro hkind hnil
      exact hmissing ⟨hkind, hnil⟩
    · intro hne
      by_contra hkind
      exact hextra ⟨hkind, hne⟩
  · rintro ⟨hnew, hvalid⟩
    refine ⟨hvalid.mechanism, ?_, ?_, ?_, rfl⟩
    · rintro ⟨t, ht, hname⟩
      exact hnew t ht hname
    · rintro ⟨hkind, hne⟩
      exact hkind (hvalid.flows.2 hne)
    · rintro ⟨hkind, hnil⟩
      exact hvalid.flows.1 hkind hnil

theorem TypeEntry.fault_eq_none_iff {earlier : List TypeEntry} {t : TypeEntry} :
    t.fault earlier = none ↔
      (∀ u ∈ earlier, u.name ≠ t.name) ∧ ∀ entry ∈ t.attributes, entry.Convertible := by
  rw [fault, guarded_eq_none_iff, errorOf?_eq_none_iff, AttributeEntry.exists_toAttributes_iff]
  simp only [not_exists, not_and, ne_eq]

theorem PayloadEntry.fault_eq_none_iff {types : List TypeEntry} {p : Option PayloadEntry} :
    fault types p = none ↔ ∀ q, p = some q → q.Valid types := by
  cases p with
  | none => exact iff_of_true rfl (by simp)
  | some p =>
    have hvalid : (∀ q, some p = some q → q.Valid types) ↔ p.Valid types := by simp
    rw [hvalid]
    cases p with
    | named name =>
      rw [fault, PayloadEntry.Valid]
      split
      · rename_i hdeclared
        exact iff_of_true rfl hdeclared
      · rename_i hunknown
        exact iff_of_false (Option.some_ne_none _) hunknown
    | inline entries =>
      rw [fault, errorOf?_eq_none_iff, AttributeEntry.exists_toAttributes_iff, PayloadEntry.Valid]

theorem MethodEntry.fault_eq_none_iff {types : List TypeEntry} {service : String}
    {earlier : List MethodEntry} {m : MethodEntry} :
    m.fault types service earlier = none ↔
      (∀ n ∈ earlier, n.name ≠ m.name) ∧ m.Valid types := by
  rw [fault, guarded_eq_none_iff, Option.or_eq_none_iff, Option.or_eq_none_iff,
    PayloadEntry.fault_eq_none_iff, PayloadEntry.fault_eq_none_iff, List.findSome?_eq_none_iff]
  simp only [not_exists, not_and, errorOf?_eq_none_iff]
  constructor
  · rintro ⟨hnew, hpayload, hresult, hroutes⟩
    refine ⟨hnew, hpayload, hresult, fun r hr => ?_⟩
    obtain ⟨⟨⟩, hcheck⟩ := hroutes r hr
    exact (PathTemplate.exists_isTemplate_iff r.path).1 hcheck
  · rintro ⟨hnew, hvalid⟩
    refine ⟨hnew, hvalid.payload, hvalid.result, fun r hr => ⟨(), ?_⟩⟩
    exact (PathTemplate.exists_isTemplate_iff r.path).2 (hvalid.routes r hr)

theorem Requirement.fault_eq_none_iff {schemes : List SchemeEntry} {r : Requirement} :
    r.fault schemes = none ↔ r.Valid schemes := by
  rw [fault, guarded_eq_none_iff, Option.or_eq_none_iff, Option.map_eq_none_iff,
    Option.map_eq_none_iff, List.find?_eq_none, List.find?_eq_none]
  simp only [decide_eq_true_eq, not_not]
  constructor
  · rintro ⟨hnonempty, hdeclared, hscopes⟩
    exact ⟨hnonempty, hdeclared, hscopes⟩
  · rintro ⟨hnonempty, hdeclared, hscopes⟩
    exact ⟨hnonempty, hdeclared, hscopes⟩

/-! ### The errors of a file -/

namespace DesignFile

/-- The verdicts on the schemes. -/
def schemeVerdicts (f : DesignFile) : List (Verdict SchemeEntry) :=
  Verdict.judge SchemeEntry.fault [] f.schemes

/-- The verdicts on the types. -/
def typeVerdicts (f : DesignFile) : List (Verdict TypeEntry) :=
  Verdict.judge TypeEntry.fault [] f.types

/-- The verdicts on the services. -/
def serviceVerdicts (f : DesignFile) : List (Verdict ServiceEntry) :=
  Verdict.judge ServiceEntry.fault [] f.services

/-- The verdicts on the methods of an accepted service. -/
def methodVerdicts (f : DesignFile) (s : ServiceEntry) : List (Verdict MethodEntry) :=
  Verdict.judge (MethodEntry.fault (Verdict.accepted f.typeVerdicts) s.name) [] s.methods

/-- The errors of a service: its own, or those of its methods if it is accepted. -/
def serviceErrors (f : DesignFile) (v : Verdict ServiceEntry) : List DesignError :=
  match v.error with
  | some e => [e]
  | none => Verdict.errors (f.methodVerdicts v.entry)

/-- The errors of requirements, one for each that is rejected. -/
def requirementErrors (f : DesignFile) (rs : List Requirement) : List DesignError :=
  rs.filterMap (Requirement.fault (Verdict.accepted f.schemeVerdicts))

/-- The errors of the requirements of an accepted service, and then of its accepted methods. -/
def securityErrors (f : DesignFile) (s : ServiceEntry) : List DesignError :=
  f.requirementErrors s.security
    ++ (Verdict.accepted (f.methodVerdicts s)).flatMap fun m => f.requirementErrors m.security

/-- The errors of a file: those of its schemes, of its types and of its services with their methods,
then those of the requirements of the API and of what was accepted. -/
def rejections (f : DesignFile) : List DesignError :=
  Verdict.errors f.schemeVerdicts ++ Verdict.errors f.typeVerdicts
    ++ f.serviceVerdicts.flatMap f.serviceErrors ++ f.requirementErrors f.api.security
    ++ (Verdict.accepted f.serviceVerdicts).flatMap f.securityErrors

end DesignFile

end ApiDesign
