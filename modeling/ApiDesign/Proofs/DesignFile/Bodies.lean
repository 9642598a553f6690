import ApiDesign.DesignFile.Evaluation
import ApiDesign.Proofs.Builder.Results

/-!
# What the bodies of a design file make

Every body that an entry of a design file stands for is a function of the entry: of a scheme, a
type, a method or a requirement.  The body of a service goes on after a method that is refused.

* `SchemeEntry.scheme`, `MethodEntry.toMethod` — what the entries describe;
* `SchemeEntry.body_comesTo`, `TypeEntry.run_body`, `MethodEntry.body_comesTo`,
  `Requirement.body_comesTo` — the bodies make just that, or tell the first error;
* `ServiceEntry.run_body` — the body of a service adds its methods one by one.
-/

namespace ApiDesign

variable {Call Node : Type}

/-- Calls that end with the first failure make what their results come to, one after the other. -/
theorem makes_callAll (step : Building Node → Call → Building Node × CallRecord)
    (result : Node → Call → Except DesignError Node)
    (h : ∀ b c, step b c = b.perform (result b.node c)) (calls : List Call) :
    (callAll calls).Makes step fun node => calls.foldlM result node :=
  Script.makes_all (fun c => Script.makes_single fun b => h b c) calls

/-! ### Schemes -/

/-- The scope that an entry describes. -/
def ScopeEntry.scope (s : ScopeEntry) : Scope :=
  ⟨s.name, s.description.getD SecurityScheme.noDescription⟩

namespace SchemeEntry

/-- The scheme that an entry describes. -/
def scheme (s : SchemeEntry) : SecurityScheme :=
  ⟨s.kind, s.name, s.description, s.scopes.map ScopeEntry.scope, s.flows.map FlowEntry.flow⟩

theorem foldlM_description (description : Option (Localized String)) (kind : SchemeKind)
    (name : String) :
    (description.toList.map SchemeCall.description).foldlM SchemeCall.result
      (SecurityScheme.ofKind kind name) = .ok ⟨kind, name, description, [], []⟩ := by
  cases description <;> rfl

theorem foldlM_scopes (scopes : List ScopeEntry) (made : SecurityScheme) :
    (scopes.map fun s => SchemeCall.scope s.name s.description.toList).foldlM SchemeCall.result made =
      .ok { made with scopes := made.scopes ++ scopes.map ScopeEntry.scope } := by
  induction scopes generalizing made with
  | nil =>
    simp only [List.map_nil, List.append_nil]
    rfl
  | cons s scopes ih =>
    have hhead : SchemeCall.result made (.scope s.name s.description.toList) =
        .ok { made with scopes := made.scopes ++ [s.scope] } := by
      obtain ⟨name, description⟩ := s
      cases description <;> rfl
    rw [List.map_cons, List.foldlM_cons, hhead]
    refine (ih _).trans ?_
    rw [List.append_assoc, List.map_cons]
    rfl

/-- Only an OAuth2 scheme takes flows. -/
theorem foldlM_flows (flows : List FlowEntry) (made : SecurityScheme) :
    (flows.map fun f => SchemeCall.flow f.flow).foldlM SchemeCall.result made =
      if made.kind ≠ .oauth2 ∧ flows ≠ [] then .error (.invalidSchemeKind made.name)
      else .ok { made with flows := made.flows ++ flows.map FlowEntry.flow } := by
  induction flows generalizing made with
  | nil =>
    rw [if_neg (fun h => h.2 rfl)]
    simp only [List.map_nil, List.append_nil]
    rfl
  | cons f flows ih =>
    rw [List.map_cons, List.foldlM_cons, SchemeCall.result, SecurityScheme.addFlow]
    by_cases hkind : made.kind = .oauth2
    · rw [if_pos hkind, if_neg (fun h => h.1 hkind)]
      refine (ih _).trans ?_
      rw [if_neg (fun h => h.1 hkind), List.append_assoc, List.map_cons]
      rfl
    · rw [if_neg hkind, if_pos ⟨hkind, List.cons_ne_nil _ _⟩]
      rfl

theorem body_comesTo (s : SchemeEntry) (errors : List DesignError) :
    (s.body.run SchemeCall.step ⟨SecurityScheme.ofKind s.kind s.name, errors⟩).ComesTo errors
      (if s.kind ≠ .oauth2 ∧ s.flows ≠ [] then .error (.invalidSchemeKind s.name)
        else .ok s.scheme) := by
  have hmakes := makes_callAll SchemeCall.step SchemeCall.result (fun _ _ => rfl)
    (s.description.toList.map .description
      ++ s.scopes.map (fun scope => .scope scope.name scope.description.toList)
      ++ s.flows.map (fun f => .flow f.flow)) ⟨SecurityScheme.ofKind s.kind s.name, errors⟩
  dsimp only at hmakes
  rw [List.foldlM_append, List.foldlM_append, foldlM_description] at hmakes
  simp only [bind, Except.bind, foldlM_scopes, foldlM_flows] at hmakes
  exact hmakes

end SchemeEntry

/-! ### Attributes of types and payloads -/

theorem run_addAttributes (attributes before : List Attribute) :
    ((callAll (attributes.map AttributeCall.add)).run AttributeCall.step before).state =
        before ++ attributes ∧
      ((callAll (attributes.map AttributeCall.add)).run AttributeCall.step before).outcome =
        .ok () := by
  induction attributes generalizing before with
  | nil => exact ⟨(List.append_nil before).symm, rfl⟩
  | cons a attributes ih =>
    obtain ⟨hstate, houtcome⟩ := ih (before ++ [a])
    refine ⟨hstate.trans ?_, houtcome⟩
    rw [List.append_assoc]
    rfl

theorem collect_addAttributes (attributes : List Attribute) :
    AttributeCall.collect (attributes.map .add) = attributes := by
  have hfold (before : List Attribute) :
      (attributes.map AttributeCall.add).foldl AttributeCall.perform before =
        before ++ attributes := by
    induction attributes generalizing before with
    | nil => exact (List.append_nil before).symm
    | cons a attributes ih =>
      refine (ih (before ++ [a])).trans ?_
      rw [List.append_assoc]
      rfl
  exact hfold []

/-- The type that an entry describes. -/
def TypeEntry.toType (t : TypeEntry) : Except DesignError UserType :=
  (fun attributes => ⟨t.name, attributes⟩) <$> AttributeEntry.toAttributes t.attributes

/-- The body of a type declares its attributes, or ends with what is wrong with them. -/
theorem TypeEntry.run_body (t : TypeEntry) :
    (∃ attributes, AttributeEntry.toAttributes t.attributes = .ok attributes ∧
      (t.body.run AttributeCall.step []).state = attributes ∧
      (t.body.run AttributeCall.step []).outcome = .ok ()) ∨
    (∃ e, AttributeEntry.toAttributes t.attributes = .error e ∧
      (t.body.run AttributeCall.step []).outcome = .error e) := by
  unfold body
  cases h : AttributeEntry.toAttributes t.attributes with
  | error e => exact .inr ⟨e, rfl, rfl⟩
  | ok attributes =>
    obtain ⟨hstate, houtcome⟩ := run_addAttributes attributes []
    exact .inl ⟨attributes, rfl, hstate, houtcome⟩

/-! ### Methods -/

/-- The payload that an entry stands for; it may be left out. -/
def PayloadEntry.toPayload (types : List UserType) :
    Option PayloadEntry → Except DesignError (Option Payload)
  | none => .ok none
  | some (.named type) => some <$> namedPayload types type
  | some (.inline entries) =>
    (fun attributes => some ⟨none, attributes⟩) <$> AttributeEntry.toAttributes entries

/-- A payload or result is set, unless it is left out.  `set` puts it in its place in the method. -/
theorem PayloadEntry.body_makes (types : List UserType) (named : String → MethodCall)
    (inline : List AttributeCall → MethodCall) (set : Method → Payload → Method)
    (hnamed : ∀ m type, (named type).outcome types m = set m <$> namedPayload types type)
    (hinline : ∀ m calls,
      (inline calls).outcome types m = .ok (set m ⟨none, AttributeCall.collect calls⟩))
    (entry : Option PayloadEntry) :
    (PayloadEntry.body named inline entry).Makes (MethodCall.step types) fun m =>
      (fun payload => payload.elim m (set m)) <$> toPayload types entry := by
  have hstep (b : Building Method) (c : MethodCall) :
      MethodCall.step types b c = b.perform (c.outcome types b.node) := rfl
  cases entry with
  | none => exact Script.makes_done
  | some p =>
    cases p with
    | named type =>
      refine Script.makes_single fun b => ?_
      rw [hstep, hnamed, toPayload]
      cases namedPayload types type <;> rfl
    | inline entries =>
      cases h : AttributeEntry.toAttributes entries with
      | error e =>
        simp only [body, toPayload, h]
        exact Script.makes_error e
      | ok attributes =>
        simp only [body, toPayload, h]
        refine Script.makes_single fun b => ?_
        rw [hstep, hinline, collect_addAttributes]
        rfl

theorem foldlM_routes (types : List UserType) (routes : List Route) (m : Method) :
    (routes.map fun r => MethodCall.route r.verb r.path).foldlM (MethodCall.outcome types) m =
      (fun _ => { m with routes := m.routes ++ routes }) <$>
        forM routes fun r => PathTemplate.check r.path := by
  induction routes generalizing m with
  | nil =>
    rw [List.append_nil]
    rfl
  | cons r routes ih =>
    rw [List.map_cons, List.foldlM_cons, List.forM_cons, MethodCall.outcome]
    cases hcheck : PathTemplate.check r.path with
    | error e => rfl
    | ok _ =>
      refine (ih _).trans ?_
      rw [List.append_assoc]
      rfl

namespace MethodEntry

/-- The method that an entry describes, with its payload and result looked up among types. -/
def toMethod (types : List UserType) (m : MethodEntry) : Except DesignError Method := do
  let payload ← PayloadEntry.toPayload types m.payload
  let result ← PayloadEntry.toPayload types m.result
  forM m.routes fun r => PathTemplate.check r.path
  return ⟨m.name, m.description, payload, result, m.routes⟩

theorem foldlM_description (types : List UserType) (description : Option (Localized String))
    (name : String) :
    (description.toList.map MethodCall.description).foldlM (MethodCall.outcome types)
      (Method.ofName name) = .ok ⟨name, description, none, none, []⟩ := by
  cases description <;> rfl

theorem body_comesTo (types : List UserType) (m : MethodEntry) (errors : List DesignError) :
    (m.body.run (MethodCall.step types) ⟨Method.ofName m.name, errors⟩).ComesTo errors
      (m.toMethod types) := by
  have hpayload := PayloadEntry.body_makes types .payloadType .payload
    (fun m p => { m with payload := some p }) (fun _ _ => rfl) (fun _ _ => rfl) m.payload
  have hresult := PayloadEntry.body_makes types .resultType .result
    (fun m p => { m with result := some p }) (fun _ _ => rfl) (fun _ _ => rfl) m.result
  have hmakes := Script.makes_andThen
    (makes_callAll (MethodCall.step types) (MethodCall.outcome types) (fun _ _ => rfl)
      (m.description.toList.map .description))
    (Script.makes_andThen hpayload (Script.makes_andThen hresult (Script.makes_andThen
      (makes_callAll (MethodCall.step types) (MethodCall.outcome types) (fun _ _ => rfl)
        (m.routes.map fun r => .route r.verb r.path)) Script.makes_done)))
    ⟨Method.ofName m.name, errors⟩
  dsimp only at hmakes
  rw [foldlM_description] at hmakes
  simp only [foldlM_routes] at hmakes
  refine Eq.mp (congrArg (ScriptRun.ComesTo _ errors) ?_) hmakes
  unfold toMethod
  cases PayloadEntry.toPayload types m.payload with
  | error e => rfl
  | ok payload =>
    cases PayloadEntry.toPayload types m.result with
    | error e => cases payload <;> rfl
    | ok result =>
      simp only [bind, Except.bind, Functor.map, Except.map]
      cases forM m.routes fun r => PathTemplate.check r.path with
      | error e => rfl
      | ok _ => cases payload <;> cases result <;> rfl

end MethodEntry

/-! ### Requirements -/

namespace Requirement

/-- The requirement for schemes that demands scopes, all of them defined by one of the schemes. -/
def demand (schemes : List SecurityScheme) (scopes : List String) : Except DesignError Requirement :=
  scopes.foldlM (fun r scope => r.addScope schemes scope []) ⟨schemes.map (·.name), []⟩

theorem body_comesTo (schemes : List SecurityScheme) (scopes : List String)
    (errors : List DesignError) :
    ((callAll (scopes.map fun scope => ⟨scope, []⟩)).run (RequirementCall.step schemes)
      ⟨⟨schemes.map (·.name), []⟩, errors⟩).ComesTo errors (demand schemes scopes) := by
  have hmakes := makes_callAll (RequirementCall.step schemes)
    (fun r c => r.addScope schemes c.scope c.descriptions) (fun _ _ => rfl)
    (scopes.map fun scope => ⟨scope, []⟩) ⟨⟨schemes.map (·.name), []⟩, errors⟩
  dsimp only at hmakes
  rw [List.foldlM_map] at hmakes
  exact hmakes

theorem foldlM_addScope_eq_ok_iff {schemes : List SecurityScheme} {scopes : List String}
    {r made : Requirement} :
    scopes.foldlM (fun r scope => r.addScope schemes scope []) r = .ok made ↔
      (∀ scope ∈ scopes, ∃ s ∈ schemes, s.hasScope scope = true) ∧
        made = ⟨r.schemes, r.scopes ++ scopes⟩ := by
  induction scopes generalizing r with
  | nil =>
    rw [List.append_nil]
    constructor
    · rintro ⟨⟩
      exact ⟨by simp, rfl⟩
    · rintro ⟨-, rfl⟩
      rfl
  | cons scope scopes ih =>
    have hadd : r.addScope schemes scope [] =
        if schemes.any (·.hasScope scope) then .ok { r with scopes := r.scopes ++ [scope] }
        else .error (.unknownScope scope
          (", ".intercalate (schemes.map fun s => DesignError.inQuotes s.name))) := rfl
    rw [List.foldlM_cons, List.forall_mem_cons, hadd, ← List.any_eq_true]
    split
    · rename_i hdef
      refine Iff.trans ih ?_
      simp [hdef]
    · rename_i hdef
      exact iff_of_false (by rintro ⟨⟩) fun h => hdef h.1.1

theorem demand_eq_ok_iff {schemes : List SecurityScheme} {scopes : List String}
    {made : Requirement} :
    demand schemes scopes = .ok made ↔
      (∀ scope ∈ scopes, ∃ s ∈ schemes, s.hasScope scope = true) ∧
        made = ⟨schemes.map (·.name), scopes⟩ :=
  foldlM_addScope_eq_ok_iff

end Requirement

/-! ### Services -/

/-- The service with the method that an entry describes, which must be new in it. -/
def MethodEntry.addTo (types : List UserType) (s : Service) (m : MethodEntry) :
    Except DesignError Service :=
  if (s.method? m.name).isSome then .error (.duplicateMethod s.name m.name)
  else (fun made => { s with methods := s.methods ++ [made] }) <$> m.toMethod types

theorem MethodEntry.step_method (types : List UserType) (b : Building Service) (m : MethodEntry) :
    ((ServiceCall.step types b (.method m.name m.body)).1,
      (ServiceCall.step types b (.method m.name m.body)).2.answer) =
        b.update (m.addTo types b.node) := by
  unfold addTo
  simp only [ServiceCall.step]
  split
  · rfl
  have hrun := m.body_comesTo types b.errors
  cases hmethod : m.toMethod types with
  | ok made =>
    rw [hmethod] at hrun
    obtain ⟨hstate, houtcome⟩ := hrun
    simp only [houtcome, hstate]
    rfl
  | error e =>
    rw [hmethod] at hrun
    obtain ⟨houtcome, hclose⟩ := hrun
    simp only [houtcome, hclose]
    rfl

namespace ServiceEntry

/-- The service of an entry before its methods are declared. -/
def start (s : ServiceEntry) : Service := ⟨s.name, s.description, []⟩

/-- The service that an entry describes, all of whose methods must go in. -/
def toService (types : List UserType) (s : ServiceEntry) : Except DesignError Service :=
  s.methods.foldlM (MethodEntry.addTo types) s.start

/-- The methods are declared one by one, and the records tell which of them went in. -/
theorem run_methods (types : List UserType) (b : Building Service) (methods : List MethodEntry) :
    let r := (Script.all ((methods.map fun m => ServiceCall.method m.name m.body).map .ignore)).run
      (ServiceCall.step types) b
    r.state = b.addAll (MethodEntry.addTo types) methods ∧ r.outcome = .ok () ∧
      ((methods.zip r.records).filterMap fun m =>
        match m.2.answer with
        | .ok () => some m.1
        | .error _ => none) = Building.accepted (MethodEntry.addTo types) b.node methods := by
  induction methods generalizing b with
  | nil => exact ⟨rfl, rfl, rfl⟩
  | cons m methods ih =>
    obtain ⟨hnext, hanswer⟩ := Prod.mk.inj (m.step_method types b)
    obtain ⟨hstate, houtcome, haccepted⟩ :=
      ih (ServiceCall.step types b (.method m.name m.body)).1
    refine ⟨hstate.trans ?_, houtcome, ?_⟩
    · rw [hnext]
      rfl
    · rw [hnext] at haccepted
      show (((m, (ServiceCall.step types b (.method m.name m.body)).2) ::
        methods.zip _).filterMap _) = _
      rw [List.filterMap_cons, Building.accepted]
      dsimp only
      rw [hanswer, hnext]
      cases hadd : m.addTo types b.node with
      | ok next =>
        rw [hadd] at haccepted
        exact congrArg (m :: ·) haccepted
      | error e =>
        rw [hadd] at haccepted
        exact haccepted

/-- The body of a service declares its methods one by one, whatever becomes of the others. -/
theorem run_body (types : List UserType) (s : ServiceEntry) (errors : List DesignError) :
    let r := s.body.run (ServiceCall.step types) ⟨Service.ofName s.name, errors⟩
    r.state = Building.addAll (MethodEntry.addTo types) ⟨s.start, errors⟩ s.methods ∧
      r.outcome = .ok () ∧
      s.acceptedMethods r.records =
        Building.accepted (MethodEntry.addTo types) s.start s.methods := by
  obtain ⟨name, description, security, methods⟩ := s
  have hrun := run_methods types ⟨⟨name, description, []⟩, errors⟩ methods
  cases description with
  | none => exact hrun
  | some text => exact hrun

end ServiceEntry

end ApiDesign
