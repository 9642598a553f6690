import ApiDesign.OpenApi.Security
import ApiDesign.Proofs.Builder.Declarations
import ApiDesign.Proofs.KeyMap
import Mathlib.Data.List.Perm.Basic
import Mathlib.Data.List.Dedup

/-!
# The flows of OAuth2 schemes

A body declares flows in any number and order, several for one grant if it likes.  A component has one
slot per grant, and the flows are put into the slots one after the other.  So what a slot shows is the
last flow of its grant, and no flow is lost exactly if flows for one grant do not differ.

* `Script.declaredFlows` — the flows that a body declares, and `flows_run`, that a scheme gets them all;
* `lastFlow?` — the flow that stays, and `flow?_renderFlows`, that it is the one which is rendered;
* `flows_follow_declarations` — from the declaration of a scheme to the flows of its component.
-/

namespace ApiDesign

/-! ### The flows that a body declares -/

/-- The calls that a body makes, one after the other. -/
def Script.calls {Call State : Type} (step : State → Call → State × CallRecord) (s : State) :
    Script Call → List Call
  | .finish _ => []
  | .call c next => c :: calls step (step s c).1 (next (step s c).2.answer)

/-- The flow that a call declares. -/
def SchemeCall.flow? : SchemeCall → Option Flow
  | .flow value => some value
  | .description _ => none
  | .scope _ _ => none

/-- The flows that a body declares for an OAuth2 scheme, one after the other. -/
def Script.declaredFlows (name : String) (body : Script SchemeCall) : List Flow :=
  (body.calls SchemeCall.step ⟨SecurityScheme.ofKind .oauth2 name, []⟩).filterMap SchemeCall.flow?

namespace SecurityScheme

variable {s t : SecurityScheme}

theorem addScope_flows {scope : String} {descriptions : List String}
    (h : s.addScope scope descriptions = .ok t) : t.kind = s.kind ∧ t.flows = s.flows := by
  unfold addScope at h
  split at h
  · cases h
    exact ⟨rfl, rfl⟩
  · cases h
    exact ⟨rfl, rfl⟩
  · cases h

theorem addFlow_of_oauth2 (hs : s.kind = .oauth2) (flow : Flow) :
    s.addFlow flow = .ok { s with flows := s.flows ++ [flow] } := by
  rw [addFlow, if_pos hs]

end SecurityScheme

namespace SchemeCall

variable {s t : SecurityScheme} {c : SchemeCall}

/-- A call that succeeds adds its flow, if it has one. -/
theorem flows_of_result (hs : s.kind = .oauth2) (h : c.result s = .ok t) :
    t.kind = .oauth2 ∧ t.flows = s.flows ++ c.flow?.toList := by
  cases c with
  | description text =>
    cases h
    exact ⟨hs, (List.append_nil _).symm⟩
  | scope name descriptions =>
    obtain ⟨hkind, hflows⟩ := SecurityScheme.addScope_flows h
    refine ⟨hkind.trans hs, ?_⟩
    rw [hflows]
    exact (List.append_nil _).symm
  | flow value =>
    have hadd : Except.ok { s with flows := s.flows ++ [value] } = Except.ok t :=
      (SecurityScheme.addFlow_of_oauth2 hs value).symm.trans h
    cases hadd
    exact ⟨hs, rfl⟩

/-- A call that fails on an OAuth2 scheme declares no flow. -/
theorem flow?_of_result_error {e : DesignError} (hs : s.kind = .oauth2)
    (h : c.result s = .error e) : c.flow? = none := by
  cases c with
  | description text => rfl
  | scope name descriptions => rfl
  | flow value =>
    have hadd : s.addFlow value = .error e := h
    rw [SecurityScheme.addFlow_of_oauth2 hs] at hadd
    cases hadd

end SchemeCall

/-- **From calls to bodies.**  An OAuth2 scheme gets every flow that its body declares, in their order.
The errors recorded before play no part. -/
theorem flows_run (body : Script SchemeCall) {s : SecurityScheme} (hs : s.kind = .oauth2)
    (errors others : List DesignError) :
    (body.run SchemeCall.step ⟨s, errors⟩).state.node.flows =
      s.flows ++ (body.calls SchemeCall.step ⟨s, others⟩).filterMap SchemeCall.flow? := by
  induction body generalizing s errors others with
  | finish outcome => exact (List.append_nil _).symm
  | call c next ih =>
    simp only [Script.run, Script.calls, SchemeCall.step, Building.perform, Building.update]
    cases hresult : c.result s with
    | ok t =>
      obtain ⟨hkind, hflows⟩ := SchemeCall.flows_of_result hs hresult
      have hrest := ih (.ok ()) hkind errors others
      dsimp only
      rw [hrest, hflows, List.append_assoc]
      cases hflow : c.flow? with
      | none => simp [hflow]
      | some f => simp [hflow]
    | error e =>
      have hnone := SchemeCall.flow?_of_result_error hs hresult
      have hrest := ih (.error e) hs (errors ++ [e]) (others ++ [e])
      dsimp only
      rw [hrest, List.filterMap_cons, hnone]

/-- A scheme is refused, or it is registered as its body has left it. -/
theorem Builder.defineScheme_registers (b : Builder) (target : Target) (kind : SchemeKind)
    (name : String) (body : Script SchemeCall) :
    (∃ e, (b.defineScheme target kind name body).answer = .error e) ∨
    ∃ s, s = (body.run SchemeCall.step ⟨SecurityScheme.ofKind kind name, b.errors⟩).state.node ∧
      (b.defineScheme target kind name body).builder.design.schemes.schemes =
        b.design.schemes.schemes ++ [s] ∧
      (s.kind = .oauth2 → s.flows ≠ []) := by
  have hrun := schemeBody_keeps kind name body b.errors
  unfold defineScheme
  split
  · exact .inl ⟨_, rfl⟩
  split
  · exact .inl ⟨_, rfl⟩
  split
  · exact .inl ⟨_, rfl⟩
  rename_i hnew
  dsimp only
  split
  · exact .inl ⟨_, rfl⟩
  split
  · exact .inl ⟨_, rfl⟩
  rename_i hflows
  -- the body could not rename the scheme, so the name is still free when it is registered
  rw [SchemeRegistry.register, if_neg (by rw [hrun.node.name]; exact hnew)]
  exact .inr ⟨_, rfl, rfl, fun hkind hnone => hflows ⟨hkind, hnone⟩⟩

/-- An OAuth2 scheme that is accepted is registered with all flows that were declared for it, and there
are some. -/
theorem Builder.scheme_of_accepted {b : Builder} {target : Target} {name : String}
    {body : Script SchemeCall} (h : (b.declare (.scheme target .oauth2 name body)).answer = .ok ()) :
    ∃ s, (b.declare (.scheme target .oauth2 name body)).builder.design.schemes.schemes =
        b.design.schemes.schemes ++ [s] ∧
      s.kind = .oauth2 ∧ s.flows = body.declaredFlows name ∧ s.flows ≠ [] := by
  have hkind := (schemeBody_keeps .oauth2 name body b.errors).node.kind
  have hflows := flows_run body (s := SecurityScheme.ofKind .oauth2 name) rfl b.errors []
  rcases b.defineScheme_registers target .oauth2 name body with ⟨e, he⟩ | ⟨s, hs, hschemes, hne⟩
  · have hboth : (Except.error e : Answer) = .ok () := he.symm.trans h
    cases hboth
  · rw [← hs] at hkind hflows
    exact ⟨s, hschemes, hkind, hflows, hne hkind⟩

namespace OpenApi

/-! ### The flow that stays -/

/-- The last of the flows for a grant. -/
def lastFlow? (kind : FlowKind) (flows : List Flow) : Option Flow :=
  (flows.filter fun f => f.kind = kind).getLast?

/-- The entry of a flow, with the scopes of its scheme. -/
def entryOf (scopes : KeyMap String) (f : Flow) : OAuthFlow :=
  ⟨f.authorizationUrl, f.tokenUrl, f.refreshUrl, scopes⟩

/-- The descriptions of the scopes of a scheme, by name. -/
def scopeMap (s : SecurityScheme) : KeyMap String :=
  KeyMap.ofList (s.scopes.map fun c => (c.name, c.description))

theorem lastFlow?_append (kind : FlowKind) (before after : List Flow) :
    lastFlow? kind (before ++ after) = (lastFlow? kind after).or (lastFlow? kind before) := by
  rw [lastFlow?, List.filter_append, List.getLast?_append]
  rfl

theorem lastFlow?_singleton (kind : FlowKind) (f : Flow) :
    lastFlow? kind [f] = if kind = f.kind then some f else none := by
  by_cases h : kind = f.kind
  · simp [lastFlow?, h]
  · have h' : ¬f.kind = kind := fun heq => h heq.symm
    simp [lastFlow?, h, h']

theorem lastFlow?_eq_none_iff {kind : FlowKind} {flows : List Flow} :
    lastFlow? kind flows = none ↔ ∀ f ∈ flows, f.kind ≠ kind := by
  simp [lastFlow?]

theorem of_lastFlow? {kind : FlowKind} {flows : List Flow} {f : Flow}
    (h : lastFlow? kind flows = some f) : f ∈ flows ∧ f.kind = kind := by
  have hmem := List.mem_of_getLast? h
  simpa using hmem

/-- A flow after which there is none for its grant is the last one. -/
theorem lastFlow?_of_split {kind : FlowKind} (before : List Flow) {after : List Flow} {f : Flow}
    (hf : f.kind = kind) (hafter : ∀ g ∈ after, g.kind ≠ kind) :
    lastFlow? kind (before ++ f :: after) = some f := by
  have hnone := lastFlow?_eq_none_iff.2 hafter
  have hone : lastFlow? kind [f] = some f := by rw [lastFlow?_singleton, if_pos hf.symm]
  have hsplit : before ++ f :: after = before ++ ([f] ++ after) := rfl
  rw [hsplit, lastFlow?_append, lastFlow?_append, hnone, hone]
  rfl

/-- **The slots.**  Flows are put into their slots one after the other, so that the last flow of a
grant is what its slot shows. -/
theorem flow?_foldl_set (scopes : KeyMap String) (flows : List Flow) (fs : OAuthFlows)
    (kind : FlowKind) :
    (flows.foldl (fun fs f => fs.set f.kind (entryOf scopes f)) fs).flow? kind =
      ((lastFlow? kind flows).map (entryOf scopes)).or (fs.flow? kind) := by
  induction flows generalizing fs with
  | nil => rfl
  | cons f flows ih =>
    have hsplit : lastFlow? kind (f :: flows) =
        (lastFlow? kind flows).or (lastFlow? kind [f]) := lastFlow?_append kind [f] flows
    rw [List.foldl_cons, ih, OAuthFlows.flow?_set, hsplit, lastFlow?_singleton]
    by_cases h : kind = f.kind
    · rw [if_pos h, if_pos h]
      cases lastFlow? kind flows <;> rfl
    · rw [if_neg h, if_neg h]
      cases lastFlow? kind flows <;> rfl

theorem flow?_renderFlows (s : SecurityScheme) (kind : FlowKind) :
    (renderFlows s).flow? kind = (lastFlow? kind s.flows).map (entryOf (scopeMap s)) := by
  have hfold := flow?_foldl_set (scopeMap s) s.flows .empty kind
  have hempty : OAuthFlows.empty.flow? kind = none := by cases kind <;> rfl
  rw [hempty, Option.or_none] at hfold
  exact hfold

/-- Every name of a scope is a key, however often it is given. -/
theorem mem_keys_scopeMap (s : SecurityScheme) (scope : String) :
    scope ∈ (scopeMap s).keys ↔ ∃ c ∈ s.scopes, c.name = scope := by
  rw [KeyMap.mem_keys_iff]
  show (Entries.lookup scope (Entries.sort _)).isSome = true ↔ _
  rw [Entries.lookup_sort, Entries.isSome_lookup_iff]
  simp

/-! ### Flows that are lost -/

/-- An entry shows the addresses of a flow. -/
structure OAuthFlow.Shows (entry : OAuthFlow) (f : Flow) : Prop where
  authorizationUrl : entry.authorizationUrl = f.authorizationUrl
  tokenUrl : entry.tokenUrl = f.tokenUrl
  refreshUrl : entry.refreshUrl = f.refreshUrl

/-- The grants that have an entry. -/
def OAuthFlows.kinds (fs : OAuthFlows) : List FlowKind :=
  FlowKind.all.filter fun kind => (fs.flow? kind).isSome

theorem mem_kinds_renderFlows (s : SecurityScheme) (kind : FlowKind) :
    kind ∈ (renderFlows s).kinds ↔ kind ∈ s.flows.map (·.kind) := by
  have hall : kind ∈ FlowKind.all := by cases kind <;> decide
  rw [OAuthFlows.kinds, List.mem_filter, flow?_renderFlows, Option.isSome_map,
    Option.isSome_iff_ne_none, Ne, lastFlow?_eq_none_iff, List.mem_map]
  simp [hall]

/-- There are as many entries as flows exactly if no grant has two flows. -/
theorem length_kinds_renderFlows_iff (s : SecurityScheme) :
    (renderFlows s).kinds.length = s.flows.length ↔ (s.flows.map (·.kind)).Nodup := by
  have hnodup : (renderFlows s).kinds.Nodup := List.Nodup.filter _ (by decide)
  have hperm : (renderFlows s).kinds.Perm (s.flows.map (·.kind)).dedup := by
    rw [List.perm_ext_iff_of_nodup hnodup (List.nodup_dedup _)]
    intro kind
    rw [List.mem_dedup]
    exact mem_kinds_renderFlows s kind
  rw [hperm.length_eq, ← List.length_map (f := fun f : Flow => f.kind), ← List.dedup_eq_self]
  constructor
  · intro hlength
    exact (List.dedup_sublist _).eq_of_length hlength
  · intro heq
    rw [heq]

/-- No flow is lost exactly if flows for one grant do not differ. -/
theorem shows_renderFlows_iff (s : SecurityScheme) :
    (∀ f ∈ s.flows, ∃ entry, (renderFlows s).flow? f.kind = some entry ∧ entry.Shows f) ↔
      ∀ f ∈ s.flows, ∀ g ∈ s.flows, f.kind = g.kind → f = g := by
  constructor
  · intro h f hf g hg hkind
    obtain ⟨entry, hentry, hshows⟩ := h f hf
    obtain ⟨entry', hentry', hshows'⟩ := h g hg
    -- both flows are shown by the one entry of their grant
    rw [hkind, hentry'] at hentry
    cases hentry
    cases f
    cases g
    cases hkind
    cases hshows.authorizationUrl.symm.trans hshows'.authorizationUrl
    cases hshows.tokenUrl.symm.trans hshows'.tokenUrl
    cases hshows.refreshUrl.symm.trans hshows'.refreshUrl
    rfl
  · intro h f hf
    cases hlast : lastFlow? f.kind s.flows with
    | none => exact absurd rfl (lastFlow?_eq_none_iff.1 hlast f hf)
    | some g =>
      obtain ⟨hg, hkind⟩ := of_lastFlow? hlast
      have heq : f = g := h f hf g hg hkind.symm
      refine ⟨entryOf (scopeMap s) g, ?_, ?_⟩
      · rw [flow?_renderFlows, hlast]
        rfl
      · rw [heq]
        exact ⟨rfl, rfl, rfl⟩

/-! ### From the declaration to the component -/

/-- The addresses that a flow of a grant has: those that the grant uses, and of these the one for
refreshing only if it is not empty. -/
theorem entryOf_make (scopes : KeyMap String) (kind : FlowKind)
    (authorizationUrl tokenUrl refreshUrl : String) :
    entryOf scopes (Flow.make kind authorizationUrl tokenUrl refreshUrl) =
      { authorizationUrl :=
          if kind = .authorizationCode ∨ kind = .implicit then some authorizationUrl else none
        tokenUrl := if kind = .implicit then none else some tokenUrl
        refreshUrl := if refreshUrl = "" then none else some refreshUrl
        scopes := scopes } := by
  have hrefresh : Flow.nonEmpty refreshUrl =
      if refreshUrl = "" then none else some refreshUrl := by
    simp [Flow.nonEmpty]
  rw [← hrefresh]
  cases kind <;> rfl

/-- **What becomes of the flows that are declared.**  An OAuth2 scheme that is accepted has a component
with an entry for exactly those grants that a flow was declared for.  The entry of a grant shows the
addresses of the last flow that was declared for it, as far as the grant uses them, and every entry
has exactly the scopes of the scheme.  So all declared flows are shown exactly if flows for one grant
do not differ, and each has an entry of its own exactly if no grant has two flows. -/
theorem flows_follow_declarations {b : Builder} {target : Target} {name : String}
    {body : Script SchemeCall} (h : (b.declare (.scheme target .oauth2 name body)).answer = .ok ())
    (required : NameSet) (locale : String) :
    ∃ s object flows,
      (b.declare (.scheme target .oauth2 name body)).builder.design.schemes.schemes =
        b.design.schemes.schemes ++ [s] ∧
      renderScheme s required locale = some object ∧ object.flows = some flows ∧
      body.declaredFlows name ≠ [] ∧
      (∀ kind, flows.flow? kind = none ↔ ∀ f ∈ body.declaredFlows name, f.kind ≠ kind) ∧
      (∀ before kind authorizationUrl tokenUrl refreshUrl after,
        body.declaredFlows name =
          before ++ Flow.make kind authorizationUrl tokenUrl refreshUrl :: after →
        (∀ f ∈ after, f.kind ≠ kind) → ∃ entry, flows.flow? kind = some entry ∧
          entry.authorizationUrl =
            (if kind = .authorizationCode ∨ kind = .implicit then some authorizationUrl
              else none) ∧
          entry.tokenUrl = (if kind = .implicit then none else some tokenUrl) ∧
          entry.refreshUrl = if refreshUrl = "" then none else some refreshUrl) ∧
      (∀ kind entry, flows.flow? kind = some entry →
        ∀ scope, scope ∈ entry.scopes.keys ↔ ∃ c ∈ s.scopes, c.name = scope) ∧
      ((∀ f ∈ body.declaredFlows name, ∃ entry,
          flows.flow? f.kind = some entry ∧ entry.Shows f) ↔
        ∀ f ∈ body.declaredFlows name, ∀ g ∈ body.declaredFlows name, f.kind = g.kind → f = g) ∧
      (flows.kinds.length = (body.declaredFlows name).length ↔
        ((body.declaredFlows name).map (·.kind)).Nodup) := by
  obtain ⟨s, hschemes, hkind, hflows, hne⟩ := Builder.scheme_of_accepted h
  have hobject : renderScheme s required locale =
      some ⟨"oauth2", localText s.description locale, none, none, none, none,
        some (renderFlows s)⟩ := by
    rw [renderScheme, hkind]
  rw [← hflows]
  refine ⟨s, _, renderFlows s, hschemes, hobject, rfl, hne, ?_, ?_, ?_,
    shows_renderFlows_iff s, length_kinds_renderFlows_iff s⟩
  · intro kind
    rw [flow?_renderFlows, Option.map_eq_none_iff, lastFlow?_eq_none_iff]
  · intro before kind authorizationUrl tokenUrl refreshUrl after hsplit hafter
    have hlast := lastFlow?_of_split before
      (Flow.make_kind kind authorizationUrl tokenUrl refreshUrl) hafter
    rw [← hsplit] at hlast
    refine ⟨_, by rw [flow?_renderFlows, hlast]; rfl, ?_⟩
    rw [entryOf_make]
    exact ⟨rfl, rfl, rfl⟩
  · intro kind entry hentry
    rw [flow?_renderFlows] at hentry
    obtain ⟨f, -, rfl⟩ := Option.map_eq_some_iff.1 hentry
    exact mem_keys_scopeMap s

/-- A portal whose users log in themselves or are known to another program. -/
def portalBody : Script SchemeCall :=
  .all [.single (.scope "read" []),
    .single (.flow (.authorizationCode "/login" "/token" "/refresh")),
    .single (.flow (.clientCredentials "/token" ""))]

/-- Both flows are shown, each by an entry of its own. -/
theorem portal_flows_shown :
    ((Builder.start "portal").declare (.scheme .top .oauth2 "login" portalBody)).answer = .ok () ∧
      ∃ flows : OAuthFlows, flows.kinds.length = 2 ∧
        (∀ f ∈ portalBody.declaredFlows "login", ∃ entry,
          flows.flow? f.kind = some entry ∧ entry.Shows f) := by
  have haccepted :
      ((Builder.start "portal").declare (.scheme .top .oauth2 "login" portalBody)).answer =
        .ok () := rfl
  obtain ⟨_, _, flows, -, -, -, -, -, -, -, hshown, hlength⟩ :=
    flows_follow_declarations haccepted .empty "en"
  refine ⟨haccepted, flows, hlength.2 (by decide), hshown.2 ?_⟩
  decide

/-- A portal with two places where a password is taken for a token. -/
def doubleBody : Script SchemeCall :=
  .all [.single (.flow (.password "/token" "/refresh")), .single (.flow (.password "/staff" ""))]

/-- Of two flows for one grant the first is lost. -/
theorem not_all_flows_shown :
    ¬∀ (b : Builder) (target : Target) (name : String) (body : Script SchemeCall),
      (b.declare (.scheme target .oauth2 name body)).answer = .ok () →
      (∀ f ∈ body.declaredFlows name, ∃ authorizationUrl tokenUrl refreshUrl,
        f = Flow.make f.kind authorizationUrl tokenUrl refreshUrl) →
      ∀ (required : NameSet) (locale : String), ∃ s object flows,
        (b.declare (.scheme target .oauth2 name body)).builder.design.schemes.schemes =
          b.design.schemes.schemes ++ [s] ∧
        renderScheme s required locale = some object ∧ object.flows = some flows ∧
        ∀ f ∈ body.declaredFlows name, ∃ entry,
          flows.flow? f.kind = some entry ∧ entry.Shows f := by
  intro h
  have hdeclared : doubleBody.declaredFlows "login" =
      [.password "/token" "/refresh", .password "/staff" ""] := rfl
  have hmade : ∀ f ∈ doubleBody.declaredFlows "login",
      ∃ authorizationUrl tokenUrl refreshUrl,
        f = Flow.make f.kind authorizationUrl tokenUrl refreshUrl := by
    rw [hdeclared, List.forall_mem_cons, List.forall_mem_singleton]
    exact ⟨⟨"", "/token", "/refresh", rfl⟩, "", "/staff", "", rfl⟩
  obtain ⟨_, _, flows, -, -, -, hshown⟩ :=
    h (.start "portal") .top "login" doubleBody rfl hmade .empty "en"
  rw [hdeclared, List.forall_mem_cons, List.forall_mem_singleton] at hshown
  obtain ⟨⟨entry, hentry, hfirst⟩, entry', hentry', hsecond⟩ := hshown
  -- the grant has one entry, which cannot have both addresses
  have hsame : entry = entry' := Option.some.inj (hentry.symm.trans hentry')
  have htoken : some "/token" = some "/staff" := by
    rw [← hsame] at hsecond
    exact hfirst.tokenUrl.symm.trans hsecond.tokenUrl
  exact absurd htoken (by decide)

end OpenApi

end ApiDesign
