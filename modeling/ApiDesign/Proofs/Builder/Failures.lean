import ApiDesign.Proofs.Builder.Runs

/-!
# Failures

Calls and declarations fail at three depths: a declaration, a call in its body, and a call in the
body of a method.  A body sees every failure and may ignore it or make up an error of its own, so
that the outcome of a declaration says little about what went wrong inside.  The recorded errors do:
whatever fails leaves nothing behind but errors, and a run leaves none exactly if nothing failed in
it, at any depth.

* `CallRecord.Clean`, `Declared.Clean` — nothing failed, neither outside nor inside;
* `Building.AccountsFor` — what a single call comes to, for the calls on nodes of every kind;
* `Script.run_accounts` — the step from calls to bodies;
* `Builder.declare_silent_iff`, `Builder.declareAll_silent_iff` — declarations and runs of them.
-/

namespace ApiDesign

/-- Nothing failed: neither the call nor a call that was made inside it. -/
def CallRecord.Clean (r : CallRecord) : Prop :=
  r.answer = .ok () ∧ ∀ answers, r.inside = some answers → ∀ a ∈ answers, a = .ok ()

/-- Nothing failed: neither the declaration nor a call of its body. -/
def Declared.Clean (r : Declared) : Prop :=
  r.answer = .ok () ∧ ∀ records, r.records = some records → ∀ c ∈ records, c.Clean

theorem CallRecord.clean_iff_of_inside {r : CallRecord} (h : r.inside = none) :
    r.Clean ↔ r.answer = .ok () := by
  refine and_iff_left ?_
  intro answers hanswers
  rw [h] at hanswers
  cases hanswers

/-! ### Calls -/

namespace Building

variable {Node Call : Type}

/-- A call accounts for its failures.  If it fails, the node is left as it was; what was recorded
before stays in front; and nothing is recorded exactly if nothing failed. -/
structure AccountsFor (b : Building Node) (r : Building Node × CallRecord) : Prop where
  unchanged : ∀ e, r.2.answer = .error e → r.1.node = b.node
  appended : b.errors <+: r.1.errors
  silent_iff : r.1.errors = b.errors ↔ r.2.Clean

/-- All calls on nodes of a kind account for their failures. -/
def Accountable (step : Building Node → Call → Building Node × CallRecord) : Prop :=
  ∀ (b : Building Node) (c : Call), b.AccountsFor (step b c)

theorem append_ne_self {errors more : List DesignError} (h : more ≠ []) :
    errors ++ more ≠ errors := by
  intro hsame
  exact h (List.append_right_eq_self.1 hsame)

/-- Errors are only added, so that two steps add none exactly if neither of them does. -/
theorem errors_eq_iff_of_prefix {before between after : List DesignError}
    (hfirst : before <+: between) (hlast : between <+: after) :
    after = before ↔ between = before ∧ after = between := by
  constructor
  · intro hsame
    have hbetween : before = between := by
      apply hfirst.eq_of_length_le
      rw [← hsame]
      exact hlast.length_le
    exact ⟨hbetween.symm, hsame.trans hbetween⟩
  · rintro ⟨hbetween, hafter⟩
    exact hafter.trans hbetween

/-- A call without a body records its own error, and there is nothing inside it that could fail. -/
theorem perform_accounts (b : Building Node) (result : Except DesignError Node) :
    b.AccountsFor (b.perform result) := by
  have hclean (answer : Answer) : CallRecord.Clean ⟨answer, none⟩ ↔ answer = .ok () :=
    CallRecord.clean_iff_of_inside rfl
  cases result with
  | ok node =>
    refine ⟨?_, List.prefix_refl _, iff_of_true rfl ((hclean _).2 rfl)⟩
    rintro e ⟨⟩
  | error e =>
    have hnew : b.errors ++ [e] ≠ b.errors := append_ne_self (List.cons_ne_nil _ _)
    refine ⟨fun _ _ => rfl, List.prefix_append _ _, iff_of_false hnew ?_⟩
    intro h
    cases (hclean _).1 h

end Building

/-! ### Bodies -/

namespace Script

variable {Node Call State : Type}

/-- What holds of the record of every call holds of all records of a body. -/
theorem forall_records {step : State → Call → State × CallRecord} {P : CallRecord → Prop}
    (hstep : ∀ s c, P (step s c).2) (body : Script Call) (s : State) :
    ∀ r ∈ (body.run step s).records, P r := by
  induction body generalizing s with
  | finish outcome => simp [run]
  | call c next ih =>
    show ∀ r ∈ (step s c).2 :: ((next (step s c).2.answer).run step (step s c).1).records, P r
    rw [List.forall_mem_cons]
    exact ⟨hstep s c, ih _ _⟩

/-- **From calls to bodies.**  If all calls account for their failures, a body records no error
exactly if no call that it made has failed, whatever it did about the answers. -/
theorem run_accounts {step : Building Node → Call → Building Node × CallRecord}
    (hstep : Building.Accountable step) (body : Script Call) (b : Building Node) :
    b.errors <+: (body.run step b).state.errors ∧
      ((body.run step b).state.errors = b.errors ↔ ∀ r ∈ (body.run step b).records, r.Clean) := by
  induction body generalizing b with
  | finish outcome =>
    refine ⟨List.prefix_refl _, iff_of_true rfl ?_⟩
    simp [run]
  | call c next ih =>
    have hcall := hstep b c
    obtain ⟨happended, hsilent⟩ := ih (step b c).2.answer (step b c).1
    refine ⟨hcall.appended.trans happended, ?_⟩
    show ((next (step b c).2.answer).run step (step b c).1).state.errors = b.errors ↔
      ∀ r ∈ (step b c).2 :: ((next (step b c).2.answer).run step (step b c).1).records, r.Clean
    rw [List.forall_mem_cons, ← hcall.silent_iff, ← hsilent]
    exact Building.errors_eq_iff_of_prefix hcall.appended happended

end Script

/-! ### One kind of node after the other -/

theorem SchemeCall.accountable : Building.Accountable SchemeCall.step :=
  fun b c => b.perform_accounts (c.result b.node)

theorem RequirementCall.accountable (schemes : List SecurityScheme) :
    Building.Accountable (RequirementCall.step schemes) :=
  fun b c => b.perform_accounts (b.node.addScope schemes c.scope c.descriptions)

theorem MethodCall.accountable (types : List UserType) :
    Building.Accountable (MethodCall.step types) :=
  fun b c => b.perform_accounts (c.outcome types b.node)

/-- A method is declared by a call that has a body of its own, so that its calls count as well. -/
theorem ServiceCall.accountable (types : List UserType) :
    Building.Accountable (ServiceCall.step types) := by
  intro b c
  cases c with
  | description text => exact b.perform_accounts _
  | method name body =>
    have hinside : ∀ r ∈ (body.run (MethodCall.step types) ⟨Method.ofName name, b.errors⟩).records,
        r.inside = none :=
      Script.forall_records (P := fun r => r.inside = none) (fun _ _ => rfl) body _
    obtain ⟨happended, hsilent⟩ :=
      Script.run_accounts (MethodCall.accountable types) body ⟨Method.ofName name, b.errors⟩
    simp only [ServiceCall.step]
    split
    · exact b.perform_accounts _
    split
    · rename_i e _
      obtain ⟨more, hmore, hclose⟩ := Building.close_eq_append happended e
      refine ⟨fun _ _ => rfl, ?_, ?_⟩
      · rw [hclose]
        exact List.prefix_append _ _
      · rw [hclose]
        refine iff_of_false (Building.append_ne_self hmore) ?_
        rintro ⟨hanswer, -⟩
        cases hanswer
    · refine ⟨by rintro e ⟨⟩, happended, hsilent.trans ?_⟩
      constructor
      · intro hrecords
        refine ⟨rfl, ?_⟩
        rintro _ ⟨⟩ a ha
        obtain ⟨r, hr, rfl⟩ := List.mem_map.1 ha
        exact (hrecords r hr).1
      · rintro ⟨-, hanswers⟩ r hr
        rw [CallRecord.clean_iff_of_inside (hinside r hr)]
        exact hanswers _ rfl _ (List.mem_map_of_mem hr)

/-! ### Declarations -/

namespace Builder

variable {b : Builder} {r : Declared}

/-- A dropped declaration has failed, and records an error. -/
theorem Drops.silent_iff (h : b.Drops r) : r.builder.errors = b.errors ↔ r.Clean := by
  obtain ⟨more, hmore, herrors⟩ := h.recorded
  obtain ⟨e, hanswer⟩ := h.answer
  rw [herrors]
  refine iff_of_false (Building.append_ne_self hmore) ?_
  rintro ⟨hok, -⟩
  rw [hok] at hanswer
  cases hanswer

/-- An accepted declaration records what its body did. -/
theorem silent_iff_of_accepted {records : List CallRecord} (hanswer : r.answer = .ok ())
    (hrecords : r.records = some records)
    (hbody : r.builder.errors = b.errors ↔ ∀ c ∈ records, c.Clean) :
    r.builder.errors = b.errors ↔ r.Clean := by
  rw [hbody, Declared.Clean, hrecords]
  constructor
  · intro h
    refine ⟨hanswer, ?_⟩
    rintro _ ⟨⟩
    exact h
  · rintro ⟨-, h⟩
    exact h records rfl

theorem defineScheme_silent_iff (b : Builder) (target : Target) (kind : SchemeKind) (name : String)
    (body : Script SchemeCall) :
    (b.defineScheme target kind name body).builder.errors = b.errors ↔
      (b.defineScheme target kind name body).Clean := by
  obtain ⟨happended, hbody⟩ :=
    Script.run_accounts SchemeCall.accountable body ⟨SecurityScheme.ofKind kind name, b.errors⟩
  unfold defineScheme
  split
  · exact (refuse_drops b _ _).silent_iff
  split
  · exact (refuse_drops b _ _).silent_iff
  split
  · exact (refuse_drops b _ _).silent_iff
  dsimp only
  split
  · exact (abandon_drops b happended _ _).silent_iff
  split
  · exact ((refuse_drops _ _ _).after happended).silent_iff
  split
  · exact ((refuse_drops _ _ _).after happended).silent_iff
  · exact silent_iff_of_accepted rfl rfl hbody

/-- The attributes of a type are declared by calls that cannot fail. -/
theorem defineType_silent_iff (b : Builder) (name : String) (body : Script AttributeCall) :
    (b.defineType name body).builder.errors = b.errors ↔ (b.defineType name body).Clean := by
  have hclean : ∀ c ∈ (body.run AttributeCall.step []).records, c.Clean :=
    Script.forall_records (fun _ _ => (CallRecord.clean_iff_of_inside rfl).2 rfl) body []
  unfold defineType
  split
  · exact (refuse_drops b _ _).silent_iff
  dsimp only
  split
  · exact (abandon_drops b (List.prefix_refl _) _ _).silent_iff
  · exact silent_iff_of_accepted rfl rfl (iff_of_true rfl hclean)

theorem defineService_silent_iff (b : Builder) (name : String) (body : Script ServiceCall) :
    (b.defineService name body).builder.errors = b.errors ↔ (b.defineService name body).Clean := by
  obtain ⟨happended, hbody⟩ := Script.run_accounts (ServiceCall.accountable b.design.types) body
    ⟨Service.ofName name, b.errors⟩
  unfold defineService
  split
  · exact (refuse_drops b _ _).silent_iff
  dsimp only
  split
  · exact (abandon_drops b happended _ _).silent_iff
  · exact silent_iff_of_accepted rfl rfl hbody

theorem requireSecurity_silent_iff (b : Builder) (target : Target) (refs : List SchemeRef)
    (body : Script RequirementCall) :
    (b.requireSecurity target refs body).builder.errors = b.errors ↔
      (b.requireSecurity target refs body).Clean := by
  unfold requireSecurity
  split
  · exact (refuse_drops b _ _).silent_iff
  split
  · exact (refuse_drops b _ _).silent_iff
  split
  · exact (refuse_drops b _ _).silent_iff
  rename_i schemes _
  obtain ⟨happended, hbody⟩ := Script.run_accounts (RequirementCall.accountable schemes) body
    ⟨⟨schemes.map (·.name), []⟩, b.errors⟩
  dsimp only
  split
  · exact (abandon_drops b happended _ _).silent_iff
  · exact silent_iff_of_accepted rfl rfl hbody

theorem dropSecurity_silent_iff (b : Builder) (target : Target) :
    (b.dropSecurity target).builder.errors = b.errors ↔ (b.dropSecurity target).Clean := by
  unfold dropSecurity
  split
  · split
    · exact (refuse_drops b _ _).silent_iff
    · refine iff_of_true rfl ⟨rfl, ?_⟩
      rintro _ ⟨⟩
  · exact (refuse_drops b _ _).silent_iff

/-- The metadata of the API are set by calls that cannot fail. -/
theorem configureApi_silent_iff (b : Builder) (calls : List ApiCall) :
    (b.configureApi calls).builder.errors = b.errors ↔ (b.configureApi calls).Clean := by
  refine silent_iff_of_accepted rfl rfl (iff_of_true rfl ?_)
  intro c hc
  obtain ⟨_, -, rfl⟩ := List.mem_map.1 hc
  exact (CallRecord.clean_iff_of_inside rfl).2 rfl

/-- **The step.**  A declaration records no error exactly if nothing failed in it. -/
theorem declare_silent_iff (b : Builder) (x : Declaration) :
    (b.declare x).builder.errors = b.errors ↔ (b.declare x).Clean := by
  cases x with
  | api calls => exact configureApi_silent_iff b calls
  | scheme target kind name body => exact defineScheme_silent_iff b target kind name body
  | type name body => exact defineType_silent_iff b name body
  | service name body => exact defineService_silent_iff b name body
  | security target refs body => exact requireSecurity_silent_iff b target refs body
  | noSecurity target => exact dropSecurity_silent_iff b target

/-! ### Runs -/

/-- What the declarations of a run came to, one after the other. -/
def performed (b : Builder) : List Declaration → List Declared
  | [] => []
  | x :: xs => b.declare x :: (b.declare x).builder.performed xs

/-- **The run.**  Declarations record no error exactly if nothing failed in any of them. -/
theorem declareAll_silent_iff (b : Builder) (xs : List Declaration) :
    (b.declareAll xs).errors = b.errors ↔ ∀ r ∈ b.performed xs, r.Clean := by
  induction xs generalizing b with
  | nil => exact iff_of_true rfl (by simp [performed])
  | cons x xs ih =>
    have hfirst := errors_prefix_declare b x
    have hrest := errors_prefix_declareAll (b.declare x).builder xs
    show ((b.declare x).builder.declareAll xs).errors = b.errors ↔
      ∀ r ∈ b.declare x :: (b.declare x).builder.performed xs, r.Clean
    rw [List.forall_mem_cons, ← declare_silent_iff, ← ih]
    exact Building.errors_eq_iff_of_prefix hfirst hrest

/-- **Failures change nothing and are not forgotten.**  A declaration that fails leaves the design as
it was, and more errors than before.  A call that fails leaves the node under construction as it was.
Recorded errors stay, in front of those that follow.  A run ends with a design exactly if nothing
failed in it: no declaration, no call of a body, and no call inside a call. -/
theorem failures_only_leave_errors :
    (∀ (b : Builder) (x : Declaration) (e : DesignError), (b.declare x).answer = .error e →
      (b.declare x).builder.design = b.design ∧
        ∃ more, more ≠ [] ∧ (b.declare x).builder.errors = b.errors ++ more) ∧
    (Building.Accountable SchemeCall.step ∧
      (∀ schemes, Building.Accountable (RequirementCall.step schemes)) ∧
      (∀ types, Building.Accountable (MethodCall.step types)) ∧
      ∀ types, Building.Accountable (ServiceCall.step types)) ∧
    (∀ (b : Builder) (xs : List Declaration), b.errors <+: (b.declareAll xs).errors) ∧
    ∀ (name : String) (xs : List Declaration),
      (∃ d, ((start name).declareAll xs).finish = .ok d) ↔
        ∀ r ∈ (start name).performed xs, r.Clean := by
  refine ⟨?_, ⟨SchemeCall.accountable, RequirementCall.accountable, MethodCall.accountable,
    ServiceCall.accountable⟩, errors_prefix_declareAll, ?_⟩
  · intro b x e hfailed
    rcases declare_cases b x with hdrop | htake
    · exact ⟨hdrop.design, hdrop.recorded⟩
    · rw [htake.answer] at hfailed
      cases hfailed
  · intro name xs
    have hrun := declareAll_silent_iff (start name) xs
    rw [← hrun]
    simp only [finish_eq_ok_iff]
    constructor
    · rintro ⟨d, hnone, -⟩
      exact hnone
    · intro hnone
      exact ⟨_, hnone, rfl⟩

/-- A service with a method that ignores a bad route, and with bodies that fail for reasons of their
own after that. -/
def carelessService : Declaration :=
  .service "loans" (.call
    (.method "lend" (.call (.route .post "loans") fun _ => .finish (.error (.unknownType "Loan"))))
    fun _ => .finish (.error .emptyRequirement))

/-- The service is not declared, and the run does not end with a design. -/
theorem carelessService_only_leaves_errors :
    let b := start "desk"
    (b.declare carelessService).answer = .error .emptyRequirement ∧
      (b.declare carelessService).builder.design = b.design ∧
      (∃ more, more ≠ [] ∧ (b.declare carelessService).builder.errors = b.errors ++ more) ∧
      ¬∃ d, (b.declareAll [carelessService]).finish = .ok d := by
  have hanswer : ((start "desk").declare carelessService).answer = .error .emptyRequirement := rfl
  obtain ⟨hfailed, -, -, hrun⟩ := failures_only_leave_errors
  obtain ⟨hdesign, herrors⟩ := hfailed (start "desk") carelessService _ hanswer
  refine ⟨hanswer, hdesign, herrors, ?_⟩
  rw [hrun "desk" [carelessService]]
  intro hclean
  have hdeclared := hclean ((start "desk").declare carelessService) List.mem_cons_self
  rw [hdeclared.1] at hanswer
  cases hanswer

end Builder

end ApiDesign
