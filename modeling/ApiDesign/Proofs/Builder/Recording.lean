import ApiDesign.Proofs.Builder.Failures
import ApiDesign.Proofs.Builder.Results
import Mathlib.Data.List.Perm.Basic

/-!
# Which errors are recorded

An error originates where it is answered first: in a call, in a declaration, or in a body that makes
it up.  From there bodies hand it on.  Whether an error of a body is handed on is guessed when the
body has failed, by a look at the recorded errors: if there are more than before the body began, the
error is taken for one of them.  So an error that is handed on is not recorded again, through however
many bodies it goes; but an error that a body makes up after another one was recorded is lost.

* `CallRecord.origins`, `Declared.origins` — the errors that originate, told by the answers alone;
* `CallRecord.lost`, `Declared.lost` — those of them that are made up too late;
* `Script.run_errors`, `Builder.declare_records` — what is recorded, from calls to declarations;
* `errors_recorded_unless_lost` — every error that originates is recorded once, or it is lost.
-/

namespace ApiDesign

/-! ### Lists that are parted -/

/-- A list is parted: what is kept of it stays in its order, and everything is either kept or lost. -/
structure Parted {α : Type} (all kept lost : List α) : Prop where
  inOrder : kept.Sublist all
  once : all.Perm (kept ++ lost)

namespace Parted

variable {α β : Type} {all kept lost all' kept' lost' : List α}

theorem nothing_lost (all : List α) : Parted all all [] := by
  refine ⟨List.Sublist.refl _, ?_⟩
  rw [List.append_nil]

theorem all_lost (all : List α) : Parted all [] all := ⟨List.nil_sublist _, List.Perm.refl _⟩

theorem append (h : Parted all kept lost) (h' : Parted all' kept' lost') :
    Parted (all ++ all') (kept ++ kept') (lost ++ lost') := by
  refine ⟨h.inOrder.append h'.inOrder, (h.once.append h'.once).trans ?_⟩
  -- the second part that is kept moves in front of the first that is lost
  have hmiddle : (lost ++ (kept' ++ lost')).Perm (kept' ++ (lost ++ lost')) := by
    rw [← List.append_assoc, ← List.append_assoc]
    exact List.perm_append_comm.append_right lost'
  rw [List.append_assoc, List.append_assoc]
  exact hmiddle.append_left kept

theorem flatMap {xs : List β} {f g h : β → List α} (hparted : ∀ x, Parted (f x) (g x) (h x)) :
    Parted (xs.flatMap f) (xs.flatMap g) (xs.flatMap h) := by
  induction xs with
  | nil => exact nothing_lost []
  | cons x xs ih => exact (hparted x).append ih

/-- Everything is kept exactly if nothing is lost. -/
theorem kept_eq_iff (h : Parted all kept lost) : kept = all ↔ lost = [] := by
  have hlength := h.once.length_eq
  rw [List.length_append] at hlength
  constructor
  · intro heq
    rw [heq] at hlength
    exact List.length_eq_zero_iff.1 (by omega)
  · intro hnone
    rw [hnone, List.length_nil] at hlength
    exact h.inOrder.eq_of_length (by omega)

end Parted

/-! ### Where errors originate -/

/-- The error that an answer brings up.  An error that a call inside has answered with is handed on. -/
def ownError (inside : List DesignError) : Answer → List DesignError
  | .ok _ => []
  | .error e => if e ∈ inside then [] else [e]

/-- What is kept of a failed body: the errors recorded in it or, if there are none, its own. -/
def keptOf (inside own : List DesignError) : List DesignError := if inside = [] then own else inside

/-- What is lost of a failed body: its own error, if others were recorded before. -/
def lostOf (inside own : List DesignError) : List DesignError := if inside = [] then [] else own

theorem keptOf_nil (inside : List DesignError) : keptOf inside [] = inside := by
  by_cases h : inside = []
  · rw [keptOf, if_pos h, h]
  · rw [keptOf, if_neg h]

theorem parted_of_body (inside own : List DesignError) :
    Parted (inside ++ own) (keptOf inside own) (lostOf inside own) := by
  by_cases h : inside = []
  · rw [keptOf, lostOf, if_pos h, if_pos h, h]
    exact Parted.nothing_lost own
  · rw [keptOf, lostOf, if_neg h, if_neg h]
    have hparted := (Parted.nothing_lost inside).append (Parted.all_lost own)
    rwa [List.append_nil] at hparted

/-- An error of an answer is handed on or brought up. -/
theorem mem_ownError {inside : List DesignError} {e : DesignError} (h : e ∉ inside) :
    e ∈ ownError inside (.error e) := by
  rw [ownError, if_neg h]
  exact List.mem_singleton_self e

namespace CallRecord

/-- The errors that the calls inside a call have answered with. -/
def insideErrors (r : CallRecord) : List DesignError := (r.inside.getD []).filterMap errorOf?

/-- The error that a call brings up itself, or its body. -/
def own (r : CallRecord) : List DesignError := ownError r.insideErrors r.answer

/-- The errors that originate in a call. -/
def origins (r : CallRecord) : List DesignError := r.insideErrors ++ r.own

/-- The errors of a call that are recorded. -/
def recorded (r : CallRecord) : List DesignError := keptOf r.insideErrors r.own

/-- The error that the body of a call makes up after other errors. -/
def lost (r : CallRecord) : List DesignError := lostOf r.insideErrors r.own

theorem parted (r : CallRecord) : Parted r.origins r.recorded r.lost :=
  parted_of_body r.insideErrors r.own

theorem mem_origins {r : CallRecord} {e : DesignError} (h : r.answer = .error e) :
    e ∈ r.origins := by
  by_cases hinside : e ∈ r.insideErrors
  · exact List.mem_append_left _ hinside
  · refine List.mem_append_right _ ?_
    rw [own, h]
    exact mem_ownError hinside

/-- A call that records nothing has not failed. -/
theorem errorOf?_of_recorded_nil {r : CallRecord} (h : r.recorded = []) :
    errorOf? r.answer = none := by
  by_cases hinside : r.insideErrors = []
  · rw [recorded, keptOf, if_pos hinside, own, hinside] at h
    cases hanswer : r.answer with
    | ok u => rfl
    | error e =>
      rw [hanswer] at h
      cases h
  · rw [recorded, keptOf, if_neg hinside] at h
    exact absurd h hinside

/-- A call without a body records the error that it answers with. -/
theorem recorded_of_plain (answer : Answer) :
    (CallRecord.mk answer none).recorded = (errorOf? answer).toList := by
  cases answer <;> rfl

end CallRecord

namespace Declared

/-- The calls that the body of a declaration has made. -/
def calls (r : Declared) : List CallRecord := r.records.getD []

/-- The error that a declaration brings up itself, or its body. -/
def own (r : Declared) : List DesignError :=
  ownError (r.calls.filterMap fun c => errorOf? c.answer) r.answer

/-- The errors that originate in a declaration. -/
def origins (r : Declared) : List DesignError := r.calls.flatMap CallRecord.origins ++ r.own

/-- The errors of a declaration that are recorded, if its body ends with the given outcome.  After a
body that has succeeded the declaration can still be refused, for a reason of its own. -/
def recorded (r : Declared) : Answer → List DesignError
  | .ok _ => r.calls.flatMap CallRecord.recorded ++ r.own
  | .error _ => keptOf (r.calls.flatMap CallRecord.recorded) r.own

/-- The errors that bodies make up after other errors: those inside, and that of the body of the
declaration. -/
def lost (r : Declared) : Answer → List DesignError
  | .ok _ => r.calls.flatMap CallRecord.lost
  | .error _ => r.calls.flatMap CallRecord.lost ++
      lostOf (r.calls.flatMap CallRecord.recorded) r.own

theorem parted (r : Declared) (outcome : Answer) :
    Parted r.origins (r.recorded outcome) (r.lost outcome) := by
  have hcalls : Parted (r.calls.flatMap CallRecord.origins)
      (r.calls.flatMap CallRecord.recorded) (r.calls.flatMap CallRecord.lost) :=
    Parted.flatMap CallRecord.parted
  cases outcome with
  | ok u =>
    have hparted := hcalls.append (Parted.nothing_lost r.own)
    rwa [List.append_nil] at hparted
  | error e =>
    show Parted (_ ++ r.own) (keptOf _ r.own) (_ ++ lostOf _ r.own)
    by_cases h : r.calls.flatMap CallRecord.recorded = []
    · rw [keptOf, lostOf, if_pos h, if_pos h]
      rw [h] at hcalls
      exact hcalls.append (Parted.nothing_lost r.own)
    · rw [keptOf, lostOf, if_neg h, if_neg h]
      have hparted := hcalls.append (Parted.all_lost r.own)
      rwa [List.append_nil] at hparted

theorem mem_origins {r : Declared} {e : DesignError} (h : r.answer = .error e) :
    e ∈ r.origins := by
  by_cases hinside : e ∈ r.calls.filterMap fun c => errorOf? c.answer
  · obtain ⟨c, hc, hanswer⟩ := List.mem_filterMap.1 hinside
    have herror : c.answer = .error e := by
      cases hc : c.answer with
      | ok u =>
        rw [hc] at hanswer
        cases hanswer
      | error e' =>
        rw [hc] at hanswer
        cases hanswer
        rfl
    exact List.mem_append_left _ (List.mem_flatMap.2 ⟨c, hc, c.mem_origins herror⟩)
  · refine List.mem_append_right _ ?_
    rw [own, h]
    exact mem_ownError hinside

end Declared

/-! ### What calls and bodies record -/

namespace Building

variable {Node Call : Type}

/-- A call records its errors, after those that were recorded before. -/
def Records (step : Building Node → Call → Building Node × CallRecord) : Prop :=
  ∀ (b : Building Node) (c : Call), (step b c).1.errors = b.errors ++ (step b c).2.recorded

theorem perform_errors (b : Building Node) (result : Except DesignError Node) :
    (b.perform result).1.errors = b.errors ++ (b.perform result).2.recorded := by
  cases result with
  | ok node =>
    show b.errors = b.errors ++ []
    rw [List.append_nil]
  | error e => rfl

/-- After a failed body the length of the recorded errors tells what is kept.  Where nothing was
recorded, no call has failed, so that the error was not handed on. -/
theorem close_errors (before inside answered : List DesignError) (h : inside = [] → answered = [])
    (e : DesignError) :
    close before.length (before ++ inside) e =
      before ++ keptOf inside (ownError answered (.error e)) := by
  by_cases hinside : inside = []
  · have hown : ownError answered (.error e) = [e] := by
      rw [h hinside]
      rfl
    rw [hinside, List.append_nil, close_unrecorded, keptOf, if_pos rfl, hown]
  · have hlength : ¬(before ++ inside).length = before.length := by
      have hpos := List.length_pos_iff.2 hinside
      rw [List.length_append]
      omega
    rw [close, if_neg hlength, keptOf, if_neg hinside]

end Building

namespace Script

variable {Node Call : Type} {step : Building Node → Call → Building Node × CallRecord}

/-- **From calls to bodies.**  A body records the errors of its calls, one call after the other. -/
theorem run_errors (hstep : Building.Records step) (body : Script Call) (b : Building Node) :
    (body.run step b).state.errors =
      b.errors ++ (body.run step b).records.flatMap CallRecord.recorded := by
  induction body generalizing b with
  | finish outcome => exact (List.append_nil _).symm
  | call c next ih =>
    have hrest := ih (step b c).2.answer (step b c).1
    show ((next (step b c).2.answer).run step (step b c).1).state.errors =
      b.errors ++ ((step b c).2.recorded ++
        ((next (step b c).2.answer).run step (step b c).1).records.flatMap CallRecord.recorded)
    rw [hrest, hstep b c, List.append_assoc]

end Script

/-- If nothing was recorded in a body, none of its calls has failed. -/
theorem answered_of_recorded_nil {records : List CallRecord}
    (h : records.flatMap CallRecord.recorded = []) :
    (records.filterMap fun c => errorOf? c.answer) = [] := by
  rw [List.filterMap_eq_nil_iff]
  intro c hc
  exact CallRecord.errorOf?_of_recorded_nil (List.flatMap_eq_nil_iff.1 h c hc)

theorem SchemeCall.records : Building.Records SchemeCall.step :=
  fun b c => b.perform_errors (c.result b.node)

theorem RequirementCall.records (schemes : List SecurityScheme) :
    Building.Records (RequirementCall.step schemes) :=
  fun b c => b.perform_errors (b.node.addScope schemes c.scope c.descriptions)

theorem MethodCall.records (types : List UserType) : Building.Records (MethodCall.step types) :=
  fun b c => b.perform_errors (c.outcome types b.node)

/-- Calls without bodies record the errors that they answer with. -/
theorem recorded_of_all_plain {records : List CallRecord} (h : ∀ r ∈ records, r.inside = none) :
    records.flatMap CallRecord.recorded = (records.map (·.answer)).filterMap errorOf? := by
  induction records with
  | nil => rfl
  | cons r records ih =>
    obtain ⟨answer, inside⟩ := r
    obtain ⟨hnone, hrest⟩ := List.forall_mem_cons.1 h
    have hplain : inside = none := hnone
    subst hplain
    rw [List.flatMap_cons, ih hrest, CallRecord.recorded_of_plain, List.map_cons,
      List.filterMap_cons]
    cases answer <;> rfl

/-- **The step inside a service.**  A method records what its body has recorded or, if that is
nothing, the error of its body. -/
theorem ServiceCall.records (types : List UserType) :
    Building.Records (ServiceCall.step types) := by
  intro b c
  cases c with
  | description text => exact b.perform_errors _
  | method name body =>
    have hrun := Script.run_errors (MethodCall.records types) body ⟨Method.ofName name, b.errors⟩
    rw [recorded_of_all_plain
      (Script.forall_records (P := fun r => r.inside = none) (fun _ _ => rfl) body _)] at hrun
    simp only [ServiceCall.step]
    split
    · exact b.perform_errors _
    split
    · rename_i e _
      dsimp only
      rw [hrun]
      exact Building.close_errors b.errors _ _ id e
    · dsimp only
      rw [hrun]
      -- a method that is accepted brings up no error of its own
      show b.errors ++ _ = b.errors ++ keptOf _ []
      rw [keptOf_nil]
      rfl

/-! ### What declarations record -/

namespace Builder

variable {b : Builder} {State : Type}

/-- How the body of a declaration ends, if it is started. -/
def bodyOutcome (b : Builder) : Declaration → Answer
  | .api _ => .ok ()
  | .scheme _ kind name body =>
    (body.run SchemeCall.step ⟨SecurityScheme.ofKind kind name, b.errors⟩).outcome
  | .type _ body => (body.run AttributeCall.step []).outcome
  | .service name body =>
    (body.run (ServiceCall.step b.design.types) ⟨Service.ofName name, b.errors⟩).outcome
  | .security _ refs body =>
    match resolveAll b.design.schemes refs with
    | .ok schemes =>
      (body.run (RequirementCall.step schemes) ⟨⟨schemes.map (·.name), []⟩, b.errors⟩).outcome
    | .error _ => .ok ()
  | .noSecurity _ => .ok ()

/-- What a declaration came to accounts for the errors that it has recorded. -/
def Records (b : Builder) (r : Declared) (outcome : Answer) : Prop :=
  r.builder.errors = b.errors ++ r.recorded outcome

/-- A declaration that is refused before its body starts. -/
theorem refuse_records (b : Builder) (e : DesignError) (outcome : Answer) :
    b.Records (b.refuse e none) outcome := by
  cases outcome <;> rfl

/-- A declaration that is refused after its body has succeeded, for a reason that no call of the body
has answered with. -/
theorem refuse_records_after {run : ScriptRun State} {errors : List DesignError}
    (herrors : errors = b.errors ++ run.records.flatMap CallRecord.recorded) {e : DesignError}
    (hnew : e ∉ run.records.filterMap fun c => errorOf? c.answer) :
    b.Records (Builder.refuse { b with errors := errors } e (some run.records)) (.ok ()) := by
  show errors ++ [e] = b.errors ++ (run.records.flatMap CallRecord.recorded ++ ownError _ (.error e))
  have hown : ownError (run.records.filterMap fun c => errorOf? c.answer) (.error e) = [e] := by
    rw [ownError, if_neg hnew]
  rw [herrors, ← List.append_assoc]
  exact congrArg (_ ++ ·) hown.symm

/-- A declaration whose body has failed. -/
theorem abandon_records {run : ScriptRun State} {errors : List DesignError}
    (herrors : errors = b.errors ++ run.records.flatMap CallRecord.recorded) (e : DesignError) :
    b.Records (b.abandon errors e run) (.error e) := by
  show Building.close b.errors.length errors e = b.errors ++ keptOf _ (ownError _ (.error e))
  rw [herrors]
  exact Building.close_errors b.errors _ _ answered_of_recorded_nil e

/-- A declaration that is accepted. -/
theorem accept_records {run : ScriptRun State} {errors : List DesignError}
    (herrors : errors = b.errors ++ run.records.flatMap CallRecord.recorded) (r : Declared)
    (hbuilder : r.builder.errors = errors) (hanswer : r.answer = .ok ())
    (hrecords : r.records = some run.records) : b.Records r (.ok ()) := by
  show r.builder.errors = b.errors ++ (r.calls.flatMap CallRecord.recorded ++ r.own)
  rw [hbuilder, herrors, Declared.own, hanswer, Declared.calls, hrecords]
  show _ = b.errors ++ (run.records.flatMap CallRecord.recorded ++ [])
  rw [List.append_nil]

/-- That flows are missing is never the answer of a call. -/
theorem not_answered_missingFlows (body : Script SchemeCall) (s : Building SecurityScheme)
    (name : String) :
    DesignError.missingFlows name ∉
      (body.run SchemeCall.step s).records.filterMap fun c => errorOf? c.answer := by
  have hstep (s : Building SecurityScheme) (c : SchemeCall) :
      errorOf? (SchemeCall.step s c).2.answer ≠ some (.missingFlows name) := by
    have hresult : ∀ e, c.result s.node = .error e → e ≠ .missingFlows name := by
      intro e he heq
      subst heq
      cases c with
      | description text => cases he
      | scope scope descriptions =>
        simp only [SchemeCall.result, SecurityScheme.addScope] at he
        split at he <;> cases he
      | flow value =>
        simp only [SchemeCall.result, SecurityScheme.addFlow] at he
        split at he <;> cases he
    rw [SchemeCall.step, Building.perform]
    cases h : c.result s.node with
    | ok node => exact fun hsome => by cases hsome
    | error e => exact fun hsome => hresult e h (Option.some.inj hsome)
  intro hmem
  obtain ⟨r, hr, hanswer⟩ := List.mem_filterMap.1 hmem
  exact Script.forall_records
    (P := fun r => errorOf? r.answer ≠ some (.missingFlows name)) hstep body s r hr hanswer

theorem defineScheme_records (b : Builder) (target : Target) (kind : SchemeKind) (name : String)
    (body : Script SchemeCall) :
    b.Records (b.defineScheme target kind name body)
      (b.bodyOutcome (.scheme target kind name body)) := by
  have herrors := Script.run_errors SchemeCall.records body
    ⟨SecurityScheme.ofKind kind name, b.errors⟩
  have hkeeps := schemeBody_keeps kind name body b.errors
  show b.Records _ (body.run SchemeCall.step ⟨SecurityScheme.ofKind kind name, b.errors⟩).outcome
  unfold defineScheme
  split
  · exact refuse_records b _ _
  split
  · exact refuse_records b _ _
  split
  · exact refuse_records b _ _
  rename_i hfree
  dsimp only
  split
  · rename_i e houtcome
    rw [houtcome]
    exact abandon_records herrors e
  rename_i houtcome
  rw [houtcome]
  split
  · exact refuse_records_after herrors (not_answered_missingFlows body _ name)
  -- the body could not rename the scheme, so the name is still free when it is registered
  rw [SchemeRegistry.register, if_neg (by rw [hkeeps.node.name]; exact hfree)]
  exact accept_records herrors _ rfl rfl rfl

/-- The attributes of a type are declared by calls that record nothing. -/
theorem defineType_records (b : Builder) (name : String) (body : Script AttributeCall) :
    b.Records (b.defineType name body) (b.bodyOutcome (.type name body)) := by
  have hsilent : ∀ r ∈ (body.run AttributeCall.step []).records, r.recorded = [] :=
    Script.forall_records (P := fun r => r.recorded = []) (fun _ _ => rfl) body []
  have herrors : b.errors =
      b.errors ++ (body.run AttributeCall.step []).records.flatMap CallRecord.recorded := by
    rw [List.flatMap_eq_nil_iff.2 hsilent, List.append_nil]
  show b.Records _ (body.run AttributeCall.step []).outcome
  unfold defineType
  split
  · exact refuse_records b _ _
  dsimp only
  split
  · rename_i e houtcome
    rw [houtcome]
    exact abandon_records herrors e
  · rename_i houtcome
    rw [houtcome]
    exact accept_records herrors _ rfl rfl rfl

theorem defineService_records (b : Builder) (name : String) (body : Script ServiceCall) :
    b.Records (b.defineService name body) (b.bodyOutcome (.service name body)) := by
  have herrors := Script.run_errors (ServiceCall.records b.design.types) body
    ⟨Service.ofName name, b.errors⟩
  show b.Records _
    (body.run (ServiceCall.step b.design.types) ⟨Service.ofName name, b.errors⟩).outcome
  unfold defineService
  split
  · exact refuse_records b _ _
  dsimp only
  split
  · rename_i e houtcome
    rw [houtcome]
    exact abandon_records herrors e
  · rename_i houtcome
    rw [houtcome]
    exact accept_records herrors _ rfl rfl rfl

theorem requireSecurity_records (b : Builder) (target : Target) (refs : List SchemeRef)
    (body : Script RequirementCall) :
    b.Records (b.requireSecurity target refs body) (b.bodyOutcome (.security target refs body)) := by
  unfold requireSecurity
  split
  · exact refuse_records b _ _
  split
  · exact refuse_records b _ _
  split
  · exact refuse_records b _ _
  rename_i schemes hschemes
  have herrors := Script.run_errors (RequirementCall.records schemes) body
    ⟨⟨schemes.map (·.name), []⟩, b.errors⟩
  have hbody : b.bodyOutcome (.security target refs body) =
      (body.run (RequirementCall.step schemes)
        ⟨⟨schemes.map (·.name), []⟩, b.errors⟩).outcome := by
    simp only [bodyOutcome, hschemes]
  rw [hbody]
  dsimp only
  split
  · rename_i e houtcome
    rw [houtcome]
    exact abandon_records herrors e
  · rename_i houtcome
    rw [houtcome]
    exact accept_records herrors _ rfl rfl rfl

theorem dropSecurity_records (b : Builder) (target : Target) :
    b.Records (b.dropSecurity target) (.ok ()) := by
  unfold dropSecurity
  split
  · split
    · exact refuse_records b _ _
    · exact (List.append_nil _).symm
  · exact refuse_records b _ _

/-- The metadata of the API are set by calls that record nothing. -/
theorem configureApi_records (b : Builder) (calls : List ApiCall) :
    b.Records (b.configureApi calls) (.ok ()) := by
  have hsilent : ∀ r ∈ (b.configureApi calls).calls, r.recorded = [] := by
    intro r hr
    obtain ⟨_, -, rfl⟩ := List.mem_map.1 hr
    rfl
  show b.errors = b.errors ++ ((b.configureApi calls).calls.flatMap CallRecord.recorded ++ [])
  rw [List.flatMap_eq_nil_iff.2 hsilent, List.append_nil, List.append_nil]

/-- **The step.**  What a declaration records can be told from the answers in it and from how its body
has ended. -/
theorem declare_records (b : Builder) (x : Declaration) :
    b.Records (b.declare x) (b.bodyOutcome x) := by
  cases x with
  | api calls => exact configureApi_records b calls
  | scheme target kind name body => exact defineScheme_records b target kind name body
  | type name body => exact defineType_records b name body
  | service name body => exact defineService_records b name body
  | security target refs body => exact requireSecurity_records b target refs body
  | noSecurity target => exact dropSecurity_records b target

end Builder

/-! ### Every error once, or lost -/

/-- The errors that an operation has recorded are those that originated in it, each of them once and
in order, except for what is lost; and the error that it answers with is one of those. -/
structure RecordsOnce (answer : Answer) (origins recorded lost : List DesignError) : Prop where
  inOrder : recorded.Sublist origins
  once : origins.Perm (recorded ++ lost)
  complete_iff : recorded = origins ↔ lost = []
  answered : ∀ e, answer = .error e → e ∈ origins ∧ (lost = [] → e ∈ recorded)

theorem Parted.recordsOnce {answer : Answer} {origins recorded lost : List DesignError}
    (h : Parted origins recorded lost) (hanswer : ∀ e, answer = .error e → e ∈ origins) :
    RecordsOnce answer origins recorded lost := by
  refine ⟨h.inOrder, h.once, h.kept_eq_iff, ?_⟩
  intro e he
  refine ⟨hanswer e he, fun hnone => ?_⟩
  rw [h.kept_eq_iff.2 hnone]
  exact hanswer e he

/-- **Every error is recorded once, unless it is made up too late.**  A declaration, and a call inside
the declaration of a service, adds the errors that originate in it to those that were recorded before:
each of them once and in their order, through however many bodies it is handed on.  Missing are
exactly the errors that a body makes up after another one was recorded in it.  If there are none of
these, everything is recorded, and so is the error that the operation answers with. -/
theorem errors_recorded_unless_lost (b : Builder) (x : Declaration) :
    (∃ new, (b.declare x).builder.errors = b.errors ++ new ∧
      RecordsOnce (b.declare x).answer (b.declare x).origins
        new ((b.declare x).lost (b.bodyOutcome x))) ∧
    ∀ (types : List UserType) (s : Building Service) (c : ServiceCall), ∃ new,
      (ServiceCall.step types s c).1.errors = s.errors ++ new ∧
        RecordsOnce (ServiceCall.step types s c).2.answer (ServiceCall.step types s c).2.origins
          new (ServiceCall.step types s c).2.lost := by
  constructor
  · have hparted := (b.declare x).parted (b.bodyOutcome x)
    exact ⟨_, b.declare_records x, hparted.recordsOnce fun e => Declared.mem_origins⟩
  · intro types s c
    have hparted := (ServiceCall.step types s c).2.parted
    exact ⟨_, ServiceCall.records types s c,
      hparted.recordsOnce fun e => CallRecord.mem_origins⟩

/-- The error of a route goes through the bodies of its method and of its service. -/
example : ((Builder.start "desk").declare (.service "loans"
    (.single (.method "lend" (.single (.route .post "loans")))))).builder.errors =
      [.invalidPathTemplate "loans - must start with '/'"] := rfl

/-- A scheme whose body ignores that it cannot have a flow, and then makes up an error. -/
def staffScheme : Declaration :=
  .scheme .top .basic "staff"
    (.call (.flow (.password "/token" "")) fun _ => .finish (.error .emptyRequirement))

/-- The error that the scheme is refused with is not recorded. -/
theorem not_errors_recorded :
    ¬∀ (name : String) (xs : List Declaration) (x : Declaration) (e : DesignError),
      (((Builder.start name).declareAll xs).declare x).answer = .error e →
        ∃ new, (((Builder.start name).declareAll xs).declare x).builder.errors =
          ((Builder.start name).declareAll xs).errors ++ new ∧ e ∈ new := by
  intro h
  obtain ⟨new, hnew, hmem⟩ := h "portal" [] staffScheme .emptyRequirement rfl
  have hrecorded : new = [.invalidSchemeKind "staff"] := hnew.symm
  rw [hrecorded] at hmem
  exact absurd hmem (by decide)

end ApiDesign
