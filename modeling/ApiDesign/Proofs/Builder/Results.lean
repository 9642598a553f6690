import ApiDesign.Builder.Basic
import ApiDesign.Proofs.Basics

/-!
# What bodies come to

A body that ends with the first call that fails is a function of the node it starts from: it makes
another node, or it comes to an error.  The errors recorded before it play no part, and its own
error is recorded once, whether a call has recorded it or the body has made it up.

* `Script.Makes` — a body makes the results of a function;
* `Script.makes_single`, `makes_andThen`, `makes_all` — the bodies that are put together from calls;
* `Building.addAll` — entries that are added one by one, whatever becomes of the others.  Nothing is
  recorded exactly if the additions succeed one after the other (`Building.addAll_eq_iff`).
-/

namespace ApiDesign

variable {Call Node α : Type}

/-! ### Bodies that end with the first failure -/

/-- A body has come to a result: to a node, and then no error was recorded, or to an error, and then
this error is recorded once by the end of the declaration. -/
def ScriptRun.ComesTo (run : ScriptRun (Building Node)) (before : List DesignError) :
    Except DesignError Node → Prop
  | .ok node => run.state = ⟨node, before⟩ ∧ run.outcome = .ok ()
  | .error e => run.outcome = .error e ∧
      Building.close before.length run.state.errors e = before ++ [e]

namespace Building

/-- An error that a call has recorded is not recorded again. -/
theorem close_recorded (before : List DesignError) (e : DesignError) :
    close before.length (before ++ [e]) e = before ++ [e] := by
  refine if_neg fun h => ?_
  rw [List.length_append, List.length_singleton] at h
  omega

theorem close_unrecorded (before : List DesignError) (e : DesignError) :
    close before.length before e = before ++ [e] :=
  if_pos rfl

end Building

namespace Script

variable {step : Building Node → Call → Building Node × CallRecord}

/-- A body makes the results of a function of nodes. -/
def Makes (step : Building Node → Call → Building Node × CallRecord) (body : Script Call)
    (make : Node → Except DesignError Node) : Prop :=
  ∀ b, (body.run step b).ComesTo b.errors (make b.node)

theorem makes_done : (done : Script Call).Makes step .ok := fun _ => ⟨rfl, rfl⟩

/-- A body that makes up an error. -/
theorem makes_error (e : DesignError) :
    (finish (.error e) : Script Call).Makes step fun _ => .error e :=
  fun b => ⟨rfl, Building.close_unrecorded b.errors e⟩

theorem makes_single {c : Call} {result : Node → Except DesignError Node}
    (h : ∀ b, step b c = b.perform (result b.node)) : (single c).Makes step result := by
  intro b
  cases hresult : result b.node with
  | ok node =>
    have hrun : (single c).run step b = ⟨⟨node, b.errors⟩, [⟨.ok (), none⟩], .ok ()⟩ := by
      simp only [single, run, h, hresult, Building.perform, Building.update]
    rw [hrun]
    exact ⟨rfl, rfl⟩
  | error e =>
    have hrun : (single c).run step b =
        ⟨⟨b.node, b.errors ++ [e]⟩, [⟨.error e, none⟩], .error e⟩ := by
      simp only [single, run, h, hresult, Building.perform, Building.update]
    rw [hrun]
    exact ⟨rfl, Building.close_recorded b.errors e⟩

variable {State : Type}

theorem run_andThen_of_ok {next : State → Call → State × CallRecord} {s : State}
    {first : Script Call} (second : Script Call) (h : (first.run next s).outcome = .ok ()) :
    ((first.andThen second).run next s).state = (second.run next (first.run next s).state).state ∧
    ((first.andThen second).run next s).outcome =
      (second.run next (first.run next s).state).outcome := by
  induction first generalizing s with
  | finish outcome =>
    cases h
    exact ⟨rfl, rfl⟩
  | call c rest ih => exact ih _ h

theorem run_andThen_of_error {next : State → Call → State × CallRecord} {s : State}
    {first : Script Call} (second : Script Call) {e : DesignError}
    (h : (first.run next s).outcome = .error e) :
    ((first.andThen second).run next s).state = (first.run next s).state ∧
    ((first.andThen second).run next s).outcome = .error e := by
  induction first generalizing s with
  | finish outcome =>
    cases h
    exact ⟨rfl, rfl⟩
  | call c rest ih => exact ih _ h

theorem makes_andThen {first second : Script Call} {make make' : Node → Except DesignError Node}
    (hfirst : first.Makes step make) (hsecond : second.Makes step make') :
    (first.andThen second).Makes step fun node => make node >>= make' := by
  intro b
  have hb := hfirst b
  dsimp only
  cases hmake : make b.node with
  | error e =>
    rw [hmake] at hb
    show ScriptRun.ComesTo _ b.errors (.error e)
    obtain ⟨houtcome, hclose⟩ := hb
    obtain ⟨hstate, hend⟩ := run_andThen_of_error second houtcome
    refine ⟨hend, ?_⟩
    rw [hstate]
    exact hclose
  | ok node =>
    rw [hmake] at hb
    obtain ⟨hstate, houtcome⟩ := hb
    have hrun := run_andThen_of_ok second houtcome
    rw [hstate] at hrun
    -- the first body has recorded nothing, so the second one starts with the errors from before
    have hnext := hsecond ⟨node, b.errors⟩
    show ScriptRun.ComesTo _ b.errors (make' node)
    dsimp only at hnext
    cases hmake' : make' node with
    | ok node' =>
      rw [hmake'] at hnext
      exact ⟨hrun.1.trans hnext.1, hrun.2.trans hnext.2⟩
    | error e =>
      rw [hmake'] at hnext
      refine ⟨hrun.2.trans hnext.1, ?_⟩
      rw [hrun.1]
      exact hnext.2

theorem makes_all {script : α → Script Call} {make : α → Node → Except DesignError Node}
    (h : ∀ x, (script x).Makes step (make x)) (xs : List α) :
    (all (xs.map script)).Makes step fun node => xs.foldlM (fun node x => make x node) node := by
  induction xs with
  | nil => exact makes_done
  | cons x xs ih => exact makes_andThen (h x) ih

end Script

/-! ### Entries that are added one by one -/

namespace Building

variable {add : Node → α → Except DesignError Node}

/-- Adds entries one after the other.  An entry that is refused leaves its error, and the next one
is added to the node as it was. -/
def addAll (add : Node → α → Except DesignError Node) (b : Building Node) (xs : List α) :
    Building Node :=
  xs.foldl (fun b x => (b.update (add b.node x)).1) b

/-- The entries that are not refused. -/
def accepted (add : Node → α → Except DesignError Node) (node : Node) : List α → List α
  | [] => []
  | x :: xs =>
    match add node x with
    | .ok next => x :: accepted add next xs
    | .error _ => accepted add node xs

theorem addAll_cons (b : Building Node) (x : α) (xs : List α) :
    b.addAll add (x :: xs) = (b.update (add b.node x)).1.addAll add xs :=
  rfl

/-- Nothing is recorded exactly if the additions succeed one after the other. -/
theorem addAll_eq_iff {b : Building Node} {xs : List α} {node : Node} :
    b.addAll add xs = ⟨node, []⟩ ↔ b.errors = [] ∧ xs.foldlM add b.node = .ok node := by
  induction xs generalizing b with
  | nil =>
    obtain ⟨start, errors⟩ := b
    show (⟨start, errors⟩ : Building Node) = ⟨node, []⟩ ↔
      errors = [] ∧ (Except.ok start : Except DesignError Node) = .ok node
    simp [and_comm]
  | cons x xs ih =>
    rw [addAll_cons, ih, List.foldlM_cons, bind_eq_ok_iff]
    cases hadd : add b.node x with
    | ok next => simp [update]
    | error e => simp [update]

theorem accepted_eq_self {node last : Node} {xs : List α} (h : xs.foldlM add node = .ok last) :
    accepted add node xs = xs := by
  induction xs generalizing node with
  | nil => rfl
  | cons x xs ih =>
    rw [List.foldlM_cons] at h
    obtain ⟨next, hnext, h⟩ := exists_of_bind_ok h
    rw [accepted, hnext]
    exact congrArg (x :: ·) (ih h)

end Building

end ApiDesign
