import ApiDesign.DesignError

/-!
# Scripts of calls

The body of a declaration calls operations of the node under construction and may look at every
answer before it goes on; in the end it succeeds or gives an error.  A `Script` is such a body: a
tree of calls in which the answer selects what follows.

* `Script.single`, `Script.ignore`, `Script.andThen`, `Script.all` — the usual ways to put scripts
  together: a failed call ends the body, or is ignored;
* `Script.run` — performs a script on a state and lists what each performed call came to.
-/

namespace ApiDesign

/-- The answer of an operation. -/
abbrev Answer := Except DesignError Unit

/-- The body of a declaration: ends with an outcome, or makes a call and goes on by its answer. -/
inductive Script (Call : Type) where
  | finish (outcome : Answer)
  | call (c : Call) (next : Answer → Script Call)

/-- What a performed call came to.  A call that has a body of its own, and whose body was started,
also tells the answers of the calls made there. -/
structure CallRecord where
  answer : Answer
  inside : Option (List Answer)

/-- What the run of a script came to. -/
structure ScriptRun (State : Type) where
  state : State
  records : List CallRecord
  outcome : Answer

namespace Script

variable {Call State : Type}

/-- The script that does nothing and succeeds. -/
def done : Script Call := .finish (.ok ())

/-- The script that makes one call and ends with its answer. -/
def single (c : Call) : Script Call := .call c .finish

/-- The script that makes one call, whatever its answer. -/
def ignore (c : Call) : Script Call := .call c fun _ => done

/-- The first script and, if it succeeds, the second one. -/
def andThen : Script Call → Script Call → Script Call
  | .finish (.ok ()), k => k
  | .finish (.error e), _ => .finish (.error e)
  | .call c next, k => .call c fun answer => (next answer).andThen k

/-- The scripts one after the other, up to the first that fails. -/
def all (scripts : List (Script Call)) : Script Call := scripts.foldr andThen done

/-- Performs a script.  `step` performs one call on the state. -/
def run (step : State → Call → State × CallRecord) (s : State) : Script Call → ScriptRun State
  | .finish outcome => ⟨s, [], outcome⟩
  | .call c next =>
    let performed := step s c
    let rest := run step performed.1 (next performed.2.answer)
    { rest with records := performed.2 :: rest.records }

end Script

end ApiDesign
