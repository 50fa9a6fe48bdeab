import EventWiring.Error
import EventWiring.Event
import EventWiring.Resource.Dependent

/-!
# Programs

A program computes a result and meanwhile calls on the stores of objects. It is data: what a call
is answered is left to whoever runs the program, so that one program can be run on stores in memory,
against the API server, or step by step beside others.
-/

namespace EventWiring

inductive Call where
  /-- The scheduler as it was last seen. -/
  | getScheduler (space name : String)
  | patchScheduler (space name : String) (patch : FinalizerPatch)
  /-- Stores the status of a scheduler that is still at its version. -/
  | updateStatus (scheduler : Scheduler)
  | get (dependent : Dependent) (space name : String)
  | create (dependent : Dependent) (space : String) (object : dependent.Object)
  | delete (dependent : Dependent) (space name : String)
  | listPods (space selector : String)
  /-- Tells the users, who may not hear it. -/
  | publish (event : Event)

namespace Call

def Answer : Call → Type
  | getScheduler _ _ => Except Error (Option Scheduler)
  | patchScheduler _ _ _ => Except Error Scheduler
  | updateStatus _ => Except Error Scheduler
  | get d _ _ => Except Error (Option d.Object)
  | create d _ _ => Except Error d.Object
  | delete _ _ _ => Except Error Bool
  | listPods _ _ => Except Error (List Pod)
  | publish _ => Option Publication

/-- The answer of a call that fails; nobody learns that an event was not published. -/
def failed (e : Error) : (c : Call) → c.Answer
  | getScheduler _ _ => .error e
  | patchScheduler _ _ _ => .error e
  | updateStatus _ => .error e
  | get _ _ _ => .error e
  | create _ _ _ => .error e
  | delete _ _ _ => .error e
  | listPods _ _ => .error e
  | publish _ => none

end Call

inductive Program (α : Type) where
  | done (a : α)
  | call (c : Call) (next : c.Answer → Program α)

namespace Program

variable {α β σ : Type}

def bind : Program α → (α → Program β) → Program β
  | done a, f => f a
  | call c next, f => call c fun answer => (next answer).bind f

instance : Monad Program where
  pure := done
  bind := bind

/-- Makes one call. -/
def ask (c : Call) : Program c.Answer := call c done

/-- A call with its answer. -/
structure Exchange where
  call : Call
  answer : call.Answer

/-- The result of a program, the calls that it made and the state that they left. -/
structure Run (σ α : Type) where
  result : α
  exchanges : List Exchange
  state : σ

/-- Runs a program on a state that answers its calls one after the other. -/
def run (answer : (c : Call) → σ → c.Answer × σ) : Program α → σ → Run σ α
  | done a, s => ⟨a, [], s⟩
  | call c next, s =>
    let (reply, s) := answer c s
    let rest := (next reply).run answer s
    { rest with exchanges := ⟨c, reply⟩ :: rest.exchanges }

@[simp] theorem pure_bind (a : α) (f : α → Program β) : (pure a : Program α) >>= f = f a := rfl

@[simp] theorem done_bind (a : α) (f : α → Program β) : done a >>= f = f a := rfl

@[simp] theorem call_bind (c : Call) (next : c.Answer → Program α) (f : α → Program β) :
    call c next >>= f = call c fun answer => next answer >>= f := rfl

theorem run_bind (answer : (c : Call) → σ → c.Answer × σ) (p : Program α) (f : α → Program β)
    (s : σ) :
    (p >>= f).run answer s =
      let first := p.run answer s
      let second := (f first.result).run answer first.state
      ⟨second.result, first.exchanges ++ second.exchanges, second.state⟩ := by
  induction p generalizing s with
  | done a => rfl
  | call c next ih => simp [run, ih]

end Program

end EventWiring
