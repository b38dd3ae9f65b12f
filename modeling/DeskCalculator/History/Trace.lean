import DeskCalculator.History.Worker

/-!
# The past of a worker

A worker together with what has happened to it: the entries that it accepted, and what became of
those that it dealt with.  The past never changes what the worker does.

* `Trace.act?` — an action, with a note of what it does.
* `Trace.run?` — the worker and its past after some order of actions.
* `Trace.flush?` — a client that waits until everything is accounted for.
-/

namespace DeskCalculator

/-- A worker and its past. -/
structure Trace (ε : Type) where
  worker : Worker ε := {}
  /-- The entries that were handed over in time, in order. -/
  accepted : List ε := []
  /-- The entries that were dealt with, in order, and whether each was written. -/
  dealt : List (ε × Bool) := []
deriving Repr, DecidableEq

namespace Trace

variable {ε : Type}

/-- The entries accepted after an action. -/
def acceptedAfter (t : Trace ε) : Action ε → List ε
  | .notify e => if t.worker.closed then t.accepted else t.accepted ++ [e]
  | _ => t.accepted

/-- The entries dealt with after an action. -/
def dealtAfter (t : Trace ε) (a : Action ε) : List (ε × Bool) :=
  match a, t.worker.hand with
  | .handle written, .taken (.entry e) => t.dealt ++ [(e, written)]
  | _, _ => t.dealt

/-- An action, if it is enabled. -/
def act? (t : Trace ε) (a : Action ε) : Option (Trace ε) :=
  (t.worker.act? a).map fun worker => ⟨worker, t.acceptedAfter a, t.dealtAfter a⟩

/-- A sequence of actions, if each is enabled in turn. -/
def run? (t : Trace ε) : List (Action ε) → Option (Trace ε)
  | [] => some t
  | a :: rest => (t.act? a).bind fun next => next.run? rest

/-- A client that waits until everything is accounted for, while the others and the worker go on.
It looks at the count again and again: before each look come some actions, and behind it the client
sees whether its time is up.  The answer is whether the count was zero at last; there is none as
long as the client waits. -/
def flush? (t : Trace ε) : List (List (Action ε) × Bool) → Option (Bool × Trace ε)
  | [] => none
  | (actions, late) :: rest =>
    (t.run? actions).bind fun next =>
      if next.worker.isFlushed then some (true, next)
      else if late then some (false, next)
      else next.flush? rest

/-- The entries that were written, in order. -/
def written (t : Trace ε) : List ε := (t.dealt.filter (·.2)).map (·.1)

end Trace

end DeskCalculator
