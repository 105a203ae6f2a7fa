import Fitout.Breaker.Basic

/-!
Calls that overlap. A ledger numbers the calls from one, and holds each as running or with its
result; a call that is cancelled counts neither as a success nor as a failure.
-/

namespace Fitout.Breaker

inductive Result (ε α : Type) where
  | returned (value : α)
  | raised (error : ε)
  | rejected (reason : Rejection)
  | cancelled

/-- A call that was made; a probe was admitted by a half-open circuit. -/
inductive Call (ε α : Type) where
  | running (isProbe : Bool)
  | ended (result : Result ε α)

/-- A breaker with the time and the calls made so far. -/
structure Ledger (T ε α : Type) where
  breaker : Breaker T
  now : T
  calls : List (Call ε α)

namespace Ledger

variable {T ε α : Type}

def start (now : T) : Ledger T ε α :=
  ⟨.closed, now, []⟩

/-- What a call gives: nothing yet, or its result. -/
def call? (l : Ledger T ε α) (number : Nat) : Option (Call ε α) :=
  if number == 0 then none else l.calls[number - 1]?

def setCall (l : Ledger T ε α) (number : Nat) (call : Call ε α) : Ledger T ε α :=
  { l with calls := l.calls.set (number - 1) call }

/-- The next call. -/
def begin [Sub T] [LE T] [DecidableLE T] (p : Policy T) (l : Ledger T ε α) :
    Ledger T ε α × List (Event T) :=
  let a := l.breaker.attempt p l.now
  let call := match a.verdict with
    | .ok () => .running (match a.breaker.phase with | .halfOpen _ _ => true | _ => false)
    | .error reason => .ended (.rejected reason)
  ({ l with breaker := a.breaker, calls := l.calls ++ [call] }, a.events)

/-- The outcome of a running call; a call that has ended keeps its result. -/
def finish (p : Policy T) (l : Ledger T ε α) (number : Nat) (outcome : Except ε α) :
    Ledger T ε α × List (Event T) :=
  match l.call? number with
  | some (.running _) =>
    match outcome with
    | .ok value =>
      let c := l.breaker.succeed
      ({ l with breaker := c.breaker }.setCall number (.ended (.returned value)), c.events)
    | .error e =>
      let c := l.breaker.fail p l.now
      ({ l with breaker := c.breaker }.setCall number (.ended (.raised e)), c.events)
  | _ => (l, [])

def cancel (l : Ledger T ε α) (number : Nat) : Ledger T ε α :=
  match l.call? number with
  | some (.running _) => l.setCall number (.ended .cancelled)
  | _ => l

def advance [Add T] (l : Ledger T ε α) (elapsed : T) : Ledger T ε α :=
  { l with now := l.now + elapsed }

def reset (l : Ledger T ε α) : Ledger T ε α × List (Event T) :=
  let c := l.breaker.reset
  ({ l with breaker := c.breaker }, c.events)

def runningProbes (l : Ledger T ε α) : Nat :=
  l.calls.countP fun
    | .running isProbe => isProbe
    | .ended _ => false

end Ledger

end Fitout.Breaker
