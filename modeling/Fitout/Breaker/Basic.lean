/-!
A circuit breaker. It admits calls while they succeed, rejects them for a while after too many
failed in a row, and then lets a few probes through. Time is any type with differences.
-/

namespace Fitout

namespace Breaker

structure Policy (T : Type) where
  name : String
  /-- How many failures in a row open the circuit. -/
  failureThreshold : Int
  /-- How long an open circuit rejects all calls. -/
  recoveryTimeout : T
  /-- How many probes a half-open circuit admits. -/
  halfOpenMaxCalls : Int

inductive Phase (T : Type) where
  | closed
  /-- Rejecting calls, since the failure at this time. -/
  | opened (since : T)
  /-- Probing, after the failure at this time, with so many probes admitted. -/
  | halfOpen (since : T) (probes : Nat)

inductive Rejection where
  | isOpen
  | probesTaken
  deriving DecidableEq, Repr

def Rejection.message (circuit : String) : Rejection → String
  | isOpen => s!"Circuit breaker '{circuit}' is open"
  | probesTaken => s!"Circuit breaker '{circuit}' is half-open, max calls reached"

inductive Event (T : Type) where
  | halfOpening (elapsed : T)
  | rejecting
  | closing
  | reopening
  | opening (failures : Nat) (threshold : Int)
  | resetting

end Breaker

/-- The state of a breaker: its phase and the failures since the last success. -/
structure Breaker (T : Type) where
  phase : Breaker.Phase T
  failures : Nat

namespace Breaker

variable {T : Type}

def closed : Breaker T :=
  ⟨.closed, 0⟩

def stateName (b : Breaker T) : String :=
  match b.phase with
  | .closed => "closed"
  | .opened _ => "open"
  | .halfOpen _ _ => "half_open"

/-- Whether a call may go ahead, with the breaker's new state. -/
structure Admission (T : Type) where
  verdict : Except Rejection Unit
  breaker : Breaker T
  events : List (Event T)

structure Change (T : Type) where
  breaker : Breaker T
  events : List (Event T)

/-- Admit or reject a call in a half-open circuit. -/
def probe (p : Policy T) (b : Breaker T) (since : T) (probes : Nat) (events : List (Event T)) :
    Admission T :=
  if p.halfOpenMaxCalls ≤ probes then
    ⟨.error .probesTaken, { b with phase := .halfOpen since probes }, events⟩
  else ⟨.ok (), { b with phase := .halfOpen since (probes + 1) }, events⟩

/-- Admit or reject a call. An open circuit becomes half-open once the recovery time has passed. -/
def attempt [Sub T] [LE T] [DecidableLE T] (p : Policy T) (now : T) (b : Breaker T) : Admission T :=
  match b.phase with
  | .closed => ⟨.ok (), b, []⟩
  | .halfOpen since probes => b.probe p since probes []
  | .opened since =>
    if p.recoveryTimeout ≤ now - since then b.probe p since 0 [.halfOpening (now - since)]
    else ⟨.error .isOpen, b, [.rejecting]⟩

def succeed (b : Breaker T) : Change T :=
  match b.phase with
  | .halfOpen _ _ => ⟨closed, [.closing]⟩
  | _ => ⟨closed, []⟩

def fail (p : Policy T) (now : T) (b : Breaker T) : Change T :=
  let failures := b.failures + 1
  match b.phase with
  | .halfOpen _ _ => ⟨⟨.opened now, failures⟩, [.reopening]⟩
  | phase =>
    if p.failureThreshold ≤ failures then
      ⟨⟨.opened now, failures⟩, [.opening failures p.failureThreshold]⟩
    else ⟨⟨phase, failures⟩, []⟩

/-- Close the circuit and forget all failures. -/
def reset (_ : Breaker T) : Change T :=
  ⟨closed, [.resetting]⟩

end Breaker

end Fitout
