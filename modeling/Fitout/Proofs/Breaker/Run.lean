import Fitout.Breaker.Ledger

/-!
# Runs of a breaker with overlapping calls

A run takes the actions of callers, of the clock and of an operator in any order. Each action has
one inversion lemma, which says all that it can do to a ledger.
-/

namespace Fitout.Breaker

variable {T ε α : Type}

inductive Action (T ε α : Type) where
  | begin
  | finish (number : Nat) (outcome : Except ε α)
  | cancel (number : Nat)
  | advance (elapsed : T)
  | reset

theorem probe_cases (p : Policy T) (b : Breaker T) (since : T) (probes : Nat)
    (events : List (Event T)) :
    (p.halfOpenMaxCalls ≤ probes ∧ b.probe p since probes events =
      ⟨.error .probesTaken, { b with phase := .halfOpen since probes }, events⟩) ∨
    ((probes : Int) < p.halfOpenMaxCalls ∧ b.probe p since probes events =
      ⟨.ok (), { b with phase := .halfOpen since (probes + 1) }, events⟩) := by
  unfold probe
  by_cases taken : p.halfOpenMaxCalls ≤ probes
  · exact .inl ⟨taken, if_pos taken⟩
  · exact .inr ⟨Int.not_le.mp taken, if_neg taken⟩

/-- A failure counts, and opens the circuit if it was half-open or the failures are too many. -/
theorem fail_cases (p : Policy T) (now : T) (b : Breaker T) :
    ((∃ since probes, b.phase = .halfOpen since probes) ∨
        p.failureThreshold ≤ (b.failures + 1 : Nat)) ∧
      (b.fail p now).breaker = ⟨.opened now, b.failures + 1⟩ ∨
    (∀ since probes, b.phase ≠ .halfOpen since probes) ∧
      ((b.failures + 1 : Nat) : Int) < p.failureThreshold ∧
      (b.fail p now).breaker = ⟨b.phase, b.failures + 1⟩ := by
  by_cases many : p.failureThreshold ≤ (b.failures + 1 : Nat)
  · refine .inl ⟨.inr many, ?_⟩
    cases phase : b.phase <;> simp only [fail, phase, many, if_true]
  · cases phase : b.phase with
    | halfOpen since probes =>
      exact .inl ⟨.inl ⟨since, probes, rfl⟩, by simp only [fail, phase]⟩
    | closed =>
      exact .inr ⟨by simp, Int.not_le.mp many, by simp only [fail, phase, many, if_false]⟩
    | opened since =>
      exact .inr ⟨by simp, Int.not_le.mp many, by simp only [fail, phase, many, if_false]⟩

namespace Ledger

/-- The circuit is ready to probe: it is half-open with these probes admitted, or it becomes so
because the recovery time has passed. -/
def Probing [Sub T] [LE T] (p : Policy T) (l : Ledger T ε α) (since : T) (probes : Nat) : Prop :=
  l.breaker.phase = .halfOpen since probes ∨
    l.breaker.phase = .opened since ∧ p.recoveryTimeout ≤ l.now - since ∧ probes = 0

section Begin

variable [Sub T] [LE T] [DecidableLE T] (p : Policy T)

theorem begin_closed {l : Ledger T ε α} (phase : l.breaker.phase = .closed) :
    (l.begin p).1 = { l with calls := l.calls ++ [.running false] } := by
  simp only [begin, attempt, phase]

theorem begin_opened {l : Ledger T ε α} {since : T} (phase : l.breaker.phase = .opened since)
    (early : ¬ p.recoveryTimeout ≤ l.now - since) :
    (l.begin p).1 = { l with calls := l.calls ++ [.ended (.rejected .isOpen)] } := by
  simp only [begin, attempt, phase, early, if_false]

theorem begin_probing {l : Ledger T ε α} {since : T} {probes : Nat}
    (probing : l.Probing p since probes) :
    (p.halfOpenMaxCalls ≤ probes ∧ (l.begin p).1 =
      { l with
        breaker := { l.breaker with phase := .halfOpen since probes }
        calls := l.calls ++ [.ended (.rejected .probesTaken)] }) ∨
    ((probes : Int) < p.halfOpenMaxCalls ∧ (l.begin p).1 =
      { l with
        breaker := { l.breaker with phase := .halfOpen since (probes + 1) }
        calls := l.calls ++ [.running true] }) := by
  have attempted : ∃ events, l.breaker.attempt p l.now = l.breaker.probe p since probes events := by
    rcases probing with phase | ⟨phase, late, rfl⟩
    · exact ⟨[], by simp only [attempt, phase]⟩
    · exact ⟨[.halfOpening (l.now - since)], by simp only [attempt, phase, late, if_true]⟩
  obtain ⟨events, attempted⟩ := attempted
  rcases probe_cases p l.breaker since probes events with ⟨taken, probed⟩ | ⟨left, probed⟩
  · exact .inl ⟨taken, by simp only [begin, attempted, probed]⟩
  · exact .inr ⟨left, by simp only [begin, attempted, probed]⟩

theorem closed_or_opened_or_probing (l : Ledger T ε α) :
    l.breaker.phase = .closed ∨
    (∃ since, l.breaker.phase = .opened since ∧ ¬ p.recoveryTimeout ≤ l.now - since) ∨
    ∃ since probes, l.Probing p since probes := by
  cases phase : l.breaker.phase with
  | closed => exact .inl rfl
  | opened since =>
    by_cases late : p.recoveryTimeout ≤ l.now - since
    · exact .inr (.inr ⟨since, 0, .inr ⟨phase, late, rfl⟩⟩)
    · exact .inr (.inl ⟨since, rfl, late⟩)
  | halfOpen since probes => exact .inr (.inr ⟨since, probes, .inl phase⟩)

end Begin

section Outcome

variable (p : Policy T) {l : Ledger T ε α} {number : Nat}

theorem finish_idle (outcome : Except ε α)
    (idle : ∀ isProbe, l.call? number ≠ some (.running isProbe)) :
    (l.finish p number outcome).1 = l := by
  -- The assumption rules the branch of a running call out.
  simp only [finish]

theorem finish_ok {isProbe : Bool} (running : l.call? number = some (.running isProbe))
    (value : α) :
    (l.finish p number (.ok value)).1 =
      { l with
        breaker := closed
        calls := l.calls.set (number - 1) (.ended (.returned value)) } := by
  have succeeded : l.breaker.succeed.breaker = closed := by
    unfold succeed
    split <;> rfl
  simp only [finish, running, setCall, succeeded]

theorem finish_error {isProbe : Bool} (running : l.call? number = some (.running isProbe)) (e : ε) :
    (l.finish p number (.error e)).1 =
      { l with
        breaker := (l.breaker.fail p l.now).breaker
        calls := l.calls.set (number - 1) (.ended (.raised e)) } := by
  simp only [finish, running, setCall]

theorem cancel_idle (idle : ∀ isProbe, l.call? number ≠ some (.running isProbe)) :
    l.cancel number = l := by
  -- The assumption rules the branch of a running call out.
  simp only [cancel]

theorem cancel_running {isProbe : Bool} (running : l.call? number = some (.running isProbe)) :
    l.cancel number = { l with calls := l.calls.set (number - 1) (.ended .cancelled) } := by
  simp only [cancel, running, setCall]

end Outcome

def isRunning (l : Ledger T ε α) (number : Nat) : Bool :=
  match l.call? number with
  | some (.running _) => true
  | _ => false

theorem isRunning_eq_false {l : Ledger T ε α} {number : Nat}
    (idle : ∀ isProbe, l.call? number ≠ some (.running isProbe)) : l.isRunning number = false := by
  simp only [isRunning]

theorem isRunning_eq_true {l : Ledger T ε α} {number : Nat} {isProbe : Bool}
    (running : l.call? number = some (.running isProbe)) : l.isRunning number = true := by
  simp only [isRunning, running]

variable [Sub T] [LE T] [DecidableLE T] (p : Policy T)

/-- Whether the next call makes an open circuit half-open. -/
def turnsHalfOpen (l : Ledger T ε α) : Bool :=
  match l.breaker.phase, (l.begin p).1.breaker.phase with
  | .opened _, .halfOpen _ _ => true
  | _, _ => false

variable [Add T]

def step (l : Ledger T ε α) : Action T ε α → Ledger T ε α
  | .begin => (l.begin p).1
  | .finish number outcome => (l.finish p number outcome).1
  | .cancel number => l.cancel number
  | .advance elapsed => l.advance elapsed
  | .reset => l.reset.1

/-- The breaker and its calls after these actions; at first the circuit is closed. -/
def run (now : T) (trace : List (Action T ε α)) : Ledger T ε α :=
  trace.foldl (step p) (start now)

end Ledger

structure Watch (T : Type) where
  /-- When the latest failure was recorded. -/
  failedAt : Option T
  /-- How many calls had been made before the circuit last became half-open. -/
  callsBefore : Nat

namespace Watch

variable [Sub T] [LE T] [DecidableLE T] (p : Policy T)

def step (l : Ledger T ε α) (w : Watch T) : Action T ε α → Watch T
  | .begin => if l.turnsHalfOpen p then { w with callsBefore := l.calls.length } else w
  | .finish number (.error _) => if l.isRunning number then { w with failedAt := some l.now } else w
  | .finish _ (.ok _) | .cancel _ | .advance _ | .reset => w

variable [Add T]

def after (l : Ledger T ε α) (w : Watch T) : List (Action T ε α) → Watch T
  | [] => w
  | action :: rest => after (l.step p action) (w.step p l action) rest

/-- What there is to keep of a run from its start. -/
def ofRun (now : T) (trace : List (Action T ε α)) : Watch T :=
  after p (.start now) ⟨none, 0⟩ trace

end Watch

end Fitout.Breaker
