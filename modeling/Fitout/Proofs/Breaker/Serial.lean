import Fitout.Proofs.Breaker.History

/-!
# Calls made one after the other

A single caller waits for each call to end before it makes the next one. For such a caller a breaker
comes down to two things: how many calls failed since the last success or reset, and when the latest
one failed. Between its calls the circuit is never half-open, since the only probe of each half-open
period has ended and has closed or reopened it. A function that is called acts on a world, which
only the functions change.
-/

namespace Fitout.Breaker

variable {σ T ε α : Type}

/-- What may happen at a breaker besides calls. -/
inductive Pause (T : Type) where
  | advance (elapsed : T)
  | reset

def Pause.action : Pause T → Action T ε α
  | .advance elapsed => .advance elapsed
  | .reset => .reset

/-- What comes of a function that is called: its outcome, the world that it leaves, and what
happened at the breaker meanwhile. -/
structure Invocation (σ T ε α : Type) where
  outcome : Except ε α
  world : σ
  meanwhile : List (Pause T)

inductive Visit (σ T ε α : Type) where
  | pause (pause : Pause T)
  | call (func : σ → Invocation σ T ε α)

/-- What a call gives that ended with an outcome of its own. -/
def Result.ofOutcome : Except ε α → Result ε α
  | .ok value => .returned value
  | .error e => .raised e

/-- The actions that a breaker has met, and the world as the called functions have left it. -/
structure Serial (σ T ε α : Type) where
  trace : List (Action T ε α)
  world : σ

namespace Ledger

section Pause

variable [Sub T] [LE T] [DecidableLE T] [Add T] {p : Policy T} {l : Ledger T ε α}

theorem calls_pauses (meanwhile : List (Pause T)) :
    ((meanwhile.map Pause.action).foldl (step p) l).calls = l.calls := by
  induction meanwhile generalizing l with
  | nil => rfl
  | cons pause rest inductionHypothesis =>
    rw [List.map_cons, List.foldl_cons, inductionHypothesis]
    cases pause <;> rfl

end Pause

theorem call?_last {l : Ledger T ε α} {calls : List (Call ε α)} {call : Call ε α}
    (last : l.calls = calls ++ [call]) : l.call? (calls.length + 1) = some call := by
  simp [call?, last]

/-- An outcome ends a half-open period. -/
theorem finish_last {p : Policy T} {l : Ledger T ε α} {calls : List (Call ε α)} {isProbe : Bool}
    (last : l.calls = calls ++ [.running isProbe]) (outcome : Except ε α) :
    (l.finish p (calls.length + 1) outcome).1.calls = calls ++ [.ended (.ofOutcome outcome)] ∧
      ∀ since probes, (l.finish p (calls.length + 1) outcome).1.breaker.phase ≠
        .halfOpen since probes := by
  have running := call?_last last
  have set (call : Call ε α) : l.calls.set calls.length call = calls ++ [call] := by
    rw [last, List.set_append_right _ _ (Nat.le_refl _), Nat.sub_self]
    rfl
  cases outcome with
  | ok value =>
    rw [finish_ok p running]
    exact ⟨set _, nofun⟩
  | error e =>
    rw [finish_error p running]
    refine ⟨set _, ?_⟩
    rcases fail_cases p l.now l.breaker with ⟨_, failed⟩ | ⟨notHalfOpen, _, failed⟩
    · rw [failed]
      exact nofun
    · rw [failed]
      exact notHalfOpen

section Begin

variable [Sub T] [LE T] [DecidableLE T] {p : Policy T} {l : Ledger T ε α} {h : History T}

/-- Where the circuit is not half-open, a call is let through if the failures are too few to open
it or the recovery time has passed, and is rejected otherwise. -/
theorem begin_of_not_halfOpen (mayProbe : 1 ≤ p.halfOpenMaxCalls)
    (notHalfOpen : ∀ since probes, l.breaker.phase ≠ .halfOpen since probes)
    (recalls : l.Recalls p h) :
    let admits := (h.failuresSince : Int) < max 1 p.failureThreshold ∨
      ∃ failedAt, h.latestFailure? = some failedAt ∧ p.recoveryTimeout ≤ l.now - failedAt
    admits ∧ (∃ isProbe, (l.begin p).1.calls = l.calls ++ [.running isProbe]) ∨
      ¬ admits ∧ (l.begin p).1 = { l with calls := l.calls ++ [.ended (.rejected .isOpen)] } := by
  intro admits
  rcases l.closed_or_opened_or_probing p with
    phase | ⟨since, phase, early⟩ | ⟨since, probes, probing⟩
  · left
    refine ⟨.inl ?_, false, by rw [begin_closed p phase]⟩
    rw [← recalls.failures]
    exact recalls.closed.mp phase
  · right
    refine ⟨?_, begin_opened p phase early⟩
    rintro (few | ⟨failedAt, latest, late⟩)
    · rw [← recalls.failures, ← recalls.closed, phase] at few
      cases few
    · have same : h.latestFailure? = some since := recalls.since since (by rw [phase]; rfl)
      obtain rfl := Option.some.inj (latest.symm.trans same)
      exact early late
  · rcases probing with phase | ⟨phase, late, rfl⟩
    · exact absurd phase (notHalfOpen since probes)
    · left
      refine ⟨.inr ⟨since, recalls.since since (by rw [phase]; rfl), late⟩, ?_⟩
      rcases begin_probing p (.inr ⟨phase, late, rfl⟩) with ⟨taken, _⟩ | ⟨_, begun⟩
      · omega
      · exact ⟨true, by rw [begun]⟩

end Begin

end Ledger

namespace Serial

def extend (s : Serial σ T ε α) (actions : List (Action T ε α)) (world : σ) : Serial σ T ε α :=
  ⟨s.trace ++ actions, world⟩

variable [Sub T] [LE T] [DecidableLE T] [Add T] (p : Policy T) (now : T)

/-- The breaker after the actions so far. -/
def ledger (s : Serial σ T ε α) : Ledger T ε α :=
  .run p now s.trace

/-- What was recorded so far. -/
def history (s : Serial σ T ε α) : History T :=
  Ledger.history p now s.trace

/-- Let time pass, reset the circuit, or call a function. It is invoked if the call is let through,
and the caller waits for its outcome. -/
def visit (s : Serial σ T ε α) : Visit σ T ε α → Serial σ T ε α
  | .pause pause => s.extend [pause.action] s.world
  | .call func =>
    let number := (s.ledger p now).calls.length + 1
    if ((s.extend [.begin] s.world).ledger p now).isRunning number then
      let invoked := func s.world
      let after := invoked.meanwhile.map Pause.action ++ [.finish number invoked.outcome]
      s.extend (.begin :: after) invoked.world
    else s.extend [.begin] s.world

def run (world : σ) (visits : List (Visit σ T ε α)) : Serial σ T ε α :=
  visits.foldl (visit p now) ⟨[], world⟩

section Visit

variable {p now} {s : Serial σ T ε α} {func : σ → Invocation σ T ε α}

theorem ledger_extend (actions : List (Action T ε α)) (world : σ) :
    (s.extend actions world).ledger p now = actions.foldl (Ledger.step p) (s.ledger p now) :=
  Ledger.run_append ..

/-- A function whose call is let through is invoked once, and its outcome is what the call gives. -/
theorem visit_call_admitted {isProbe : Bool} (admitted : ((s.ledger p now).begin p).1.calls =
    (s.ledger p now).calls ++ [.running isProbe]) :
    (s.visit p now (.call func)).world = (func s.world).world ∧
      ((s.visit p now (.call func)).ledger p now).calls =
        (s.ledger p now).calls ++ [.ended (.ofOutcome (func s.world).outcome)] ∧
      ∀ since probes, ((s.visit p now (.call func)).ledger p now).breaker.phase ≠
        .halfOpen since probes := by
  have running : ((s.extend [.begin] s.world).ledger p now).isRunning
      ((s.ledger p now).calls.length + 1) = true := by
    rw [ledger_extend]
    exact Ledger.isRunning_eq_true (Ledger.call?_last admitted)
  simp only [visit, running, if_true]
  refine ⟨rfl, ?_⟩
  rw [ledger_extend, List.foldl_cons, List.foldl_append]
  apply Ledger.finish_last
  rw [Ledger.calls_pauses]
  exact admitted

/-- A function whose call is rejected is not invoked. -/
theorem visit_call_rejected (rejected : ((s.ledger p now).begin p).1.calls =
    (s.ledger p now).calls ++ [.ended (.rejected .isOpen)]) :
    s.visit p now (.call func) = s.extend [.begin] s.world := by
  have idle : ((s.extend [.begin] s.world).ledger p now).isRunning
      ((s.ledger p now).calls.length + 1) = false := by
    rw [ledger_extend]
    apply Ledger.isRunning_eq_false
    intro isProbe running
    have last := (Ledger.call?_last rejected).symm.trans running
    cases last
  simp only [visit, idle, Bool.false_eq_true, if_false]

/-- Between calls the circuit is not half-open. -/
theorem not_halfOpen_visit (mayProbe : 1 ≤ p.halfOpenMaxCalls)
    (notHalfOpen : ∀ since probes, (s.ledger p now).breaker.phase ≠ .halfOpen since probes)
    (v : Visit σ T ε α) :
    ∀ since probes, ((s.visit p now v).ledger p now).breaker.phase ≠ .halfOpen since probes := by
  cases v with
  | pause pause =>
    rw [visit, ledger_extend]
    cases pause with
    | advance elapsed => exact notHalfOpen
    | reset => exact nofun
  | call func =>
    rcases Ledger.begin_of_not_halfOpen mayProbe notHalfOpen (Ledger.recalls_run p now s.trace) with
      ⟨_, _, admitted⟩ | ⟨_, rejected⟩
    · exact (visit_call_admitted admitted).2.2
    · rw [visit_call_rejected (congrArg Ledger.calls rejected), ledger_extend]
      change ∀ since probes, ((s.ledger p now).begin p).1.breaker.phase ≠ .halfOpen since probes
      rw [rejected]
      exact notHalfOpen

end Visit

theorem not_halfOpen_run (mayProbe : 1 ≤ p.halfOpenMaxCalls) (world : σ)
    (visits : List (Visit σ T ε α)) : ∀ since probes,
      ((run p now world visits).ledger p now).breaker.phase ≠ .halfOpen since probes := by
  apply List.foldlRecOn visits (visit p now) (motive := fun s =>
    ∀ since probes, (s.ledger p now).breaker.phase ≠ .halfOpen since probes)
  · exact nofun
  · intro s notHalfOpen v _
    exact not_halfOpen_visit mayProbe notHalfOpen v

/-- After any visits of a single caller, its next call is let through exactly if fewer calls have
failed since the last success or reset than open the circuit, or the recovery time has passed since
the latest failed call. Then the function is invoked once, and the call returns its result or raises
its error. Otherwise the function is not invoked, the call is rejected because the circuit is open,
and the failures that were recorded and the breaker stay as they are. -/
theorem call_let_through_iff_few_failures_or_recovered (mayProbe : 1 ≤ p.halfOpenMaxCalls)
    (world : σ) (visits : List (Visit σ T ε α)) (func : σ → Invocation σ T ε α) :
    let s := run p now world visits
    let l := s.ledger p now
    let after := s.visit p now (.call func)
    let letThrough := ((s.history p now).failuresSince : Int) < max 1 p.failureThreshold ∨
      ∃ failedAt, (s.history p now).latestFailure? = some failedAt ∧
        p.recoveryTimeout ≤ l.now - failedAt
    (letThrough → after.world = (func s.world).world ∧ (after.ledger p now).calls =
      l.calls ++ [.ended (.ofOutcome (func s.world).outcome)]) ∧
    (¬ letThrough → after.world = s.world ∧
      (after.ledger p now).calls = l.calls ++ [.ended (.rejected .isOpen)] ∧
      after.history p now = s.history p now ∧ (after.ledger p now).breaker = l.breaker) := by
  intro s l after letThrough
  have notHalfOpen := not_halfOpen_run p now mayProbe world visits
  rcases Ledger.begin_of_not_halfOpen mayProbe notHalfOpen (Ledger.recalls_run p now s.trace) with
    ⟨holds, _, admitted⟩ | ⟨fails, rejected⟩
  · refine ⟨fun _ => ?_, fun fails => absurd holds fails⟩
    have invoked : after.world = (func s.world).world ∧ _ ∧ _ := visit_call_admitted admitted
    exact ⟨invoked.1, invoked.2.1⟩
  · refine ⟨fun holds => absurd holds fails, fun _ => ?_⟩
    have begun : after = s.extend [.begin] s.world :=
      visit_call_rejected (congrArg Ledger.calls rejected)
    have ledger :
        after.ledger p now = { l with calls := l.calls ++ [.ended (.rejected .isOpen)] } := by
      rw [begun, ledger_extend]
      exact rejected
    have history : after.history p now = s.history p now := by
      rw [begun]
      exact Ledger.history_append p now s.trace [.begin]
    refine ⟨?_, ?_, history, ?_⟩
    · rw [begun]
      rfl
    · rw [ledger]
    · rw [ledger]

/-- Two calls fail and the third is rejected. Once the recovery time has passed, the fourth function
is invoked: the world counts three invocations. -/
theorem recovered_caller_invokes :
    let p : Policy Int := ⟨"default", 2, 10, 1⟩
    let down (count : Nat) : Invocation Nat Int String Nat := ⟨.error "down", count + 1, []⟩
    let up (count : Nat) : Invocation Nat Int String Nat := ⟨.ok 7, count + 1, [.advance 1]⟩
    let s := run p 0 0 [.call down, .call down, .call up, .pause (.advance 10)]
    let after := s.visit p 0 (.call up)
    s.world = 2 ∧ after.world = 3 ∧
      (after.ledger p 0).calls = (s.ledger p 0).calls ++ [.ended (.returned 7)] := by
  intro p down up s after
  have counted : s.world = 2 := by decide +kernel
  have latest : (s.history p 0).latestFailure? = some 0 := by decide +kernel
  have recovered : p.recoveryTimeout ≤ (s.ledger p 0).now - 0 := by decide +kernel
  obtain ⟨invoked, returned⟩ := (call_let_through_iff_few_failures_or_recovered p 0 (by decide) 0
    [.call down, .call down, .call up, .pause (.advance 10)] up).1 (.inr ⟨0, latest, recovered⟩)
  refine ⟨counted, invoked.trans ?_, returned⟩
  exact congrArg Nat.succ counted

end Serial

end Fitout.Breaker
