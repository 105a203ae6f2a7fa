import Mathlib.Data.List.Induction
import Fitout.Proofs.Breaker.History
import Fitout.Proofs.Breaker.Recovery

/-!
# A breaker in four fields

Here the state of a circuit, its failures, the time it opened and its probes stand side by side, and
each transition writes the fields it has to do with; nothing in their types ties them together. The
breaker's phase says the same, which `fields_run` states of every run. The relations between the
fields are `Fields.Coherent`, and the calls of one half-open period are counted by `Probed`.
-/

namespace Fitout.Breaker

variable {T ε α : Type}

inductive Mode where
  | closed
  | opened
  | halfOpen
  deriving DecidableEq, Repr

structure Fields (T : Type) where
  mode : Mode
  failures : Nat
  openedAt : Option T
  probes : Nat

namespace Fields

def initial : Fields T :=
  ⟨.closed, 0, none, 0⟩

/-- An open circuit becomes half-open once the recovery time has passed. -/
def maybeHalfOpen [Sub T] [LE T] [DecidableLE T] (p : Policy T) (now : T) (f : Fields T) :
    Fields T :=
  match f.mode, f.openedAt with
  | .opened, some since =>
    if p.recoveryTimeout ≤ now - since then { f with mode := .halfOpen, probes := 0 } else f
  | _, _ => f

/-- Admit or reject a call. -/
def attempt [Sub T] [LE T] [DecidableLE T] (p : Policy T) (now : T) (f : Fields T) :
    Except Rejection Unit × Fields T :=
  let f := f.maybeHalfOpen p now
  match f.mode with
  | .closed => (.ok (), f)
  | .opened => (.error .isOpen, f)
  | .halfOpen =>
    if p.halfOpenMaxCalls ≤ f.probes then (.error .probesTaken, f)
    else (.ok (), { f with probes := f.probes + 1 })

def succeed (f : Fields T) : Fields T :=
  { f with mode := .closed, failures := 0, probes := 0, openedAt := none }

def trip (now : T) (f : Fields T) : Fields T :=
  { f with mode := .opened, openedAt := some now, probes := 0 }

def fail (p : Policy T) (now : T) (f : Fields T) : Fields T :=
  let f := { f with failures := f.failures + 1 }
  if f.mode = .halfOpen then f.trip now
  else if p.failureThreshold ≤ f.failures then f.trip now
  else f

def reset (f : Fields T) : Fields T :=
  { f with mode := .closed, failures := 0, openedAt := none, probes := 0 }

end Fields

def Phase.mode : Phase T → Mode
  | closed => .closed
  | opened _ => .opened
  | halfOpen _ _ => .halfOpen

theorem Phase.mode_eq_closed_iff (phase : Phase T) : phase.mode = .closed ↔ phase = closed := by
  cases phase <;> simp [mode]

theorem Phase.probes_of_not_halfOpen {phase : Phase T} (other : phase.mode ≠ .halfOpen) :
    phase.probes = 0 := by
  cases phase with
  | closed | opened since => rfl
  | halfOpen since probes => exact absurd rfl other

/-- What the fields hold when a breaker is in its state. -/
def fields (b : Breaker T) : Fields T :=
  ⟨b.phase.mode, b.failures, b.phase.since?, b.phase.probes⟩

theorem attempt_fields [Sub T] [LE T] [DecidableLE T] (p : Policy T) (now : T) (b : Breaker T) :
    b.fields.attempt p now = ((b.attempt p now).verdict, (b.attempt p now).breaker.fields) := by
  cases phase : b.phase with
  | closed => simp only [Fields.attempt, Fields.maybeHalfOpen, fields, attempt, phase, Phase.mode]
  | halfOpen since probes =>
    simp only [Fields.attempt, Fields.maybeHalfOpen, fields, attempt, phase, Phase.mode,
      Phase.probes, probe]
    split <;> rfl
  | opened since =>
    by_cases late : p.recoveryTimeout ≤ now - since
    · simp only [Fields.attempt, Fields.maybeHalfOpen, fields, attempt, phase, Phase.mode,
        Phase.since?, late, if_true, probe]
      split <;> rfl
    · simp only [Fields.attempt, Fields.maybeHalfOpen, fields, attempt, phase, Phase.mode,
        Phase.since?, late, if_false]

theorem fail_fields (p : Policy T) (now : T) (b : Breaker T) :
    b.fields.fail p now = (b.fail p now).breaker.fields := by
  cases phase : b.phase with
  | halfOpen since probes => simp only [Fields.fail, fields, fail, phase, Phase.mode, if_true]; rfl
  | closed =>
    simp only [Fields.fail, fields, fail, phase, Phase.mode, reduceCtorEq, if_false]
    split <;> rfl
  | opened since =>
    simp only [Fields.fail, fields, fail, phase, Phase.mode, reduceCtorEq, if_false]
    split <;> rfl

namespace Fields

/-- How the fields stand to what was recorded and to each other. -/
structure Coherent (p : Policy T) (h : History T) (f : Fields T) : Prop where
  counts : f.failures = h.failuresSince
  closedBelow : f.mode = .closed ↔ (f.failures : Int) < max 1 p.failureThreshold
  unsetIfClosed : f.openedAt = none ↔ f.mode = .closed
  latest : f.mode ≠ .closed → f.openedAt = h.latestFailure?
  noProbes : f.mode ≠ .halfOpen → f.probes = 0
  fewProbes : (f.probes : Int) ≤ max 0 p.halfOpenMaxCalls

/-- What an action does to the fields when it meets a ledger. -/
def see [Sub T] [LE T] [DecidableLE T] (p : Policy T) (l : Ledger T ε α) (f : Fields T) :
    Action T ε α → Fields T
  | .begin => (f.attempt p l.now).2
  | .finish number (.ok _) => if l.isRunning number then f.succeed else f
  | .finish number (.error _) => if l.isRunning number then f.fail p l.now else f
  | .cancel _ | .advance _ => f
  | .reset => f.reset

end Fields

namespace Call

/-- Whether the call was let through. -/
def isAdmitted : Call ε α → Bool
  | .ended (.rejected _) => false
  | _ => true

end Call

namespace Ledger

theorem getElem?_of_call? {l : Ledger T ε α} {number : Nat} {call : Call ε α}
    (found : l.call? number = some call) : l.calls[number - 1]? = some call := by
  unfold call? at found
  split at found
  · cases found
  · exact found

theorem Recalls.coherent {p : Policy T} {l : Ledger T ε α} {h : History T}
    (recalls : l.Recalls p h) : l.breaker.fields.Coherent p h where
  counts := recalls.failures
  closedBelow := l.breaker.phase.mode_eq_closed_iff.trans recalls.closed
  unsetIfClosed := l.breaker.phase.since?_eq_none_iff.trans l.breaker.phase.mode_eq_closed_iff.symm
  latest notClosed := by
    cases held : l.breaker.phase.since? with
    | none =>
      have closed := l.breaker.phase.since?_eq_none_iff.mp held
      exact absurd (l.breaker.phase.mode_eq_closed_iff.mpr closed) notClosed
    | some since => exact held.trans (recalls.since since held).symm
  noProbes := Phase.probes_of_not_halfOpen
  fewProbes := recalls.probes

variable [Sub T] [LE T] [DecidableLE T]

section Step

variable {p : Policy T} {l : Ledger T ε α}

theorem fields_begin : (l.begin p).1.breaker.fields = (l.breaker.fields.attempt p l.now).2 := by
  rw [attempt_fields]
  rfl

/-- A half-open period that began after so many calls: its probes are the calls admitted since. -/
def Probed (l : Ledger T ε α) (before : Nat) : Prop :=
  ∃ since probes, l.breaker.phase = .halfOpen since probes ∧ before ≤ l.calls.length ∧
    probes = (l.calls.drop before).countP Call.isAdmitted

theorem probed_begin {since : T} {probes before : Nat} (probing : l.Probing p since probes)
    (earlier : before ≤ l.calls.length)
    (counted : probes = (l.calls.drop before).countP Call.isAdmitted) :
    (l.begin p).1.Probed before := by
  -- The new call counts exactly if it is admitted.
  have count (call : Call ε α) : ((l.calls ++ [call]).drop before).countP Call.isAdmitted =
      probes + if call.isAdmitted then 1 else 0 := by
    rw [List.drop_append_of_le_length earlier, List.countP_append, ← counted,
      List.countP_singleton]
  have longer (call : Call ε α) : before ≤ (l.calls ++ [call]).length := by
    rw [List.length_append]
    exact Nat.le_add_right_of_le earlier
  rcases begin_probing p probing with ⟨_, begun⟩ | ⟨_, begun⟩
  · rw [begun]
    exact ⟨since, probes, rfl, longer _, (count (.ended (.rejected .probesTaken))).symm⟩
  · rw [begun]
    exact ⟨since, probes + 1, rfl, longer _, (count (.running true)).symm⟩

variable [Add T]

theorem fields_step (action : Action T ε α) :
    (l.step p action).breaker.fields = l.breaker.fields.see p l action := by
  cases action with
  | begin => exact fields_begin
  | finish number outcome =>
    by_cases running : ∃ isProbe, l.call? number = some (.running isProbe)
    · obtain ⟨isProbe, running⟩ := running
      cases outcome with
      | ok value =>
        simp only [step, Fields.see, finish_ok p running, isRunning_eq_true running, if_true]
        rfl
      | error e =>
        simp only [step, Fields.see, finish_error p running, isRunning_eq_true running, if_true,
          fail_fields]
    · have idle : ∀ isProbe, l.call? number ≠ some (.running isProbe) :=
        fun isProbe is => running ⟨isProbe, is⟩
      have still := isRunning_eq_false idle
      cases outcome <;>
        simp only [step, Fields.see, finish_idle p _ idle, still, Bool.false_eq_true, if_false]
  | cancel number => exact congrArg fields (l.breaker_cancel number)
  | advance elapsed => rfl
  | reset => rfl

/-- A circuit becomes half-open only by a call, and only when the recovery time has passed since it
opened. -/
theorem begins_of_halfOpen {action : Action T ε α} (before : l.breaker.phase.mode ≠ .halfOpen)
    (after : (l.step p action).breaker.phase.mode = .halfOpen) :
    action = .begin ∧
      ∃ since, l.breaker.phase = .opened since ∧ p.recoveryTimeout ≤ l.now - since := by
  by_cases begins : action = .begin
  · subst begins
    refine ⟨rfl, ?_⟩
    rcases l.closed_or_opened_or_probing p with
      phase | ⟨since, phase, early⟩ | ⟨since, probes, phase | ⟨phase, late, _⟩⟩
    · simp only [step, begin_closed p phase] at after
      exact absurd after before
    · simp only [step, begin_opened p phase early] at after
      exact absurd after before
    · exact absurd (by rw [phase]; rfl) before
    · exact ⟨since, phase, late⟩
  · exfalso
    rcases phase_step begins with phase | phase | phase <;> rw [phase] at after
    · cases after
    · cases after
    · exact before after

theorem probed_of_halfOpen {action : Action T ε α} (before : l.breaker.phase.mode ≠ .halfOpen)
    (after : (l.step p action).breaker.phase.mode = .halfOpen) :
    (l.step p action).Probed l.calls.length := by
  obtain ⟨rfl, since, phase, late⟩ := begins_of_halfOpen before after
  exact probed_begin (.inr ⟨phase, late, rfl⟩) (Nat.le_refl _) (by rw [List.drop_length]; rfl)

theorem Probed.step {before : Nat} (probed : l.Probed before) {action : Action T ε α}
    (stays : (l.step p action).breaker.phase.mode = .halfOpen) :
    (l.step p action).Probed before := by
  obtain ⟨since, probes, phase, earlier, counted⟩ := probed
  cases action with
  | begin => exact probed_begin (.inl phase) earlier counted
  | finish number outcome =>
    by_cases running : ∃ isProbe, l.call? number = some (.running isProbe)
    · -- An outcome would end the period.
      exfalso
      obtain ⟨isProbe, running⟩ := running
      cases outcome with
      | ok value =>
        simp only [Ledger.step, finish_ok p running] at stays
        cases stays
      | error e =>
        have failed : (l.breaker.fail p l.now).breaker.phase = .opened l.now := by
          simp only [Breaker.fail, phase]
        simp only [Ledger.step, finish_error p running, failed] at stays
        cases stays
    · simp only [Ledger.step, finish_idle p outcome fun isProbe is => running ⟨isProbe, is⟩]
      exact ⟨since, probes, phase, earlier, counted⟩
  | cancel number =>
    by_cases running : ∃ isProbe, l.call? number = some (.running isProbe)
    · obtain ⟨isProbe, running⟩ := running
      have same :
          (.ended .cancelled : Call ε α).isAdmitted = (.running isProbe : Call ε α).isAdmitted :=
        rfl
      simp only [Ledger.step, cancel_running running]
      refine ⟨since, probes, phase, ?_, ?_⟩
      · simp only [List.length_set]
        exact earlier
      · exact counted.trans (countP_drop_set (getElem?_of_call? running) same before).symm
    · simp only [Ledger.step, cancel_idle fun isProbe is => running ⟨isProbe, is⟩]
      exact ⟨since, probes, phase, earlier, counted⟩
  | advance elapsed => exact ⟨since, probes, phase, earlier, counted⟩
  | reset => cases stays

end Step

variable [Add T] (p : Policy T)

/-- The fields after these actions. -/
def fieldsAfter (now : T) (trace : List (Action T ε α)) : Fields T :=
  watched p (Fields.see p) (start now) .initial trace

theorem fields_run (now : T) (trace : List (Action T ε α)) :
    (run p now trace).breaker.fields = fieldsAfter p now trace := by
  refine watched_invariant p (Fields.see p) (fun l f => l.breaker.fields = f)
    (fun action _ l f same => ?_) rfl
  rw [← same]
  exact fields_step action

/-- The calls of a half-open period are counted from its first call on. -/
theorem probed_run (now : T) (trace period : List (Action T ε α))
    (before : (run p now trace).breaker.phase.mode ≠ .halfOpen) (nonempty : period ≠ [])
    (during : ∀ part, part <+: period → part ≠ [] →
      (run p now (trace ++ part)).breaker.phase.mode = .halfOpen) :
    (run p now (trace ++ period)).Probed (run p now trace).calls.length := by
  induction period using List.reverseRecOn with
  | nil => exact absurd rfl nonempty
  | append_singleton earlier action inductionHypothesis =>
    have now' := during _ (List.prefix_refl _) nonempty
    rw [← List.append_assoc, run_append] at now' ⊢
    by_cases first : earlier = []
    · subst first
      rw [List.append_nil] at now' ⊢
      exact probed_of_halfOpen before now'
    · exact (inductionHypothesis first fun part isPart some =>
        during part (isPart.trans (List.prefix_append ..)) some).step now'

/-- After every run the fields count the failures since the last success or reset; the circuit is
closed as long as they are fewer than the threshold, holds no time then and the time of the latest
failure otherwise, and counts probes only while it is half-open, never more than it may admit. It
becomes half-open only once the recovery time has passed since the latest failure, and from then on
admits no more calls than it may until it is half-open no longer. -/
theorem fields_coherent_of_run (now : T) (trace : List (Action T ε α)) :
    let f := fieldsAfter p now trace
    let h := history p now trace
    let l := run p now trace
    l.breaker.fields = f ∧
    f.Coherent p h ∧
    (∀ action, f.mode ≠ .halfOpen → (fieldsAfter p now (trace ++ [action])).mode = .halfOpen →
      action = .begin ∧ f.mode = .opened ∧
        ∃ failedAt, h.latestFailure? = some failedAt ∧ p.recoveryTimeout ≤ l.now - failedAt) ∧
    ∀ period, f.mode ≠ .halfOpen →
      (∀ part, part <+: period → part ≠ [] →
        (fieldsAfter p now (trace ++ part)).mode = .halfOpen) →
      (((run p now (trace ++ period)).calls.drop l.calls.length).countP Call.isAdmitted : Int) ≤
        max 0 p.halfOpenMaxCalls := by
  intro f h l
  have recalls : l.Recalls p h := recalls_run p now trace
  have mode (trace : List (Action T ε α)) :
      (fieldsAfter p now trace).mode = (run p now trace).breaker.phase.mode := by
    rw [← fields_run]
    rfl
  have same : l.breaker.fields = f := fields_run p now trace
  refine ⟨same, ?_, fun action before after => ?_, fun period before during => ?_⟩
  · rw [← same]
    exact recalls.coherent
  · rw [mode, run_append] at after
    obtain ⟨begins, since, phase, late⟩ := begins_of_halfOpen (mode trace ▸ before) after
    refine ⟨begins, ?_, since, recalls.since since ?_, late⟩
    · rw [mode, phase]
      rfl
    · rw [phase]
      rfl
  · simp only [mode] at during
    by_cases empty : period = []
    · subst empty
      rw [List.append_nil, List.drop_length]
      exact Int.le_max_left ..
    · obtain ⟨since, probes, phase, _, counted⟩ :=
        probed_run p now trace period (mode trace ▸ before) empty during
      have few := (recalls_run p now (trace ++ period)).probes
      rw [phase] at few
      rw [← counted]
      exact few

example :
    let p : Policy Int := ⟨"default", 1, 1, 2⟩
    let trace : List (Action Int String Nat) :=
      [.begin, .finish 1 (.error "down"), .advance 1, .begin, .cancel 2, .begin, .begin]
    fieldsAfter p 0 trace = ⟨.halfOpen, 1, some 0, 2⟩ :=
  rfl

end Ledger

end Fitout.Breaker
