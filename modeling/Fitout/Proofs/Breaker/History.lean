import Fitout.Proofs.Breaker.Run

/-!
# What a breaker remembers of a run

The history of a run holds the outcomes that reach the breaker: failures with their times, successes
and resets. Calls that are rejected or cancelled leave no record. After every run the breaker agrees
with the history: it counts the failures since the last success or reset, is closed as long as they
are too few, and otherwise holds the time of the latest one.
-/

namespace Fitout.Breaker

variable {T ε α : Type}

namespace Phase

/-- The failure since which the circuit is not closed. -/
def since? : Phase T → Option T
  | closed => none
  | opened since | halfOpen since _ => some since

def probes : Phase T → Nat
  | closed | opened _ => 0
  | halfOpen _ probes => probes

theorem since?_eq_none_iff (phase : Phase T) : phase.since? = none ↔ phase = closed := by
  cases phase <;> simp [since?]

end Phase

/-- An outcome that a breaker takes note of. -/
inductive Recorded (T : Type) where
  | failure (time : T)
  | success
  | reset

namespace Recorded

def time? : Recorded T → Option T
  | failure time => some time
  | success | reset => none

def isFailure (r : Recorded T) : Bool :=
  r.time?.isSome

end Recorded

/-- The outcomes of a run, the latest first. -/
abbrev History (T : Type) := List (Recorded T)

namespace History

/-- How many failures there were since the last success or reset. -/
def failuresSince (h : History T) : Nat :=
  (h.takeWhile Recorded.isFailure).length

def latestFailure? (h : History T) : Option T :=
  h.findSome? Recorded.time?

theorem failuresSince_append (later earlier : History T) :
    failuresSince (later ++ earlier) =
      if later.all Recorded.isFailure then later.length + failuresSince earlier
      else failuresSince later := by
  induction later with
  | nil => simp
  | cons r rest inductionHypothesis =>
    cases failed : r.isFailure
    · simp [failuresSince, failed]
    · simp only [failuresSince, List.cons_append, List.takeWhile_cons, failed, if_true,
        List.length_cons, List.all_cons, Bool.true_and] at inductionHypothesis ⊢
      rw [inductionHypothesis]
      split <;> omega

/-- What the breaker takes note of when an action meets a ledger. -/
def record (l : Ledger T ε α) (h : History T) : Action T ε α → History T
  | .finish number (.error _) => if l.isRunning number then .failure l.now :: h else h
  | .finish number (.ok _) => if l.isRunning number then .success :: h else h
  | .reset => .reset :: h
  | .begin | .cancel _ | .advance _ => h

theorem record_append (l : Ledger T ε α) (later earlier : History T) (action : Action T ε α) :
    record l (later ++ earlier) action = record l later action ++ earlier := by
  cases action with
  | finish number outcome =>
    cases outcome <;> simp only [record] <;> split <;> rfl
  | _ => rfl

theorem record_idle {l : Ledger T ε α} {number : Nat}
    (idle : ∀ isProbe, l.call? number ≠ some (.running isProbe)) (h : History T)
    (outcome : Except ε α) : record l h (.finish number outcome) = h := by
  have still := Ledger.isRunning_eq_false idle
  cases outcome <;> simp only [record, still, Bool.false_eq_true, if_false]

theorem failure_mem_record {l : Ledger T ε α} {h : History T} {action : Action T ε α} {time : T}
    (member : .failure time ∈ record l h action) : time = l.now ∨ .failure time ∈ h := by
  cases action with
  | finish number outcome =>
    cases outcome <;> simp only [record] at member <;> split at member <;> simp_all
  | reset => exact .inr (by simpa [record] using member)
  | _ => exact .inr member

end History

namespace Ledger

theorem breaker_cancel (l : Ledger T ε α) (number : Nat) :
    (l.cancel number).breaker = l.breaker := by
  unfold cancel
  split <;> rfl

/-- The breaker agrees with what was recorded. -/
structure Recalls (p : Policy T) (l : Ledger T ε α) (h : History T) : Prop where
  failures : l.breaker.failures = h.failuresSince
  closed : l.breaker.phase = .closed ↔ (l.breaker.failures : Int) < max 1 p.failureThreshold
  since : ∀ since, l.breaker.phase.since? = some since → h.latestFailure? = some since
  probes : (l.breaker.phase.probes : Int) ≤ max 0 p.halfOpenMaxCalls

section Step

variable {p : Policy T} {l : Ledger T ε α} {h : History T}

theorem recalls_of_closed {later : History T} (phase : l.breaker = closed)
    (fresh : later.failuresSince = 0) : l.Recalls p later where
  failures := by rw [phase, fresh]; rfl
  closed := by simp only [phase, Breaker.closed, true_iff]; omega
  since since notClosed := by rw [phase] at notClosed; cases notClosed
  probes := by simp only [phase, Breaker.closed, Phase.probes]; omega

theorem Recalls.fail (recalls : l.Recalls p h) (calls : List (Call ε α)) :
    Recalls p { l with breaker := (l.breaker.fail p l.now).breaker, calls }
      (.failure l.now :: h) := by
  have counted : l.breaker.failures + 1 = History.failuresSince (.failure l.now :: h) := by
    rw [recalls.failures]
    rfl
  rcases fail_cases p l.now l.breaker with ⟨opens, failed⟩ | ⟨notHalfOpen, few, failed⟩
  · rw [failed]
    have many : max 1 p.failureThreshold ≤ (l.breaker.failures + 1 : Nat) := by
      rcases opens with ⟨since, probes, halfOpen⟩ | many
      · have notClosed : l.breaker.phase ≠ .closed := by simp [halfOpen]
        have := mt recalls.closed.mpr notClosed
        omega
      · omega
    refine ⟨counted, ⟨nofun, fun few => ?_⟩, fun since opened => opened, ?_⟩
    · simp only at few
      omega
    · simp only [Phase.probes]
      omega
  · rw [failed]
    have phase : l.breaker.phase = .closed := recalls.closed.mpr (by omega)
    refine ⟨counted, ⟨fun _ => by simp only; omega, fun _ => phase⟩, ?_, recalls.probes⟩
    rw [phase]
    intro since opened
    cases opened

theorem Recalls.begin [Sub T] [LE T] [DecidableLE T] (recalls : l.Recalls p h) :
    (l.begin p).1.Recalls p h := by
  rcases l.closed_or_opened_or_probing p with
    phase | ⟨since, phase, early⟩ | ⟨since, probes, probing⟩
  · rw [begin_closed p phase]
    exact ⟨recalls.failures, recalls.closed, recalls.since, recalls.probes⟩
  · rw [begin_opened p phase early]
    exact ⟨recalls.failures, recalls.closed, recalls.since, recalls.probes⟩
  · have held : l.breaker.phase.since? = some since := by
      rcases probing with phase | ⟨phase, _⟩ <;> rw [phase] <;> rfl
    have notClosed : l.breaker.phase ≠ .closed := by
      intro phase
      rw [phase] at held
      cases held
    have admitted : (probes : Int) ≤ max 0 p.halfOpenMaxCalls := by
      rcases probing with phase | ⟨_, _, rfl⟩
      · have kept := recalls.probes
        rw [phase] at kept
        exact kept
      · omega
    -- The circuit is half-open afterwards, with the same failures.
    have still (others : Nat) : (Phase.halfOpen since others = .closed) ↔
        (l.breaker.failures : Int) < max 1 p.failureThreshold :=
      ⟨nofun, fun few => absurd (recalls.closed.mpr few) notClosed⟩
    have latest (others : Nat) (other : T)
        (same : (Phase.halfOpen since others).since? = some other) :
        h.latestFailure? = some other := by
      obtain rfl := Option.some.inj same
      exact recalls.since since held
    rcases begin_probing p probing with ⟨_, begun⟩ | ⟨left, begun⟩
    · rw [begun]
      exact ⟨recalls.failures, still probes, latest probes, admitted⟩
    · rw [begun]
      refine ⟨recalls.failures, still (probes + 1), latest (probes + 1), ?_⟩
      simp only [Phase.probes]
      omega

end Step

variable [Sub T] [LE T] [DecidableLE T] [Add T] (p : Policy T)

section Step

variable {p} {l : Ledger T ε α}

/-- Only a call makes a circuit half-open: all else closes it, opens it or leaves it as it is. -/
theorem phase_step {action : Action T ε α} (other : action ≠ .begin) :
    (l.step p action).breaker.phase = .closed ∨
      (l.step p action).breaker.phase = .opened l.now ∨
      (l.step p action).breaker.phase = l.breaker.phase := by
  cases action with
  | begin => exact absurd rfl other
  | finish number outcome =>
    by_cases running : ∃ isProbe, l.call? number = some (.running isProbe)
    · obtain ⟨isProbe, running⟩ := running
      cases outcome with
      | ok value => exact .inl (by simp only [step, finish_ok p running, closed])
      | error e =>
        simp only [step, finish_error p running]
        rcases fail_cases p l.now l.breaker with ⟨_, failed⟩ | ⟨_, _, failed⟩
        · exact .inr (.inl (by rw [failed]))
        · exact .inr (.inr (by rw [failed]))
    · have idle : ∀ isProbe, l.call? number ≠ some (.running isProbe) :=
        fun isProbe is => running ⟨isProbe, is⟩
      exact .inr (.inr (by simp only [step, finish_idle p outcome idle]))
  | cancel number => exact .inr (.inr (by simp only [step, breaker_cancel]))
  | advance elapsed => exact .inr (.inr rfl)
  | reset => exact .inl rfl

end Step

/-- What a watcher has seen in the end, to whom each action shows itself with the ledger it
meets. -/
def watched {σ : Type} (see : Ledger T ε α → σ → Action T ε α → σ) (l : Ledger T ε α) (seen : σ) :
    List (Action T ε α) → σ
  | [] => seen
  | action :: rest => watched see (l.step p action) (see l seen action) rest

/-- What every step keeps between a ledger and what a watcher has seen, holds after a run. -/
theorem watched_invariant {σ : Type} (see : Ledger T ε α → σ → Action T ε α → σ)
    (Kept : Ledger T ε α → σ → Prop) {trace : List (Action T ε α)}
    (keeps : ∀ action ∈ trace, ∀ l seen, Kept l seen → Kept (l.step p action) (see l seen action))
    {l : Ledger T ε α} {seen : σ} (kept : Kept l seen) :
    Kept (trace.foldl (step p) l) (watched p see l seen trace) := by
  induction trace generalizing l seen with
  | nil => exact kept
  | cons action rest inductionHypothesis =>
    exact inductionHypothesis (fun other member => keeps other (List.mem_cons_of_mem _ member))
      (keeps action List.mem_cons_self l seen kept)

theorem watched_append {σ : Type} (see : Ledger T ε α → σ → Action T ε α → σ) (l : Ledger T ε α)
    (seen : σ) (first second : List (Action T ε α)) :
    watched p see l seen (first ++ second) =
      watched p see (first.foldl (step p) l) (watched p see l seen first) second := by
  induction first generalizing l seen with
  | nil => rfl
  | cons action rest inductionHypothesis => exact inductionHypothesis _ _

theorem run_append (now : T) (first second : List (Action T ε α)) :
    run p now (first ++ second) = second.foldl (step p) (run p now first) :=
  List.foldl_append ..

/-- The outcomes that were recorded in a run. -/
def history (now : T) (trace : List (Action T ε α)) : History T :=
  watched p History.record (start now) [] trace

theorem watched_record_append (l : Ledger T ε α) (later h : History T)
    (trace : List (Action T ε α)) :
    watched p History.record l (later ++ h) trace =
      watched p History.record l later trace ++ h := by
  induction trace generalizing l later with
  | nil => rfl
  | cons action rest inductionHypothesis =>
    simp only [watched, History.record_append]
    exact inductionHypothesis _ _

theorem history_append (now : T) (first second : List (Action T ε α)) :
    history p now (first ++ second) =
      watched p History.record (run p now first) [] second ++ history p now first := by
  rw [history, watched_append, ← watched_record_append, List.nil_append]
  rfl

variable {p} in
theorem Recalls.step {l : Ledger T ε α} {h : History T} (recalls : l.Recalls p h)
    (action : Action T ε α) :
    (l.step p action).Recalls p (History.record l h action) := by
  cases action with
  | begin => exact recalls.begin
  | finish number outcome =>
    by_cases running : ∃ isProbe, l.call? number = some (.running isProbe)
    · obtain ⟨isProbe, running⟩ := running
      cases outcome with
      | ok value =>
        simp only [Ledger.step, History.record, finish_ok p running, isRunning_eq_true running,
          if_true]
        exact recalls_of_closed rfl rfl
      | error e =>
        simp only [Ledger.step, History.record, finish_error p running, isRunning_eq_true running,
          if_true]
        exact recalls.fail _
    · have idle : ∀ isProbe, l.call? number ≠ some (.running isProbe) :=
        fun isProbe is => running ⟨isProbe, is⟩
      rw [History.record_idle idle]
      simp only [Ledger.step, finish_idle p outcome idle]
      exact recalls
  | cancel number =>
    refine ⟨?_, ?_, ?_, ?_⟩ <;> simp only [Ledger.step, History.record, breaker_cancel]
    · exact recalls.failures
    · exact recalls.closed
    · exact recalls.since
    · exact recalls.probes
  | advance elapsed => exact ⟨recalls.failures, recalls.closed, recalls.since, recalls.probes⟩
  | reset => exact recalls_of_closed rfl rfl

theorem recalls_run (now : T) (trace : List (Action T ε α)) :
    (run p now trace).Recalls p (history p now trace) :=
  watched_invariant p History.record (Recalls p) (fun action _ _ _ recalls => recalls.step action)
    (recalls_of_closed rfl rfl)

end Ledger

end Fitout.Breaker
