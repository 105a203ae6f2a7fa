import Mathlib.Algebra.Order.Group.Int
import Mathlib.Algebra.Order.Group.Unbundled.Basic
import Fitout.Proofs.Breaker.Fields

/-!
# The time that an open circuit stays open

A failure opens the circuit, and for the recovery time after it nothing but an outcome of a call
that was started before can change that. A late failure keeps it open, and a late success closes it
at once. So a call within this time is rejected unless a success was recorded since, or a reset, and
the failures after the latest of them are fewer than the threshold. Times are exact numbers here and
the clock never goes back.
-/

namespace Fitout.Breaker

variable {T ε α : Type}

namespace History

theorem latestFailure?_append (later earlier : History T) :
    latestFailure? (later ++ earlier) = (latestFailure? later).or (latestFailure? earlier) :=
  List.findSome?_append

theorem mem_of_latestFailure? {h : History T} {time : T} (latest : h.latestFailure? = some time) :
    .failure time ∈ h := by
  obtain ⟨r, member, at_⟩ := List.exists_of_findSome?_eq_some latest
  cases r with
  | failure other =>
    obtain rfl := Option.some.inj at_
    exact member
  | success | reset => cases at_

end History

namespace Ledger

theorem now_finish (p : Policy T) (l : Ledger T ε α) (number : Nat) (outcome : Except ε α) :
    (l.finish p number outcome).1.now = l.now := by
  unfold finish
  split
  · cases outcome <;> rfl
  · rfl

theorem now_cancel (l : Ledger T ε α) (number : Nat) : (l.cancel number).now = l.now := by
  unfold cancel
  split <;> rfl

/-- Where the failures recorded before are enough to open the circuit, it is closed only after a
success or a reset, and only until the failures after that are enough again. -/
theorem Recalls.closed_append_iff {p : Policy T} {l : Ledger T ε α} {since earlier : History T}
    (recalls : l.Recalls p (since ++ earlier))
    (enough : max 1 p.failureThreshold ≤ earlier.failuresSince) :
    l.breaker.phase = .closed ↔ ¬ (since.all Recorded.isFailure = true ∨
      max 1 p.failureThreshold ≤ since.failuresSince) := by
  rw [recalls.closed, recalls.failures, History.failuresSince_append]
  by_cases failing : since.all Recorded.isFailure = true
  · rw [if_pos failing]
    exact ⟨fun few => by omega, fun left => absurd (.inl failing) left⟩
  · rw [if_neg failing]
    exact ⟨fun few stays => stays.elim failing (not_le.mpr few),
      fun left => not_le.mp fun many => left (.inr many)⟩

variable [AddCommGroup T] [LinearOrder T]

/-- What holds from some time on: failures are no earlier, and a half-open circuit was not made so
before the recovery time had passed. -/
structure Timely (p : Policy T) (start : T) (l : Ledger T ε α) (h : History T) : Prop where
  now : start ≤ l.now
  failures : ∀ time, .failure time ∈ h → start ≤ time
  halfOpen : ∀ since, l.breaker.phase.mode = .halfOpen → l.breaker.phase.since? = some since →
    p.recoveryTimeout ≤ l.now - since

section Step

variable {p : Policy T} {start : T} {l : Ledger T ε α} {h : History T}

theorem Timely.begin (timely : l.Timely p start h) : (l.begin p).1.Timely p start h := by
  refine ⟨timely.now, timely.failures, fun since halfOpen held => ?_⟩
  change p.recoveryTimeout ≤ l.now - since
  rcases l.closed_or_opened_or_probing p with
    phase | ⟨other, phase, early⟩ | ⟨other, probes, probing⟩
  · rw [begin_closed p phase, phase] at halfOpen
    cases halfOpen
  · rw [begin_opened p phase early, phase] at halfOpen
    cases halfOpen
  · obtain ⟨admitted, phase⟩ := phase_begin_probing probing
    rw [phase] at held
    obtain rfl := Option.some.inj held
    rcases probing with phase | ⟨_, late, _⟩
    · exact timely.halfOpen other (by rw [phase]; rfl) (by rw [phase]; rfl)
    · exact late

/-- The latest failure is no earlier than the one at the start. -/
theorem Timely.start_le_latest {since earlier : History T} (timely : l.Timely p start since)
    {failedAt : T}
    (latest : History.latestFailure? (since ++ .failure start :: earlier) = some failedAt) :
    start ≤ failedAt := by
  rw [History.latestFailure?_append] at latest
  rcases Option.or_eq_some_iff.mp latest with latest | ⟨_, latest⟩
  · exact timely.failures _ (History.mem_of_latestFailure? latest)
  · exact (Option.some.inj latest).le

variable [IsOrderedAddMonoid T]

theorem now_le_now_step {action : Action T ε α}
    (forward : ∀ elapsed, action = .advance elapsed → 0 ≤ elapsed) :
    l.now ≤ (l.step p action).now := by
  cases action with
  | begin | reset => exact le_rfl
  | finish number outcome => exact (now_finish p l number outcome).ge
  | cancel number => exact (now_cancel l number).ge
  | advance elapsed => exact le_add_of_nonneg_right (forward elapsed rfl)

theorem Timely.step (timely : l.Timely p start h) {action : Action T ε α}
    (forward : ∀ elapsed, action = .advance elapsed → 0 ≤ elapsed) :
    (l.step p action).Timely p start (History.record l h action) := by
  have later : l.now ≤ (l.step p action).now := now_le_now_step forward
  refine ⟨timely.now.trans later, fun time member => ?_, fun since halfOpen held => ?_⟩
  · rcases History.failure_mem_record member with rfl | member
    · exact timely.now
    · exact timely.failures time member
  · by_cases begins : action = .begin
    · subst begins
      exact timely.begin.halfOpen since halfOpen held
    · rcases phase_step (p := p) (l := l) begins with phase | phase | phase <;>
        rw [phase] at halfOpen held
      · cases halfOpen
      · cases halfOpen
      · exact (timely.halfOpen since halfOpen held).trans (sub_le_sub_right later since)

/-- Before the recovery time has passed since the start, a circuit that is not closed is open, and
its own recovery time has not passed either. -/
theorem Timely.exists_opened {since earlier : History T} (timely : l.Timely p start since)
    (recalls : l.Recalls p (since ++ .failure start :: earlier))
    (early : l.now < start + p.recoveryTimeout) (notClosed : l.breaker.phase ≠ .closed) :
    ∃ failedAt, l.breaker.phase = .opened failedAt ∧ ¬ p.recoveryTimeout ≤ l.now - failedAt := by
  obtain ⟨failedAt, held⟩ : ∃ failedAt, l.breaker.phase.since? = some failedAt :=
    Option.ne_none_iff_exists'.mp (mt l.breaker.phase.since?_eq_none_iff.mp notClosed)
  have late : start ≤ failedAt := timely.start_le_latest (recalls.since failedAt held)
  have recovering : ¬ p.recoveryTimeout ≤ l.now - failedAt := by
    rw [not_le, sub_lt_iff_lt_add']
    exact early.trans_le (add_le_add_left late _)
  refine ⟨failedAt, ?_, recovering⟩
  cases phase : l.breaker.phase with
  | closed => exact absurd phase notClosed
  | opened other =>
    rw [phase] at held
    exact congrArg Phase.opened (Option.some.inj held)
  | halfOpen other probes =>
    exact absurd (timely.halfOpen failedAt (by rw [phase]; rfl) held) recovering

end Step

variable [IsOrderedAddMonoid T] (p : Policy T)

/-- From a moment at which the circuit is open on. -/
theorem timely_run {start : T} {opening after : List (Action T ε α)}
    (forward : ∀ elapsed, Action.advance elapsed ∈ after → 0 ≤ elapsed)
    (opens : (run p start opening).breaker.phase.mode = .opened) :
    (run p start (opening ++ after)).Timely p (run p start opening).now
      (watched p History.record (run p start opening) [] after) := by
  have kept : (run p start opening).Timely p (run p start opening).now [] := by
    refine ⟨le_rfl, fun _ member => absurd member List.not_mem_nil, fun _ halfOpen => ?_⟩
    rw [opens] at halfOpen
    cases halfOpen
  rw [run_append]
  exact watched_invariant p History.record (Timely p (run p start opening).now)
    (fun action member _ _ timely => timely.step fun elapsed is => forward elapsed (is ▸ member))
    kept

/-- Within the recovery time after a failure that left the circuit open, a call is rejected exactly
if all outcomes recorded since are failures, or the failures after the latest of the others are
enough to open the circuit again. Otherwise it is admitted. -/
theorem rejects_while_recovering_iff (start : T) (before after : List (Action T ε α)) (number : Nat)
    (error : ε) (forward : ∀ elapsed, Action.advance elapsed ∈ after → 0 ≤ elapsed)
    (recorded : (run p start before).isRunning number = true)
    (opens : (run p start (before ++ [.finish number (.error error)])).breaker.phase.mode = .opened)
    (early : (run p start (before ++ [.finish number (.error error)] ++ after)).now <
      (run p start before).now + p.recoveryTimeout) :
    let l := run p start (before ++ [.finish number (.error error)] ++ after)
    let since := watched p History.record
      (run p start (before ++ [.finish number (.error error)])) [] after
    let next := (l.begin p).1.call? (l.calls.length + 1)
    let staysOpen := since.all Recorded.isFailure = true ∨
      max 1 p.failureThreshold ≤ since.failuresSince
    (next = some (.ended (.rejected .isOpen)) ↔ staysOpen) ∧
      (¬ staysOpen → next = some (.running false)) := by
  intro l since next staysOpen
  set opening := before ++ [.finish number (.error error)] with opening_eq
  have atOpening : (run p start opening).now = (run p start before).now := by
    rw [opening_eq, run_append]
    exact now_finish ..
  have failed : history p start opening =
      .failure (run p start opening).now :: history p start before := by
    rw [atOpening, opening_eq, history_append]
    simp only [watched, History.record, recorded, if_true, List.cons_append, List.nil_append]
  have recalled : (run p start opening).Recalls p (history p start opening) := recalls_run p start _
  have all : history p start (opening ++ after) = since ++ history p start opening :=
    history_append p start opening after
  have recalls : l.Recalls p (since ++ history p start opening) := all ▸ recalls_run p start _
  have enough : max 1 p.failureThreshold ≤ (history p start opening).failuresSince := by
    have notClosed : (run p start opening).breaker.phase ≠ .closed := by
      intro closed
      rw [closed] at opens
      cases opens
    have many := mt recalled.closed.mpr notClosed
    rw [recalled.failures] at many
    exact not_lt.mp many
  have closed_iff : l.breaker.phase = .closed ↔ ¬ staysOpen := recalls.closed_append_iff enough
  by_cases closed : l.breaker.phase = .closed
  · have admitted : next = some (.running false) := by
      simp only [next, begin_closed p closed]
      exact l.call?_append _ _
    have left := closed_iff.mp closed
    refine ⟨⟨fun rejected => ?_, fun stays => absurd stays left⟩, fun _ => admitted⟩
    rw [admitted] at rejected
    cases rejected
  · have timely : l.Timely p (run p start opening).now since := timely_run p forward opens
    rw [failed] at recalls
    obtain ⟨failedAt, opened, recovering⟩ :=
      timely.exists_opened recalls (atOpening ▸ early) closed
    have rejected : next = some (.ended (.rejected .isOpen)) := by
      simp only [next, begin_opened p opened recovering]
      exact l.call?_append _ _
    have stays : staysOpen := not_not.mp (mt closed_iff.mpr closed)
    exact ⟨⟨fun _ => stays, fun _ => rejected⟩, fun left => absurd stays left⟩

/-- A call that was started before fails late, and the circuit stays open. -/
theorem late_failure_keeps_open :
    let p : Policy Int := ⟨"default", 1, 10, 1⟩
    let before : List (Action Int String Nat) := [.begin, .begin]
    let after : List (Action Int String Nat) := [.advance 5, .finish 2 (.error "late")]
    let l := run p 0 (before ++ [.finish 1 (.error "down")] ++ after)
    (l.begin p).1.call? (l.calls.length + 1) = some (.ended (.rejected .isOpen)) := by
  intro p before after l
  have forward : ∀ elapsed, Action.advance elapsed ∈ after → 0 ≤ elapsed := by
    intro elapsed member
    simp only [after, List.mem_cons, Action.advance.injEq, reduceCtorEq, List.not_mem_nil,
      or_false] at member
    omega
  exact (rejects_while_recovering_iff p 0 before after 1 "down" forward rfl rfl (by decide)).1.mpr
    (.inl rfl)

/-- A call that was started before succeeds late: half of the recovery time is left, there was no
reset, and the next call is admitted. -/
theorem late_success_admits_call :
    let p : Policy Int := ⟨"default", 1, 10, 1⟩
    let before : List (Action Int String Nat) := [.begin, .begin]
    let after : List (Action Int String Nat) := [.advance 5, .finish 2 (.ok 7)]
    let l := run p 0 (before ++ [.finish 1 (.error "down")] ++ after)
    (run p 0 before).isRunning 1 = true ∧
      (run p 0 (before ++ [.finish 1 (.error "down")])).breaker.phase = .opened 0 ∧
      0 ≤ l.now ∧ l.now < 0 + p.recoveryTimeout ∧
      (l.begin p).1.call? (l.calls.length + 1) = some (.running false) :=
  ⟨rfl, rfl, by decide, by decide, rfl⟩

end Ledger

end Fitout.Breaker
