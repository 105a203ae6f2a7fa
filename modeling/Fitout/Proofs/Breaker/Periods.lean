import Mathlib.Data.List.Forall2
import Fitout.Proofs.Breaker.History
import Fitout.Proofs.Breaker.Recovery

/-!
# Probes of several half-open periods

A half-open circuit counts the probes that it admits, and the count starts anew with each half-open
period. A probe that still runs when its period ends, because another call has failed or succeeded,
is not counted any more. So no period has more probes on their way than the policy allows, while the
probes of several periods together may be more.
-/

namespace Fitout.Breaker

variable {T ε α : Type}

def Call.isRunningProbe : Call ε α → Bool
  | .running isProbe => isProbe
  | .ended _ => false

/-- The half-open periods of a run, numbered from one. -/
structure Periods where
  /-- How many have begun. -/
  begun : Nat
  /-- For each call the period that admitted it as a probe, if one did. -/
  admitting : List (Option Nat)

namespace Periods

def start : Periods :=
  ⟨0, []⟩

/-- How many of the calls that a period admitted still run. -/
def runningIn (s : Periods) (calls : List (Call ε α)) (period : Nat) : Nat :=
  (calls.zip s.admitting).countP fun (call, admitting) =>
    call.isRunningProbe && admitting == some period

theorem runningIn_le_count {s : Periods} {calls : List (Call ε α)}
    (length : calls.length = s.admitting.length) (period : Nat) :
    s.runningIn calls period ≤ s.admitting.count (some period) := by
  have admitting : (calls.zip s.admitting).map (·.2) = s.admitting :=
    List.map_snd_zip (Nat.le_of_eq length.symm)
  calc s.runningIn calls period
      ≤ (calls.zip s.admitting).countP ((· == some period) ∘ (·.2)) :=
        List.countP_mono_left fun pair _ both => (Bool.and_eq_true_iff.mp both).2
    _ = s.admitting.count (some period) := by rw [← List.countP_map, admitting, List.count]

/-- Where no period has admitted more than so many calls, the periods together have admitted no more
than so many times as many. -/
theorem countP_isSome_le {admitting : List (Option Nat)} {begun most : Nat}
    (numbered : ∀ period, some period ∈ admitting → 1 ≤ period ∧ period ≤ begun)
    (few : ∀ period, admitting.count (some period) ≤ most) :
    admitting.countP Option.isSome ≤ begun * most := by
  induction begun generalizing admitting with
  | zero =>
    have unprobed : admitting.countP Option.isSome = 0 := by
      rw [List.countP_eq_zero]
      intro period member isSome
      obtain ⟨number, rfl⟩ := Option.isSome_iff_exists.mp isSome
      have := numbered number member
      omega
    omega
  | succ begun inductionHypothesis =>
    -- The latest period is counted by itself, and the induction is on those before it.
    let latest := admitting.filter (· == some (begun + 1))
    let earlier := admitting.filter (!· == some (begun + 1))
    have atLatest : latest.countP Option.isSome ≤ most := by
      apply Nat.le_trans List.countP_le_length
      rw [← List.countP_eq_length_filter]
      exact few (begun + 1)
    have before : earlier.countP Option.isSome ≤ begun * most := by
      apply inductionHypothesis
      · intro period member
        obtain ⟨listed, other⟩ := List.mem_filter.mp member
        have bounds := numbered period listed
        have ne : period ≠ begun + 1 := by
          rintro rfl
          simp at other
        omega
      · intro period
        exact Nat.le_trans (List.filter_sublist.count_le _) (few period)
    calc admitting.countP Option.isSome
        = latest.countP Option.isSome + earlier.countP Option.isSome :=
          List.countP_eq_countP_filter_add ..
      _ ≤ most + begun * most := Nat.add_le_add atLatest before
      _ = (begun + 1) * most := by rw [Nat.succ_mul, Nat.add_comm]

/-- A period is told for each running probe. -/
abbrev Tell (calls : List (Call ε α)) (admitting : List (Option Nat)) : Prop :=
  List.Forall₂ (fun call period => call.isRunningProbe = true → period.isSome = true)
    calls admitting

theorem countP_le_of_tell {calls : List (Call ε α)} {admitting : List (Option Nat)}
    (tell : Tell calls admitting) :
    calls.countP Call.isRunningProbe ≤ admitting.countP Option.isSome := by
  induction tell with
  | nil => exact Nat.le_refl 0
  | cons told _ inductionHypothesis =>
    rw [List.countP_cons, List.countP_cons]
    apply Nat.add_le_add inductionHypothesis
    split
    · next running => exact Nat.le_of_eq (if_pos (told running)).symm
    · exact Nat.zero_le _

theorem tell_set {calls : List (Call ε α)} {admitting : List (Option Nat)}
    (tell : Tell calls admitting) (place : Nat) (result : Result ε α) :
    Tell (calls.set place (.ended result)) admitting := by
  induction tell generalizing place with
  | nil => exact .nil
  | cons told others inductionHypothesis =>
    cases place with
    | zero => exact .cons nofun others
    | succ place => exact .cons told (inductionHypothesis place)

end Periods

namespace Ledger

theorem runningProbes_eq (l : Ledger T ε α) :
    l.runningProbes = l.calls.countP Call.isRunningProbe := by
  unfold runningProbes
  congr 1

/-- The periods of a run say what the breaker counts, and which calls were admitted as probes. -/
structure Counts (p : Policy T) (s : Periods) (l : Ledger T ε α) : Prop where
  told : Periods.Tell l.calls s.admitting
  numbered : ∀ period, some period ∈ s.admitting → 1 ≤ period ∧ period ≤ s.begun
  few : ∀ period, s.admitting.count (some period) ≤ p.halfOpenMaxCalls.toNat
  present : ∀ since probes, l.breaker.phase = .halfOpen since probes →
    1 ≤ s.begun ∧ s.admitting.count (some s.begun) = probes

theorem Counts.runningProbes_le {p : Policy T} {s : Periods} {l : Ledger T ε α}
    (counts : l.Counts p s) : l.runningProbes ≤ s.begun * p.halfOpenMaxCalls.toNat :=
  calc l.runningProbes
      = l.calls.countP Call.isRunningProbe := runningProbes_eq l
    _ ≤ s.admitting.countP Option.isSome := Periods.countP_le_of_tell counts.told
    _ ≤ s.begun * p.halfOpenMaxCalls.toNat := Periods.countP_isSome_le counts.numbered counts.few

section Step

variable [Sub T] [LE T] [DecidableLE T]

/-- Whether the next call is admitted as a probe. -/
def admitsProbe (p : Policy T) (l : Ledger T ε α) : Bool :=
  ((l.begin p).1.call? (l.calls.length + 1)).any Call.isRunningProbe

/-- What the periods are after an action that meets a ledger. -/
def seePeriods (p : Policy T) (l : Ledger T ε α) (s : Periods) : Action T ε α → Periods
  | .begin =>
    let begun := if l.turnsHalfOpen p then s.begun + 1 else s.begun
    ⟨begun, s.admitting ++ [if l.admitsProbe p then some begun else none]⟩
  | .finish _ _ | .cancel _ | .advance _ | .reset => s

variable {p : Policy T} {l : Ledger T ε α} {s : Periods}

theorem admitsProbe_eq {breaker : Breaker T} {call : Call ε α}
    (begun : (l.begin p).1 = { l with breaker, calls := l.calls ++ [call] }) :
    l.admitsProbe p = call.isRunningProbe := by
  rw [admitsProbe, begun, call?_append]
  rfl

/-- A call that is no probe leaves the periods as they are. -/
theorem Counts.unprobed (counts : l.Counts p s) {call : Call ε α}
    (begun : (l.begin p).1 = { l with calls := l.calls ++ [call] })
    (unprobed : call.isRunningProbe = false)
    (notHalfOpen : ∀ since probes, l.breaker.phase ≠ .halfOpen since probes) :
    (l.begin p).1.Counts p (l.seePeriods p s .begin) := by
  have quiet : l.turnsHalfOpen p = false :=
    turnsHalfOpen_eq_false fun since opened => by rw [begun]; exact opened
  have seen : l.seePeriods p s .begin = ⟨s.begun, s.admitting ++ [none]⟩ := by
    simp only [seePeriods, quiet, admitsProbe_eq begun, unprobed, Bool.false_eq_true, if_false]
  rw [begun, seen]
  constructor
  · apply List.rel_append counts.told
    exact .cons (fun running => absurd (unprobed.symm.trans running) Bool.false_ne_true) .nil
  · intro period member
    apply counts.numbered
    simpa using member
  · intro period
    simpa using counts.few period
  · intro since probes halfOpen
    exact absurd halfOpen (notHalfOpen since probes)

/-- A call that meets a circuit ready to probe is counted by the present period, which may begin
with it. -/
theorem Counts.probing (counts : l.Counts p s) {since : T} {probes : Nat}
    (probing : l.Probing p since probes) :
    1 ≤ (l.seePeriods p s .begin).begun ∧ s.begun ≤ (l.seePeriods p s .begin).begun ∧
      s.admitting.count (some (l.seePeriods p s .begin).begun) = probes := by
  rcases probing with phase | ⟨phase, late, rfl⟩
  · obtain ⟨positive, counted⟩ := counts.present since probes phase
    simp only [seePeriods, turnsHalfOpen_of_halfOpen phase, Bool.false_eq_true, if_false]
    exact ⟨positive, Nat.le_refl _, counted⟩
  · simp only [seePeriods, turnsHalfOpen_of_opened phase late, if_true]
    refine ⟨Nat.le_add_left .., Nat.le_add_right .., List.count_eq_zero.mpr fun member => ?_⟩
    -- The period that begins has admitted no call yet.
    have := counts.numbered _ member
    omega

theorem Counts.begin (counts : l.Counts p s) :
    (l.begin p).1.Counts p (l.seePeriods p s .begin) := by
  rcases l.closed_or_opened_or_probing p with
    phase | ⟨since, phase, early⟩ | ⟨since, probes, probing⟩
  · apply counts.unprobed (begin_closed p phase) rfl
    intro since probes halfOpen
    cases phase.symm.trans halfOpen
  · apply counts.unprobed (begin_opened p phase early) rfl
    intro other probes halfOpen
    cases phase.symm.trans halfOpen
  · obtain ⟨positive, later, counted⟩ := counts.probing probing
    have numbered : ∀ period, some period ∈ s.admitting →
        1 ≤ period ∧ period ≤ (l.seePeriods p s .begin).begun := fun period member =>
      ⟨(counts.numbered period member).1, Nat.le_trans (counts.numbered period member).2 later⟩
    rcases begin_probing p probing with ⟨taken, begun⟩ | ⟨left, begun⟩
    · have seen : l.seePeriods p s .begin =
          ⟨(l.seePeriods p s .begin).begun, s.admitting ++ [none]⟩ := by
        simp only [seePeriods, admitsProbe_eq begun, Call.isRunningProbe, Bool.false_eq_true,
          if_false]
      rw [begun, seen]
      refine ⟨List.rel_append counts.told (.cons Bool.noConfusion .nil), ?_, ?_, ?_⟩
      · intro period member
        apply numbered
        simpa using member
      · intro period
        simpa using counts.few period
      · intro other others halfOpen
        obtain ⟨rfl, rfl⟩ := Phase.halfOpen.inj halfOpen
        exact ⟨positive, by simpa using counted⟩
    · have seen : l.seePeriods p s .begin =
          ⟨(l.seePeriods p s .begin).begun,
            s.admitting ++ [some (l.seePeriods p s .begin).begun]⟩ := by
        simp only [seePeriods, admitsProbe_eq begun, Call.isRunningProbe, if_true]
      rw [begun, seen]
      refine ⟨List.rel_append counts.told (.cons (fun _ => rfl) .nil), ?_, ?_, ?_⟩
      · intro period member
        rcases List.mem_append.mp member with member | member
        · exact numbered period member
        · obtain rfl := Option.some.inj (List.mem_singleton.mp member)
          exact ⟨positive, Nat.le_refl _⟩
      · intro period
        by_cases present : period = (l.seePeriods p s .begin).begun
        · subst present
          simp only [List.count_append, counted, List.count_singleton_self]
          omega
        · have := counts.few period
          simpa [List.count_append, Ne.symm present] using this
      · intro other others halfOpen
        obtain ⟨rfl, rfl⟩ := Phase.halfOpen.inj halfOpen
        refine ⟨positive, ?_⟩
        simp only [List.count_append, counted, List.count_singleton_self]

variable [Add T]

/-- Only a call adds to the calls: all else leaves them, or ends one. -/
theorem calls_step {action : Action T ε α} (other : action ≠ .begin) :
    (l.step p action).calls = l.calls ∨
      ∃ place result, (l.step p action).calls = l.calls.set place (.ended result) := by
  cases action with
  | begin => exact absurd rfl other
  | finish number outcome =>
    by_cases running : ∃ isProbe, l.call? number = some (.running isProbe)
    · obtain ⟨isProbe, running⟩ := running
      cases outcome with
      | ok value =>
        refine .inr ⟨number - 1, .returned value, ?_⟩
        simp only [step, finish_ok p running]
      | error e =>
        refine .inr ⟨number - 1, .raised e, ?_⟩
        simp only [step, finish_error p running]
    · left
      simp only [step, finish_idle p outcome fun isProbe is => running ⟨isProbe, is⟩]
  | cancel number =>
    by_cases running : ∃ isProbe, l.call? number = some (.running isProbe)
    · obtain ⟨isProbe, running⟩ := running
      refine .inr ⟨number - 1, .cancelled, ?_⟩
      simp only [step, cancel_running running]
    · left
      simp only [step, cancel_idle fun isProbe is => running ⟨isProbe, is⟩]
  | advance elapsed => exact .inl rfl
  | reset => exact .inl rfl

theorem Counts.step (counts : l.Counts p s) (action : Action T ε α) :
    (l.step p action).Counts p (l.seePeriods p s action) := by
  by_cases begins : action = .begin
  · subst begins
    exact counts.begin
  · have seen : l.seePeriods p s action = s := by
      cases action with
      | begin => exact absurd rfl begins
      | _ => rfl
    rw [seen]
    refine ⟨?_, counts.numbered, counts.few, fun since probes halfOpen => ?_⟩
    · rcases calls_step (p := p) begins with same | ⟨place, result, ended⟩
      · rw [same]
        exact counts.told
      · rw [ended]
        exact Periods.tell_set counts.told place result
    · -- No other action makes a circuit half-open.
      rcases phase_step (p := p) (l := l) begins with phase | phase | phase <;>
        rw [phase] at halfOpen
      · cases halfOpen
      · cases halfOpen
      · exact counts.present since probes halfOpen

end Step

variable [Sub T] [LE T] [DecidableLE T] [Add T] (p : Policy T)

/-- The half-open periods of a run. -/
def periods (now : T) (trace : List (Action T ε α)) : Periods :=
  watched p (seePeriods p) (start now) .start trace

theorem counts_run (now : T) (trace : List (Action T ε α)) :
    (run p now trace).Counts p (periods p now trace) := by
  apply watched_invariant p (seePeriods p) (fun l s => Counts p s l)
  · intro action _ l s counts
    exact counts.step action
  · refine ⟨.nil, fun _ member => ?_, fun _ => Nat.zero_le _, fun _ _ halfOpen => ?_⟩
    · cases member
    · cases halfOpen

/-- At every moment of every run, the calls that one half-open period admitted and that still run
are no more than the probes that a half-open circuit may admit, whichever period it is. All running
probes together are no more than that for each period that has begun. -/
theorem running_probes_bounded_in_period (now : T) (trace : List (Action T ε α)) :
    let l := run p now trace
    let s := periods p now trace
    (∀ period, (s.runningIn l.calls period : Int) ≤ max 0 p.halfOpenMaxCalls) ∧
      (l.runningProbes : Int) ≤ s.begun * max 0 p.halfOpenMaxCalls := by
  intro l s
  have counts : l.Counts p s := counts_run p now trace
  have bound : ((p.halfOpenMaxCalls.toNat : Nat) : Int) = max 0 p.halfOpenMaxCalls := by omega
  constructor
  · intro period
    rw [← bound]
    apply Int.ofNat_le.mpr
    exact Nat.le_trans (Periods.runningIn_le_count counts.told.length_eq period) (counts.few period)
  · rw [← bound]
    exact_mod_cast counts.runningProbes_le

/-- Two probes are let through and one of them fails, which reopens the circuit while the other
still runs. When the recovery time has passed again, two more are let through beside it. -/
theorem slow_probe_outlives_period :
    let p : Policy Int := ⟨"default", 1, 1, 2⟩
    let trace : List (Action Int String Nat) :=
      [.begin, .finish 1 (.error "down"), .advance 1, .begin, .begin,
        .finish 2 (.error "down"), .advance 1, .begin, .begin]
    (∀ action ∈ trace, action ≠ .reset) ∧
      ¬ ((run p 0 trace).runningProbes : Int) ≤ p.halfOpenMaxCalls := by
  constructor
  · simp
  · decide

end Ledger

end Fitout.Breaker
