import Fitout.Proofs.Breaker.Run

/-!
# Recovery of a breaker

A half-open circuit counts the probes it admitted. A probe that returns or raises ends the
half-open period and with it the count, but a probe that is cancelled leaves both as they are. The
central invariant says so: the count is the number of calls of this period that still run or were
cancelled. So once no call runs and the recovery time has passed, only cancelled probes can keep
the next call out.
-/

namespace Fitout.Breaker

variable {T ε α : Type}

namespace Call

def isCancelled : Call ε α → Bool
  | .ended .cancelled => true
  | _ => false

/-- A probe takes a slot while it runs, and a cancelled one never gives it back. -/
def holdsSlot : Call ε α → Bool
  | .running _ | .ended .cancelled => true
  | _ => false

end Call

theorem countP_drop_set {β : Type} {f : β → Bool} {calls : List β} {place : Nat} {old new : β}
    (found : calls[place]? = some old) (same : f new = f old) (before : Nat) :
    ((calls.set place new).drop before).countP f = (calls.drop before).countP f := by
  have mapped : (calls.set place new).map f = calls.map f := by
    refine List.ext_getElem? fun index => ?_
    by_cases here : place = index
    · subst here
      have bound := (List.getElem?_eq_some_iff.mp found).1
      rw [List.getElem?_map, List.getElem?_map, List.getElem?_set_self bound, found]
      simp only [Option.map_some, same]
    · rw [List.getElem?_map, List.getElem?_map, List.getElem?_set_ne here]
  have counts (list : List β) : (list.drop before).countP f =
      ((list.map f).drop before).countP (fun counted => counted) := by
    rw [← List.map_drop, List.countP_map]
    rfl
  rw [counts, counts, mapped]

namespace Ledger

/-- What a watcher kept is what the breaker acts on. -/
structure Sound (p : Policy T) (l : Ledger T ε α) (w : Watch T) : Prop where
  opened : ∀ since, l.breaker.phase = .opened since →
    w.failedAt = some since ∧ p.failureThreshold ≤ l.breaker.failures
  halfOpen : ∀ since probes, l.breaker.phase = .halfOpen since probes →
    w.failedAt = some since ∧ p.failureThreshold ≤ l.breaker.failures ∧
      w.callsBefore ≤ l.calls.length ∧
      probes = (l.calls.drop w.callsBefore).countP Call.holdsSlot

theorem sound_of_closed {p : Policy T} {l : Ledger T ε α} {w : Watch T}
    (phase : l.breaker.phase = .closed) : l.Sound p w where
  opened since opened := by rw [phase] at opened; cases opened
  halfOpen since probes halfOpen := by rw [phase] at halfOpen; cases halfOpen

section Step

variable {p : Policy T} {l : Ledger T ε α} {w : Watch T}

section Begin

variable [Sub T] [LE T] [DecidableLE T]

theorem turnsHalfOpen_eq_false
    (stays : ∀ since, l.breaker.phase = .opened since →
      (l.begin p).1.breaker.phase = .opened since) : l.turnsHalfOpen p = false := by
  unfold turnsHalfOpen
  split
  · rename_i since later probes opened halfOpen
    rw [stays since opened] at halfOpen
    cases halfOpen
  · rfl

theorem phase_begin_probing {since : T} {probes : Nat} (probing : l.Probing p since probes) :
    ∃ admitted, (l.begin p).1.breaker.phase = .halfOpen since admitted := by
  rcases begin_probing p probing with ⟨_, begun⟩ | ⟨_, begun⟩
  · exact ⟨probes, by rw [begun]⟩
  · exact ⟨probes + 1, by rw [begun]⟩

theorem turnsHalfOpen_of_halfOpen {since : T} {probes : Nat}
    (phase : l.breaker.phase = .halfOpen since probes) : l.turnsHalfOpen p = false := by
  refine turnsHalfOpen_eq_false fun other opened => ?_
  rw [phase] at opened
  cases opened

theorem turnsHalfOpen_of_opened {since : T} (phase : l.breaker.phase = .opened since)
    (late : p.recoveryTimeout ≤ l.now - since) : l.turnsHalfOpen p = true := by
  obtain ⟨admitted, halfOpen⟩ := phase_begin_probing (.inr ⟨phase, late, rfl⟩)
  simp only [turnsHalfOpen, phase, halfOpen]

/-- When a circuit is ready to probe, the count it starts from is that of the present half-open
period, which may begin with this call. -/
theorem Sound.probing (sound : l.Sound p w) {since : T} {probes : Nat}
    (probing : l.Probing p since probes) :
    (w.step p l .begin).failedAt = some since ∧
      p.failureThreshold ≤ l.breaker.failures ∧
      (w.step p l .begin).callsBefore ≤ l.calls.length ∧
      probes = (l.calls.drop (w.step p l .begin).callsBefore).countP Call.holdsSlot := by
  rcases probing with phase | ⟨phase, late, rfl⟩
  · have unchanged : w.step p l .begin = w := by
      simp only [Watch.step, turnsHalfOpen_of_halfOpen phase]
      rfl
    rw [unchanged]
    exact sound.halfOpen since probes phase
  · obtain ⟨failedAt, failures⟩ := sound.opened since phase
    simp only [Watch.step, turnsHalfOpen_of_opened phase late, if_true]
    exact ⟨failedAt, failures, Nat.le_refl _, by rw [List.drop_length]; rfl⟩

theorem Sound.begin (sound : l.Sound p w) : (l.begin p).1.Sound p (w.step p l .begin) := by
  rcases l.closed_or_opened_or_probing p with
    phase | ⟨since, phase, early⟩ | ⟨since, probes, probing⟩
  · rw [begin_closed p phase]
    exact sound_of_closed phase
  · have begun := begin_opened p phase early
    have quiet : l.turnsHalfOpen p = false := by
      refine turnsHalfOpen_eq_false fun other opened => ?_
      rw [begun]
      exact opened
    simp only [Watch.step, quiet, begun]
    refine ⟨sound.opened, fun other probes halfOpen => ?_⟩
    rw [phase] at halfOpen
    cases halfOpen
  · obtain ⟨failedAt, failures, before, counted⟩ := sound.probing probing
    -- The new call counts exactly if it is admitted.
    have count (call : Call ε α) :
        ((l.calls ++ [call]).drop (w.step p l .begin).callsBefore).countP Call.holdsSlot =
          probes + if call.holdsSlot then 1 else 0 := by
      rw [List.drop_append_of_le_length before, List.countP_append, ← counted,
        List.countP_singleton]
    have longer (call : Call ε α) :
        (w.step p l .begin).callsBefore ≤ (l.calls ++ [call]).length := by
      rw [List.length_append]
      exact Nat.le_add_right_of_le before
    rcases begin_probing p probing with ⟨_, begun⟩ | ⟨_, begun⟩
    · rw [begun]
      refine ⟨by simp, fun other others halfOpen => ?_⟩
      obtain ⟨rfl, rfl⟩ := Phase.halfOpen.inj halfOpen
      exact ⟨failedAt, failures, longer _, (count (.ended (.rejected .probesTaken))).symm⟩
    · rw [begun]
      refine ⟨by simp, fun other others halfOpen => ?_⟩
      obtain ⟨rfl, rfl⟩ := Phase.halfOpen.inj halfOpen
      exact ⟨failedAt, failures, longer _, (count (.running true)).symm⟩

end Begin

theorem Sound.fail (sound : l.Sound p w) (calls : List (Call ε α)) :
    Sound p { l with breaker := (l.breaker.fail p l.now).breaker, calls }
      { w with failedAt := some l.now } := by
  rcases fail_cases p l.now l.breaker with ⟨opens, failed⟩ | ⟨notHalfOpen, few, failed⟩
  · rw [failed]
    refine ⟨fun since opened => ?_, by simp⟩
    obtain rfl := Phase.opened.inj opened
    refine ⟨rfl, ?_⟩
    rcases opens with ⟨since, probes, halfOpen⟩ | many
    · have := (sound.halfOpen since probes halfOpen).2.1
      simp only
      omega
    · exact many
  · rw [failed]
    refine ⟨fun since opened => ?_, fun since probes halfOpen => ?_⟩
    · have := (sound.opened since opened).2
      omega
    · exact absurd halfOpen (notHalfOpen since probes)

theorem Sound.cancel (sound : l.Sound p w) (number : Nat) : (l.cancel number).Sound p w := by
  by_cases running : ∃ isProbe, l.call? number = some (.running isProbe)
  · obtain ⟨isProbe, running⟩ := running
    rw [cancel_running running]
    have found : l.calls[number - 1]? = some (.running isProbe) := by
      unfold call? at running
      split at running
      · cases running
      · exact running
    refine ⟨sound.opened, fun since probes halfOpen => ?_⟩
    obtain ⟨failedAt, failures, before, counted⟩ := sound.halfOpen since probes halfOpen
    have same :
        (.ended .cancelled : Call ε α).holdsSlot = (.running isProbe : Call ε α).holdsSlot :=
      rfl
    have kept := countP_drop_set found same w.callsBefore
    refine ⟨failedAt, failures, ?_, counted.trans kept.symm⟩
    rw [List.length_set]
    exact before
  · rw [cancel_idle fun isProbe is => running ⟨isProbe, is⟩]
    exact sound

variable [Sub T] [LE T] [DecidableLE T] [Add T]

theorem Sound.step (sound : l.Sound p w) (action : Action T ε α) :
    (l.step p action).Sound p (w.step p l action) := by
  cases action with
  | begin => exact sound.begin
  | finish number outcome =>
    by_cases running : ∃ isProbe, l.call? number = some (.running isProbe)
    · obtain ⟨isProbe, running⟩ := running
      cases outcome with
      | ok value =>
        simp only [Ledger.step, finish_ok p running]
        exact sound_of_closed rfl
      | error e =>
        simp only [Ledger.step, Watch.step, finish_error p running, isRunning_eq_true running,
          if_true]
        exact sound.fail _
    · have idle : ∀ isProbe, l.call? number ≠ some (.running isProbe) :=
        fun isProbe is => running ⟨isProbe, is⟩
      have unwatched : w.step p l (.finish number outcome) = w := by
        cases outcome with
        | ok value => rfl
        | error e => simp only [Watch.step, isRunning_eq_false idle]; rfl
      rw [unwatched]
      simp only [Ledger.step, finish_idle p outcome idle]
      exact sound
  | cancel number => exact sound.cancel number
  | advance elapsed => exact ⟨sound.opened, sound.halfOpen⟩
  | reset => exact sound_of_closed rfl

theorem sound_run (p : Policy T) (now : T) (trace : List (Action T ε α)) :
    (run p now trace).Sound p (.ofRun p now trace) := by
  have fold {l : Ledger T ε α} {w : Watch T} (sound : l.Sound p w) :
      (trace.foldl (Ledger.step p) l).Sound p (.after p l w trace) := by
    induction trace generalizing l w with
    | nil => exact sound
    | cons action rest inductionHypothesis => exact inductionHypothesis (sound.step action)
  exact fold (sound_of_closed rfl)

end Step

theorem call?_append (l : Ledger T ε α) (call : Call ε α) (breaker : Breaker T) :
    ({ l with breaker, calls := l.calls ++ [call] } : Ledger T ε α).call? (l.calls.length + 1) =
      some call := by
  simp [call?]

theorem countP_holdsSlot_of_quiet {calls : List (Call ε α)}
    (quiet : ∀ call ∈ calls, ∀ isProbe, call ≠ .running isProbe) :
    calls.countP Call.holdsSlot = calls.countP Call.isCancelled := by
  refine List.countP_congr fun call member => ?_
  cases call with
  | running isProbe => exact absurd rfl (quiet _ member isProbe)
  | ended result => cases result <;> rfl

variable [Add T] [Sub T] [LE T] [DecidableLE T]

/-- Once no call runs and the recovery time has passed since the latest failure, the next call is
admitted, unless the circuit is half-open and all slots of this half-open period went to probes
that were cancelled. In that case the call is rejected. -/
theorem admits_next_iff_slot_left (p : Policy T) (mayProbe : 1 ≤ p.halfOpenMaxCalls) (now : T)
    (trace : List (Action T ε α))
    (quiet : ∀ call ∈ (run p now trace).calls, ∀ isProbe, call ≠ .running isProbe)
    (recovered : ∀ failedAt, (Watch.ofRun p now trace).failedAt = some failedAt →
      p.recoveryTimeout ≤ (run p now trace).now - failedAt) :
    let l := run p now trace
    let lost := (l.calls.drop (Watch.ofRun p now trace).callsBefore).countP Call.isCancelled
    let next := (l.begin p).1.call? (l.calls.length + 1)
    let noSlotLeft := (∃ since probes, l.breaker.phase = .halfOpen since probes) ∧
      p.halfOpenMaxCalls ≤ lost
    ((∃ isProbe, next = some (.running isProbe)) ↔ ¬ noSlotLeft) ∧
      (noSlotLeft → next = some (.ended (.rejected .probesTaken))) := by
  intro l lost next noSlotLeft
  have sound : l.Sound p (.ofRun p now trace) := sound_run p now trace
  have counted (since : T) (probes : Nat) (phase : l.breaker.phase = .halfOpen since probes) :
      probes = lost := by
    obtain ⟨_, _, _, counted⟩ := sound.halfOpen since probes phase
    rw [counted]
    exact countP_holdsSlot_of_quiet fun call member => quiet call (List.mem_of_mem_drop member)
  rcases l.closed_or_opened_or_probing p with
    phase | ⟨since, phase, early⟩ | ⟨since, probes, probing⟩
  · have admitted : next = some (.running false) := by
      simp only [next, begin_closed p phase]
      exact l.call?_append _ _
    have slotLeft : ¬ noSlotLeft := by
      rintro ⟨⟨since, probes, halfOpen⟩, _⟩
      rw [phase] at halfOpen
      cases halfOpen
    exact ⟨⟨fun _ => slotLeft, fun _ => ⟨_, admitted⟩⟩, fun none => absurd none slotLeft⟩
  · exact absurd (recovered since (sound.opened since phase).1) early
  · rcases begin_probing p probing with ⟨taken, begun⟩ | ⟨left, begun⟩
    · have rejected : next = some (.ended (.rejected .probesTaken)) := by
        simp only [next, begun]
        exact l.call?_append _ _
      have none : noSlotLeft := by
        rcases probing with phase | ⟨_, _, rfl⟩
        · exact ⟨⟨since, probes, phase⟩, counted since probes phase ▸ taken⟩
        · omega
      refine ⟨⟨?_, fun slotLeft => absurd none slotLeft⟩, fun _ => rejected⟩
      rintro ⟨isProbe, admitted⟩
      rw [rejected] at admitted
      cases admitted
    · have admitted : next = some (.running true) := by
        simp only [next, begun]
        exact l.call?_append _ _
      have slotLeft : ¬ noSlotLeft := by
        rintro ⟨⟨other, others, halfOpen⟩, taken⟩
        rcases probing with phase | ⟨phase, _, _⟩
        · rw [← counted since probes phase] at taken
          omega
        · rw [phase] at halfOpen
          cases halfOpen
      exact ⟨⟨fun _ => slotLeft, fun _ => ⟨_, admitted⟩⟩, fun none => absurd none slotLeft⟩

/-- One of two probes was cancelled, and the other slot still lets a call in. -/
theorem second_slot_admits :
    let p : Policy Int := ⟨"default", 1, 1, 2⟩
    let trace : List (Action Int String Nat) :=
      [.begin, .finish 1 (.error "down"), .advance 1, .begin, .cancel 2]
    ∃ isProbe, ((run p 0 trace).begin p).1.call? 3 = some (.running isProbe) := by
  intro p trace
  have quiet : ∀ call ∈ (run p 0 trace).calls, ∀ isProbe, call ≠ .running isProbe := by
    intro call member isProbe
    rcases member with _ | ⟨_, _ | ⟨_, ⟨⟩⟩⟩ <;> simp
  have recovered : ∀ failedAt, (Watch.ofRun p 0 trace).failedAt = some failedAt →
      p.recoveryTimeout ≤ (run p 0 trace).now - failedAt := by
    intro failedAt failed
    obtain rfl := Option.some.inj failed
    decide
  refine (admits_next_iff_slot_left p (by decide) 0 trace quiet recovered).1.mpr ?_
  rintro ⟨_, taken⟩
  revert taken
  decide

/-- The only probe was cancelled: no call runs and the recovery time has passed, but however long
one waits, the next call is rejected. -/
theorem cancelled_probe_blocks_forever :
    let p : Policy Int := ⟨"default", 1, 1, 1⟩
    let trace : List (Action Int String Nat) :=
      [.begin, .finish 1 (.error "down"), .advance 1, .begin, .cancel 2]
    let l := run p 0 trace
    1 ≤ p.halfOpenMaxCalls ∧
      (∀ call ∈ l.calls, ∀ isProbe, call ≠ .running isProbe) ∧
      (∀ failedAt, (Watch.ofRun p 0 trace).failedAt = some failedAt →
        p.recoveryTimeout ≤ l.now - failedAt) ∧
      ∀ elapsed : Int, ((l.advance elapsed).begin p).1.call? 3 =
        some (.ended (.rejected .probesTaken)) := by
  refine ⟨by decide, ?_, ?_, fun elapsed => rfl⟩
  · intro call member isProbe
    rcases member with _ | ⟨_, _ | ⟨_, ⟨⟩⟩⟩ <;> simp
  · intro failedAt failed
    obtain rfl := Option.some.inj failed
    decide

end Ledger

end Fitout.Breaker
