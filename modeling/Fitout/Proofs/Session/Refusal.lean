import Fitout.Proofs.Cart.Coercion
import Fitout.Proofs.Session.Run

/-!
# Refused operations

Every operation on a session begins with an access to it. One that is refused leaves all sessions as
the access alone leaves them, and no counter has moved.
-/

namespace Fitout

namespace Journal

/-- No event counts in a series. -/
def IsUncounted (journal : Journal) : Prop :=
  ∀ event ∈ journal, Series.ofEvent? event = none

theorem IsUncounted.append {earlier later : Journal} (first : earlier.IsUncounted)
    (second : later.IsUncounted) : IsUncounted (earlier ++ later) := by
  intro event member
  exact (List.mem_append.mp member).elim (first event) (second event)

theorem IsUncounted.count_append {later : Journal} (uncounted : later.IsUncounted)
    (earlier : Journal) (series : Series) :
    Journal.count (earlier ++ later) series = Journal.count earlier series := by
  have none : later.countP (Series.ofEvent? · == some series) = 0 := by
    apply List.countP_eq_zero.mpr
    intro event member counted
    rw [uncounted event member] at counted
    cases counted
  rw [Journal.count, List.countP_append, none, Nat.add_zero, Journal.count]

end Journal

namespace Configurator

variable {T : Type} [Sub T] [LT T] [DecidableLT T]

theorem isUncounted_evictEvents (r : Registry T) (now : T) : (r.evictEvents now).IsUncounted := by
  intro event member
  rcases List.mem_append.mp member with evicted | active
  · split at evicted
    · cases evicted
    · rw [List.mem_singleton.mp evicted]
      rfl
  · rw [List.mem_singleton.mp active]
    rfl

omit [Sub T] [LT T] [DecidableLT T] in
theorem isUncounted_syncEvents (c : Configurator T) (s : Session T) :
    (c.syncEvents s).IsUncounted := by
  intro event member
  unfold syncEvents at member
  split at member
  · cases member
  · dsimp only at member
    split at member
    · cases member
    · rw [List.mem_singleton.mp member]
      rfl

theorem isUncounted_touch (c : Configurator T) (now : T) (id : String) :
    (c.touch now id).events.IsUncounted := by
  cases found : (c.registry.evict now).find? id with
  | none =>
    simp only [touch, found]
    exact isUncounted_evictEvents c.registry now
  | some before =>
    rw [c.touch_found now id found]
    exact (isUncounted_evictEvents c.registry now).append (c.isUncounted_syncEvents before)

/-- Reading a session is an access and nothing else. -/
theorem configurator_visit_get (c : Configurator T) (now : T) (id : String) :
    (c.visit now id .get).configurator = (c.touch now id).configurator := by
  cases found : (c.registry.evict now).find? id with
  | none => simp only [visit, touch, found]
  | some before =>
    rw [c.configurator_visit now id .get found rfl, c.touch_found now id found]
    rfl

theorem of_visit_eq_error {c : Configurator T} {now : T} {id : String} {command : Plan.Command}
    {refusal : Refusal} (refused : (c.visit now id command).result = .error refusal) :
    (c.visit now id command).configurator = (c.touch now id).configurator ∧
      (c.visit now id command).events.IsUncounted := by
  cases found : (c.registry.evict now).find? id with
  | none =>
    have same : c.visit now id command =
        ⟨.error (.domain (.sessionNotFound id)), (c.touch now id).configurator,
          (c.touch now id).events⟩ := by
      simp only [visit, touch, found]
    rw [same]
    exact ⟨rfl, c.isUncounted_touch now id⟩
  | some before =>
    cases ran : (c.synced before.plan).run c.store c.names command with
    | ok done =>
      rw [(c.visit_done now id command found ran).1] at refused
      cases refused
    | error other =>
      obtain ⟨logged, uncounted, visited⟩ := c.visit_eq_of_refused now id command found ran
      rw [visited, c.touch_found now id found]
      refine ⟨rfl, Journal.IsUncounted.append ?_ uncounted⟩
      exact (isUncounted_evictEvents c.registry now).append (c.isUncounted_syncEvents before)

omit [Sub T] [LT T] [DecidableLT T] in
theorem of_deleteSession_eq_error {c : Configurator T} {id : String} {refusal : Refusal}
    (refused : (c.deleteSession id).result = .error refusal) :
    (c.deleteSession id).configurator = c ∧ (c.deleteSession id).events.IsUncounted := by
  unfold deleteSession at refused ⊢
  split at refused
  · exact ⟨rfl, fun event member => absurd member List.not_mem_nil⟩
  · cases refused

/-- An operation on a session that is refused, for whatever reason, leaves the whole registry as
reading the session leaves it, and no counter has moved. A refused deletion leaves all as it was,
and creating a session is never refused. -/
theorem refused_operation_leaves_access (c : Configurator T) :
    (∀ now id command refusal, (c.visit now id command).result = .error refusal →
      (c.visit now id command).configurator = (c.visit now id .get).configurator ∧
      ∀ journal series, Journal.count (journal ++ (c.visit now id command).events) series =
        Journal.count journal series) ∧
    (∀ id refusal, (c.deleteSession id).result = .error refusal →
      (c.deleteSession id).configurator = c ∧
      ∀ journal series, Journal.count (journal ++ (c.deleteSession id).events) series =
        Journal.count journal series) ∧
    ∀ now, ∃ session, (c.createSession now).result = .ok session := by
  refine ⟨?_, ?_, fun now => ⟨_, rfl⟩⟩
  · intro now id command refusal refused
    obtain ⟨left, uncounted⟩ := of_visit_eq_error refused
    exact ⟨left.trans (c.configurator_visit_get now id).symm, uncounted.count_append⟩
  · intro id refusal refused
    obtain ⟨left, uncounted⟩ := of_deleteSession_eq_error refused
    exact ⟨left, uncounted.count_append⟩

/-- The quantity is too large for a double, so the unit is not set either. -/
theorem refused_quantity_spares_unit :
    let c : Configurator Int := (start ⟨none, none⟩ 60).run
      [.install 1 ⟨[], [], [⟨1, "Painting", 20, none⟩], [], []⟩, .create 0,
        .visit 1 "s1" (.addService 1)]
    let command : Plan.Command := .updateService 1 (.whole Decimal.Double.wholeLimit) (some "m²")
    (c.visit 2 "s1" command).result = .error .overflow ∧
      (c.visit 2 "s1" command).configurator = (c.visit 2 "s1" .get).configurator := by
  intro c command
  let cart : Cart := ⟨[], [⟨1, 20, some (.real 1), "", "Painting"⟩]⟩
  have found : (c.registry.evict 2).find? "s1" = some ⟨"s1", ⟨.empty, cart, none⟩, 1⟩ := rfl
  have beyond : Quantity.isBeyondDouble (.whole Decimal.Double.wholeLimit) = true := by
    decide +kernel
  have tooLarge : cart.setServiceQuantity 1 (.whole Decimal.Double.wholeLimit) =
      .error .beyondDouble :=
    Cart.setServiceQuantity_of_measure_eq_error cart 1 (Quantity.measure_of_beyond beyond)
  have ran : Plan.updateService ⟨.empty, cart, none⟩ 1 (.whole Decimal.Double.wholeLimit)
      (some "m²") = .error .overflow := by
    simp only [Plan.updateService, tooLarge]
    rfl
  have refused : (c.visit 2 "s1" command).result = .error .overflow :=
    (c.visit_refused 2 "s1" command found ran).1
  obtain ⟨onVisits, _⟩ := c.refused_operation_leaves_access
  exact ⟨refused, (onVisits 2 "s1" command .overflow refused).1⟩

end Configurator

end Fitout
