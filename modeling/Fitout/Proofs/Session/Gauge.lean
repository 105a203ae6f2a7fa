import Fitout.Proofs.Session.Isolation

/-!
# The gauge of active sessions

Whoever looks through the sessions, creates one or deletes one reports how many there are now.
Nothing else does, and in particular no command. So the number last reported is the number of
sessions.
-/

namespace Fitout

namespace Journal

/-- No event reports how many sessions there are. -/
def IsSilent (journal : Journal) : Prop :=
  ∀ event ∈ journal, ∀ count, event ≠ .activeSessions count

/-- The number of sessions is reported, and not again after that. -/
def Reports (journal : Journal) (count : Nat) : Prop :=
  ∃ before after, journal = before ++ Event.activeSessions count :: after ∧ IsSilent after

theorem isSilent_nil : IsSilent [] :=
  fun _ member => absurd member List.not_mem_nil

theorem IsSilent.append {earlier later : Journal} (first : earlier.IsSilent)
    (second : later.IsSilent) : IsSilent (earlier ++ later) :=
  fun event member => (List.mem_append.mp member).elim (first event) (second event)

theorem Reports.append {journal later : Journal} {count : Nat} (reports : journal.Reports count)
    (silent : later.IsSilent) : Reports (journal ++ later) count := by
  obtain ⟨before, after, rfl, quiet⟩ := reports
  exact ⟨before, after ++ later, by rw [List.append_assoc, List.cons_append], quiet.append silent⟩

theorem activeSessions_append_of_isSilent (earlier : Journal) {later : Journal}
    (silent : later.IsSilent) : activeSessions (earlier ++ later) = activeSessions earlier := by
  rw [activeSessions, List.foldl_append, ← activeSessions]
  generalize activeSessions earlier = shown
  induction later with
  | nil => rfl
  | cons event rest inductionHypothesis =>
    rw [List.foldl_cons]
    cases event with
    | activeSessions count => exact absurd rfl (silent _ List.mem_cons_self count)
    | _ =>
      exact inductionHypothesis fun other member => silent other (List.mem_cons_of_mem _ member)

theorem activeSessions_append_of_reports (earlier : Journal) {later : Journal} {count : Nat}
    (reports : later.Reports count) : activeSessions (earlier ++ later) = count := by
  obtain ⟨before, after, rfl, silent⟩ := reports
  have last : activeSessions ((earlier ++ before) ++ [.activeSessions count]) = count := by
    rw [activeSessions, List.foldl_append]
    rfl
  rw [List.append_cons before, ← List.append_assoc, ← List.append_assoc,
    activeSessions_append_of_isSilent _ silent, last]

end Journal

namespace Plan

open Journal

/-- The desk as work leaves it, whether it was ended by a refusal or not. -/
def Desk.ofResult {α : Type} : EStateM.Result Refusal Desk α → Desk
  | .ok _ desk | .error _ desk => desk

namespace Work

/-- Work that does not report how many sessions there are. -/
def IsSilent {α : Type} (work : Work α) : Prop :=
  ∀ desk, ∃ later, Journal.IsSilent later ∧
    (Desk.ofResult (work desk)).events = desk.events ++ later

section Steps

variable {α β : Type}

theorem isSilent_of_events_eq {work : Work α}
    (same : ∀ desk, (Desk.ofResult (work desk)).events = desk.events) : work.IsSilent :=
  fun desk => ⟨[], isSilent_nil, by rw [same, List.append_nil]⟩

theorem isSilent_pure (a : α) : (pure a : Work α).IsSilent :=
  isSilent_of_events_eq fun _ => rfl

theorem isSilent_throw (refusal : Refusal) : (throw refusal : Work α).IsSilent :=
  isSilent_of_events_eq fun _ => rfl

theorem isSilent_plan : plan.IsSilent :=
  isSilent_of_events_eq fun _ => rfl

theorem isSilent_write (plan : Plan) : (write plan).IsSilent :=
  isSilent_of_events_eq fun _ => rfl

theorem isSilent_writeCart (cart : Cart) : (writeCart cart).IsSilent :=
  isSilent_of_events_eq fun _ => rfl

theorem isSilent_take (x : Except Refusal α) : (take x).IsSilent := by
  cases x with
  | ok a => exact isSilent_pure a
  | error refusal => exact isSilent_throw refusal

theorem isSilent_report {events : Journal} (silent : Journal.IsSilent events) :
    (report events).IsSilent :=
  fun _ => ⟨events, silent, rfl⟩

theorem IsSilent.bind {work : Work α} {onward : α → Work β} (first : work.IsSilent)
    (rest : ∀ a, (onward a).IsSilent) : (work >>= onward).IsSilent := by
  intro desk
  obtain ⟨earlier, quiet, events⟩ := first desk
  change ∃ later, Journal.IsSilent later ∧
    (Desk.ofResult (EStateM.bind work onward desk)).events = desk.events ++ later
  rw [EStateM.bind]
  cases result : work desk with
  | error refusal left =>
    rw [result] at events
    exact ⟨earlier, quiet, events⟩
  | ok a left =>
    rw [result] at events
    obtain ⟨later, silent, more⟩ := rest a left
    refine ⟨earlier ++ later, quiet.append silent, ?_⟩
    rw [← List.append_assoc, ← events]
    exact more

theorem isSilent_choose (select : Selection → Except SelectionError Selection) :
    (choose select).IsSilent :=
  isSilent_plan.bind fun _ => (isSilent_take _).bind fun _ => isSilent_write _

end Steps

end Work

open Work

theorem isSilent_resolutionEvents (found : Pricing.Resolution) :
    Journal.IsSilent (resolutionEvents found) := by
  cases found <;> simp [resolutionEvents, Journal.IsSilent]

theorem isSilent_updateService (store : Catalog.Store) (names : Pricing.MarketNames) (id : Int)
    (entry : Json) (unit : Option String) :
    (carryOut store names (.updateService id entry unit)).IsSilent := by
  have reported : (do
      report [.cartChanged .updateService]
      return Answer.plan : Work Answer).IsSilent :=
    (isSilent_report (by simp [Journal.IsSilent])).bind fun _ => isSilent_pure _
  have entered {rest : Work Answer} (silent : rest.IsSilent) (given : Json) : (do
      writeCart (← take (Refusal.ofOverflow ((← plan).cart.setServiceQuantity id given)))
      rest : Work Answer).IsSilent :=
    isSilent_plan.bind fun _ => (isSilent_take _).bind fun _ =>
      (isSilent_writeCart _).bind fun _ => silent
  cases unit with
  | none =>
    cases entry with
    | null => exact reported
    | _ => exact entered reported _
  | some unit =>
    have unitWritten : (do
        writeCart ((← plan).cart.setServiceUnit id (some unit))
        report [.cartChanged .updateService]
        return Answer.plan : Work Answer).IsSilent :=
      isSilent_plan.bind fun _ => (isSilent_writeCart _).bind fun _ => reported
    cases entry with
    | null => exact unitWritten
    | _ => exact entered unitWritten _

theorem isSilent_carryOut (store : Catalog.Store) (names : Pricing.MarketNames)
    (command : Command) : (carryOut store names command).IsSilent := by
  have reported {events : Journal} (silent : Journal.IsSilent events) (answer : Answer) :
      (report events >>= fun _ => return answer).IsSilent :=
    (isSilent_report silent).bind fun _ => isSilent_pure _
  cases command with
  | get => exact isSilent_pure _
  | selectRoom id =>
    refine (isSilent_take _).bind fun snapshot => (isSilent_take _).bind fun category => ?_
    split
    · exact (isSilent_choose _).bind fun _ => isSilent_pure _
    · exact isSilent_throw _
  | selectElement id | selectSubElement id =>
    exact (isSilent_take _).bind fun _ => (isSilent_choose _).bind fun _ => isSilent_pure _
  | resetSelection => exact (isSilent_choose _).bind fun _ => isSilent_pure _
  | selectionOptions | listProducts =>
    exact (isSilent_take _).bind fun _ => isSilent_plan.bind fun _ => isSilent_pure _
  | addProduct id | addService id | applyPreset id =>
    exact (isSilent_take _).bind fun _ => isSilent_plan.bind fun _ =>
      (isSilent_writeCart _).bind fun _ => reported (by simp [Journal.IsSilent]) _
  | removeProduct id | removeService id =>
    exact isSilent_plan.bind fun _ => (isSilent_writeCart _).bind fun _ =>
      reported (by simp [Journal.IsSilent]) _
  | setProductQuantity id entry =>
    exact isSilent_plan.bind fun _ => (isSilent_take _).bind fun _ =>
      (isSilent_writeCart _).bind fun _ => reported (by simp [Journal.IsSilent]) _
  | updateService id entry unit => exact isSilent_updateService store names id entry unit
  | clearCart => exact (isSilent_writeCart _).bind fun _ => reported (by simp [Journal.IsSilent]) _
  | setMarket market =>
    exact isSilent_plan.bind fun _ => (isSilent_write _).bind fun _ =>
      reported (by simp [Journal.IsSilent]) _
  | coefficient =>
    exact isSilent_plan.bind fun _ => reported (isSilent_resolutionEvents _) _
  | total =>
    refine isSilent_plan.bind fun _ => (isSilent_report (isSilent_resolutionEvents _)).bind
      fun _ => (isSilent_report ?_).bind fun _ => isSilent_plan.bind fun _ =>
        (isSilent_take _).bind fun _ => isSilent_pure _
    simp [Journal.IsSilent]

end Plan

namespace Configurator

open Journal

variable {T : Type} [Sub T] [LT T] [DecidableLT T]

/-- What there is to report of an operation. -/
def report (c : Configurator T) : Operation T → Journal
  | .create now id => (c.openSession now id).events
  | .delete id => (c.deleteSession id).events
  | .visit now id command => (c.visit now id command).events
  | .takeTicket => []
  | .install ticket data => (c.store.offer ticket data).2.2

/-- What there is to report of a run. -/
def journal (c : Configurator T) : List (Operation T) → Journal
  | [] => []
  | operation :: rest => c.report operation ++ (c.perform operation).journal rest

omit [Sub T] [LT T] [DecidableLT T] in
theorem isSilent_syncEvents (c : Configurator T) (s : Session T) :
    Journal.IsSilent (c.syncEvents s) := by
  unfold syncEvents
  split
  · exact isSilent_nil
  · dsimp only
    split <;> simp [Journal.IsSilent]

theorem reports_evictEvents (r : Registry T) (now : T) :
    (r.evictEvents now).Reports (r.evict now).sessions.length :=
  ⟨_, [], rfl, isSilent_nil⟩

theorem reports_visit (c : Configurator T) (now : T) (id : String) (command : Plan.Command) :
    (c.visit now id command).events.Reports
      (c.visit now id command).configurator.registry.sessions.length := by
  have put (r : Registry T) (s : Session T) : (r.put s).sessions.length = r.sessions.length :=
    List.length_map _
  have evicted := reports_evictEvents c.registry now
  cases found : (c.registry.evict now).find? id with
  | none =>
    rw [(c.visit_missing now id command found).2]
    simpa only [visit, touch, found] using evicted
  | some before =>
    obtain ⟨later, silent, events⟩ := Plan.isSilent_carryOut c.store c.names command
      ⟨c.synced before.plan, (c.touch now id).events⟩
    have accessed : (c.touch now id).events.Reports (c.registry.evict now).sessions.length := by
      rw [c.touch_found now id found]
      exact evicted.append (c.isSilent_syncEvents before)
    have reports := accessed.append silent
    rw [← events] at reports
    rw [c.visit_eq_carryOut now id command found]
    generalize Plan.carryOut c.store c.names command _ = result at reports ⊢
    cases result with
    | ok answer left => simpa only [Plan.Desk.ofResult, put] using reports
    | error refusal left => simpa only [Plan.Desk.ofResult, put] using reports

theorem isSilent_offer (store : Catalog.Store) (ticket : Int) (data : Catalog.Data) :
    Journal.IsSilent (store.offer ticket data).2.2 := by
  have built (s : Catalog.Snapshot) : Journal.IsSilent s.events := by
    unfold Catalog.Snapshot.events
    split <;> simp [Journal.IsSilent]
  have placed (placing : Catalog.Placing) : Journal.IsSilent [placing.event] := by
    cases placing <;> simp [Journal.IsSilent, Catalog.Placing.event]
  exact (built _).append (placed _)

/-- After an operation the gauge shows how many sessions there are, if it did before. -/
theorem activeSessions_append_report (c : Configurator T) (operation : Operation T)
    {earlier : Journal} (shown : earlier.activeSessions = c.sessionCount) :
    activeSessions (earlier ++ c.report operation) = (c.perform operation).sessionCount := by
  cases operation with
  | create now id =>
    refine activeSessions_append_of_reports earlier ⟨_, [.sessionCreated id], rfl, ?_⟩
    simp [Journal.IsSilent]
  | delete id =>
    rw [report, perform]
    unfold deleteSession
    split
    · exact (activeSessions_append_of_isSilent earlier isSilent_nil).trans shown
    · refine activeSessions_append_of_reports earlier ⟨[], [.sessionDeleted id], rfl, ?_⟩
      simp [Journal.IsSilent]
  | visit now id command =>
    exact activeSessions_append_of_reports earlier (c.reports_visit now id command)
  | takeTicket => exact (activeSessions_append_of_isSilent earlier isSilent_nil).trans shown
  | install ticket data =>
    exact (activeSessions_append_of_isSilent earlier (isSilent_offer c.store ticket data)).trans
      shown

theorem activeSessions_append_journal (c : Configurator T) (operations : List (Operation T))
    {earlier : Journal} (shown : earlier.activeSessions = c.sessionCount) :
    activeSessions (earlier ++ c.journal operations) =
      (operations.foldl perform c).sessionCount := by
  induction operations generalizing c earlier with
  | nil => rwa [journal, List.append_nil]
  | cons operation rest inductionHypothesis =>
    rw [journal, ← List.append_assoc]
    exact inductionHypothesis _ (c.activeSessions_append_report operation shown)

end Configurator

end Fitout
