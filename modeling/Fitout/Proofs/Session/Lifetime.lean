import Fitout.Proofs.Session.Gauge

/-!
# How long a session lives

A session is found from its creation on, until it is deleted or was idle for longer than the time to
live. It is accessed whenever an operation finds it, whatever becomes of the operation then, and an
expired session that is still in the registry makes no difference to what is found. Times are exact
numbers here and the clock never goes back.
-/

namespace Fitout

/-- Whether an operation is refused because its session is not there. -/
def Refusal.isMissingSession : Refusal → Bool
  | .domain (.sessionNotFound _) => true
  | .domain _ | .overflow => false

namespace Plan

open Catalog

/-- If this is refused, it is not for want of the session. -/
def FindsSession {α : Type} (x : Except Refusal α) : Prop :=
  ∀ refusal, x = .error refusal → refusal.isMissingSession = false

theorem findsSession_ok {α : Type} (a : α) : FindsSession (.ok a) :=
  fun _ refused => nomatch refused

theorem findsSession_error {α : Type} {refusal : Refusal}
    (other : refusal.isMissingSession = false) : FindsSession (.error refusal : Except _ α) := by
  intro same refused
  rwa [← Except.error.inj refused]

theorem FindsSession.bind {α β : Type} {x : Except Refusal α} {f : α → Except Refusal β}
    (first : FindsSession x) (rest : ∀ a, FindsSession (f a)) : FindsSession (x >>= f) := by
  cases x with
  | ok a => exact rest a
  | error refusal => exact findsSession_error (first refusal rfl)

theorem findsSession_ofOverflow {α : Type} (x : Except Overflow α) :
    FindsSession (Refusal.ofOverflow x) := by
  cases x with
  | ok a => exact findsSession_ok a
  | error e =>
    cases e
    exact findsSession_error rfl

theorem findsSession_ofSelection (x : Except SelectionError Selection) :
    FindsSession (ofSelection x) := by
  cases x with
  | ok s => exact findsSession_ok s
  | error e => exact findsSession_error rfl

theorem findsSession_current (store : Store) : FindsSession (Refusal.ofDomain store.current) := by
  unfold Store.current
  split
  · exact findsSession_ok _
  · exact findsSession_error rfl

/-- Looking something up in the catalog. -/
theorem findsSession_lookup {α : Type} (store : Store) {look : Snapshot → Except DomainError α}
    (rest : ∀ snapshot, FindsSession (Refusal.ofDomain (look snapshot))) :
    FindsSession (Refusal.ofDomain (store.current >>= look)) := by
  have current := findsSession_current store
  cases installed : store.current with
  | ok snapshot => exact rest snapshot
  | error e =>
    rw [installed] at current
    exact findsSession_error (current _ rfl)

theorem findsSession_category (store : Store) (id : Int) :
    FindsSession (Refusal.ofDomain (store.category id)) := by
  refine findsSession_lookup store fun _ => ?_
  split
  · exact findsSession_ok _
  · exact findsSession_error rfl

theorem findsSession_product (store : Store) (id : Int) :
    FindsSession (Refusal.ofDomain (store.product id)) := by
  refine findsSession_lookup store fun _ => ?_
  split
  · exact findsSession_ok _
  · exact findsSession_error rfl

theorem findsSession_service (store : Store) (id : Int) :
    FindsSession (Refusal.ofDomain (store.service id)) := by
  refine findsSession_lookup store fun _ => ?_
  split
  · exact findsSession_ok _
  · exact findsSession_error rfl

theorem findsSession_preset (store : Store) (id : Int) :
    FindsSession (Refusal.ofDomain (store.preset id)) := by
  refine findsSession_lookup store fun _ => ?_
  split
  · exact findsSession_ok _
  · exact findsSession_error rfl

theorem findsSession_updateService (plan : Plan) (id : Int) (entry : Json)
    (unit : Option String) : FindsSession (plan.updateService id entry unit) := by
  cases entry with
  | null => exact findsSession_ok _
  | _ => exact (findsSession_ofOverflow _).bind fun _ => findsSession_ok _

/-- No command is refused for want of its session. -/
theorem findsSession_run (store : Store) (names : Pricing.MarketNames) (plan : Plan)
    (command : Command) : FindsSession (plan.run store names command) := by
  cases command with
  | get | resetSelection | removeProduct _ | removeService _ | clearCart | setMarket _
  | coefficient => exact findsSession_ok _
  | selectRoom id =>
    refine (findsSession_current store).bind fun _ => (findsSession_category store id).bind
      fun _ => ?_
    split
    · exact findsSession_ok _
    · intro refusal refused
      obtain rfl := Except.error.inj refused
      rfl
  | selectElement id | selectSubElement id =>
    exact (findsSession_category store id).bind fun _ => (findsSession_ofSelection _).bind
      fun _ => findsSession_ok _
  | selectionOptions | listProducts =>
    exact (findsSession_current store).bind fun _ => findsSession_ok _
  | addProduct id =>
    exact (findsSession_product store id).bind fun _ => findsSession_ok _
  | addService id =>
    exact (findsSession_service store id).bind fun _ => findsSession_ok _
  | applyPreset id =>
    exact (findsSession_preset store id).bind fun _ => findsSession_ok _
  | setProductQuantity id entry =>
    exact (findsSession_ofOverflow _).bind fun _ => findsSession_ok _
  | updateService id entry unit => exact findsSession_updateService plan id entry unit
  | total => exact (findsSession_ofOverflow _).bind fun _ => findsSession_ok _

end Plan

namespace Registry

variable {T : Type} [Sub T] [LT T] [DecidableLT T]

/-- Where all sessions of an id are the same one, that one is found until it is expired. -/
theorem find?_evict_of_forall_eq {r : Registry T} {id : String} {s : Session T}
    (listed : r.sessionsOf id ≠ []) (same : ∀ old ∈ r.sessionsOf id, old = s) (now : T) :
    (r.evict now).find? id = if r.ttl < now - s.lastSeen then none else some s := by
  rw [find?_eq_head?, sessionsOf_evict, List.eq_replicate_of_mem same, List.filter_replicate]
  by_cases expired : r.ttl < now - s.lastSeen
  · simp [isExpired, expired]
  · simp [isExpired, expired, List.head?_replicate, listed]

theorem find?_evict_put_self {r : Registry T} {s old : Session T}
    (found : r.find? s.id = some old) (now : T) :
    ((r.put s).evict now).find? s.id = if r.ttl < now - s.lastSeen then none else some s := by
  refine find?_evict_of_forall_eq (r := r.put s) ?_ ?_ now
  · rw [sessionsOf_put_self]
    intro none
    rw [find?_eq_head?, List.map_eq_nil_iff.mp none] at found
    cases found
  · intro other member
    rw [sessionsOf_put_self] at member
    obtain ⟨_, _, rfl⟩ := List.mem_map.mp member
    rfl

theorem find?_evict_enter_self (r : Registry T) (s : Session T) (now : T) :
    ((r.enter s).evict now).find? s.id = if r.ttl < now - s.lastSeen then none else some s := by
  refine find?_evict_of_forall_eq (r := r.enter s) ?_ ?_ now
  · rw [sessionsOf_enter_self]
    split
    · exact List.cons_ne_nil _ _
    · rename_i taken
      simpa using taken
  · intro other member
    rw [sessionsOf_enter_self] at member
    split at member
    · exact List.mem_singleton.mp member
    · obtain ⟨_, _, rfl⟩ := List.mem_map.mp member
      rfl

end Registry

namespace Configurator

section Found

variable {T : Type}

/-- Whether an operation finds its session. -/
def Step.finds {α : Type} (step : Step T α) : Bool :=
  match step.result with
  | .ok _ => true
  | .error refusal => !refusal.isMissingSession

theorem finds_deleteSession (c : Configurator T) (id : String) :
    (c.deleteSession id).finds = (c.registry.find? id).isSome := by
  cases found : c.registry.find? id with
  | none => simp only [deleteSession, found, Step.finds, Refusal.isMissingSession]; rfl
  | some s => simp only [deleteSession, found, Step.finds, Option.isSome_some]

variable [Sub T] [LT T] [DecidableLT T]

theorem finds_visit (c : Configurator T) (now : T) (id : String) (command : Plan.Command) :
    (c.visit now id command).finds = ((c.registry.evict now).find? id).isSome := by
  cases found : (c.registry.evict now).find? id with
  | none =>
    rw [Step.finds, (c.visit_missing now id command found).1]
    rfl
  | some before =>
    cases ran : (c.synced before.plan).run c.store c.names command with
    | error refusal =>
      have other := Plan.findsSession_run c.store c.names _ command refusal ran
      rw [Step.finds, (c.visit_refused now id command found ran).1]
      simp only [other, Bool.not_false, Option.isSome_some]
    | ok done =>
      rw [Step.finds, (c.visit_done now id command found ran).1]
      rfl

/-- What a visit that finds its session makes of the registry. -/
theorem exists_put_of_finds {c : Configurator T} {now : T} {id : String} {command : Plan.Command}
    (finds : (c.visit now id command).finds = true) :
    ∃ old s : Session T, (c.registry.evict now).find? id = some old ∧ s.id = id ∧
      s.lastSeen = now ∧
      (c.visit now id command).configurator.registry = (c.registry.evict now).put s := by
  rw [finds_visit] at finds
  obtain ⟨before, found⟩ := Option.isSome_iff_exists.mp finds
  have same := (Registry.of_find?_eq_some found).2
  cases ran : (c.synced before.plan).run c.store c.names command with
  | error refusal =>
    refine ⟨before, c.accessed now before, found, same, rfl, ?_⟩
    rw [(c.visit_refused now id command found ran).2]
  | ok done =>
    refine ⟨before, c.commanded now before done, found, same, rfl, ?_⟩
    rw [c.configurator_visit now id command found ran]

end Found

/-- What there is to say of a session at some moment. -/
structure Biography (T : Type) where
  /-- When the session was last accessed, if it was created at all. -/
  lastAccess? : Option T
  isDeleted : Bool
  deriving DecidableEq

namespace Biography

variable {T : Type} [Sub T] [LT T] [DecidableLT T]

def unborn : Biography T :=
  ⟨none, false⟩

/-- The biography goes on with an operation. A session is accessed by its creation, and by any visit
that finds it, whatever becomes of the command. -/
def hear (life : Biography T) (c : Configurator T) (id : String) (operation : Operation T) :
    Biography T :=
  if operation.addressee? = some id then
    match operation with
    | .create now _ => ⟨some now, false⟩
    | .delete _ => if (c.deleteSession id).finds then { life with isDeleted := true } else life
    | .visit now _ command =>
      if (c.visit now id command).finds then { life with lastAccess? := some now } else life
    | .takeTicket | .install _ _ => life
  else life

/-- The biography after more operations. -/
def after (life : Biography T) (c : Configurator T) (id : String) :
    List (Operation T) → Biography T
  | [] => life
  | operation :: rest => (life.hear c id operation).after (c.perform operation) id rest

/-- The session was created, has not been deleted and was not idle for too long. -/
def IsAlive [LE T] (life : Biography T) (ttl now : T) : Prop :=
  life.isDeleted = false ∧ ∃ last, life.lastAccess? = some last ∧ now - last ≤ ttl

end Biography

section Gone

variable {T : Type} [Sub T] [LT T] [DecidableLT T]

theorem sessionsOf_swept_eq_nil {c : Configurator T} {id : String}
    (gone : c.registry.sessionsOf id = []) (operation : Operation T) :
    (c.swept operation).sessionsOf id = [] := by
  unfold swept
  split
  · exact gone
  · rw [Registry.sessionsOf_evict, gone, List.filter_nil]

theorem finds_visit_eq_false_iff {c : Configurator T} {now : T} {id : String}
    {command : Plan.Command} :
    (c.visit now id command).finds = false ↔ (c.registry.evict now).sessionsOf id = [] := by
  rw [finds_visit, Registry.isSome_find?]
  simp

/-- Nothing but a creation under its id brings a session back. -/
theorem sessionsOf_perform_eq_nil {c : Configurator T} {id : String}
    (gone : c.registry.sessionsOf id = []) {operation : Operation T}
    (creates : ∀ now, operation ≠ .create now id) :
    (c.perform operation).registry.sessionsOf id = [] := by
  by_cases addressed : operation.addressee? = some id
  · cases operation with
    | create now other =>
      obtain rfl := Option.some.inj addressed
      exact absurd rfl (creates now)
    | delete other =>
      obtain rfl := Option.some.inj addressed
      rw [perform, deleteSession_leaves, Registry.sessionsOf_erase_self]
    | visit now other command =>
      obtain rfl := Option.some.inj addressed
      have missed : (c.registry.evict now).sessionsOf other = [] :=
        sessionsOf_swept_eq_nil gone (.visit now other command)
      have left := (c.visit_missing now other command
        (by rw [Registry.find?_eq_head?, missed, List.head?_nil])).2
      rw [perform, left, missed]
    | takeTicket | install ticket data => cases addressed
  · rw [(c.confines_perform operation).others id addressed]
    exact sessionsOf_swept_eq_nil gone operation

theorem sessionsOf_foldl_perform_eq_nil {id : String} {operations : List (Operation T)}
    (creates : ∀ now, .create now id ∉ operations) {c : Configurator T}
    (gone : c.registry.sessionsOf id = []) :
    (operations.foldl perform c).registry.sessionsOf id = [] := by
  induction operations generalizing c with
  | nil => exact gone
  | cons operation rest inductionHypothesis =>
    refine inductionHypothesis (fun now member => creates now (List.mem_cons_of_mem _ member)) ?_
    refine sessionsOf_perform_eq_nil gone fun now same => creates now ?_
    rw [same]
    exact List.mem_cons_self

/-- A session that is not found is not found again. -/
theorem never_found_again {c : Configurator T} {now : T} {id : String} {command : Plan.Command}
    (missed : (c.visit now id command).finds = false) {onward : List (Operation T)}
    (creates : ∀ now, .create now id ∉ onward) (later : T) (next : Plan.Command) :
    ((onward.foldl perform (c.visit now id command).configurator).visit later id next).finds =
      false := by
  have absent := finds_visit_eq_false_iff.mp missed
  have gone : (c.visit now id command).configurator.registry.sessionsOf id = [] := by
    rw [(c.visit_missing now id command
      (by rw [Registry.find?_eq_head?, absent, List.head?_nil])).2]
    exact absent
  rw [finds_visit_eq_false_iff, Registry.sessionsOf_evict,
    sessionsOf_foldl_perform_eq_nil creates gone, List.filter_nil]

end Gone

section Clock

variable {T : Type} [AddCommGroup T] [LinearOrder T] [IsOrderedAddMonoid T] {id : String}

/-- At these times a session is found as long as its biography says that it is alive. -/
structure Tells (id : String) (ttl : T) (times : List T) (c : Configurator T)
    (life : Biography T) : Prop where
  limit : c.registry.ttl = ttl
  found : ∀ now ∈ times,
    ((c.registry.evict now).find? id).isSome = true ↔ life.IsAlive ttl now

omit [IsOrderedAddMonoid T] in
theorem isSome_iff_isAlive {session? : Option (Session T)} {s : Session T} {ttl last now : T}
    (found : session? = if ttl < now - last then none else some s) :
    session?.isSome = true ↔ Biography.IsAlive ⟨some last, false⟩ ttl now := by
  subst found
  constructor
  · intro listed
    refine ⟨rfl, last, rfl, not_lt.mp fun idle => ?_⟩
    rw [if_pos idle] at listed
    cases listed
  · rintro ⟨_, _, same, within⟩
    obtain rfl := Option.some.inj same
    rw [if_neg (not_lt.mpr within)]
    rfl

theorem Tells.perform {ttl : T} {operation : Operation T} {times : List T} {c : Configurator T}
    {life : Biography T} (tells : Tells id ttl (operation.time?.toList ++ times) c life)
    (order : ∀ now ∈ operation.time?.toList, ∀ later ∈ times, now ≤ later) :
    Tells id ttl times (c.perform operation) (life.hear c id operation) := by
  refine ⟨(c.confines_perform operation).ttl.trans tells.limit, fun later member => ?_⟩
  have before := tells.found later (List.mem_append_right _ member)
  by_cases addressed : operation.addressee? = some id
  · simp only [Biography.hear, if_pos addressed]
    cases operation with
    | create now other =>
      obtain rfl := Option.some.inj addressed
      have found := (c.registry.evict now).find?_evict_enter_self ⟨other, .empty, now⟩ later
      rw [← tells.limit]
      exact isSome_iff_isAlive found
    | delete other =>
      obtain rfl := Option.some.inj addressed
      simp only [perform, finds_deleteSession]
      cases found : c.registry.find? other with
      | none =>
        rw [deleteSession_leaves, Registry.erase_eq_self found]
        exact before
      | some s =>
        simp [deleteSession_leaves, Registry.find?_eq_head?, Registry.sessionsOf_evict,
          Registry.sessionsOf_erase_self, Biography.IsAlive]
    | visit now other command =>
      obtain rfl := Option.some.inj addressed
      have order := order now List.mem_cons_self later member
      have alive := tells.found now List.mem_cons_self
      simp only [perform]
      cases finds : (c.visit now other command).finds with
      | true =>
        obtain ⟨old, s, found, rfl, rfl, left⟩ := exists_put_of_finds finds
        rw [found] at alive
        obtain ⟨kept, _⟩ := alive.mp rfl
        simp only [left, if_true, kept]
        rw [← tells.limit]
        exact isSome_iff_isAlive (Registry.find?_evict_put_self found later)
      | false =>
        rw [finds_visit] at finds
        have missed : (c.registry.evict now).find? other = none := by simpa using finds
        rw [(c.visit_missing now other command missed).2]
        simp only [Registry.evict_evict _ order]
        exact before
    | takeTicket | install ticket data => cases addressed
  · simp only [Biography.hear, if_neg addressed, Registry.find?_eq_head?]
    rw [c.sessionsOf_evict_perform addressed fun now at_ => order now at_ later member,
      ← Registry.find?_eq_head?]
    exact before

theorem Tells.run {ttl : T} {operations : List (Operation T)} {upcoming : List T}
    (chronological : (times operations ++ upcoming).Pairwise (· ≤ ·)) {c : Configurator T}
    {life : Biography T} (tells : Tells id ttl (times operations ++ upcoming) c life) :
    Tells id ttl upcoming (operations.foldl Configurator.perform c)
      (life.after c id operations) := by
  -- On the operations: what is found is told for all times that are still to come.
  induction operations generalizing c life with
  | nil => exact tells
  | cons operation operations inductionHypothesis =>
    rw [times_cons, List.append_assoc] at chronological tells
    obtain ⟨_, rest, order⟩ := List.pairwise_append.mp chronological
    exact inductionHypothesis rest (tells.perform order)

theorem Agree.run {full kept : List (Operation T)} (omits : Omits id full kept)
    {upcoming : List T} (chronological : (times full ++ upcoming).Pairwise (· ≤ ·))
    {c d : Configurator T} (agree : Agree id (times full ++ upcoming) c d) :
    Agree id upcoming (full.foldl Configurator.perform c) (kept.foldl Configurator.perform d) := by
  induction omits generalizing c d with
  | nil => exact agree
  | @keep operation full kept _ inductionHypothesis =>
    rw [times_cons, List.append_assoc] at chronological agree
    obtain ⟨_, rest, order⟩ := List.pairwise_append.mp chronological
    by_cases addressed : operation.addressee? = some id
    · exact inductionHypothesis rest (agree.addressed addressed).2
    · exact inductionHypothesis rest (agree.keep addressed order)
  | @drop operation other addressed differs full kept _ inductionHypothesis =>
    rw [times_cons, List.append_assoc] at chronological agree
    obtain ⟨_, rest, order⟩ := List.pairwise_append.mp chronological
    have others : operation.addressee? ≠ some id := by
      rw [addressed]
      exact fun same => differs (Option.some.inj same)
    exact inductionHypothesis rest (agree.drop addressed others order)

omit [AddCommGroup T] [IsOrderedAddMonoid T] in
theorem pairwise_times_append {operations : List (Operation T)}
    (chronological : (times operations).Pairwise (· ≤ ·)) {now : T}
    (latest : ∀ earlier ∈ times operations, earlier ≤ now) :
    (times operations ++ [now]).Pairwise (· ≤ ·) := by
  refine List.pairwise_append.mpr ⟨chronological, List.pairwise_singleton _ _, ?_⟩
  intro earlier member later only
  obtain rfl := List.mem_singleton.mp only
  exact latest earlier member

/-- After any run, a visit finds its session just if the session was created, has not been deleted
and was last accessed no longer ago than the time to live. Once it is not found it is never found
again, unless a session is created under its id; what was done on other sessions makes no
difference; and the gauge shows how many sessions are in the registry. -/
theorem session_lives_while_accessed (names : Pricing.MarketNames) (ttl : T) (id : String)
    (operations : List (Operation T)) (chronological : (times operations).Pairwise (· ≤ ·)) :
    let c := operations.foldl perform (start names ttl)
    let life := Biography.unborn.after (start names ttl) id operations
    (∀ now command, (∀ earlier ∈ times operations, earlier ≤ now) →
      ((c.visit now id command).finds = true ↔ life.isDeleted = false ∧
        ∃ last, life.lastAccess? = some last ∧ now - last ≤ ttl)) ∧
    (∀ now command, (c.visit now id command).finds = false →
      ∀ onward : List (Operation T), (∀ later, .create later id ∉ onward) → ∀ later next,
        ((onward.foldl perform (c.visit now id command).configurator).visit later id next).finds =
          false) ∧
    (∀ kept, Omits id operations kept →
      ∀ now command, (∀ earlier ∈ times operations, earlier ≤ now) →
        (c.visit now id command).finds =
          ((kept.foldl perform (start names ttl)).visit now id command).finds) ∧
    ((start names ttl).journal operations).activeSessions = c.sessionCount := by
  intro c life
  refine ⟨?_, ?_, ?_, ?_⟩
  · intro now command latest
    have begun : Tells id ttl (times operations ++ [now]) (start names ttl) .unborn := by
      refine ⟨rfl, fun _ _ => ⟨fun found => ?_, ?_⟩⟩
      · cases found
      · rintro ⟨_, _, none, _⟩
        cases none
    have tells := begun.run (pairwise_times_append chronological latest)
    rw [finds_visit]
    exact tells.found now List.mem_cons_self
  · intro now command missed onward creates later next
    exact never_found_again missed creates later next
  · intro kept omits now command latest
    have agree : Agree id [now] c (kept.foldl perform (start names ttl)) :=
      Agree.run omits (pairwise_times_append chronological latest) ⟨rfl, rfl, rfl, fun _ _ => rfl⟩
    rw [finds_visit, finds_visit, Registry.find?_eq_head?, Registry.find?_eq_head?,
      agree.sessions now List.mem_cons_self]
  · have shown : Journal.activeSessions [] = (start names ttl).sessionCount := rfl
    exact (start names ttl).activeSessions_append_journal operations shown

/-- The room cannot be selected without a catalog, but the session was accessed and lives on, up to
the time to live and no longer. -/
theorem refused_command_prolongs_life :
    let c : Configurator Int := start ⟨none, none⟩ 60
    let operations : List (Operation Int) :=
      [.create 0 "a", .create 10 "b", .visit 60 "a" (.selectRoom 1)]
    (times operations).Pairwise (· ≤ ·) ∧
      (((operations.foldl perform c).visit 120 "a" .get).finds = true ∧
        ((operations.foldl perform c).visit 121 "a" .get).finds = false) ∧
      (c.journal operations).activeSessions = 2 := by
  intro c operations
  have chronological : (times operations).Pairwise (· ≤ ·) := by decide
  have latest {now : Int} (late : 60 ≤ now) : ∀ earlier ∈ times operations, earlier ≤ now := by
    intro earlier member
    have bounded : ∀ earlier ∈ times operations, earlier ≤ 60 := by decide
    exact (bounded earlier member).trans late
  have accessed : (Biography.unborn.after c "a" operations) = ⟨some 60, false⟩ := by decide +kernel
  obtain ⟨found, _, _, gauge⟩ :=
    session_lives_while_accessed ⟨none, none⟩ (60 : Int) "a" operations chronological
  refine ⟨chronological, ⟨?_, ?_⟩, gauge.trans (by decide +kernel)⟩
  · rw [found 120 .get (latest (by decide)), accessed]
    exact ⟨rfl, 60, rfl, by decide⟩
  · rw [← Bool.not_eq_true, found 121 .get (latest (by decide)), accessed]
    rintro ⟨_, last, same, within⟩
    obtain rfl := Option.some.inj same
    exact absurd within (by decide)

end Clock

end Configurator

end Fitout
