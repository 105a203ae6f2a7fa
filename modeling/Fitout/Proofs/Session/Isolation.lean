import Fitout.Proofs.Session.Lookup
import Fitout.Proofs.Session.Run

/-!
# Sessions do not interfere

An operation reads the store, the names and what is found under its id, and writes under its id
only. Two runs that differ in operations on other sessions therefore agree on a session, but for one
thing: the clock of the longer run is read more often, and each reading drops what is expired. What
is dropped early would not be found at any later time either.
-/

namespace Fitout

namespace Configurator

section Operations

variable {T : Type}

/-- What is asked of the service. The id of a created session comes from outside. -/
inductive Operation (T : Type) where
  | create (now : T) (id : String)
  | delete (id : String)
  | visit (now : T) (id : String) (command : Plan.Command)
  | takeTicket
  | install (ticket : Int) (data : Catalog.Data)

namespace Operation

def time? : Operation T → Option T
  | .create now _ => some now
  | .visit now _ _ => some now
  | .delete _ | .takeTicket | .install _ _ => none

/-- The session that an operation is addressed to. -/
def addressee? : Operation T → Option String
  | .create _ id => some id
  | .delete id => some id
  | .visit _ id _ => some id
  | .takeTicket | .install _ _ => none

end Operation

/-- The second run is the first without some operations that are addressed to other sessions. -/
inductive Omits (id : String) : List (Operation T) → List (Operation T) → Prop where
  | nil : Omits id [] []
  | keep (operation : Operation T) {full kept : List (Operation T)} (rest : Omits id full kept) :
      Omits id (operation :: full) (operation :: kept)
  | drop {operation : Operation T} {other : String} (addressed : operation.addressee? = some other)
      (differs : other ≠ id) {full kept : List (Operation T)} (rest : Omits id full kept) :
      Omits id (operation :: full) kept

/-- What the caller of an operation gets, if it is to be compared. -/
inductive Reply (T : Type) where
  | created (result : Except Refusal (Session T))
  | visited (result : Except Refusal (Visit T))
  | silent

/-- What one operation on a session shows of it: the reply, and the session afterwards. -/
structure Glimpse (T : Type) where
  reply : Reply T
  session? : Option (Session T)

variable [Sub T] [LT T] [DecidableLT T]

def perform (c : Configurator T) : Operation T → Configurator T
  | .create now id => (c.openSession now id).configurator
  | .delete id => (c.deleteSession id).configurator
  | .visit now id command => (c.visit now id command).configurator
  | .takeTicket => { c with store := c.store.takeTicket.2 }
  | .install ticket data => { c with store := (c.store.offer ticket data).2.1 }

/-- A deletion may find a session that is expired, so its reply is left out. -/
def reply (c : Configurator T) : Operation T → Reply T
  | .create now id => .created (c.openSession now id).result
  | .visit now id command => .visited (c.visit now id command).result
  | .delete _ | .takeTicket | .install _ _ => .silent

def glimpse (c : Configurator T) (id : String) (operation : Operation T) : Glimpse T :=
  ⟨c.reply operation, (c.perform operation).registry.find? id⟩

/-- What the operations that are addressed to a session show of it in a run. -/
def sees (c : Configurator T) (id : String) : List (Operation T) → List (Glimpse T)
  | [] => []
  | operation :: operations =>
    let later := (c.perform operation).sees id operations
    if operation.addressee? = some id then c.glimpse id operation :: later else later

end Operations

section Perform

variable {T : Type}

/-- What an operation makes of the store, whatever the sessions are. -/
def Operation.storeAfter (store : Catalog.Store) : Operation T → Catalog.Store
  | .takeTicket => store.takeTicket.2
  | .install ticket data => (store.offer ticket data).2.1
  | .create _ _ | .delete _ | .visit _ _ _ => store

theorem Operation.storeAfter_of_addressed {operation : Operation T} {id : String}
    (addressed : operation.addressee? = some id) (store : Catalog.Store) :
    operation.storeAfter store = store := by
  cases operation with
  | create now other => rfl
  | delete other => rfl
  | visit now other command => rfl
  | takeTicket | install ticket data => cases addressed

theorem deleteSession_leaves (c : Configurator T) (id : String) :
    (c.deleteSession id).configurator = { c with registry := c.registry.erase id } := by
  cases found : c.registry.find? id with
  | none => simp only [deleteSession, found, Registry.erase_eq_self found]
  | some s => simp only [deleteSession, found]

variable [Sub T] [LT T] [DecidableLT T]

/-- The operation that an action is, with the id that a created session gets. -/
def Operation.ofAction (c : Configurator T) : Action T → Operation T
  | .create now => .create now (Registry.sessionId c.registry.created)
  | .delete id => .delete id
  | .visit now id command => .visit now id command
  | .takeTicket => .takeTicket
  | .install ticket data => .install ticket data

theorem perform_ofAction (c : Configurator T) (action : Action T) :
    c.perform (.ofAction c action) = c.step action := by
  cases action <;> rfl

/-- Every run of the configurator is one of operations. -/
theorem exists_operations_of_run (c : Configurator T) (actions : List (Action T)) :
    ∃ operations : List (Operation T), operations.foldl perform c = c.run actions := by
  induction actions generalizing c with
  | nil => exact ⟨[], rfl⟩
  | cons action actions inductionHypothesis =>
    obtain ⟨operations, same⟩ := inductionHypothesis (c.step action)
    refine ⟨.ofAction c action :: operations, ?_⟩
    rw [List.foldl_cons, perform_ofAction, same]
    rfl

/-- The registry when an operation looks at it. -/
def swept (c : Configurator T) (operation : Operation T) : Registry T :=
  match operation.time? with
  | none => c.registry
  | some now => c.registry.evict now

/-- What an operation leaves of what it is not about. -/
structure Confines (c : Configurator T) (operation : Operation T) (after : Configurator T) :
    Prop where
  store : after.store = operation.storeAfter c.store
  names : after.names = c.names
  ttl : after.registry.ttl = c.registry.ttl
  others : ∀ id, operation.addressee? ≠ some id →
    after.registry.sessionsOf id = (c.swept operation).sessionsOf id

theorem confines_perform (c : Configurator T) (operation : Operation T) :
    c.Confines operation (c.perform operation) := by
  cases operation with
  | create now other =>
    refine ⟨rfl, rfl, rfl, fun id differs => ?_⟩
    exact Registry.sessionsOf_enter_of_ne _ fun same => differs (congrArg some same)
  | delete other =>
    rw [perform, deleteSession_leaves]
    refine ⟨rfl, rfl, rfl, fun id differs => ?_⟩
    exact Registry.sessionsOf_erase_of_ne _ fun same => differs (congrArg some same)
  | visit now other command =>
    rw [perform]
    rcases c.visit_leaves now other command with left | ⟨s, rfl, _, left⟩
    · rw [left]
      exact ⟨rfl, rfl, rfl, fun _ _ => rfl⟩
    · rw [left]
      refine ⟨rfl, rfl, rfl, fun id differs => ?_⟩
      exact Registry.sessionsOf_put_of_ne _ fun same => differs (congrArg some same)
  | takeTicket => exact ⟨rfl, rfl, rfl, fun _ _ => rfl⟩
  | install ticket data => exact ⟨rfl, rfl, rfl, fun _ _ => rfl⟩

/-- A visit gives and leaves the same where the same is found. -/
theorem visit_congr {store : Catalog.Store} {names : Pricing.MarketNames} {r r' : Registry T}
    {now : T} {id : String}
    (same : (r.evict now).sessionsOf id = (r'.evict now).sessionsOf id) (command : Plan.Command) :
    let c : Configurator T := ⟨store, names, r⟩
    let d : Configurator T := ⟨store, names, r'⟩
    (c.visit now id command).result = (d.visit now id command).result ∧
      (c.visit now id command).configurator.registry.sessionsOf id =
        (d.visit now id command).configurator.registry.sessionsOf id := by
  intro c d
  have lookup : (r'.evict now).find? id = (r.evict now).find? id := by
    rw [Registry.find?_eq_head?, Registry.find?_eq_head?, same]
  cases found : (r.evict now).find? id with
  | none =>
    rw [found] at lookup
    obtain ⟨result, left⟩ := c.visit_missing now id command found
    obtain ⟨result', left'⟩ := d.visit_missing now id command lookup
    rw [result, result', left, left']
    exact ⟨rfl, same⟩
  | some before =>
    rw [found] at lookup
    obtain ⟨_, rfl⟩ := Registry.of_find?_eq_some found
    have put (s : Session T) (named : s.id = before.id) :
        ((r.evict now).put s).sessionsOf before.id =
          ((r'.evict now).put s).sessionsOf before.id := by
      rw [← named] at same ⊢
      rw [Registry.sessionsOf_put_self, Registry.sessionsOf_put_self, same]
    cases ran : (c.synced before.plan).run store names command with
    | error refusal =>
      obtain ⟨result, left⟩ := c.visit_refused now before.id command found ran
      obtain ⟨result', left'⟩ := d.visit_refused now before.id command lookup ran
      rw [result, result', left, left']
      exact ⟨rfl, put (c.accessed now before) rfl⟩
    | ok done =>
      rw [(c.visit_done now before.id command found ran).1,
        (d.visit_done now before.id command lookup ran).1,
        c.configurator_visit now before.id command found ran,
        d.configurator_visit now before.id command lookup ran]
      exact ⟨rfl, put (c.commanded now before done) rfl⟩

/-- An operation gives and leaves the same on its session where the same is found. -/
theorem perform_congr (store : Catalog.Store) (names : Pricing.MarketNames) {r r' : Registry T}
    {operation : Operation T} {id : String} (addressed : operation.addressee? = some id)
    (same : ∀ now ∈ operation.time?,
      (r.evict now).sessionsOf id = (r'.evict now).sessionsOf id) :
    let c : Configurator T := ⟨store, names, r⟩
    let d : Configurator T := ⟨store, names, r'⟩
    c.reply operation = d.reply operation ∧
      (c.perform operation).registry.sessionsOf id =
        (d.perform operation).registry.sessionsOf id := by
  intro c d
  cases operation with
  | create now other =>
    obtain rfl := Option.some.inj addressed
    refine ⟨rfl, ?_⟩
    let session : Session T := ⟨other, .empty, now⟩
    change ((r.evict now).enter session).sessionsOf session.id =
      ((r'.evict now).enter session).sessionsOf session.id
    rw [Registry.sessionsOf_enter_self, Registry.sessionsOf_enter_self, same now rfl]
  | delete other =>
    obtain rfl := Option.some.inj addressed
    refine ⟨rfl, ?_⟩
    simp only [perform, deleteSession_leaves, Registry.sessionsOf_erase_self]
  | visit now other command =>
    obtain rfl := Option.some.inj addressed
    obtain ⟨result, left⟩ := visit_congr (same now rfl) command
    exact ⟨congrArg Reply.visited result, left⟩
  | takeTicket | install ticket data => cases addressed

/-- At these times a session looks the same from two states. -/
structure Agree (id : String) (times : List T) (c d : Configurator T) : Prop where
  store : c.store = d.store
  names : c.names = d.names
  ttl : c.registry.ttl = d.registry.ttl
  sessions : ∀ now ∈ times,
    (c.registry.evict now).sessionsOf id = (d.registry.evict now).sessionsOf id

theorem Agree.addressed {id : String} {operation : Operation T} {times : List T}
    {c d : Configurator T}
    (agree : Agree id (operation.time?.toList ++ times) c d)
    (addressed : operation.addressee? = some id) :
    c.glimpse id operation = d.glimpse id operation ∧
      Agree id times (c.perform operation) (d.perform operation) := by
  obtain ⟨store, names, r⟩ := c
  obtain ⟨store', names', r'⟩ := d
  obtain rfl : store = store' := agree.store
  obtain rfl : names = names' := agree.names
  have onFull := confines_perform ⟨store, names, r⟩ operation
  have onKept := confines_perform ⟨store, names, r'⟩ operation
  have ttl := onFull.ttl.trans (agree.ttl.trans onKept.ttl.symm)
  have same (now : T) (at_ : now ∈ operation.time?) :
      (r.evict now).sessionsOf id = (r'.evict now).sessionsOf id :=
    agree.sessions now (List.mem_append_left times (Option.mem_toList.mpr at_))
  obtain ⟨replied, left⟩ := perform_congr store names addressed same
  constructor
  · simp only [glimpse, replied, Registry.find?_eq_head?, left]
  · exact ⟨onFull.store.trans onKept.store.symm, onFull.names.trans onKept.names.symm, ttl,
      fun later _ => Registry.sessionsOf_evict_congr ttl left later⟩

/-- The clock readings of a run. -/
def times (operations : List (Operation T)) : List T :=
  operations.filterMap Operation.time?

omit [Sub T] [LT T] [DecidableLT T] in
theorem times_cons (operation : Operation T) (operations : List (Operation T)) :
    times (operation :: operations) = operation.time?.toList ++ times operations := by
  cases time : operation.time? with
  | none => simp [times, time]
  | some now => simp [times, time]

end Perform

section Clock

variable {T : Type} [AddCommGroup T] [LinearOrder T] [IsOrderedAddMonoid T] {id : String}

/-- Later, an operation on another session has made no difference. -/
theorem sessionsOf_evict_perform (c : Configurator T) {operation : Operation T}
    (others : operation.addressee? ≠ some id) {later : T}
    (order : ∀ now ∈ operation.time?.toList, now ≤ later) :
    ((c.perform operation).registry.evict later).sessionsOf id =
      (c.registry.evict later).sessionsOf id := by
  have confines := c.confines_perform operation
  have swept : (c.swept operation).evict later = c.registry.evict later ∧
      (c.swept operation).ttl = c.registry.ttl := by
    unfold swept
    split
    · exact ⟨rfl, rfl⟩
    · -- What this operation evicted would be gone by the later time without it.
      rename_i now at_
      exact ⟨c.registry.evict_evict (order now (Option.mem_toList.mpr at_)), rfl⟩
  rw [← swept.1]
  exact Registry.sessionsOf_evict_congr (confines.ttl.trans swept.2.symm)
    (confines.others id others) later

theorem Agree.drop {operation : Operation T} {times : List T} {c d : Configurator T}
    (agree : Agree id (operation.time?.toList ++ times) c d) {other : String}
    (addressed : operation.addressee? = some other) (others : operation.addressee? ≠ some id)
    (order : ∀ now ∈ operation.time?.toList, ∀ later ∈ times, now ≤ later) :
    Agree id times (c.perform operation) d := by
  have confines := c.confines_perform operation
  refine ⟨?_, confines.names.trans agree.names, confines.ttl.trans agree.ttl, ?_⟩
  · rw [confines.store, Operation.storeAfter_of_addressed addressed, agree.store]
  · intro later member
    rw [c.sessionsOf_evict_perform others fun now at_ => order now at_ later member]
    exact agree.sessions later (List.mem_append_right _ member)

theorem Agree.keep {operation : Operation T} {times : List T} {c d : Configurator T}
    (agree : Agree id (operation.time?.toList ++ times) c d)
    (others : operation.addressee? ≠ some id)
    (order : ∀ now ∈ operation.time?.toList, ∀ later ∈ times, now ≤ later) :
    Agree id times (c.perform operation) (d.perform operation) := by
  have onFull := c.confines_perform operation
  have onKept := d.confines_perform operation
  refine ⟨?_, ?_, ?_, ?_⟩
  · rw [onFull.store, onKept.store, agree.store]
  · rw [onFull.names, onKept.names, agree.names]
  · rw [onFull.ttl, onKept.ttl, agree.ttl]
  · intro later member
    rw [c.sessionsOf_evict_perform others fun now at_ => order now at_ later member,
      d.sessionsOf_evict_perform others fun now at_ => order now at_ later member]
    exact agree.sessions later (List.mem_append_right _ member)

theorem sees_eq_of_omits {full kept : List (Operation T)} (omits : Omits id full kept)
    (chronological : (times full).Pairwise (· ≤ ·)) {c d : Configurator T}
    (agree : Agree id (times full) c d) : c.sees id full = d.sees id kept := by
  -- On what is left out: the states agree on the session at all times that are still to come.
  induction omits generalizing c d with
  | nil => rfl
  | @keep operation full kept _ inductionHypothesis =>
    rw [times_cons] at chronological agree
    obtain ⟨_, rest, order⟩ := List.pairwise_append.mp chronological
    by_cases addressed : operation.addressee? = some id
    · obtain ⟨same, agree⟩ := agree.addressed addressed
      simp only [sees, if_pos addressed]
      rw [same, inductionHypothesis rest agree]
    · simp only [sees, if_neg addressed]
      exact inductionHypothesis rest (agree.keep addressed order)
  | @drop operation other addressed differs full kept _ inductionHypothesis =>
    rw [times_cons] at chronological agree
    obtain ⟨_, rest, order⟩ := List.pairwise_append.mp chronological
    have others : operation.addressee? ≠ some id := by
      rw [addressed]
      exact fun same => differs (Option.some.inj same)
    simp only [sees, if_neg others]
    exact inductionHypothesis rest (agree.drop addressed others order)

/-- Operations on other sessions make no difference to what a session shows: neither to the replies
of its operations, but for deletions, nor to what is found under its id after each of them. -/
theorem other_sessions_do_not_interfere (names : Pricing.MarketNames) (ttl : T) (id : String)
    {full kept : List (Operation T)} (omits : Omits id full kept)
    (chronological : (times full).Pairwise (· ≤ ·)) :
    (start names ttl).sees id full = (start names ttl).sees id kept :=
  sees_eq_of_omits omits chronological ⟨rfl, rfl, rfl, fun _ _ => rfl⟩

/-- The second session evicts the first one early, which is expired all the same when it is asked
for. -/
theorem early_eviction_is_not_seen :
    let c : Configurator Int := start ⟨none, none⟩ 60
    let full : List (Operation Int) := [.create 0 "a", .create 70 "b", .visit 71 "a" .get]
    let kept : List (Operation Int) := [.create 0 "a", .visit 71 "a" .get]
    Omits "a" full kept ∧ (times full).Pairwise (· ≤ ·) ∧ c.sees "a" full = c.sees "a" kept ∧
      ((c.perform (.create 0 "a")).registry.find? "a").isSome = true ∧
      (((c.perform (.create 0 "a")).perform (.create 70 "b")).registry.find? "a").isSome =
        false := by
  intro c full kept
  have omits : Omits "a" full kept := .keep _ (.drop rfl (by decide) (.keep _ .nil))
  have chronological : (times full).Pairwise (· ≤ ·) := by decide
  refine ⟨omits, chronological, ?_, by decide +kernel, by decide +kernel⟩
  exact other_sessions_do_not_interfere ⟨none, none⟩ (60 : Int) "a" omits chronological

end Clock

end Configurator

end Fitout
