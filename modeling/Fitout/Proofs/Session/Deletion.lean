import Fitout.Proofs.Session.Lifetime

/-!
# Deleting an expired session

A deletion does not look at the clock: it finds whatever is in the registry. A session that is
expired stays there until some operation, on whatever session, reads the clock. So reading and
deleting differ on a session that expired after the last such reading, and on no other. This holds
of every run, whatever the clock does.
-/

namespace Fitout.Configurator

variable {T : Type} [Sub T] [LT T] [DecidableLT T]

/-- Whether an operation is an access to a session: its creation, or a visit that finds it. -/
def accesses (c : Configurator T) (id : String) : Operation T → Bool
  | .create _ other => other == id
  | .visit now other command => other == id && (c.visit now other command).finds
  | .delete _ | .takeTicket | .install _ _ => false

/-- The biography of a session, with the readings of the clock since the last access to it. -/
structure Trail (T : Type) where
  life : Biography T
  readings : List T

namespace Trail

def unborn : Trail T :=
  ⟨.unborn, []⟩

def hear (trail : Trail T) (c : Configurator T) (id : String) (operation : Operation T) : Trail T :=
  { life := trail.life.hear c id operation
    readings := if c.accesses id operation then [] else operation.time?.toList ++ trail.readings }

def after (trail : Trail T) (c : Configurator T) (id : String) : List (Operation T) → Trail T
  | [] => trail
  | operation :: rest => (trail.hear c id operation).after (c.perform operation) id rest

/-- The last access to a session that is in the registry: it was created and has not been deleted,
and each reading of the clock since found it within the time to live. -/
def held? (trail : Trail T) (ttl : T) : Option T :=
  if trail.life.isDeleted then none
  else trail.life.lastAccess?.filter fun last => trail.readings.all fun reading =>
    !decide (ttl < reading - last)

/-- One more reading of the clock. -/
theorem held?_cons (life : Biography T) (now : T) (readings : List T) (ttl : T) :
    held? ⟨life, now :: readings⟩ ttl =
      (held? ⟨life, readings⟩ ttl).filter fun last => !decide (ttl < now - last) := by
  simp only [held?]
  cases life.isDeleted with
  | true => rfl
  | false =>
    simp only [Bool.false_eq_true, if_false, Option.filter_filter, List.all_cons, Bool.and_comm]

/-- The session is still in the registry, but idle for too long by now. -/
def Lingers (trail : Trail T) (ttl now : T) : Prop :=
  ∃ last, trail.held? ttl = some last ∧ ttl < now - last

end Trail

/-- What is in the registry under an id is the session that the trail says is held. -/
structure Trails (id : String) (ttl : T) (c : Configurator T) (trail : Trail T) : Prop where
  limit : c.registry.ttl = ttl
  held : (c.registry.sessionsOf id).map Session.lastSeen = (trail.held? ttl).toList

section Step

variable {id : String} {ttl : T} {c : Configurator T} {trail : Trail T}

/-- A reading of the clock leaves a session that it finds within the time to live. -/
theorem Trails.swept (trails : Trails id ttl c trail) (operation : Operation T) :
    ((c.swept operation).sessionsOf id).map Session.lastSeen =
      (Trail.held? ⟨trail.life, operation.time?.toList ++ trail.readings⟩ ttl).toList := by
  unfold Configurator.swept
  split
  · rename_i timeless
    rw [timeless]
    exact trails.held
  · rename_i now at_
    have sessions : ((c.registry.evict now).sessionsOf id).map Session.lastSeen =
        ((c.registry.sessionsOf id).map Session.lastSeen).filter
          fun last => !decide (ttl < now - last) := by
      rw [Registry.sessionsOf_evict, List.filter_map, ← trails.limit]
      rfl
    rw [sessions, trails.held, at_]
    exact (congrArg Option.toList (Trail.held?_cons ..)).trans Option.toList_filter |>.symm

theorem Trails.map_const_swept (trails : Trails id ttl c trail) (operation : Operation T)
    (listed : (c.swept operation).sessionsOf id ≠ []) (s : Session T) :
    ((c.swept operation).sessionsOf id).map (fun _ => s) = [s] := by
  have held := congrArg List.length (trails.swept operation)
  obtain ⟨first, rest, sessions⟩ := List.exists_cons_of_ne_nil listed
  rw [sessions] at held ⊢
  cases rest with
  | nil => rfl
  | cons other others =>
    rw [List.length_map, Option.length_toList] at held
    split at held <;> cases held

theorem Trails.isDeleted_eq_false (trails : Trails id ttl c trail) {operation : Operation T}
    (listed : (c.swept operation).sessionsOf id ≠ []) : trail.life.isDeleted = false := by
  have held := trails.swept operation
  rw [Bool.eq_false_iff]
  intro deleted
  rw [Trail.held?, if_pos deleted] at held
  exact listed (List.map_eq_nil_iff.mp held)

theorem Trails.perform (trails : Trails id ttl c trail) (operation : Operation T) :
    Trails id ttl (c.perform operation) (trail.hear c id operation) := by
  refine ⟨(c.confines_perform operation).ttl.trans trails.limit, ?_⟩
  have swept := trails.swept operation
  by_cases addressed : operation.addressee? = some id
  · simp only [Trail.hear, Biography.hear, if_pos addressed]
    cases operation with
    | create now other =>
      obtain rfl := Option.some.inj addressed
      let s : Session T := ⟨other, .empty, now⟩
      have entered : ((c.registry.evict now).enter s).sessionsOf s.id = [s] := by
        rw [Registry.sessionsOf_enter_self]
        split
        · rfl
        · rename_i taken
          refine trails.map_const_swept (.create now other) (fun none => ?_) s
          exact taken (List.isEmpty_iff.mpr none)
      rw [Configurator.perform]
      change (((c.registry.evict now).enter s).sessionsOf s.id).map Session.lastSeen = _
      rw [entered]
      simp only [accesses, beq_self_eq_true, if_true]
      rfl
    | delete other =>
      obtain rfl := Option.some.inj addressed
      simp only [Configurator.perform, finds_deleteSession]
      cases found : c.registry.find? other with
      | none =>
        rw [deleteSession_leaves, Registry.erase_eq_self found]
        exact swept
      | some s =>
        rw [deleteSession_leaves, Registry.sessionsOf_erase_self]
        simp [Trail.held?]
    | visit now other command =>
      obtain rfl := Option.some.inj addressed
      simp only [Configurator.perform, accesses, beq_self_eq_true, Bool.true_and]
      cases finds : (c.visit now other command).finds with
      | true =>
        obtain ⟨old, s, found, rfl, rfl, left⟩ := exists_put_of_finds finds
        have listed : (c.swept (.visit s.lastSeen s.id command)).sessionsOf s.id ≠ [] := by
          intro none
          rw [Registry.find?_eq_head?] at found
          cases (congrArg List.head? none).symm.trans found
        rw [left, Registry.sessionsOf_put_self]
        simp only [if_true, trails.isDeleted_eq_false listed]
        exact congrArg (List.map Session.lastSeen) (trails.map_const_swept _ listed s)
      | false =>
        rw [finds_visit] at finds
        have missed : (c.registry.evict now).find? other = none := by simpa using finds
        rw [(c.visit_missing now other command missed).2]
        exact swept
    | takeTicket | install ticket data => cases addressed
  · have unaccessed : c.accesses id operation = false := by
      cases operation with
      | create now other => exact beq_false_of_ne fun same => addressed (congrArg some same)
      | visit now other command =>
        have differs : (other == id) = false :=
          beq_false_of_ne fun same => addressed (congrArg some same)
        rw [accesses, differs, Bool.false_and]
      | delete _ | takeTicket | install _ _ => rfl
    rw [(c.confines_perform operation).others id addressed, swept]
    simp only [Trail.hear, Biography.hear, if_neg addressed, unaccessed, Bool.false_eq_true,
      if_false]

theorem Trails.run (trails : Trails id ttl c trail) (operations : List (Operation T)) :
    Trails id ttl (operations.foldl Configurator.perform c) (trail.after c id operations) := by
  induction operations generalizing c trail with
  | nil => exact trails
  | cons operation rest inductionHypothesis => exact inductionHypothesis (trails.perform operation)

end Step

omit [Sub T] [LT T] [DecidableLT T] in
theorem deleteSession_missing_iff (c : Configurator T) (id : String) :
    (c.deleteSession id).result = .error (.domain (.sessionNotFound id)) ↔
      c.registry.sessionsOf id = [] := by
  rw [← List.head?_eq_none_iff, ← Registry.find?_eq_head?]
  cases found : c.registry.find? id with
  | none => simp only [deleteSession, found]
  | some s => simp only [deleteSession, found, reduceCtorEq]

theorem visit_get_missing_iff (c : Configurator T) (now : T) (id : String) :
    (c.visit now id .get).result = .error (.domain (.sessionNotFound id)) ↔
      (c.registry.evict now).sessionsOf id = [] := by
  rw [← List.head?_eq_none_iff, ← Registry.find?_eq_head?]
  cases found : (c.registry.evict now).find? id with
  | none => simp only [(c.visit_missing now id .get found).1]
  | some before => simp only [(c.visit_done now id .get found rfl).1, reduceCtorEq]

/-- A deletion is refused for want of the session where reading it at that moment is, but for one
kind of session: one that is expired, and was within the time to live whenever the clock was read
since its last access. -/
theorem deletion_misses_session_unless_lingering (names : Pricing.MarketNames) (ttl : T)
    (id : String) (operations : List (Operation T)) (now : T) :
    let c := operations.foldl perform (start names ttl)
    let trail := Trail.unborn.after (start names ttl) id operations
    (c.deleteSession id).result = .error (.domain (.sessionNotFound id)) ↔
      (c.visit now id .get).result = .error (.domain (.sessionNotFound id)) ∧
        ¬ trail.Lingers ttl now := by
  intro c trail
  have begun : Trails id ttl (start names ttl) .unborn := ⟨rfl, rfl⟩
  have trails : Trails id ttl c trail := begun.run operations
  have read := trails.swept (.visit now id .get)
  change ((c.registry.evict now).sessionsOf id).map _ =
    (Trail.held? ⟨trail.life, now :: trail.readings⟩ ttl).toList at read
  rw [Trail.held?_cons] at read
  rw [deleteSession_missing_iff, visit_get_missing_iff,
    ← List.map_eq_nil_iff (f := Session.lastSeen), trails.held,
    ← List.map_eq_nil_iff (f := Session.lastSeen), read]
  cases held : trail.held? ttl with
  | none => simp [Trail.Lingers, held]
  | some last =>
    by_cases idle : ttl < now - last
    · have lingers : trail.Lingers ttl now := ⟨last, held, idle⟩
      simp [lingers]
    · simp [Option.filter, idle]

/-- The session expired a second ago. It cannot be read any more but can be deleted, unless another
session was created before. -/
theorem expired_session_is_deleted :
    let c : Configurator Int := perform (start ⟨none, none⟩ 60) (.create 0 "s1")
    (c.visit 61 "s1" .get).result = .error (.domain (.sessionNotFound "s1")) ∧
      (c.deleteSession "s1").result = .ok () ∧
      ((c.perform (.create 61 "s2")).deleteSession "s1").result =
        .error (.domain (.sessionNotFound "s1")) := by
  intro c
  refine ⟨?_, rfl, ?_⟩
  · rw [visit_get_missing_iff]
    exact List.isEmpty_iff.mp (by decide +kernel)
  · rw [deleteSession_missing_iff]
    exact List.isEmpty_iff.mp (by decide +kernel)

end Fitout.Configurator
