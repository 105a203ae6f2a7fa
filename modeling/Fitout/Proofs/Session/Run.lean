import Fitout.Proofs.Session.Work
import Fitout.Session.Configurator

/-!
# Runs of the configurator

Sessions are created, deleted and visited while tickets are taken and catalogs installed, in any
order. A plan starts out empty and changes only when its session is visited: it is brought up to
date, and then the command runs on it.
-/

namespace Fitout

namespace Registry

variable {T : Type}

theorem of_find?_eq_some {r : Registry T} {id : String} {s : Session T}
    (found : r.find? id = some s) : s ∈ r.sessions ∧ s.id = id :=
  ⟨List.mem_of_find?_eq_some found, by simpa using List.find?_some found⟩

theorem mem_sessions_put {r : Registry T} {new s : Session T}
    (listed : s ∈ (r.put new).sessions) : s = new ∨ s ∈ r.sessions := by
  obtain ⟨old, oldListed, replaced⟩ := List.mem_map.mp listed
  split at replaced
  · exact .inl replaced.symm
  · exact .inr (replaced ▸ oldListed)

theorem mem_sessions_enter {r : Registry T} {new s : Session T}
    (listed : s ∈ (r.enter new).sessions) : s = new ∨ s ∈ r.sessions := by
  simp only [enter] at listed
  split at listed
  · exact mem_sessions_put listed
  · rcases List.mem_append.mp listed with old | same
    · exact .inr old
    · exact .inl (List.mem_singleton.mp same)

theorem find?_put {r : Registry T} {old new : Session T} (found : r.find? new.id = some old) :
    (r.put new).find? new.id = some new := by
  obtain ⟨sessions, created, ttl⟩ := r
  simp only [find?, put] at found ⊢
  induction sessions with
  | nil => cases found
  | cons first rest inductionHypothesis =>
    by_cases here : first.id = new.id
    · simp [here]
    · simp only [List.find?_cons, beq_false_of_ne here] at found
      simp only [List.map_cons, List.find?_cons, beq_false_of_ne here, Bool.false_eq_true, if_false]
      exact inductionHypothesis found

theorem put_put {r : Registry T} {old new : Session T} (same : old.id = new.id) :
    (r.put old).put new = r.put new := by
  simp only [put, List.map_map]
  congr 1
  apply List.map_congr_left
  intro s _
  by_cases here : s.id = new.id <;> simp [same, here]

theorem mem_sessions_evict [Sub T] [LT T] [DecidableLT T] {r : Registry T} {now : T}
    {s : Session T} (listed : s ∈ (r.evict now).sessions) : s ∈ r.sessions :=
  (List.mem_filter.mp listed).1

end Registry

namespace Configurator

variable {T : Type} [Sub T] [LT T] [DecidableLT T]

inductive Action (T : Type) where
  | create (now : T)
  | delete (id : String)
  | visit (now : T) (id : String) (command : Plan.Command)
  | takeTicket
  | install (ticket : Int) (data : Catalog.Data)

def step (c : Configurator T) : Action T → Configurator T
  | .create now => (c.createSession now).configurator
  | .delete id => (c.deleteSession id).configurator
  | .visit now id command => (c.visit now id command).configurator
  | .takeTicket => { c with store := c.store.takeTicket.2 }
  | .install ticket data => { c with store := (c.store.offer ticket data).2.1 }

/-- The session that an action returns, if it returns one. -/
def returned? (c : Configurator T) : Action T → Option (Session T)
  | .create now => (c.createSession now).result.toOption
  | .visit now id command => (c.visit now id command).result.toOption.map Visit.session
  | .delete _ | .takeTicket | .install _ _ => none

def start (names : Pricing.MarketNames) (ttl : T) : Configurator T :=
  ⟨.empty, names, .empty ttl⟩

def run (c : Configurator T) (actions : List (Action T)) : Configurator T :=
  actions.foldl step c

/-- What an access makes of a session. -/
def accessed (c : Configurator T) (now : T) (s : Session T) : Session T :=
  { s with plan := c.synced s.plan, lastSeen := now }

/-- An accessed session, with the plan that a command leaves. -/
def left (c : Configurator T) (now : T) (s : Session T) (plan : Plan) : Session T :=
  { c.accessed now s with plan }

/-- What a command makes of a session, after the access. -/
def commanded (c : Configurator T) (now : T) (s : Session T) (done : Plan.Done) : Session T :=
  c.left now s done.plan

section Visit

variable (c : Configurator T) (now : T) (id : String) (command : Plan.Command)

theorem visit_missing (missed : (c.registry.evict now).find? id = none) :
    (c.visit now id command).result = .error (.domain (.sessionNotFound id)) ∧
      (c.visit now id command).configurator = { c with registry := c.registry.evict now } := by
  simp only [visit, touch, missed, and_self]

variable {before : Session T} (found : (c.registry.evict now).find? id = some before)

include found in
theorem touch_found :
    c.touch now id =
      ⟨.ok (c.accessed now before),
        { c with registry := (c.registry.evict now).put (c.accessed now before) },
        c.registry.evictEvents now ++ c.syncEvents before⟩ := by
  simp only [touch, found, accessed]

include found in
theorem visit_eq_carryOut :
    c.visit now id command =
      match Plan.carryOut c.store c.names command
          ⟨c.synced before.plan, (c.touch now id).events⟩ with
      | .ok answer desk =>
        ⟨.ok ⟨c.left now before desk.plan, answer⟩,
          { c with registry := ((c.registry.evict now).put (c.accessed now before)).put
                      (c.left now before desk.plan) }, desk.events⟩
      | .error e desk =>
        ⟨.error e,
          { c with registry := ((c.registry.evict now).put (c.accessed now before)).put
                      (c.left now before desk.plan) }, desk.events⟩ := by
  simp only [visit, c.touch_found now id found]
  rfl

include found in
/-- A command that is refused wrote nothing and reported nothing that counts. -/
theorem visit_eq_of_refused {refusal : Refusal}
    (refused : (c.synced before.plan).run c.store c.names command = .error refusal) :
    ∃ logged, (∀ event ∈ logged, Series.ofEvent? event = none) ∧
      c.visit now id command =
        ⟨.error refusal,
          { c with registry := (c.registry.evict now).put (c.accessed now before) },
          (c.touch now id).events ++ logged⟩ := by
  have ended := Plan.endsWith_run c.store c.names command
    ⟨c.synced before.plan, (c.touch now id).events⟩
  rw [refused] at ended
  rw [c.visit_eq_carryOut now id command found]
  generalize Plan.carryOut c.store c.names command _ = result at ended ⊢
  cases ended with
  | refused _ logged uncounted =>
    refine ⟨logged, uncounted, ?_⟩
    change Step.mk _ { c with registry := (Registry.put _ _).put (c.accessed now before) } _ = _
    rw [Registry.put_put rfl]

include found in
theorem visit_refused {refusal : Refusal}
    (refused : (c.synced before.plan).run c.store c.names command = .error refusal) :
    (c.visit now id command).result = .error refusal ∧
      (c.visit now id command).configurator =
        { c with registry := (c.registry.evict now).put (c.accessed now before) } := by
  obtain ⟨_, _, visited⟩ := c.visit_eq_of_refused now id command found refused
  rw [visited]
  exact ⟨rfl, rfl⟩

include found in
theorem visit_done {done : Plan.Done}
    (ran : (c.synced before.plan).run c.store c.names command = .ok done) :
    (c.visit now id command).result = .ok ⟨c.commanded now before done, done.answer⟩ ∧
      (c.visit now id command).configurator =
        { c with registry := ((c.registry.evict now).put (c.accessed now before)).put
                    (c.commanded now before done) } := by
  have ended := Plan.endsWith_run c.store c.names command
    ⟨c.synced before.plan, (c.touch now id).events⟩
  rw [ran] at ended
  rw [c.visit_eq_carryOut now id command found]
  generalize Plan.carryOut c.store c.names command _ = result at ended ⊢
  cases ended with
  | done => exact ⟨rfl, rfl⟩

include found in
theorem configurator_visit {done : Plan.Done}
    (ran : (c.synced before.plan).run c.store c.names command = .ok done) :
    (c.visit now id command).configurator =
      { c with registry := (c.registry.evict now).put (c.commanded now before done) } := by
  have same : (c.accessed now before).id = (c.commanded now before done).id := rfl
  rw [(c.visit_done now id command found ran).2, Registry.put_put same]

end Visit

/-- A visit drops the expired sessions and puts one in its place at most. -/
theorem visit_leaves (c : Configurator T) (now : T) (id : String) (command : Plan.Command) :
    (c.visit now id command).configurator = { c with registry := c.registry.evict now } ∨
      ∃ s : Session T, s.id = id ∧ s.lastSeen = now ∧ (c.visit now id command).configurator =
        { c with registry := (c.registry.evict now).put s } := by
  cases found : (c.registry.evict now).find? id with
  | none => exact .inl (c.visit_missing now id command found).2
  | some before =>
    have same := (Registry.of_find?_eq_some found).2
    cases ran : (c.synced before.plan).run c.store c.names command with
    | error refusal =>
      exact .inr ⟨c.accessed now before, same, rfl, (c.visit_refused now id command found ran).2⟩
    | ok done =>
      exact .inr ⟨c.commanded now before done, same, rfl,
        c.configurator_visit now id command found ran⟩

/-- A visit that gives an answer found a session, and the command ran on its plan. -/
theorem of_visit_eq_ok {c : Configurator T} {now : T} {id : String} {command : Plan.Command}
    {visited : Visit T} (ok : (c.visit now id command).result = .ok visited) :
    ∃ before done, (c.registry.evict now).find? id = some before ∧
      (c.synced before.plan).run c.store c.names command = .ok done ∧
      visited = ⟨c.commanded now before done, done.answer⟩ := by
  cases found : (c.registry.evict now).find? id with
  | none =>
    rw [(c.visit_missing now id command found).1] at ok
    cases ok
  | some before =>
    cases ran : (c.synced before.plan).run c.store c.names command with
    | error refusal =>
      rw [(c.visit_refused now id command found ran).1] at ok
      cases ok
    | ok done =>
      rw [(c.visit_done now id command found ran).1] at ok
      exact ⟨before, done, rfl, ran, (Except.ok.inj ok).symm⟩

theorem of_returned?_visit_eq_some {c : Configurator T} {now : T} {id : String}
    {command : Plan.Command} {session : Session T}
    (returned : c.returned? (.visit now id command) = some session) :
    ∃ before done, (c.registry.evict now).find? id = some before ∧
      (c.synced before.plan).run c.store c.names command = .ok done ∧
      session = c.commanded now before done := by
  simp only [returned?] at returned
  cases given : (c.visit now id command).result with
  | error refusal =>
    rw [given] at returned
    cases returned
  | ok visited =>
    rw [given] at returned
    obtain ⟨before, done, found, ran, rfl⟩ := of_visit_eq_ok given
    exact ⟨before, done, found, ran, (Option.some.inj returned).symm⟩

/-- Where the plan of a session comes from after one action. -/
inductive Evolves (c : Configurator T) : Plan → Prop where
  | fresh : Evolves c .empty
  | kept {s : Session T} (listed : s ∈ c.registry.sessions) : Evolves c s.plan
  | synced {s : Session T} (listed : s ∈ c.registry.sessions) : Evolves c (c.synced s.plan)
  | ran {s : Session T} {command : Plan.Command} {done : Plan.Done}
      (listed : s ∈ c.registry.sessions)
      (ok : (c.synced s.plan).run c.store c.names command = .ok done) : Evolves c done.plan

theorem evolves_visit {c : Configurator T} {now : T} {id : String} {command : Plan.Command}
    {s : Session T} (listed : s ∈ (c.visit now id command).configurator.registry.sessions) :
    c.Evolves s.plan := by
  cases found : (c.registry.evict now).find? id with
  | none =>
    rw [(c.visit_missing now id command found).2] at listed
    exact .kept (Registry.mem_sessions_evict listed)
  | some before =>
    have beforeListed := Registry.mem_sessions_evict (Registry.of_find?_eq_some found).1
    cases ran : (c.synced before.plan).run c.store c.names command with
    | error refusal =>
      rw [(c.visit_refused now id command found ran).2] at listed
      rcases Registry.mem_sessions_put listed with rfl | old
      · exact .synced beforeListed
      · exact .kept (Registry.mem_sessions_evict old)
    | ok done =>
      rw [(c.visit_done now id command found ran).2] at listed
      rcases Registry.mem_sessions_put listed with rfl | earlier
      · exact .ran beforeListed ran
      · rcases Registry.mem_sessions_put earlier with rfl | old
        · exact .synced beforeListed
        · exact .kept (Registry.mem_sessions_evict old)

theorem evolves_step {c : Configurator T} (action : Action T) {s : Session T}
    (listed : s ∈ (c.step action).registry.sessions) : c.Evolves s.plan := by
  cases action with
  | create now =>
    rcases Registry.mem_sessions_enter listed with rfl | old
    · exact .fresh
    · exact .kept (Registry.mem_sessions_evict old)
  | delete id =>
    simp only [step, deleteSession] at listed
    split at listed
    · exact .kept listed
    · exact .kept (List.mem_filter.mp listed).1
  | visit now id command => exact evolves_visit listed
  | takeTicket => exact .kept listed
  | install ticket data => exact .kept listed

section Plans

variable {P : Plan → Prop} (fresh : P .empty)
  (synced : ∀ snapshot plan, P plan → P (plan.sync snapshot))
  (ran : ∀ store names plan command done, P plan →
    plan.run store names command = .ok done → P done.plan)

include synced in
omit [Sub T] [LT T] [DecidableLT T] in
theorem forall_synced {c : Configurator T} {plan : Plan} (holds : P plan) : P (c.synced plan) := by
  unfold Configurator.synced
  split
  · exact holds
  · exact synced _ plan holds

include fresh synced ran

theorem forall_plans_step {c : Configurator T} (holds : ∀ s ∈ c.registry.sessions, P s.plan)
    (action : Action T) : ∀ s ∈ (c.step action).registry.sessions, P s.plan := by
  intro s listed
  have evolution := evolves_step action listed
  generalize s.plan = plan at evolution
  cases evolution with
  | fresh => exact fresh
  | kept listed => exact holds _ listed
  | synced listed => exact forall_synced synced (holds _ listed)
  | ran listed ok => exact ran _ _ _ _ _ (forall_synced synced (holds _ listed)) ok

/-- What holds of the empty plan, and goes on to hold when a plan is brought up to date and when a
command runs on it, holds of all plans of a run. -/
theorem forall_plans_run {c : Configurator T} (holds : ∀ s ∈ c.registry.sessions, P s.plan)
    (actions : List (Action T)) : ∀ s ∈ (c.run actions).registry.sessions, P s.plan := by
  induction actions generalizing c with
  | nil => exact holds
  | cons action actions inductionHypothesis =>
    exact inductionHypothesis (forall_plans_step fresh synced ran holds action)

end Plans

theorem installed_offer {store : Catalog.Store} {ticket : Int} {data : Catalog.Data}
    {snapshot : Catalog.Snapshot}
    (installed : (store.offer ticket data).2.1.installed = some snapshot) :
    store.installed = some snapshot ∨ snapshot = .build ticket data := by
  simp only [Catalog.Store.offer, Catalog.Store.place] at installed
  split at installed
  · split at installed
    · exact .inl installed
    · exact .inr (Option.some.inj installed).symm
  · exact .inr (Option.some.inj installed).symm

theorem store_visit (c : Configurator T) (now : T) (id : String) (command : Plan.Command) :
    (c.visit now id command).configurator.store = c.store := by
  rcases c.visit_leaves now id command with left | ⟨_, _, _, left⟩
  · rw [left]
  · rw [left]

theorem installed_step {c : Configurator T} {action : Action T} {snapshot : Catalog.Snapshot}
    (installed : (c.step action).store.installed = some snapshot) :
    c.store.installed = some snapshot ∨ ∃ ticket data, snapshot = .build ticket data := by
  cases action with
  | create now => exact .inl installed
  | delete id =>
    simp only [step, deleteSession] at installed
    split at installed
    · exact .inl installed
    · exact .inl installed
  | visit now id command =>
    rw [step, store_visit] at installed
    exact .inl installed
  | takeTicket => exact .inl installed
  | install ticket data =>
    rcases installed_offer installed with same | new
    · exact .inl same
    · exact .inr ⟨ticket, data, new⟩

theorem installed_run {c : Configurator T} {actions : List (Action T)}
    {snapshot : Catalog.Snapshot} (installed : (c.run actions).store.installed = some snapshot) :
    c.store.installed = some snapshot ∨ ∃ ticket data, snapshot = .build ticket data := by
  induction actions generalizing c with
  | nil => exact .inl installed
  | cons action actions inductionHypothesis =>
    rcases inductionHypothesis installed with earlier | built
    · exact installed_step earlier
    · exact .inr built

theorem exists_build_of_installed {names : Pricing.MarketNames} {ttl : T}
    {actions : List (Action T)} {snapshot : Catalog.Snapshot}
    (installed : ((start names ttl).run actions).store.installed = some snapshot) :
    ∃ ticket data, snapshot = .build ticket data := by
  rcases installed_run installed with none | built
  · cases none
  · exact built

end Configurator

end Fitout
