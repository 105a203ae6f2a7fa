import Fitout.Session.Work

/-!
Sessions over one catalog. A session is gone once it was idle for longer than the time to live;
that is noticed when a session is created or looked for. Time is any type with differences.
-/

namespace Fitout

/-- A visitor's plan, with the time of the last access to it. -/
structure Session (T : Type) where
  id : String
  plan : Plan
  lastSeen : T

/-- The sessions of a running service, oldest first. -/
structure Registry (T : Type) where
  sessions : List (Session T)
  created : Nat
  ttl : T

namespace Registry

variable {T : Type}

def empty (ttl : T) : Registry T :=
  ⟨[], 0, ttl⟩

def find? (r : Registry T) (id : String) : Option (Session T) :=
  r.sessions.find? (·.id == id)

/-- Put a session in the place of the one with its id. -/
def put (r : Registry T) (s : Session T) : Registry T :=
  { r with sessions := r.sessions.map fun old => if old.id == s.id then s else old }

/-- Enter a created session, in the place of one with its id or else at the end. -/
def enter (r : Registry T) (s : Session T) : Registry T :=
  { r with
    sessions := if (r.find? s.id).isSome then (r.put s).sessions else r.sessions ++ [s]
    created := r.created + 1 }

def erase (r : Registry T) (id : String) : Registry T :=
  { r with sessions := r.sessions.filter (·.id != id) }

/-- The id of the session created after so many others. -/
def sessionId (before : Nat) : String :=
  "s" ++ toString (before + 1)

/-- Whether a session was idle for too long. -/
def isExpired [Sub T] [LT T] [DecidableLT T] (r : Registry T) (now : T) (s : Session T) : Bool :=
  r.ttl < now - s.lastSeen

/-- Drop the sessions that were idle for too long. -/
def evict [Sub T] [LT T] [DecidableLT T] (r : Registry T) (now : T) : Registry T :=
  { r with sessions := r.sessions.filter (!r.isExpired now ·) }

def evictEvents [Sub T] [LT T] [DecidableLT T] (r : Registry T) (now : T) : Journal :=
  let expired := r.sessions.countP (r.isExpired now)
  (if expired == 0 then [] else [.sessionsEvicted expired]) ++
    [.activeSessions (r.evict now).sessions.length]

end Registry

/-- A catalog store with the sessions that work on it. -/
structure Configurator (T : Type) where
  store : Catalog.Store
  names : Pricing.MarketNames
  registry : Registry T

namespace Configurator

variable {T : Type} [Sub T] [LT T] [DecidableLT T]

/-- What an operation gives, with the new state and what there is to report. -/
structure Step (T α : Type) where
  result : Except Refusal α
  configurator : Configurator T
  events : Journal

/-- A session to which a command was given, and the answer. -/
structure Visit (T : Type) where
  session : Session T
  answer : Plan.Answer

/-- Open a session under an id. -/
def openSession (c : Configurator T) (now : T) (id : String) : Step T (Session T) :=
  let session : Session T := ⟨id, .empty, now⟩
  let grown := (c.registry.evict now).enter session
  { result := .ok session
    configurator := { c with registry := grown }
    events := c.registry.evictEvents now ++
      [.activeSessions grown.sessions.length, .sessionCreated session.id] }

def createSession (c : Configurator T) (now : T) : Step T (Session T) :=
  c.openSession now (Registry.sessionId c.registry.created)

def deleteSession (c : Configurator T) (id : String) : Step T Unit :=
  match c.registry.find? id with
  | none => ⟨.error (.domain (.sessionNotFound id)), c, []⟩
  | some _ =>
    let registry := c.registry.erase id
    ⟨.ok (), { c with registry }, [.activeSessions registry.sessions.length, .sessionDeleted id]⟩

/-- What an access finds in a plan before any command: a selection that the catalog bears out. -/
def synced (c : Configurator T) (plan : Plan) : Plan :=
  match c.store.installed with
  | none => plan
  | some snapshot => plan.sync snapshot

def syncEvents (c : Configurator T) (s : Session T) : Journal :=
  match c.store.installed with
  | none => []
  | some snapshot =>
    let categories := Plan.outdated snapshot s.plan.selection
    if categories.isEmpty then [] else [.selectionDropped s.id categories]

/-- Access a session: drop the expired ones, note the time, and bring its selection up to date. -/
def touch (c : Configurator T) (now : T) (id : String) : Step T (Session T) :=
  let registry := c.registry.evict now
  match registry.find? id with
  | none =>
    ⟨.error (.domain (.sessionNotFound id)), { c with registry }, c.registry.evictEvents now⟩
  | some s =>
    let session := { s with plan := c.synced s.plan, lastSeen := now }
    ⟨.ok session, { c with registry := registry.put session },
      c.registry.evictEvents now ++ c.syncEvents s⟩

/-- Access a session and give it a command, which works on the plan where it is: a command that is
refused leaves what it wrote until then. -/
def visit (c : Configurator T) (now : T) (id : String) (command : Plan.Command) :
    Step T (Visit T) :=
  let found := c.touch now id
  match found.result with
  | .error e => ⟨.error e, found.configurator, found.events⟩
  | .ok session =>
    let leave (plan : Plan) : Configurator T :=
      { found.configurator with
        registry := found.configurator.registry.put { session with plan } }
    match Plan.carryOut c.store c.names command ⟨session.plan, found.events⟩ with
    | .ok answer desk =>
      ⟨.ok ⟨{ session with plan := desk.plan }, answer⟩, leave desk.plan, desk.events⟩
    | .error e desk => ⟨.error e, leave desk.plan, desk.events⟩

def defaultTtl : Float := 3600

def sessionCount (c : Configurator T) : Nat :=
  c.registry.sessions.length

end Configurator

def Session.toJson {T : Type} (s : Session T) : Json :=
  .object [("session_id", .text s.id), ("selection", s.plan.selection.toJson),
    ("cart", s.plan.cart.toJson),
    ("market_type", .ofOption (fun market => .text market.name) s.plan.market)]

end Fitout
