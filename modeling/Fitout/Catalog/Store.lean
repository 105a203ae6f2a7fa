import Fitout.Catalog.Snapshot
import Fitout.DomainError
import Fitout.Journal.Event

/-!
The store of the current snapshot. A refresh takes a ticket when it starts; what it loaded is
installed only over a snapshot with a lower ticket, so a late answer never replaces a newer one.
-/

namespace Fitout.Catalog

structure Store where
  /-- The tickets handed out so far. -/
  issued : Nat
  installed : Option Snapshot

/-- What became of a snapshot that was offered. -/
inductive Placing where
  | installed (snapshot : Snapshot)
  | stale (ticket current : Int)

namespace Placing

def isInstalled : Placing → Bool
  | installed _ => true
  | stale _ _ => false

def event : Placing → Event
  | installed snapshot => .snapshotInstalled snapshot.summary
  | stale ticket current => .snapshotStale ticket current

def outcome : Placing → RefreshOutcome
  | installed _ => .applied
  | stale _ _ => .stale

end Placing

/-- What building a snapshot has to report. -/
def Snapshot.events (s : Snapshot) : Journal :=
  if s.tree.issues.isEmpty then [] else [.treeIssues s.tree.issues]

namespace Store

def empty : Store :=
  ⟨0, none⟩

def hasSnapshot (store : Store) : Bool :=
  store.installed.isSome

/-- The installed snapshot. -/
def current (store : Store) : Except DomainError Snapshot :=
  match store.installed with
  | some snapshot => .ok snapshot
  | none => .error (.catalogUnavailable .notLoaded)

/-- Hand out the next ticket, which is positive. -/
def takeTicket (store : Store) : Int × Store :=
  (store.issued + 1, { store with issued := store.issued + 1 })

/-- Install a snapshot unless one with the same or a later ticket is. -/
def place (store : Store) (snapshot : Snapshot) : Placing × Store :=
  match store.installed with
  | some current =>
    if snapshot.ticket ≤ current.ticket then (.stale snapshot.ticket current.ticket, store)
    else (.installed snapshot, { store with installed := some snapshot })
  | none => (.installed snapshot, { store with installed := some snapshot })

/-- Build a snapshot from data and offer it. -/
def offer (store : Store) (ticket : Int) (data : Data) : Placing × Store × Journal :=
  let snapshot := Snapshot.build ticket data
  let (placing, store) := store.place snapshot
  (placing, store, snapshot.events ++ [placing.event])

/-- The answer to a refresh that took this ticket. -/
def answer {ε : Type} (message : ε → String) (store : Store) (ticket : Int) :
    Except ε Data → Store × Journal
  | .ok data =>
    let (placing, store, events) := store.offer ticket data
    (store, events ++ [.refreshEnded placing.outcome])
  | .error e => (store, [.refreshEnded .error, .refreshFailed ticket (message e)])

def category (store : Store) (id : Int) : Except DomainError Category := do
  let some c := (← store.current).category? id | throw (.categoryNotFound id)
  return c

def product (store : Store) (id : Int) : Except DomainError Product := do
  let some p := (← store.current).product? id | throw (.productNotFound id)
  return p

def service (store : Store) (id : Int) : Except DomainError Service := do
  let some s := (← store.current).service? id | throw (.serviceNotFound id)
  return s

def preset (store : Store) (id : Int) : Except DomainError Preset := do
  let some p := (← store.current).preset? id | throw (.presetNotFound id)
  return p

end Store

end Fitout.Catalog
