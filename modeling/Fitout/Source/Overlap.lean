import Fitout.Catalog.Refresh
import Fitout.Source.Gather

/-!
Refreshes of one store from one source that overlap. Each takes its ticket, drops the cache if it is
forced, fetches its lists, and installs what it loaded; between its steps the others take theirs.
The fetches that a failed load leaves behind go on, and what the cache holds may run out.
-/

namespace Fitout

namespace KeyValueServer

/-- Remove what is stored under a key. -/
def remove (s : KeyValueServer) (key : String) : KeyValueServer :=
  { s with entries := s.entries.filter (·.1 != key) }

end KeyValueServer

/-- The load of a refresh on its way. -/
structure Loading where
  force : Bool
  /-- Whether the cache is still to be dropped. -/
  isForgetting : Bool
  fetches : Catalog.Lists Fetch
  /-- The first error with which a fetch ended. -/
  failure : Option LoadError

namespace Loading

/-- The load of a refresh that has just started. -/
def start (force : Bool) : Loading :=
  ⟨force, force, fun _ => .begun, none⟩

/-- The fetches as those of a load that has the source to itself. -/
def gathering (load : Loading) (s : Source) : Gathering :=
  ⟨s, load.fetches, load.failure, []⟩

/-- The load with what has become of its fetches. -/
def takeUp (load : Loading) (g : Gathering) : Loading :=
  { load with fetches := g.fetches, failure := g.failure }

end Loading

/-- A source and a store, with the refreshes and their loads in the order of their starts. -/
structure Overlap where
  source : Source
  refreshes : Catalog.Refreshes LoadError
  loads : List Loading

namespace Overlap

def begin (s : Source) : Overlap :=
  ⟨s, .empty, []⟩

inductive Action where
  | start (force : Bool)
  /-- A load that is forced drops the cache. -/
  | forget (place : Nat)
  /-- A fetch of a load takes a step. -/
  | turn (place : Nat) (turn : Turn)
  /-- A refresh gets what its load has come to. -/
  | finish (place : Nat)
  /-- The time for which a list was stored runs out. -/
  | expire (kind : Catalog.Kind)

/-- The load at a place, once it has dropped the cache if it is to. -/
def fetching? (c : Overlap) (place : Nat) : Option Loading :=
  c.loads[place]?.filter (!·.isForgetting)

/-- What a waiting refresh gets, if its load has ended. -/
def outcome? (c : Overlap) (place : Nat) : Option (Except LoadError (Catalog.Lists Json)) :=
  match c.refreshes.call? (place + 1), c.loads[place]? with
  | some (.waiting _), some load => (load.gathering c.source).outcome?
  | _, _ => none

/-- Let a load that is forced drop the cache. -/
def forget (c : Overlap) (place : Nat) : Overlap × Journal :=
  match c.loads[place]? with
  | some load =>
    if load.isForgetting then
      let (source, events) := c.source.forget load.force
      ({ c with source, loads := c.loads.set place { load with isForgetting := false } }, events)
    else (c, [])
  | none => (c, [])

/-- Let a fetch of a load take its next step. -/
def turn (c : Overlap) (place : Nat) (turn : Turn) : Overlap × Journal :=
  match c.fetching? place with
  | some load =>
    let g := (load.gathering c.source).step load.force turn
    ({ c with source := g.source, loads := c.loads.set place (load.takeUp g) }, g.events)
  | none => (c, [])

/-- Answer a refresh whose load has ended. -/
def finish (c : Overlap) (place : Nat) : Overlap × Journal :=
  match c.outcome? place with
  | some outcome =>
    let read := match outcome with
      | .ok bodies => Source.readEvents bodies
      | .error _ => []
    let (refreshes, events) :=
      c.refreshes.finish LoadError.message (place + 1) (outcome.map Catalog.Lists.data)
    ({ c with refreshes }, read ++ events)
  | none => (c, [])

/-- Drop what the cache holds for a list. -/
def expire (c : Overlap) (kind : Catalog.Kind) : Overlap :=
  let drop (cache : Cache) : Cache :=
    { cache with server := cache.server.remove (Cache.key kind.name) }
  { c with source := { c.source with cache := c.source.cache.map drop } }

/-- The next state, and what there is to report. -/
def act (c : Overlap) : Action → Overlap × Journal
  | .start force =>
    ({ c with refreshes := c.refreshes.start, loads := c.loads ++ [.start force] }, [])
  | .forget place => c.forget place
  | .turn place turn => c.turn place turn
  | .finish place => c.finish place
  | .expire kind => (c.expire kind, [])

def step (c : Overlap) (action : Action) : Overlap :=
  (c.act action).1

def run (c : Overlap) (actions : List Action) : Overlap :=
  actions.foldl step c

end Overlap

end Fitout
