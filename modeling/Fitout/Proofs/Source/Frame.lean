import Fitout.Proofs.Cache.Operation
import Fitout.Proofs.Source.Turns

/-!
# What the steps of a load leave alone

Queries to the server change the breaker and the requests received, lookups and stores what the
cache holds for one list. Only lookups are reported as lookups.
-/

namespace Fitout

section Lookups

/-- Whether an event reports that a list was looked up in the cache. -/
def Event.isLookup (kind : Catalog.Kind) : Event → Bool
  | .cacheLookup name _ => name == kind.name
  | .cacheFailed (.get name) _ => name == kind.name
  | _ => false

namespace Journal

variable {kind : Catalog.Kind}

/-- The lookups of a list that are reported. -/
def lookups (kind : Catalog.Kind) (events : Journal) : Journal :=
  events.filter (·.isLookup kind)

@[simp] theorem lookups_append (events more : Journal) :
    lookups kind (events ++ more) = lookups kind events ++ lookups kind more :=
  List.filter_append ..

theorem lookups_eq_nil {events : Journal} (none : ∀ event ∈ events, event.isLookup kind = false) :
    lookups kind events = [] :=
  List.filter_eq_nil_iff.mpr fun event member => by rw [none event member]; exact Bool.false_ne_true

end Journal

end Lookups

namespace Remote.Client

/-- All of a client that queries leave alone. -/
def setup (c : Client) : Client :=
  { c with breaker := .closed, server := { c.server with received := [] } }

variable {c : Client} {now : Float} {q : Query} {kind : Catalog.Kind}

/-- What depends on the setup only is the same for clients of one setup. -/
theorem congr_of_setup_eq {α : Type} {c d : Client} (same : d.setup = c.setup) (f : Client → α)
    (depends : ∀ c, f c.setup = f c) : f d = f c := by
  rw [← depends d, same, depends c]

@[simp] theorem lookups_circuitEvents (events : List (Breaker.Event Float)) :
    Journal.lookups kind (c.circuitEvents events) = [] := by
  refine Journal.lookups_eq_nil fun event member => ?_
  obtain ⟨event, -, rfl⟩ := List.mem_map.mp member
  rfl

theorem setup_ask : (c.ask now q).client.setup = c.setup := by
  unfold ask
  dsimp only
  split <;> rfl

theorem lookups_ask : (c.ask now q).events.lookups kind = [] := by
  unfold ask
  dsimp only
  split
  · exact lookups_circuitEvents _
  · rw [Journal.lookups_append, lookups_circuitEvents]
    rfl

theorem setup_receive {reply : Reply} : (c.receive now q reply).client.setup = c.setup := by
  unfold receive
  split
  · rfl
  · dsimp only
    split
    · rfl
    · split
      · rfl
      · split
        · split <;> rfl
        · rfl

theorem lookups_noteFailure : (c.noteFailure now).2.lookups kind = [] :=
  lookups_circuitEvents _

theorem lookups_noteSuccess : c.noteSuccess.2.lookups kind = [] :=
  lookups_circuitEvents _

theorem lookups_receive {reply : Reply} : (c.receive now q reply).events.lookups kind = [] := by
  unfold receive
  split
  · dsimp only
    rw [Journal.lookups_append, lookups_noteFailure]
    rfl
  · dsimp only
    split
    · exact lookups_noteFailure
    · split
      · rw [Journal.lookups_append, lookups_noteFailure]
        rfl
      · split
        · split
          · rw [Journal.lookups_append, Journal.lookups_append, lookups_noteSuccess]
            rfl
          · rw [Journal.lookups_append, lookups_noteSuccess]
            rfl
        · rw [Journal.lookups_append, lookups_noteSuccess]
          rfl

theorem setup_exchange : (c.exchange now q).client.setup = c.setup := by
  unfold exchange
  split
  · rfl
  · exact setup_receive

theorem lookups_exchange : (c.exchange now q).events.lookups kind = [] := by
  unfold exchange
  split
  · exact lookups_noteFailure
  · exact lookups_receive

end Remote.Client

namespace Cache

variable {c : Cache} {nesting : Option Nat} {name : String}

theorem lookups_set {body : Json} {kind : Catalog.Kind} :
    (c.set nesting name body).events.lookups kind = [] := by
  have sets := c.sets_set nesting name body
  generalize c.set nesting name body = step at sets ⊢
  cases sets <;> rfl

theorem lookups_invalidateAll {kind : Catalog.Kind} :
    c.invalidateAll.events.lookups kind = [] := by
  unfold invalidateAll
  split
  · rfl
  · dsimp only
    split
    · rfl
    · split
      · rfl
      · split <;> rfl

end Cache

namespace Source

/-- Whether there is a cache that has a connection. -/
def isConnected (s : Source) : Bool :=
  s.cache.any (·.connected)

/-- What the cache holds under a key. -/
def held? (s : Source) (key : String) : Option Stored :=
  s.cache.bind (·.server.get? key)

/-- What the cache holds for a list. -/
def stored? (s : Source) (kind : Catalog.Kind) : Option Stored :=
  s.cache.bind (·.server.get? (Cache.key kind.name))

/-- The message with which the cache's server refuses a command, by its number. -/
def refusal? (s : Source) (number : Nat) : Option String :=
  s.cache.bind (·.server.refusal number)

/-- All of a source that fetches leave alone. -/
def setup (s : Source) : Source :=
  ⟨s.client.setup, s.cache.map Cache.setup, s.nesting⟩

theorem exists_cache_of_isConnected {s : Source} (on : s.isConnected = true) :
    ∃ cache, s.cache = some cache ∧ cache.connected = true := by
  cases there : s.cache with
  | none =>
    rw [isConnected, there] at on
    cases on
  | some cache =>
    rw [isConnected, there] at on
    exact ⟨cache, rfl, on⟩

section Cached

variable {s : Source} {cache : Cache} (some : s.cache = some cache)

include some

theorem isConnected_of_cache_eq_some : s.isConnected = cache.connected := by
  rw [isConnected, some]
  rfl

theorem stored?_of_cache_eq_some (kind : Catalog.Kind) :
    s.stored? kind = cache.server.get? (Cache.key kind.name) := by
  rw [stored?, some]
  rfl

theorem refusal?_of_cache_eq_some : s.refusal? = cache.server.refusal := by
  funext number
  rw [refusal?, some]
  rfl

end Cached

section Setup

variable {s t : Source} (same : t.setup = s.setup)

include same

theorem isConnected_eq_of_setup_eq : t.isConnected = s.isConnected := by
  have kept (s : Source) : s.setup.isConnected = s.isConnected := by
    cases cache : s.cache <;> simp only [isConnected, setup, cache] <;> rfl
  rw [← kept, same, kept]

theorem refusal?_eq_of_setup_eq : t.refusal? = s.refusal? := by
  have kept (s : Source) : s.setup.refusal? = s.refusal? := by
    funext number
    cases cache : s.cache <;> simp only [refusal?, setup, cache] <;> rfl
  rw [← kept, same, kept]

theorem nesting_eq_of_setup_eq : t.nesting = s.nesting :=
  (congrArg nesting same :)

end Setup

section Steps

variable {s : Source} {force : Bool} {now : Float} {kind : Catalog.Kind}

theorem client_lookup : (s.lookup force kind).source.client = s.client := by
  unfold lookup
  split
  · rfl
  · split <;> rfl

theorem setup_lookup : (s.lookup force kind).source.setup = s.setup := by
  unfold lookup
  split
  · rfl
  · rename_i cache some
    split
    · rfl
    · simp only [setup, some, Option.map_some, Cache.setup_get]

theorem held?_lookup (key : String) : (s.lookup force kind).source.held? key = s.held? key := by
  unfold lookup
  split
  · rfl
  · rename_i cache some
    split
    · rfl
    · simp only [held?, some, Option.bind_some, KeyValueServer.get?, Cache.entries_get]

theorem stored?_lookup (other : Catalog.Kind) :
    (s.lookup force kind).source.stored? other = s.stored? other :=
  held?_lookup _

theorem setup_ask : (s.ask now kind).source.setup = s.setup := by
  simp only [setup, ask, Remote.Client.setup_ask]

theorem setup_receive : (s.receive now kind).source.setup = s.setup := by
  simp only [setup, receive, Remote.Client.setup_exchange]

theorem client_keep {body : Json} : (s.keep kind body).source.client = s.client := by
  unfold keep
  split <;> rfl

theorem setup_keep {body : Json} : (s.keep kind body).source.setup = s.setup := by
  unfold keep
  split
  · rfl
  · rename_i cache some
    simp only [setup, some, Option.map_some, Cache.setup_set]

theorem held?_keep_of_ne {body : Json} {key : String} (ne : key ≠ Cache.key kind.name) :
    (s.keep kind body).source.held? key = s.held? key := by
  unfold keep
  split
  · rfl
  · rename_i cache some
    simp only [held?, some, Option.bind_some]
    exact Cache.get?_set_of_ne_key ne

theorem key_ne_key {kind other : Catalog.Kind} (ne : other ≠ kind) :
    Cache.key other.name ≠ Cache.key kind.name :=
  fun same => ne (Catalog.Kind.name_injective (Cache.key_injective same))

theorem stored?_keep_of_ne {body : Json} {other : Catalog.Kind} (ne : other ≠ kind) :
    (s.keep kind body).source.stored? other = s.stored? other :=
  held?_keep_of_ne (key_ne_key ne)

theorem lookups_keep {body : Json} {other : Catalog.Kind} :
    (s.keep kind body).events.lookups other = [] := by
  unfold keep
  split
  · rfl
  · exact Cache.lookups_set

theorem setup_advance (f : Fetch) : (s.advance now force kind f).source.setup = s.setup := by
  cases f with
  | begun => exact setup_lookup
  | uncached => exact setup_ask
  | asked => exact setup_receive
  | answered body => exact setup_keep
  | ended result => rfl

/-- A step leaves alone what the cache holds besides the list. -/
theorem held?_advance_of_ne {key : String} (ne : key ≠ Cache.key kind.name) (f : Fetch) :
    (s.advance now force kind f).source.held? key = s.held? key := by
  cases f with
  | begun => exact held?_lookup key
  | uncached => rfl
  | asked => rfl
  | answered body => exact held?_keep_of_ne ne
  | ended result => rfl

theorem stored?_advance_of_ne {other : Catalog.Kind} (ne : other ≠ kind) (f : Fetch) :
    (s.advance now force kind f).source.stored? other = s.stored? other :=
  held?_advance_of_ne (key_ne_key ne) f

theorem client_forget (s : Source) (force : Bool) : (s.forget force).1.client = s.client := by
  unfold forget
  split
  · rfl
  · split <;> rfl

theorem setup_forget (s : Source) (force : Bool) : (s.forget force).1.setup = s.setup := by
  unfold forget
  split
  · rfl
  · rename_i cache some
    split
    · simp only [setup, some, Option.map_some, Cache.setup_invalidateAll]
    · rfl

theorem nesting_forget (s : Source) (force : Bool) : (s.forget force).1.nesting = s.nesting :=
  nesting_eq_of_setup_eq (setup_forget s force)

theorem lookups_forget {kind : Catalog.Kind} : (s.forget force).2.lookups kind = [] := by
  unfold forget
  split
  · rfl
  · split
    · exact Cache.lookups_invalidateAll
    · rfl

theorem forget_unforced (s : Source) : (s.forget false).1 = s := by
  unfold forget
  split <;> rfl

theorem lookups_readEvents {bodies : Catalog.Lists Json} {kind : Catalog.Kind} :
    (readEvents bodies).lookups kind = [] := by
  refine Journal.lookups_eq_nil fun event member => ?_
  obtain member | member := List.mem_append.mp member
  · obtain ⟨remark, -, rfl⟩ := List.mem_map.mp member
    rfl
  · obtain rfl := List.mem_singleton.mp member
    rfl

end Steps

end Source

end Fitout
