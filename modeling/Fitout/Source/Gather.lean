import Fitout.Source.Load

/-!
Loading a catalog with overlapping fetches. The five fetches of a load take their steps in turns, in
any order; the load ends when all five have ended, or with the first error, while the other fetches
go on. Fetching one list after the other is one such order.
-/

namespace Fitout

namespace Fetch

def body? : Fetch → Option Json
  | ended (.ok body) => some body
  | _ => none

def error? : Fetch → Option LoadError
  | ended (.error e) => some e
  | _ => none

/-- What a fetch comes to, where missing coefficients count as an empty list. -/
def settled (kind : Catalog.Kind) : Fetch → Fetch × Journal
  | ended result =>
    let settled := Source.settle kind result
    (ended settled.1, settled.2)
  | fetch => (fetch, [])

end Fetch

/-- The list whose fetch takes a step, and when. -/
structure Turn where
  kind : Catalog.Kind
  now : Float

/-- The fetches of a load on their way. -/
structure Gathering where
  source : Source
  fetches : Catalog.Lists Fetch
  /-- The first error with which a fetch ended. -/
  failure : Option LoadError
  events : Journal

namespace Gathering

def start (s : Source) : Gathering :=
  ⟨s, fun _ => .begun, none, []⟩

/-- Take up what a list's fetch has come to. -/
def put (g : Gathering) (kind : Catalog.Kind) (next : Fetch.Step) : Gathering :=
  let settled := next.fetch.settled kind
  { source := next.source
    fetches := fun k => if k = kind then settled.1 else g.fetches k
    failure := g.failure.or settled.1.error?
    events := g.events ++ (next.events ++ settled.2) }

/-- Let a fetch take its next step, unless it has ended. -/
def step (force : Bool) (g : Gathering) (turn : Turn) : Gathering :=
  match (g.fetches turn.kind).result? with
  | some _ => g
  | none => g.put turn.kind (g.source.advance turn.now force turn.kind (g.fetches turn.kind))

def run (force : Bool) (g : Gathering) (turns : List Turn) : Gathering :=
  turns.foldl (step force) g

/-- The bodies of all lists or the first error, once it is known which. -/
def outcome? (g : Gathering) : Option (Except LoadError (Catalog.Lists Json)) :=
  match g.failure with
  | some e => some (.error e)
  | none =>
    if ∀ kind ∈ Catalog.Kind.all, (g.fetches kind).body?.isSome then
      some (.ok fun kind => (g.fetches kind).body?.getD .null)
    else none

end Gathering

namespace Source

/-- Load a catalog in so many turns: what it gives, if it has ended by then. -/
def loadBy (s : Source) (force : Bool) (turns : List Turn) : Option (Step Catalog.Data) :=
  let (s, forgotten) := s.forget force
  let g := (Gathering.start s).run force turns
  g.outcome?.map fun
    | .error e => ⟨.error e, g.source, forgotten ++ g.events⟩
    | .ok bodies => ⟨.ok bodies.data, g.source, forgotten ++ g.events ++ readEvents bodies⟩

/-- The turns in which one list is fetched after the other. -/
def inOrder (now : Float) (kinds : List Catalog.Kind) : List Turn :=
  kinds.flatMap fun kind => List.replicate 4 ⟨kind, now⟩

end Source

end Fitout
