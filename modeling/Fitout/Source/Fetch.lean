import Fitout.Cache
import Fitout.Remote.Query

/-!
Fetching the body of one list, from the cache if it is there and else from the catalog server. A
fetch goes on in steps, between which others may take theirs.
-/

namespace Fitout

/-- Where catalogs come from: a server, with a cache before it or none. -/
structure Source where
  client : Remote.Client
  cache : Option Cache
  /-- In how many lists and maps a value may lie that is packed for the cache, if that is
  limited. -/
  nesting : Option Nat

inductive LoadError where
  | request (error : Remote.RequestError)
  /-- The cache holds bytes that are no body. -/
  | unpacking (error : MessagePack.DecodeError)
  /-- The body is not fit for the cache. -/
  | packing (error : MessagePack.EncodeError)

def LoadError.message : LoadError → String
  | request error => error.message
  | unpacking error => error.message
  | packing error => error.message

inductive Fetch where
  | begun
  /-- The cache is of no help. -/
  | uncached
  /-- The breaker let the query through. -/
  | asked
  /-- The server gave a body that is still to be cached. -/
  | answered (body : Json)
  | ended (result : Except LoadError Json)

namespace Fetch

structure Step where
  fetch : Fetch
  source : Source
  events : Journal

/-- The result, if there is one yet. -/
def result? : Fetch → Option (Except LoadError Json)
  | ended result => some result
  | _ => none

/-- How many steps are left at most. -/
def stepsLeft : Fetch → Nat
  | begun => 4
  | uncached => 3
  | asked => 2
  | answered _ => 1
  | ended _ => 0

theorem isSome_result? {f : Fetch} (done : f.stepsLeft = 0) : f.result?.isSome := by
  cases f <;> simp_all [stepsLeft, result?]

end Fetch

namespace Source

/-- Look into the cache. What is held as null counts as not held. -/
def lookup (s : Source) (force : Bool) (kind : Catalog.Kind) : Fetch.Step :=
  match s.cache with
  | none => ⟨.uncached, s, []⟩
  | some cache =>
    if force then ⟨.uncached, s, []⟩
    else
      let found := cache.get kind.name
      let fetch : Fetch := match found.result with
        | .ok none | .ok (some .null) => .uncached
        | .ok (some value) => .ended (.ok value.toJson)
        | .error e => .ended (.error (.unpacking e))
      ⟨fetch, { s with cache := some found.cache }, found.events⟩

/-- Ask the breaker to let the query through. -/
def ask (s : Source) (now : Float) (kind : Catalog.Kind) : Fetch.Step :=
  let asked := s.client.ask now (.ofKind kind)
  let fetch : Fetch := match asked.result with
    | .ok () => .asked
    | .error e => .ended (.error (.request e))
  ⟨fetch, { s with client := asked.client }, asked.events⟩

/-- Get the server's answer. A body that is null is not cached. -/
def receive (s : Source) (now : Float) (kind : Catalog.Kind) : Fetch.Step :=
  let answer := s.client.exchange now (.ofKind kind)
  let fetch : Fetch := match answer.result, s.cache with
    | .ok .null, _ => .ended (.ok .null)
    | .ok body, some _ => .answered body
    | .ok body, none => .ended (.ok body)
    | .error e, _ => .ended (.error (.request e))
  ⟨fetch, { s with client := answer.client }, answer.events⟩

def keep (s : Source) (kind : Catalog.Kind) (body : Json) : Fetch.Step :=
  match s.cache with
  | none => ⟨.ended (.ok body), s, []⟩
  | some cache =>
    let kept := cache.set s.nesting kind.name body
    let fetch : Fetch := match kept.result with
      | .ok _ => .ended (.ok body)
      | .error e => .ended (.error (.packing e))
    ⟨fetch, { s with cache := some kept.cache }, kept.events⟩

/-- Take the next step of a fetch; one that has ended stays as it is. -/
def advance (s : Source) (now : Float) (force : Bool) (kind : Catalog.Kind) :
    Fetch → Fetch.Step
  | .begun => s.lookup force kind
  | .uncached => s.ask now kind
  | .asked => s.receive now kind
  | .answered body => s.keep kind body
  | .ended result => ⟨.ended result, s, []⟩

theorem stepsLeft_lookup (s : Source) (force : Bool) (kind : Catalog.Kind) :
    (s.lookup force kind).fetch.stepsLeft ≤ 3 := by
  unfold lookup
  split
  · simp [Fetch.stepsLeft]
  · split
    · simp [Fetch.stepsLeft]
    · dsimp only
      split <;> simp [Fetch.stepsLeft]

theorem stepsLeft_ask (s : Source) (now : Float) (kind : Catalog.Kind) :
    (s.ask now kind).fetch.stepsLeft ≤ 2 := by
  unfold ask
  dsimp only
  split <;> simp [Fetch.stepsLeft]

theorem stepsLeft_receive (s : Source) (now : Float) (kind : Catalog.Kind) :
    (s.receive now kind).fetch.stepsLeft ≤ 1 := by
  unfold receive
  dsimp only
  split <;> simp [Fetch.stepsLeft]

theorem stepsLeft_keep (s : Source) (kind : Catalog.Kind) (body : Json) :
    (s.keep kind body).fetch.stepsLeft = 0 := by
  unfold keep
  split
  · rfl
  · dsimp only
    split <;> rfl

theorem stepsLeft_advance (s : Source) (now : Float) (force : Bool) (kind : Catalog.Kind)
    (f : Fetch) : (s.advance now force kind f).fetch.stepsLeft ≤ f.stepsLeft - 1 := by
  cases f with
  | begun => exact s.stepsLeft_lookup force kind
  | uncached => exact s.stepsLeft_ask now kind
  | asked => exact s.stepsLeft_receive now kind
  | answered body => exact Nat.le_of_eq (s.stepsLeft_keep kind body)
  | ended result => exact Nat.le_refl 0

/-- Take a number of steps at once. -/
def advanceBy (s : Source) (now : Float) (force : Bool) (kind : Catalog.Kind) :
    Nat → Fetch → Fetch.Step
  | 0, fetch => ⟨fetch, s, []⟩
  | n + 1, fetch =>
    let first := s.advance now force kind fetch
    let rest := first.source.advanceBy now force kind n first.fetch
    { rest with events := first.events ++ rest.events }

theorem stepsLeft_advanceBy (s : Source) (now : Float) (force : Bool) (kind : Catalog.Kind)
    (n : Nat) (f : Fetch) :
    (s.advanceBy now force kind n f).fetch.stepsLeft ≤ f.stepsLeft - n := by
  induction n generalizing s f with
  | zero => exact Nat.le_refl _
  | succ n inductionHypothesis =>
    have first := s.stepsLeft_advance now force kind f
    have rest := inductionHypothesis (s.advance now force kind f).source
      (s.advance now force kind f).fetch
    simp only [advanceBy]
    omega

/-- Fetch a list from beginning to end. -/
def fetch (s : Source) (now : Float) (force : Bool) (kind : Catalog.Kind) : Fetch.Step :=
  s.advanceBy now force kind 4 .begun

/-- Four steps are enough. -/
theorem isSome_result?_fetch (s : Source) (now : Float) (force : Bool) (kind : Catalog.Kind) :
    (s.fetch now force kind).fetch.result?.isSome :=
  Fetch.isSome_result? (Nat.le_zero.1 (s.stepsLeft_advanceBy now force kind 4 .begun))

end Source

end Fitout
