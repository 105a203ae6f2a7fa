import Fitout.Catalog.Store

/-!
Refreshes that overlap. Each takes its ticket when it starts and is answered later, with data or
with an error; the answers may come in any order.
-/

namespace Fitout.Catalog

/-- A refresh that was started. -/
inductive Refresh (ε : Type) where
  | waiting (ticket : Int)
  /-- Answered with data; the snapshot was installed right after. -/
  | returned (snapshot : Snapshot)
  | raised (error : ε)

/-- A store and the refreshes started on it, numbered from one. -/
structure Refreshes (ε : Type) where
  store : Store
  calls : List (Refresh ε)

namespace Refreshes

variable {ε : Type}

def empty : Refreshes ε :=
  ⟨.empty, []⟩

def call? (r : Refreshes ε) (number : Nat) : Option (Refresh ε) :=
  if number == 0 then none else r.calls[number - 1]?

/-- Start a refresh. -/
def start (r : Refreshes ε) : Refreshes ε :=
  let (ticket, store) := r.store.takeTicket
  ⟨store, r.calls ++ [.waiting ticket]⟩

/-- What a refresh gives once it is answered. -/
def settled (store : Store) : Except ε Data → Option (Refresh ε)
  | .ok _ => store.installed.map .returned
  | .error e => some (.raised e)

/-- Answer a refresh that is waiting; one that was answered stays as it is. -/
def finish (message : ε → String) (r : Refreshes ε) (number : Nat) (answer : Except ε Data) :
    Refreshes ε × Journal :=
  match r.call? number with
  | some (.waiting ticket) =>
    let (store, events) := r.store.answer message ticket answer
    let calls := match settled store answer with
      | some call => r.calls.set (number - 1) call
      | none => r.calls
    (⟨store, calls⟩, events)
  | _ => (r, [])

end Refreshes

end Fitout.Catalog
