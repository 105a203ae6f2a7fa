import Fitout.Breaker.Basic
import Fitout.Catalog.Listing
import Fitout.Catalog.Snapshot

/-!
What happens while the configurator runs and is worth a log entry or counts in a metric. A journal
is the list of events in the order in which they happened.
-/

namespace Fitout

inductive RefreshOutcome where
  | applied
  | stale
  | error
  deriving DecidableEq, Repr

def RefreshOutcome.name : RefreshOutcome → String
  | applied => "applied"
  | stale => "stale"
  | error => "error"

/-- The changes of a cart that are counted. -/
inductive CartOperation where
  | addProduct
  | removeProduct
  | setProductQuantity
  | addService
  | removeService
  | updateService
  | clear
  deriving DecidableEq, Repr

def CartOperation.name : CartOperation → String
  | addProduct => "add_product"
  | removeProduct => "remove_product"
  | setProductQuantity => "set_product_quantity"
  | addService => "add_service"
  | removeService => "remove_service"
  | updateService => "update_service"
  | clear => "clear"

inductive SendStatus where
  | answered (status : Nat)
  | error
  | rejected
  deriving DecidableEq, Repr

def SendStatus.label : SendStatus → String
  | answered status => toString status
  | error => "error"
  | rejected => "rejected"

/-- What the cache was asked to do when it failed. -/
inductive CacheAction where
  | get (kind : String)
  | set (kind : String)
  | invalidate
  deriving DecidableEq, Repr

structure ListSizes where
  categories : Nat
  products : Nat
  services : Nat
  presets : Nat
  coefficients : Nat
  deriving DecidableEq, Repr

inductive Event where
  -- catalog
  | treeIssues (issues : List Category.TreeIssue)
  | listRemark (remark : Catalog.Remark)
  | catalogLoaded (sizes : ListSizes)
  | coefficientsMissing (error : String)
  | snapshotInstalled (summary : Catalog.Summary)
  | snapshotStale (ticket installed : Int)
  | refreshFailed (ticket : Int) (error : String)
  | refreshEnded (outcome : RefreshOutcome)
  -- catalog server
  | circuit (name : String) (event : Breaker.Event Float)
  | requestCounted (method resource : String) (status : SendStatus)
  | requestTimed (resource : String)
  | requestFailed (method path error : String)
  | answerRefused (method path : String) (status : Nat) (message : String)
  | entityCreating (resource : String)
  | entityUpdating (resource : String) (id : Int)
  | entityDeleting (resource : String) (id : Int)
  | clientClosed
  -- cache
  | cacheLookup (kind : String) (hit : Bool)
  | cacheFailed (action : CacheAction) (error : String)
  | cacheInvalidated (deleted : Nat)
  | cacheConnected (url : String)
  | cacheDisconnected
  -- sessions
  | sessionsEvicted (count : Nat)
  | sessionCreated (session : String)
  | sessionDeleted (session : String)
  | activeSessions (count : Nat)
  | selectionDropped (session : String) (categories : List Int)
  | productAdded (product : Int) (added : Bool)
  | serviceAdded (service : Int) (added : Bool)
  | cartChanged (operation : CartOperation)
  | presetMerged (preset : Int) (items added broken : Nat)
  | presetApplied (preset : Int)
  | marketSet (market : Option MarketType)
  | coefficientRefused (given : Number)
  | coefficientUnlisted (market : MarketType) (name : String)
  -- service
  | refreshRequested (force : Bool)
  | requestRejected (message : String) (status : Nat)
  | responseCounted (method endpoint : String) (status : Nat)
  | responseTimed (method endpoint : String)
  | starting
  | cacheUnavailable (error : String)
  | cachingOff
  | initialLoadFailed (error : String)
  | started
  | stopping
  | stopped

abbrev Journal := List Event

end Fitout
