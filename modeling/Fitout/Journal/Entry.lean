import Fitout.Journal.Event
import Fitout.Log.Level

/-!
The log entries that events give rise to. Some events only count and have none.
-/

namespace Fitout

/-- The parts of the configurator that write entries. -/
inductive Component where
  | tree
  | intake
  | source
  | store
  | breaker
  | client
  | cache
  | sessions
  | presets
  | pricing
  | handlers
  | service
  deriving DecidableEq, Repr

structure Entry where
  level : Level
  component : Component
  message : String
  fields : List (String × Json)

namespace Entry

def ofRemark : Catalog.Remark → Entry
  | .noList kindName =>
    ⟨.warning, .intake, "Unexpected catalog list payload", [("payload_type", .text kindName)]⟩
  | .skipped kind index issues =>
    ⟨.warning, .intake, "Skipping invalid catalog entry",
      [("kind", .text kind.name), ("index", .ofNat index), ("error_count", .ofNat issues)]⟩
  | .droppedProduct issues =>
    ⟨.warning, .intake, "Dropping unusable preset product", [("error_count", .ofNat issues)]⟩

/-- Times are given in thousandths. -/
def ofCircuit (name : String) (event : Breaker.Event Float) : Entry :=
  let circuit : String × Json := ("circuit", .text name)
  match event with
  | .halfOpening elapsed =>
    ⟨.info, .breaker, "Circuit breaker transitioning to half-open",
      [circuit, ("elapsed", .real (Decimal.roundPlaces 3 elapsed))]⟩
  | .rejecting => ⟨.warning, .breaker, "Circuit breaker is open, rejecting call", [circuit]⟩
  | .closing => ⟨.info, .breaker, "Circuit breaker closing after successful probe", [circuit]⟩
  | .reopening => ⟨.warning, .breaker, "Circuit breaker reopening after failed probe", [circuit]⟩
  | .opening failures threshold =>
    ⟨.warning, .breaker, "Circuit breaker opening after threshold exceeded",
      [circuit, ("failures", .ofNat failures), ("threshold", .whole threshold)]⟩
  | .resetting => ⟨.info, .breaker, "Circuit breaker reset", [circuit]⟩

def ofCacheFailure (action : CacheAction) (error : String) : Entry :=
  let error : String × Json := ("error", .text error)
  match action with
  | .get kind => ⟨.error, .cache, "Cache get error", [("kind", .text kind), error]⟩
  | .set kind => ⟨.error, .cache, "Cache set error", [("kind", .text kind), error]⟩
  | .invalidate => ⟨.error, .cache, "Cache invalidate error", [error]⟩

def ofEvent? : Event → Option Entry
  | .treeIssues issues => some ⟨.warning, .tree, "Category tree has structural issues",
      [("issues", .ofNat issues.length),
        ("kinds", .object ((Category.TreeIssue.countKinds issues).map fun (k, n) => (k, .ofNat n))),
        ("category_ids", .list (issues.map fun issue => .whole issue.categoryId))]⟩
  | .listRemark remark => some (ofRemark remark)
  | .catalogLoaded sizes => some ⟨.info, .source, "Catalog loaded",
      [("categories", .ofNat sizes.categories), ("products", .ofNat sizes.products),
        ("services", .ofNat sizes.services), ("presets", .ofNat sizes.presets),
        ("coefficients", .ofNat sizes.coefficients)]⟩
  | .coefficientsMissing error => some ⟨.warning, .source,
      "Coefficients unavailable, services priced without coefficient", [("error", .text error)]⟩
  | .snapshotInstalled summary =>
    some ⟨.info, .store, "Catalog snapshot installed", summary.members⟩
  | .snapshotStale ticket installed => some ⟨.warning, .store, "Discarding stale catalog snapshot",
      [("ticket", .whole ticket), ("installed_ticket", .whole installed)]⟩
  | .refreshFailed ticket error => some ⟨.error, .store, "Catalog refresh failed",
      [("ticket", .whole ticket), ("error", .text error)]⟩
  | .refreshEnded _ => none
  | .circuit name event => some (ofCircuit name event)
  | .requestCounted _ _ _ | .requestTimed _ => none
  | .requestFailed method path error => some ⟨.error, .client, "Catalog API request failed",
      [("method", .text method), ("path", .text path), ("error", .text error)]⟩
  | .answerRefused method path status message =>
    some ⟨.warning, .client, "Catalog API returned an error",
      [("method", .text method), ("path", .text path), ("status_code", .ofNat status),
        ("error", .text message)]⟩
  | .entityCreating resource =>
    some ⟨.info, .client, "Creating catalog entity", [("resource", .text resource)]⟩
  | .entityUpdating resource id => some ⟨.info, .client, "Updating catalog entity",
      [("resource", .text resource), ("entity_id", .whole id)]⟩
  | .entityDeleting resource id => some ⟨.info, .client, "Deleting catalog entity",
      [("resource", .text resource), ("entity_id", .whole id)]⟩
  | .clientClosed => some ⟨.info, .client, "Catalog API client closed", []⟩
  | .cacheLookup _ _ => none
  | .cacheFailed action error => some (ofCacheFailure action error)
  | .cacheInvalidated deleted =>
    some ⟨.info, .cache, "Catalog cache invalidated", [("deleted", .ofNat deleted)]⟩
  | .cacheConnected url => some ⟨.info, .cache, "Connected to Redis", [("url", .text url)]⟩
  | .cacheDisconnected => some ⟨.info, .cache, "Disconnected from Redis", []⟩
  | .sessionsEvicted count =>
    some ⟨.info, .sessions, "Evicted idle sessions", [("count", .ofNat count)]⟩
  | .sessionCreated session =>
    some ⟨.info, .sessions, "Session created", [("session_id", .text session)]⟩
  | .sessionDeleted session =>
    some ⟨.info, .sessions, "Session deleted", [("session_id", .text session)]⟩
  | .activeSessions _ => none
  | .selectionDropped session categories => some ⟨.warning, .sessions,
      "Selection refers to categories no longer in the catalog, resetting",
      [("session_id", .text session), ("category_ids", .list (categories.map .whole))]⟩
  | .productAdded product added => some ⟨.info, .sessions, "Product added to cart",
      [("product_id", .whole product), ("added", .bool added)]⟩
  | .serviceAdded service added => some ⟨.info, .sessions, "Service added to cart",
      [("service_id", .whole service), ("added", .bool added)]⟩
  | .cartChanged _ => none
  | .presetMerged preset items added broken => some ⟨.info, .presets, "Preset applied",
      [("preset_id", .whole preset), ("items", .ofNat items), ("added", .ofNat added),
        ("skipped_missing", .ofNat broken)]⟩
  | .presetApplied _ => none
  | .marketSet market => some ⟨.info, .sessions, "Market type set",
      [("market_type", .ofOption (fun market => .text market.name) market)]⟩
  | .coefficientRefused given => some ⟨.warning, .pricing, "Invalid coefficient, using default",
      [("coefficient", .text given.text)]⟩
  | .coefficientUnlisted market name =>
    some ⟨.info, .pricing, "No coefficient configured for market type",
      [("market_type", .text market.name), ("coefficient_name", .text name)]⟩
  | .refreshRequested force =>
    some ⟨.info, .handlers, "Refreshing catalog", [("force", .bool force)]⟩
  | .requestRejected message status => some ⟨.warning, .handlers, "Request rejected",
      [("error", .text message), ("status_code", .ofNat status)]⟩
  | .responseCounted _ _ _ | .responseTimed _ _ => none
  | .starting => some ⟨.info, .service, "Starting Configurator API...", []⟩
  | .cacheUnavailable error => some ⟨.warning, .service,
      "Failed to connect to Redis, caching disabled", [("error", .text error)]⟩
  | .cachingOff => some ⟨.info, .service, "REDIS_URL not set, caching disabled", []⟩
  | .initialLoadFailed error =>
    some ⟨.warning, .service, "Initial catalog load failed", [("error", .text error)]⟩
  | .started => some ⟨.info, .service, "Configurator API started successfully", []⟩
  | .stopping => some ⟨.info, .service, "Shutting down Configurator API...", []⟩
  | .stopped => some ⟨.info, .service, "Configurator API shutdown complete", []⟩

def ofJournal (journal : Journal) : List Entry :=
  journal.filterMap ofEvent?

end Entry

end Fitout
