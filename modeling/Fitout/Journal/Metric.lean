import Fitout.Journal.Event

/-!
The metrics that events count in. Counters and observation counts add up; the gauge of active
sessions holds the number last reported.
-/

namespace Fitout

/-- A metric with its labels, in the order of their names. -/
structure Series where
  name : String
  labels : List (String × String)
  deriving DecidableEq, Repr

namespace Series

def activeSessions : Series :=
  ⟨"configurator_active_sessions", []⟩

/-- The counter that an event adds one to. -/
def ofEvent? : Event → Option Series
  | .snapshotStale _ _ => some ⟨"catalog_stale_snapshots_total", []⟩
  | .refreshEnded outcome => some ⟨"catalog_refresh_total", [("status", outcome.name)]⟩
  | .requestCounted method resource status =>
    some ⟨"catalog_upstream_requests_total",
      [("method", method), ("resource", resource), ("status", status.label)]⟩
  | .requestTimed resource =>
    some ⟨"catalog_upstream_request_duration_seconds_count", [("resource", resource)]⟩
  | .cacheLookup kind hit =>
    some ⟨"catalog_cache_lookups_total",
      [("kind", kind), ("result", if hit then "hit" else "miss")]⟩
  | .cartChanged operation =>
    some ⟨"configurator_cart_operations_total", [("operation", operation.name)]⟩
  | .presetApplied preset =>
    some ⟨"configurator_preset_applications_total", [("preset_id", toString preset)]⟩
  | .responseCounted method endpoint status =>
    some ⟨"http_requests_total",
      [("endpoint", endpoint), ("method", method), ("status_code", toString status)]⟩
  | .responseTimed method endpoint =>
    some ⟨"http_request_duration_seconds_count", [("endpoint", endpoint), ("method", method)]⟩
  | _ => none

/-- Whether a text stands before another one, by the numbers of their codes. -/
def isBefore (s t : String) : Bool :=
  (Text.codes s).lex (Text.codes t) fun c d => c.value < d.value

/-- The order of reports: by name, then by the labels one after the other. -/
def precedes (a b : Series) : Bool :=
  let key (s : Series) : List String := s.name :: s.labels.flatMap fun (k, v) => [k, v]
  !(key b).lex (key a) isBefore

end Series

namespace Journal

/-- How often the events of a journal count in a series. -/
def count (journal : Journal) (series : Series) : Nat :=
  journal.countP (Series.ofEvent? · == some series)

/-- The number of active sessions last reported. -/
def activeSessions (journal : Journal) : Nat :=
  journal.foldl (fun n event => match event with
    | .activeSessions count => count
    | _ => n) 0

/-- All series that changed, in order, with the change of each. -/
def metrics (journal : Journal) : List (Series × Nat) :=
  let counters := ((journal.filterMap Series.ofEvent?).eraseDups).map fun s => (s, journal.count s)
  let active := journal.activeSessions
  let gauges := if active == 0 then [] else [(Series.activeSessions, active)]
  (counters ++ gauges).mergeSort fun a b => a.1.precedes b.1

end Journal

end Fitout
