import Fitout.Journal.Entry
import Fitout.Journal.Metric
import Fitout.Log.Line

/-!
What a journal comes to: the lines it leaves in the log, and the page of its metrics.
-/

namespace Fitout

/-- The name under which a component writes. -/
def Component.name : Component → String
  | tree => "tree"
  | intake => "intake"
  | source => "source"
  | store => "store"
  | breaker => "breaker"
  | client => "client"
  | cache => "cache"
  | sessions => "sessions"
  | presets => "presets"
  | pricing => "pricing"
  | handlers => "handlers"
  | service => "service"

/-- The call that writes an entry at a time. -/
def Entry.call (time : String) (e : Entry) : Log.Call where
  level := e.level
  origin := ⟨time, e.component.name, "", 0⟩
  template := e.message
  values := []
  fields := e.fields.map fun (name, value) => (name, .ofJson value)

/-- A series as the page shows it, with its labels in braces. -/
def Series.text (s : Series) : String :=
  if s.labels.isEmpty then s.name
  else
    let labels := s.labels.map fun (name, value) => name ++ "=" ++ Json.encodeString value
    s.name ++ "\x7b" ++ ",".intercalate labels ++ "\x7d"

namespace Journal

/-- The lines that a journal leaves in the log. -/
def lines (setup : Log.Setup) (context : Log.Context) (time : String) (journal : Journal) :
    List Log.Line :=
  (Entry.ofJournal journal).filterMap fun e =>
    match (e.call time).write setup context with
    | .ok line => line
    | .error _ => none

/-- The page of all metrics, one series a line. -/
def metricsPage (journal : Journal) : String :=
  String.join (journal.metrics.map fun (series, count) =>
    series.text ++ " " ++ toString count ++ "\n")

end Journal

end Fitout
