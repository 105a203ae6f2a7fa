import Fitout.Journal.Report
import Fitout.Remote.Script
import Fitout.Service.Application

/-!
The service on the standard streams. The first line of the input plays the catalog server: it is an
object with the body to answer for each method and path, or blank if there is no server to be
reached. Each further line is a request: a method, a target and, after one more space, a content.
Its response is a status and a body, and the log goes to the standard error stream.
-/

namespace Fitout.CommandLine

/-- The request in a line: the words up to the second space, and the content after it. -/
def requestOf (line : String) : Http.Request :=
  let (method, rest) := Text.cutAt ' ' line
  let (target, content) := Text.cutAt ' ' (rest.getD "")
  ⟨method, target, [("content-type", "application/json")], Bytes.ofText (content.getD "")⟩

/-- A line as it was received, whose characters stand for themselves. -/
def received (line : String) : String :=
  Text.ofChars line.toList

/-- The characters of a text, as they are sent. -/
def sent (s : String) : String :=
  String.ofList (Text.chars s)

/-- A catalog server that is out of reach. -/
def noServer : Remote.Server :=
  ⟨fun _ _ => .failed ⟨"ConnectError", "there is no catalog server"⟩, []⟩

/-- The catalog server that answers with the bodies of an object. -/
def serverOf (line : String) : Remote.Server :=
  match Json.read line with
  | .ok (.object ms) =>
    .ofScript (ms.map fun (line, body) => (line, [.answered 200 (Bytes.ofText body.compact)]))
  | _ => noServer

def bodyText (journal : Journal) : Http.Body → String
  | .empty => ""
  | .json value => value.compact
  | .text s => s
  | .metricsPage => journal.metricsPage

def responseText (journal : Journal) (r : Http.Response) : String :=
  toString r.status ++ " " ++ bodyText journal r.body

def lineText : Log.Line → String
  | .members ms => (Json.object ms).compact
  | .text s => s

/-- What the loop over the requests keeps. -/
structure Running where
  application : Application
  setup : Log.Setup
  journal : Journal

/-- The variables of the environment that are settings. -/
def environment : IO (List (String × String)) := do
  let mut found := []
  for name in Settings.names do
    for spelling in [name, name.toUpper] do
      if let some value ← IO.getEnv spelling then found := found ++ [(spelling, value)]
  return found

/-- Seconds on the clock. -/
def now : IO Float :=
  return Float.ofNat (← IO.monoMsNow) / 1000

/-- Write the log lines of events, and keep these. -/
def report (r : Running) (requestId : Option String) (time : Float) (events : Journal) :
    IO Running := do
  let context : Log.Context := { Log.Context.none with request := requestId }
  for line in events.lines r.setup context (Number.real time).text do
    IO.eprintln (sent (lineText line))
  return { r with journal := r.journal ++ events }

partial def serve (r : Running) (input : IO.FS.Stream) : IO Running := do
  let line ← input.getLine
  if line.isEmpty then return r
  let time ← now
  let handled := r.application.handle time (requestOf (received line.trimAscii.toString))
  let r ← report { r with application := handled.application } handled.requestId time handled.events
  IO.println (sent (responseText r.journal handled.response))
  (← IO.getStdout).flush
  serve r input

/-- Start, serve the requests of the input, and stop. -/
def run (settings : Settings) (threshold : Nat) (input : IO.FS.Stream) : IO UInt32 := do
  let server := serverOf (received (← input.getLine))
  let time ← now
  let setup : Log.Setup := ⟨threshold, settings.logFormat == "json"⟩
  let idle := Application.ofSettings settings
  let (started, events) := idle.start server .empty (some MessagePack.usualNesting) time
  let r ← report ⟨started.getD idle, setup, []⟩ none time events
  if started.isNone then
    IO.eprintln ("no such address: " ++ settings.serverUrl)
    return 1
  let r ← serve r input
  let (_, _, events) := r.application.stop
  let _ ← report r none (← now) events
  return 0

/-- Read the settings and run, unless they are of no use. -/
def start : IO UInt32 := do
  match Settings.ofEnvironment (← environment) with
  | .invalid issues =>
    for issue in issues do
      IO.eprintln issue.toJson.compact
    return 1
  | .valid settings =>
    match Level.threshold settings.logLevel with
    | .error _ =>
      IO.eprintln ("no such level: " ++ settings.logLevel)
      return 1
    | .ok threshold =>
      run settings threshold (← IO.getStdin)

end Fitout.CommandLine

def main : IO UInt32 :=
  Fitout.CommandLine.start
