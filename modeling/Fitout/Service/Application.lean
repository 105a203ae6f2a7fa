import Fitout.Http.Target
import Fitout.Service.Answer
import Fitout.Settings

/-!
The service as a whole: it is started, handles requests one after the other, and is stopped. Every
request bears an id, the caller's own or a new one, which the requests it causes bear too.
-/

namespace Fitout

structure Application where
  settings : Settings
  /-- What there is to work on, from start to stop. -/
  site : Option Site
  /-- The id of the latest request. -/
  requestId : Option String
  /-- How many ids were made up. -/
  generated : Nat

/-- A response, with the id of the request that it answers. -/
structure Handled where
  response : Http.Response
  requestId : Option String
  application : Application
  events : Journal

namespace Application

def ofSettings (settings : Settings) : Application :=
  ⟨settings, none, none, 0⟩

/-! ### Start and stop -/

def policy (s : Settings) : Breaker.Policy Float :=
  ⟨"catalog-api", s.failureThreshold, s.recoveryTimeout, 1⟩

def clientOf (s : Settings) (address : Address) (server : Remote.Server)
    (requestId : Option String) : Remote.Client where
  policy := policy s
  breaker := .closed
  server := server
  address := address
  token := s.serverToken
  requestId := requestId

/-- Connect to the cache, if there is one; the service goes on without it if it does not answer. -/
def connect (s : Settings) (keyValues : KeyValueServer) : Option Cache × Journal :=
  if s.cacheUrl.isEmpty then (none, [.cachingOff])
  else
    let connected := Cache.connect ⟨s.cacheUrl, s.cacheTtl, keyValues, false, 0⟩
    match connected.result with
    | .ok () => (some connected.cache, connected.events)
    | .error message => (none, connected.events ++ [.cacheUnavailable message])

def Failure.message : Site.Failure → String
  | .refused (.domain e) => e.message
  | .refused .overflow => ""
  | .unloaded e => e.message

/-- Start, with a first load of the catalog; it may fail, and be made up for later. Nothing starts
if the setting for the catalog server is no address. What is cached is packed with the given limit
to nesting, or none. -/
def start (a : Application) (server : Remote.Server) (keyValues : KeyValueServer)
    (nesting : Option Nat) (now : Float) : Option Application × Journal :=
  let (cache, connecting) := connect a.settings keyValues
  match Remote.serverAddress? a.settings.serverUrl with
  | none => (none, .starting :: connecting)
  | some address =>
    let source : Source := ⟨clientOf a.settings address server a.requestId, cache, nesting⟩
    let ttl := Float.ofInt a.settings.sessionTtl
    let loaded := Site.refresh ⟨source, .empty, a.settings.marketNames, .empty ttl⟩ now false
    let failing : Journal := match loaded.result with
      | .ok _ => []
      | .error e => [.initialLoadFailed (Failure.message e)]
    (some { a with site := some loaded.site },
      .starting :: connecting ++ loaded.events ++ failing ++ [.started])

/-- Stop, and leave the cache as it is then. -/
def stop (a : Application) : Application × Option Cache × Journal :=
  match a.site with
  | none => (a, none, [.stopping, .stopped])
  | some site =>
    let (cache, events) := match site.source.cache with
      | none => (none, [])
      | some cache =>
        let (cache, events) := cache.disconnect
        (some cache, events)
    ({ a with site := none }, cache, [.stopping, .clientClosed] ++ events ++ [.stopped])

/-! ### Requests -/

/-- The id that the caller gave a request. -/
def givenId? (r : Http.Request) : Option String :=
  (r.header? "x-request-id").filter (!·.isEmpty)

/-- Take up a request under its id. -/
def identify (a : Application) (r : Http.Request) : String × Application :=
  match givenId? r with
  | some id => (id, { a with requestId := some id })
  | none =>
    let id := "r" ++ toString (a.generated + 1)
    (id, { a with requestId := some id, generated := a.generated + 1 })

/-- The site, bearing the id of the request. -/
def siteFor (site : Site) (id : String) : Site :=
  { site with source := { site.source with
      client := { site.source.client with requestId := some id } } }

/-- What answering a request gives: a response, unless something unexpected went wrong. -/
structure Served where
  response : Option Http.Response
  application : Application
  events : Journal

/-- Whether a catalog has been loaded. -/
def isLoaded (a : Application) : Bool :=
  a.site.any fun site => site.configurator.store.hasSnapshot

def health (a : Application) (id : String) : Json :=
  .object [("status", .text (if a.isLoaded then "healthy" else "degraded")),
    ("service", .text "configurator-service"), ("catalog_loaded", .bool a.isLoaded),
    ("request_id", .text id)]

def about : Json :=
  .object [("service", .text "configurator-service"), ("version", .text "1.0.0"),
    ("status", .text "running")]

/-- The response to a request that needs nothing to work on. -/
def plainResponse (a : Application) (id : String) : Http.Endpoint → Http.Response
  | .health => .ofJson 200 (a.health id)
  | .metrics => ⟨200, .metricsPage⟩
  | _ => .ofJson 200 about

/-- Carry out the action that a request orders. -/
def order (a : Application) (now : Float) (id : String) (inputs : Http.Inputs)
    (reading : Schema.Reading Http.Action) : Served :=
  match a.site, reading with
  | none, _ => ⟨some (.failed 503 "Service not initialized"), a, []⟩
  | some _, .invalid issues =>
    ⟨some (.invalid (issues.map fun issue => (issue, inputs.quoted issue))), a, []⟩
  | some site, .valid action =>
    let done := (siteFor site id).perform now action
    let a := { a with site := some done.site }
    match done.result with
    | .ok result => ⟨some (.ofResult result), a, done.events⟩
    | .error failure =>
      match Http.Response.ofFailure? failure with
      | some (response, events) => ⟨some response, a, done.events ++ events⟩
      | none => ⟨none, a, done.events⟩

/-- The content of a request, as far as it is read. -/
def contentOf (endpoint : Http.Endpoint) (r : Http.Request) :
    Except Http.ContentError Http.Content :=
  if endpoint.readsContent then Http.Content.ofRequest r else .ok .absent

/-- Answer a request that has a route. -/
def serve (a : Application) (now : Float) (id : String) (endpoint : Http.Endpoint)
    (parameters query : List (String × String)) (r : Http.Request) : Served :=
  match contentOf endpoint r with
  | .error .malformed =>
    ⟨some (.invalid [(⟨[.member "body"], .badJson⟩, .object [])]), a, []⟩
  | .error .unreadable => ⟨some (.failed 400 "There was an error parsing the body"), a, []⟩
  | .ok content =>
    let inputs : Http.Inputs := ⟨parameters, query, content⟩
    match endpoint.action? inputs with
    | some reading => a.order now id inputs reading
    | none => ⟨some (a.plainResponse id endpoint), a, []⟩

/-- Under what requests are counted that no route fits. -/
def unmatched : String := "unmatched"

/-- Answer a request as its route says, with the label under which it is counted. -/
def answer (a : Application) (now : Float) (id : String) (r : Http.Request) : String × Served :=
  let target := Http.Target.ofText r.target
  match Http.Routing.ofRequest r.method target.segments with
  | .found route parameters =>
    (route.path, a.serve now id route.endpoint parameters target.query r)
  | .otherMethod route => (route.path, ⟨some (.failed 405 "Method Not Allowed"), a, []⟩)
  | .elsewhere => (unmatched, ⟨some ⟨307, .empty⟩, a, []⟩)
  | .nowhere => (unmatched, ⟨some (.failed 404 "Not Found"), a, []⟩)

/-- Handle a request and count it. A response that cannot be written is not foreseen either. -/
def handle (a : Application) (now : Float) (r : Http.Request) : Handled :=
  let (id, a) := a.identify r
  let (label, served) : String × Served :=
    match r.askedMethod? with
    | some method => (unmatched, ⟨some (.leave method), a, []⟩)
    | none => a.answer now id r
  let response? := served.response.filter (·.isWritable)
  let response := response?.getD .unforeseen
  { response := response.sentTo r
    requestId := response?.map fun _ => id
    application := served.application
    events := served.events ++
      [.responseCounted r.method label response.status, .responseTimed r.method label] }

end Application

end Fitout
