import Fitout.DomainError
import Fitout.Journal.Event
import Fitout.Remote.Exchange

/-!
The client of the catalog server. Each request is put to a circuit breaker first; a fault of the
transport, a request that cannot be sent and an answer of 500 or above count as failures, all other
answers as successes.
-/

namespace Fitout.Remote

inductive RequestError where
  | rejected (circuit : String) (reason : Breaker.Rejection)
  | refused (status : Nat) (message : String)
  | faulty (fault : Fault)
  /-- A header or the body cannot be written. -/
  | unwritten (error : Json.WriteError)
  /-- The answer came from an address without a scheme. -/
  | rootless (address : String)
  /-- The answer is nested too deep to be read. -/
  | tooDeep (container : Json.Container)

def RequestError.message : RequestError → String
  | rejected circuit reason => (DomainError.catalogUnavailable (.circuit circuit reason)).message
  | refused status message => s!"Catalog API error {status}: {message}"
  | faulty fault => fault.message
  | unwritten error => error.message
  | rootless address => "unknown url type: " ++ Text.quoted address
  | tooDeep container => container.message

structure Client where
  policy : Breaker.Policy Float
  breaker : Breaker Float
  server : Server
  /-- Where the server is, below which all paths lie. -/
  address : Address
  token : Option String
  /-- The id of the visitor's request that is being served. -/
  requestId : Option String

/-- What is asked of the server, and the resource under which it is counted. -/
structure Query where
  method : Method
  path : String
  resource : String
  body : Option Json
  /-- Whether it takes the token. -/
  isPrivileged : Bool

namespace Client

/-- What a call gives, with the new state and what there is to report. -/
structure Step (α : Type) where
  result : Except RequestError α
  client : Client
  events : Journal

/-- An empty text counts as none. -/
def nonEmpty (s : Option String) : Option String :=
  s.filter (!·.isEmpty)

def addressOf (c : Client) (q : Query) : Address :=
  c.address.below q.path

/-- What a query shows to be let in by: the token, if it takes it. -/
def bearer? (c : Client) (q : Query) : Option String :=
  if q.isPrivileged then (nonEmpty c.token).map ("Bearer " ++ ·) else none

/-- The request that a query is sent as. Credentials in the address go before the token. -/
def request (c : Client) (q : Query) : Request where
  method := q.method
  path := (c.addressOf q).target
  body := q.body
  authorization := (c.address.credentials?.map ("Basic " ++ ·)).or (c.bearer? q)
  requestId := nonEmpty c.requestId

/-- What keeps a query from being sent: headers are written in ASCII, and the body strictly. -/
def writeError? (c : Client) (q : Query) : Option Json.WriteError :=
  let headers := (c.bearer? q).toList ++ (nonEmpty c.requestId).toList
  ((headers.findSome? Text.Encoding.ascii.refusal?).map .unencodable).or
    (q.body.bind Json.writeError?)

def circuitEvents (c : Client) (events : List (Breaker.Event Float)) : Journal :=
  events.map (.circuit c.policy.name)

/-- Ask the breaker whether a query may be sent. -/
def ask (c : Client) (now : Float) (q : Query) : Step Unit :=
  let a := c.breaker.attempt c.policy now
  let events := c.circuitEvents a.events
  match a.verdict with
  | .ok () => ⟨.ok (), { c with breaker := a.breaker }, events⟩
  | .error reason =>
    ⟨.error (.rejected c.policy.name reason), { c with breaker := a.breaker },
      events ++ [.requestCounted q.method.name q.resource .rejected]⟩

def noteFailure (c : Client) (now : Float) : Client × Journal :=
  let change := c.breaker.fail c.policy now
  ({ c with breaker := change.breaker }, c.circuitEvents change.events)

def noteSuccess (c : Client) : Client × Journal :=
  let change := c.breaker.succeed
  ({ c with breaker := change.breaker }, c.circuitEvents change.events)

/-- Give up a query of which no answer is counted. -/
def giveUp {α : Type} (c : Client) (now : Float) (q : Query) (error : RequestError) : Step α :=
  let (client, events) := c.noteFailure now
  ⟨.error error, client, .requestTimed q.resource :: events⟩

/-- Take the reply to a query that was sent. -/
def receive (c : Client) (now : Float) (q : Query) : Reply → Step Json
  | .failed fault =>
    let (client, events) := c.noteFailure now
    ⟨.error (.faulty fault), client,
      [.requestCounted q.method.name q.resource .error,
        .requestFailed q.method.name q.path fault.message, .requestTimed q.resource] ++ events⟩
  | .answered status content =>
    let counted : Journal :=
      [.requestTimed q.resource, .requestCounted q.method.name q.resource (.answered status)]
    if !(c.addressOf q).showsScheme then c.giveUp now q (.rootless (c.addressOf q).text)
    else if 500 ≤ status then
      let (client, events) := c.noteFailure now
      let error := match Reply.reason status content with
        | .ok reason => .refused status reason
        | .error container => .tooDeep container
      ⟨.error error, client, counted ++ events⟩
    else
      let (client, events) := c.noteSuccess
      if 400 ≤ status then
        match Reply.reason status content with
        | .ok reason =>
          ⟨.error (.refused status reason), client,
            counted ++ events ++ [.answerRefused q.method.name q.path status reason]⟩
        | .error container => ⟨.error (.tooDeep container), client, counted ++ events⟩
      else ⟨(Reply.bodyOf content).mapError .tooDeep, client, counted ++ events⟩

/-- Send a query that was let through, and take the reply. -/
def exchange (c : Client) (now : Float) (q : Query) : Step Json :=
  match c.writeError? q with
  | some error => c.giveUp now q (.unwritten error)
  | none =>
    let (reply, server) := c.server.exchange (c.request q)
    { c with server }.receive now q reply

/-- Put a query to the server, if the breaker lets it through. -/
def send (c : Client) (now : Float) (q : Query) : Step Json :=
  let asked := c.ask now q
  match asked.result with
  | .error e => ⟨.error e, asked.client, asked.events⟩
  | .ok () =>
    let answer := asked.client.exchange now q
    { answer with events := asked.events ++ answer.events }

end Client

end Fitout.Remote
