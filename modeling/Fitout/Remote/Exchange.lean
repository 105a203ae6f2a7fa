import Fitout.Address
import Fitout.Json.Body
import Fitout.Json.Writer

/-!
Requests to the catalog server and its replies. The server is any rule that answers a request in
view of those before it.
-/

namespace Fitout.Remote

inductive Method where
  | get
  | post
  | put
  | delete
  deriving DecidableEq, Repr

def Method.name : Method → String
  | get => "GET"
  | post => "POST"
  | put => "PUT"
  | delete => "DELETE"

structure Request where
  method : Method
  path : String
  body : Option Json
  authorization : Option String
  requestId : Option String

/-- Why no answer came, in the transport's own words. -/
structure Fault where
  name : String
  message : String
  deriving DecidableEq, Repr

inductive Reply where
  /-- An answer whose content, where it is text, is in UTF-8. -/
  | answered (status : Nat) (content : Bytes)
  | failed (fault : Fault)

namespace Reply

/-- The JSON value that a content is, if it is one; one that is too deep cannot be told. -/
def jsonOf? (content : Bytes) : Except Json.Container (Option Json) :=
  match Json.readBody content with
  | .ok value => .ok (some value)
  | .error (.tooDeep container) => .error container
  | .error _ => .ok none

/-- What a content says: nothing, a JSON value, or else a text. -/
def bodyOf (content : Bytes) : Except Json.Container Json :=
  if content.isEmpty then .ok .null
  else (jsonOf? content).map (·.getD (.text (Text.replacedText content)))

/-- The text of an answer, or its status if it has none. -/
def statement (status : Nat) (content : Bytes) : String :=
  if content.isEmpty then s!"HTTP {status}" else Text.replacedText content

/-- The reason that an answer gives: the message in its body, or all of its text. -/
def reason (status : Nat) (content : Bytes) : Except Json.Container String :=
  (jsonOf? content).map fun body =>
    match body.bind (·.member? "message") with
    | some message => if message.isTruthy then message.plain else statement status content
    | none => statement status content

end Reply

/-- The catalog server with the requests it received, the latest last. -/
structure Server where
  rule : List Request → Request → Reply
  received : List Request

namespace Server

def exchange (s : Server) (r : Request) : Reply × Server :=
  (s.rule s.received r, { s with received := s.received ++ [r] })

end Server

/-- The address of a server, which may be given with slashes at its end. -/
def serverAddress? (s : String) : Option Address :=
  Address.ofText? (s.dropEndWhile (· == '/')).toString

end Fitout.Remote
