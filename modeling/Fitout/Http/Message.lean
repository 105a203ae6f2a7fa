import Fitout.Bytes
import Fitout.Json.Basic

/-!
Requests to the service, and its responses.
-/

namespace Fitout.Http

structure Request where
  method : String
  /-- The path and the query as they were sent. -/
  target : String
  headers : List (String × String)
  content : Bytes

/-- A header, whose name counts in any case. -/
def Request.header? (r : Request) (name : String) : Option String :=
  (r.headers.find? fun (known, _) => known.toLower == name.toLower).map (·.2)

/-- The method that a request asks leave for, on behalf of a page from elsewhere. -/
def Request.askedMethod? (r : Request) : Option String :=
  if r.method == "OPTIONS" && (r.header? "origin").isSome then
    r.header? "access-control-request-method"
  else none

inductive Body where
  | empty
  | json (value : Json)
  | text (s : String)
  | metricsPage

structure Response where
  status : Nat
  body : Body

namespace Response

def failed (status : Nat) (detail : String) : Response :=
  ⟨status, .json (.object [("detail", .text detail)])⟩

/-- The methods that pages from elsewhere may use. -/
def openMethods : List String :=
  ["DELETE", "GET", "HEAD", "OPTIONS", "PATCH", "POST", "PUT"]

/-- The response to a page that asks leave for a method. -/
def leave (method : String) : Response :=
  if openMethods.contains method then ⟨200, .text "OK"⟩
  else ⟨400, .text "Disallowed CORS method"⟩

/-- The response to something that was not foreseen. -/
def unforeseen : Response :=
  ⟨500, .text "Internal Server Error"⟩

/-- What is sent of a response; it has no body if only its head was asked for. -/
def sentTo (r : Request) (response : Response) : Response :=
  if r.method == "HEAD" then { response with body := .empty } else response

end Response

end Fitout.Http
