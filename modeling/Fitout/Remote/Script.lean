import Fitout.Record
import Fitout.Remote.Query

/-!
A catalog server that follows a script. Each method and path has replies that are given in turn, the
last one again and again; where there are none, the answer is 404. Scripts and replies can be read
off records.
-/

namespace Fitout.Remote

/-- The replies to each method and path, such as `GET /api/category`. -/
abbrev Script := List (String × List Reply)

def Request.line (r : Request) : String :=
  r.method.name ++ " " ++ r.path

namespace Script

def noRoute : Reply :=
  .answered 404 (Bytes.ofText "no route")

/-- The reply to a request after so many others of its line. -/
def replyAt (script : Script) (line : String) (number : Nat) : Reply :=
  let replies := (script.lookup line).getD []
  (replies[number]?.or replies.getLast?).getD noRoute

/-- The rule of a server that begins a script after so many requests. -/
def rule (script : Script) (start : Nat) (received : List Request) (r : Request) : Reply :=
  script.replyAt r.line ((received.drop start).countP (·.line == r.line))

end Script

/-- A reply: a fault under the name `raise`, or a status with a value under `json` or a text under
`body`. -/
def Reply.ofRecord (v : Json) : Reply :=
  match v.member? "raise" with
  | some name => .failed ⟨(Record.text? name).getD "", Record.text v "message"⟩
  | none =>
    let status := ((v.member? "status").bind Record.whole?).getD 200
    let text := ((v.member? "json").map Json.compact).getD (Record.text v "body")
    .answered status.toNat (Bytes.ofText text)

/-- The lists of replies under the names of an object. -/
def Script.ofRecord : Json → Script
  | .object ms => ms.map fun (line, replies) =>
    (line, match replies with
      | .list replies => replies.map Reply.ofRecord
      | _ => [])
  | _ => []

/-- The server from now on, with a script that begins anew. -/
def Server.follow (s : Server) (script : Script) : Server :=
  { s with rule := script.rule s.received.length }

def Server.ofScript (script : Script) : Server :=
  ⟨script.rule 0, []⟩

end Fitout.Remote
