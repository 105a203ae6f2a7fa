import Fitout.Log.Level
import Fitout.Log.Message
import Fitout.Log.Value

/-!
Lines of the log. A call gives a message and named fields; the line shows them beside the call's
level and origin and the identifiers bound to the running request, either as the members of an
object or as plain text. The main rule is that a name stands once, where it was set first, and that
its last value counts.
-/

namespace Fitout.Log

/-- The identifiers that are bound to the running request. -/
structure Context where
  request : Option String
  session : Option String
  deriving DecidableEq, Repr

def Context.none : Context :=
  ⟨Option.none, Option.none⟩

structure Origin where
  time : String
  logger : String
  function : String
  line : Nat

structure Call where
  level : Level
  origin : Origin
  template : String
  values : List Json
  /-- The fields by name, in the order in which they are given. -/
  fields : List (String × Value)

inductive Refusal where
  /-- A field has the name of a part of the call. -/
  | callPart (name : String)
  /-- The fields given as one value are no mapping. -/
  | noMapping
  /-- A field has a name that lines use for their own ends. -/
  | reserved (name : String)
  deriving DecidableEq, Repr

/-- A line, as an object or as text. -/
inductive Line where
  | members (members : List (String × Json))
  | text (s : String)

/-- What lines are written, and how. -/
structure Setup where
  /-- The least severity that is written. -/
  threshold : Nat
  /-- Whether lines are objects. -/
  asObjects : Bool

namespace Call

def partNames : List String :=
  ["self", "msg", "args", "level"]

/-- The names that no field may have. -/
def reservedNames : List String :=
  ["name", "msg", "args", "levelname", "levelno", "pathname", "filename", "module", "exc_info",
    "exc_text", "stack_info", "lineno", "funcName", "created", "msecs", "relativeCreated", "thread",
    "threadName", "processName", "process", "message", "asctime"]

/-- The field that a line leaves out. -/
def hiddenName : String := "taskName"

/-- The field that asks for the exception that is being handled. -/
def exceptionName : String := "exc_info"

/-- The field that holds further fields. -/
def extraName : String := "extra"

/-- The fields that are given as one value; a value that counts as false has none. -/
def extraFields (value : Value) : Except Refusal (List (String × Value)) :=
  if value.isTruthy then
    match value with
    | .mapping entries => .ok (entries.map fun (key, value) => (key.shown, value))
    | _ => .error .noMapping
  else .ok []

/-- The fields of a line: those given as one value, then the others, each in the place where its
name stood first. -/
def lineFields (c : Call) : Except Refusal (List (String × Value)) := do
  let extra ← extraFields ((c.fields.lookup extraName).getD .null)
  let own := c.fields.filter fun (name, _) => name != extraName && name != exceptionName
  let fields := Json.distinctMembers (extra ++ own)
  match fields.find? fun (name, _) => reservedNames.contains name with
  | some (name, _) => .error (.reserved name)
  | none => .ok fields

/-- The text for an exception when none is being handled. -/
def noException : String := "NoneType: None"

/-- What a call says about an exception. -/
inductive Exception where
  | unasked
  | shown (text : String)
  /-- It is given in parts that make no exception. -/
  | unreadable
  deriving DecidableEq, Repr

/-- The exception of a call. One given in parts has to be the absent one, with neither a value nor a
trace. -/
def exception (c : Call) : Exception :=
  match (c.fields.lookup exceptionName).getD .null with
  | .tuple (_ :: .null :: .null :: _) => .shown noException
  | .tuple (_ :: _) => .unreadable
  | value => if value.isTruthy then .shown noException else .unasked

/-- An identifier is shown unless it is missing or empty. -/
def boundMember (name : String) (id : Option String) : List (String × Json) :=
  match id with
  | some id => if id.isEmpty then [] else [(name, .text id)]
  | none => []

/-- The members that a line has of itself. -/
def ownMembers (context : Context) (c : Call) (message : String) : List (String × Json) :=
  [("timestamp", .text c.origin.time), ("level", .text c.level.name),
    ("logger", .text c.origin.logger), ("message", .text message),
    ("function", .text c.origin.function), ("line", .ofNat c.origin.line)]
    ++ boundMember "request_id" context.request ++ boundMember "session_id" context.session

/-- The members of a line: its own, those of the fields, and the exception. -/
def members (context : Context) (c : Call) (message : String) (fields : List (String × Value))
    (exception : Option String) : List (String × Json) :=
  let shown := fields.filter fun (name, _) => name != hiddenName
  Json.distinctMembers (ownMembers context c message
    ++ shown.map (fun (name, value) => (name, value.toJson))
    ++ exception.toList.map fun text => ("exception", .text text))

/-- A line of text: its time, its logger, its level and its message, with the exception on a line of
its own. -/
def plainText (c : Call) (message : String) (exception : Option String) : String :=
  let main := " - ".intercalate [c.origin.time, c.origin.logger, c.level.name, message]
  match exception with
  | none => main
  | some text => if main.endsWith "\n" then main ++ text else main ++ "\n" ++ text

/-- The line of a call whose fields are accepted; none if its message or its exception cannot be
written. -/
def line? (setup : Setup) (context : Context) (c : Call) (fields : List (String × Value)) :
    Option Line := do
  let message ← Template.message? c.template c.values
  let exception ← match c.exception with
    | .unasked => some none
    | .shown text => some (some text)
    | .unreadable => none
  return if setup.asObjects then .members (c.members context message fields exception)
    else .text (c.plainText message exception)

/-- Make a call. Below the threshold, nothing is looked at but the names that clash with the parts
of the call. -/
def write (setup : Setup) (context : Context) (c : Call) : Except Refusal (Option Line) :=
  match c.fields.find? fun (name, _) => partNames.contains name with
  | some (name, _) => .error (.callPart name)
  | none =>
    if c.level.severity < setup.threshold then .ok none
    else c.lineFields.map (c.line? setup context)

end Call

end Fitout.Log
