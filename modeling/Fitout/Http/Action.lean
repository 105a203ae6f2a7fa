import Fitout.Http.Message
import Fitout.Http.Route
import Fitout.Json.Body
import Fitout.Schema.Scalar
import Fitout.Session.Plan
import Fitout.Text.Cut

/-!
What a request orders, read from its path, its query and its content.
-/

namespace Fitout.Http

inductive Action where
  | tree
  | refresh (force : Bool)
  | services
  | presets
  | coefficients
  | createSession
  | deleteSession (id : String)
  | command (session : String) (command : Plan.Command)

/-- What the content of a request says. -/
inductive Content where
  | absent
  | json (value : Json)
  /-- A content that does not claim to be JSON. -/
  | foreign

inductive ContentError where
  | malformed
  | unreadable
  deriving DecidableEq, Repr

namespace Content

/-- Whether a content type stands for JSON. -/
def isJsonType (contentType : String) : Bool :=
  let kind := (Text.trimGaps (Text.cutAt ';' contentType).1).toLower
  match kind.splitOn "/" with
  | [main, sub] => main == "application" && (sub == "json" || sub.endsWith "+json")
  | _ => false

def ofRequest (r : Request) : Except ContentError Content :=
  if r.content.isEmpty then .ok .absent
  else if !(r.header? "content-type").any isJsonType then .ok .foreign
  else match Json.readBody r.content with
    | .ok value => .ok (.json value)
    | .error .unexpected => .error .malformed
    | .error .tooManyDigits | .error (.tooDeep _) | .error .misspelled => .error .unreadable

/-- The value of a content; one that is not JSON counts as null. -/
def value : Content → Json
  | json value => value
  | _ => .null

end Content

open Schema

/-- What the parts of a request say. -/
structure Inputs where
  parameters : List (String × String)
  query : List (String × String)
  content : Content

namespace Inputs

/-- A text of the path. -/
def name (i : Inputs) (parameter : String) : String :=
  (i.parameters.lookup parameter).getD ""

/-- A whole number of the path. -/
def id (i : Inputs) (parameter : String) : Reading Int :=
  ((wholeOfText (i.name parameter)).under (.member parameter)).under (.member "path")

/-- The members of the content. -/
def members {α : Type} (i : Inputs) (check : List (String × Json) → Reading α) : Reading α :=
  let reading := match i.content with
    | .absent => Reading.fail .missing
    | .json (.object ms) => check ms
    | .json _ | .foreign => Reading.fail .bodyType
  reading.under (.member "body")

/-- The words that stand for a truth value. -/
def truthValue (s : String) : Reading Bool :=
  if ["1", "true", "t", "yes", "y", "on"].contains s.toLower then .valid true
  else if ["0", "false", "f", "no", "n", "off"].contains s.toLower then .valid false
  else .fail .boolParsing

/-- A truth value of the query, false if it is missing; of several the last counts. -/
def flag (i : Inputs) (name : String) : Reading Bool :=
  match i.query.reverse.lookup name with
  | none => .valid false
  | some s => ((truthValue s).under (.member name)).under (.member "query")

/-- The value that an issue is about. -/
def quoted (i : Inputs) (issue : Issue) : Json :=
  match issue.path with
  | .member "body" :: rest => part rest i.content.value
  | [.member "path", .member name] => .text (i.name name)
  | [.member "query", .member name] => .text ((i.query.reverse.lookup name).getD "")
  | _ => .null

end Inputs

/-- Any value at all. -/
def anything (value : Json) : Reading Json :=
  .valid value

def market (value : Json) : Reading MarketType :=
  match value with
  | .text name =>
    match MarketType.ofName? name with
    | some market => .valid market
    | none => .fail .notOneOf
  | _ => .fail .notOneOf

def unitLimit : Nat := 50

def unit (value : Json) : Reading String :=
  match text value with
  | .valid s => if unitLimit < Text.length s then .fail .stringTooLong else .valid s
  | .invalid issues => .invalid issues

namespace Endpoint

/-- Whether the content of a request is read. -/
def readsContent : Endpoint → Bool
  | selectRoom | selectElement | selectSubElement | addProduct | updateProduct | addService
  | updateService | setMarket => true
  | _ => false

/-- The command that a request gives to a session. -/
def command? (i : Inputs) : Endpoint → Option (Reading Plan.Command)
  | session => some (.valid .get)
  | selectRoom => some (.selectRoom <$> i.members (field · ["category_id"] whole))
  | selectElement => some (.selectElement <$> i.members (field · ["category_id"] whole))
  | selectSubElement => some (.selectSubElement <$> i.members (field · ["category_id"] whole))
  | resetSelection => some (.valid .resetSelection)
  | selectionOptions => some (.valid .selectionOptions)
  | products => some (.valid .listProducts)
  | addProduct => some (.addProduct <$> i.members (field · ["product_id"] whole))
  | removeProduct => some (.removeProduct <$> i.id "product_id")
  | updateProduct => some (.setProductQuantity <$> i.id "product_id"
      <*> i.members (field · ["quantity"] anything))
  | addService => some (.addService <$> i.members (field · ["service_id"] whole))
  | removeService => some (.removeService <$> i.id "service_id")
  | updateService => some ((fun id (entry, unit) => .updateService id entry unit)
      <$> i.id "service_id"
      <*> i.members fun ms => Prod.mk <$> fieldOr ms "quantity" .null anything
        <*> fieldOr ms "unit" none (nullable unit))
  | clearCart => some (.valid .clearCart)
  | applyPreset => some (.applyPreset <$> i.id "preset_id")
  | setMarket => some (.setMarket <$> i.members (fieldOr · "market_type" none (nullable market)))
  | total => some (.valid .total)
  | _ => none

/-- The action that a request orders; some requests are answered without any. -/
def action? (i : Inputs) (endpoint : Endpoint) : Option (Reading Action) :=
  match endpoint with
  | tree => some (.valid .tree)
  | refresh => some (.refresh <$> i.flag "force")
  | services => some (.valid .services)
  | presets => some (.valid .presets)
  | coefficients => some (.valid .coefficients)
  | createSession => some (.valid .createSession)
  | deleteSession => some (.valid (.deleteSession (i.name "session_id")))
  | other => (other.command? i).map fun reading => .command (i.name "session_id") <$> reading

end Endpoint

end Fitout.Http
