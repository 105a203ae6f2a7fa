import Fitout.Http.Message
import Fitout.Json.Writer
import Fitout.Service.Site

/-!
The responses of the service. Numbers that are not finite are written as null.
-/

namespace Fitout

mutual

/-- The value with null in place of numbers that are not finite. -/
def Json.finite : Json → Json
  | .number (.real x) => if x.isFinite then .real x else .null
  | .list items => .list (finiteItems items)
  | .object ms => .object (finiteMembers ms)
  | value => value

def Json.finiteItems : List Json → List Json
  | [] => []
  | item :: rest => item.finite :: finiteItems rest

def Json.finiteMembers : List (String × Json) → List (String × Json)
  | [] => []
  | (key, value) :: rest => (key, value.finite) :: finiteMembers rest

end

namespace Http

namespace Response

def ofJson (status : Nat) (value : Json) : Response :=
  ⟨status, .json value.finite⟩

/-- A list under the name that lists have. -/
def dataOf {α : Type} (f : α → Json) (items : List α) : List (String × Json) :=
  [("data", .list (items.map f))]

/-- The price of a line, with its quantity as a double. -/
def lineTotal (line : Pricing.LineTotal) : Json :=
  let quantity := match line.quantity.toFloat with
    | .ok x => .real x
    | .error _ => .number line.quantity
  .object [("kind", .text line.kind.name), ("item_id", .whole line.itemId),
    ("price", .real line.price), ("quantity", quantity), ("total", .real line.total)]

def breakdown (b : Pricing.Breakdown) : Json :=
  .object [("lines", .list (b.lines.map lineTotal)),
    ("products_subtotal", .real b.productsSubtotal),
    ("services_subtotal", .real b.servicesSubtotal), ("coefficient", .real b.coefficient),
    ("total", .real b.total)]

/-- The response to a command that a session carried out. -/
def ofVisit (v : Configurator.Visit Float) : Json :=
  match v.answer with
  | .plan => v.session.toJson
  | .options options => options.toJson
  | .products products =>
    .object (dataOf Product.toJson products ++ [("total", .ofNat products.length)])
  | .coefficient value => .real value
  | .total b => breakdown b

def ofResult : Site.Result → Response
  | .tree tree => ofJson 200 tree.toJson
  | .summary summary => ofJson 200 (.object summary.members)
  | .services services => ofJson 200 (.object (dataOf Service.toJson services))
  | .presets presets => ofJson 200 (.object (dataOf Preset.toJson presets))
  | .coefficients coefficients => ofJson 200 (.object (dataOf Coefficient.toJson coefficients))
  | .created session => ofJson 201 session.toJson
  | .deleted => ⟨204, .empty⟩
  | .visited visit => ofJson 200 (ofVisit visit)

/-- A part of a request that cannot be read, with the value that stands there. -/
def issue (issue : Schema.Issue) (input : Json) : Json :=
  .object [("loc", .list (issue.path.map Schema.Step.toJson)),
    ("type", .text issue.problem.name), ("input", input)]

/-- A request with parts that cannot be read. -/
def invalid (issues : List (Schema.Issue × Json)) : Response :=
  ⟨422, .json (.object [("detail", .list (issues.map fun (i, input) => issue i input))])⟩

/-- Whether a response can be written. -/
def isWritable (response : Response) : Bool :=
  match response.body with
  | .json value => value.writeError?.isNone
  | _ => true

def statusOf : DomainError → Nat
  | .sessionNotFound _ | .categoryNotFound _ | .productNotFound _ | .serviceNotFound _
  | .presetNotFound _ => 404
  | .invalidSelection _ | .negativePrice _ => 409
  | .catalogUnavailable _ => 503

/-- A request that the domain refuses, which is reported. -/
def rejected (e : DomainError) : Response × Journal :=
  (failed (statusOf e) e.message, [.requestRejected e.message (statusOf e)])

/-- The response to an action that failed, if there is one; other failures are unexpected. -/
def ofFailure? : Site.Failure → Option (Response × Journal)
  | .refused (.domain e) => some (rejected e)
  | .refused .overflow => none
  | .unloaded (.request (.rejected circuit reason)) =>
    some (rejected (.catalogUnavailable (.circuit circuit reason)))
  | .unloaded (.request (.refused status message)) =>
    some (failed 502 s!"Upstream catalog error {status}: {message}", [])
  | .unloaded (.request (.faulty fault)) =>
    some (failed 502 ("Upstream catalog unreachable: " ++ fault.message), [])
  | .unloaded (.request (.unwritten _)) | .unloaded (.request (.rootless _))
  | .unloaded (.request (.tooDeep _)) | .unloaded (.unpacking _) | .unloaded (.packing _) => none

end Response

end Http

end Fitout
