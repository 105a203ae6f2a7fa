/-!
The routes of the service: what can be asked for, with which method and at which path.
-/

namespace Fitout.Http

inductive Endpoint where
  | tree
  | refresh
  | services
  | presets
  | coefficients
  | createSession
  | session
  | deleteSession
  | selectRoom
  | selectElement
  | selectSubElement
  | resetSelection
  | selectionOptions
  | products
  | addProduct
  | removeProduct
  | updateProduct
  | addService
  | removeService
  | updateService
  | clearCart
  | applyPreset
  | setMarket
  | total
  | health
  | metrics
  | root
  deriving DecidableEq, Repr

inductive Segment where
  | exact (s : String)
  | parameter (name : String)
  deriving DecidableEq, Repr

def Segment.text : Segment → String
  | exact s => s
  | parameter name => "\x7b" ++ name ++ "\x7d"

structure Route where
  method : String
  template : List Segment
  endpoint : Endpoint

namespace Route

/-- The path template, under which requests are counted. -/
def path (r : Route) : String :=
  String.join (r.template.map fun segment => "/" ++ segment.text)

def exactly (parts : List String) : List Segment :=
  parts.map .exact

/-- The path of something below the service's own. -/
def api (parts : List String) : List Segment :=
  exactly (["api", "v1"] ++ parts)

/-- The path of something that belongs to a session. -/
def ofSession (rest : List Segment) : List Segment :=
  api ["sessions"] ++ .parameter "session_id" :: rest

def ofProduct : List Segment :=
  ofSession (exactly ["cart", "products"] ++ [.parameter "product_id"])

def ofService : List Segment :=
  ofSession (exactly ["cart", "services"] ++ [.parameter "service_id"])

/-- All routes, the first that fits being taken. -/
def all : List Route := [
  ⟨"GET", api ["catalog", "tree"], .tree⟩,
  ⟨"POST", api ["catalog", "refresh"], .refresh⟩,
  ⟨"GET", api ["catalog", "services"], .services⟩,
  ⟨"GET", api ["catalog", "presets"], .presets⟩,
  ⟨"GET", api ["catalog", "coefficients"], .coefficients⟩,
  ⟨"POST", api ["sessions"], .createSession⟩,
  ⟨"GET", ofSession [], .session⟩,
  ⟨"DELETE", ofSession [], .deleteSession⟩,
  ⟨"PUT", ofSession (exactly ["selection", "room"]), .selectRoom⟩,
  ⟨"PUT", ofSession (exactly ["selection", "element"]), .selectElement⟩,
  ⟨"PUT", ofSession (exactly ["selection", "sub-element"]), .selectSubElement⟩,
  ⟨"DELETE", ofSession (exactly ["selection"]), .resetSelection⟩,
  ⟨"GET", ofSession (exactly ["selection", "options"]), .selectionOptions⟩,
  ⟨"GET", ofSession (exactly ["products"]), .products⟩,
  ⟨"POST", ofSession (exactly ["cart", "products"]), .addProduct⟩,
  ⟨"DELETE", ofProduct, .removeProduct⟩,
  ⟨"PATCH", ofProduct, .updateProduct⟩,
  ⟨"POST", ofSession (exactly ["cart", "services"]), .addService⟩,
  ⟨"DELETE", ofService, .removeService⟩,
  ⟨"PATCH", ofService, .updateService⟩,
  ⟨"DELETE", ofSession (exactly ["cart"]), .clearCart⟩,
  ⟨"POST", ofSession [.exact "presets", .parameter "preset_id"], .applyPreset⟩,
  ⟨"PUT", ofSession (exactly ["market-type"]), .setMarket⟩,
  ⟨"GET", ofSession (exactly ["total"]), .total⟩,
  ⟨"GET", exactly ["health"], .health⟩,
  ⟨"GET", exactly ["metrics"], .metrics⟩,
  ⟨"GET", exactly [""], .root⟩]

/-- The parameters that a path gives to a template, if it fits; a parameter is never empty, and a
line feed may end a path. -/
def matchPath : List Segment → List String → Option (List (String × String))
  | [], [] => some []
  | [.exact s], [part] => if part == s || part == s ++ "\n" then some [] else none
  | .exact s :: template, part :: parts => if s == part then matchPath template parts else none
  | .parameter name :: template, part :: parts =>
    if part.isEmpty then none else (matchPath template parts).map ((name, part) :: ·)
  | _, _ => none

end Route

inductive Routing where
  | found (route : Route) (parameters : List (String × String))
  /-- The path has a route, but for other methods only. -/
  | otherMethod (route : Route)
  /-- The path has a route without the slashes at its end. -/
  | elsewhere
  | nowhere

namespace Routing

/-- The first route whose path fits, of any method. -/
def fitting? (segments : List String) : Option Route :=
  Route.all.find? fun route => (Route.matchPath route.template segments).isSome

/-- The parts of a path without slashes at its end. -/
def withoutLast (segments : List String) : List String :=
  (segments.reverse.dropWhile (·.isEmpty)).reverse

def ofRequest (method : String) (segments : List String) : Routing :=
  let found := Route.all.findSome? fun route =>
    if route.method == method then
      (Route.matchPath route.template segments).map fun parameters => (route, parameters)
    else none
  match found, fitting? segments with
  | some (route, parameters), _ => .found route parameters
  | none, some route => .otherMethod route
  | none, none =>
    if segments.getLast? == some "" && (fitting? (withoutLast segments)).isSome then .elsewhere
    else .nowhere

end Routing

end Fitout.Http
