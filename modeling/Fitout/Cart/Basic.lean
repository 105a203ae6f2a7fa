import Fitout.Cart.Quantity
import Fitout.Catalog.Basic

/-!
The cart: product lines and service lines in the order in which they came, at most one for each id.
Every operation is total; an id without a line is ignored.
-/

namespace Fitout

/-- A counted product. A quantity may be missing. -/
structure ProductLine where
  productId : Int
  price : Float
  quantity : Option Number
  name : String

/-- A measured service; the unit is free text. A quantity may be missing. -/
structure ServiceLine where
  serviceId : Int
  price : Float
  quantity : Option Number
  unit : String
  name : String

structure Cart where
  products : List ProductLine
  services : List ServiceLine

/-- A single piece of a product. -/
def ProductLine.ofProduct (p : Product) : ProductLine :=
  ⟨p.id, p.price, some (.whole 1), p.name⟩

/-- One of a service, without a unit. -/
def ServiceLine.ofService (s : Service) : ServiceLine :=
  ⟨s.id, s.price, some (.real 1), "", s.name⟩

namespace Cart

def empty : Cart :=
  ⟨[], []⟩

def isEmpty (cart : Cart) : Bool :=
  cart.products.isEmpty && cart.services.isEmpty

def product? (cart : Cart) (id : Int) : Option ProductLine :=
  cart.products.find? (·.productId == id)

def service? (cart : Cart) (id : Int) : Option ServiceLine :=
  cart.services.find? (·.serviceId == id)

def hasProduct (cart : Cart) (id : Int) : Bool :=
  cart.products.any (·.productId == id)

def hasService (cart : Cart) (id : Int) : Bool :=
  cart.services.any (·.serviceId == id)

/-- Append lines, leaving out those whose id has one; how many were appended. -/
def appendLines (cart : Cart) : List ProductLine → Cart × Nat
  | [] => (cart, 0)
  | line :: rest =>
    if cart.hasProduct line.productId then cart.appendLines rest
    else
      let (cart, appended) := { cart with products := cart.products ++ [line] }.appendLines rest
      (cart, appended + 1)

/-- Add a single piece; whether there was no line yet. -/
def addProduct (cart : Cart) (p : Product) : Cart × Bool :=
  if cart.hasProduct p.id then (cart, false)
  else ({ cart with products := cart.products ++ [.ofProduct p] }, true)

/-- Add a service; whether there was no line yet. -/
def addService (cart : Cart) (s : Service) : Cart × Bool :=
  if cart.hasService s.id then (cart, false)
  else ({ cart with services := cart.services ++ [.ofService s] }, true)

/-- Remove a line; whether there was one. -/
def removeProduct (cart : Cart) (id : Int) : Cart × Bool :=
  ({ cart with products := cart.products.filter (·.productId != id) }, cart.hasProduct id)

/-- Remove a line; whether there was one. -/
def removeService (cart : Cart) (id : Int) : Cart × Bool :=
  ({ cart with services := cart.services.filter (·.serviceId != id) }, cart.hasService id)

def updateProduct (cart : Cart) (id : Int) (update : ProductLine → ProductLine) : Cart :=
  { cart with products := cart.products.map fun line =>
      if line.productId == id then update line else line }

def updateService (cart : Cart) (id : Int) (update : ServiceLine → ServiceLine) : Cart :=
  { cart with services := cart.services.map fun line =>
      if line.serviceId == id then update line else line }

/-- Set the quantity of a line from what was entered. What was entered matters only if there is a
line. -/
def setProductQuantity (cart : Cart) (id : Int) (entry : Json) : Except Overflow Cart :=
  if cart.hasProduct id then
    return cart.updateProduct id ({ · with quantity := some (.whole (← Quantity.count entry)) })
  else .ok cart

/-- Set the quantity of a line from what was entered. What was entered matters only if there is a
line. -/
def setServiceQuantity (cart : Cart) (id : Int) (entry : Json) : Except Overflow Cart :=
  if cart.hasService id then
    return cart.updateService id ({ · with quantity := some (.real (← Quantity.measure entry)) })
  else .ok cart

/-- Set the unit of a line, without the gaps around it. -/
def setServiceUnit (cart : Cart) (id : Int) (unit : Option String) : Cart :=
  cart.updateService id ({ · with unit := Text.trimGaps (unit.getD "") })

def storeServiceQuantity (cart : Cart) (id : Int) (quantity : Option Number) : Cart :=
  cart.updateService id ({ · with quantity })

end Cart

def ProductLine.toJson (line : ProductLine) : Json :=
  .object [("product_id", .whole line.productId), ("name", .text line.name),
    ("price", .real line.price), ("quantity", .ofOption .number line.quantity)]

def ServiceLine.toJson (line : ServiceLine) : Json :=
  .object [("service_id", .whole line.serviceId), ("name", .text line.name),
    ("price", .real line.price), ("quantity", .ofOption .number line.quantity),
    ("unit", .text line.unit)]

def Cart.toJson (cart : Cart) : Json :=
  .object [("products", .list (cart.products.map ProductLine.toJson)),
    ("services", .list (cart.services.map ServiceLine.toJson))]

end Fitout
