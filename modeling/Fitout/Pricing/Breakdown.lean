import Fitout.Cart.Basic
import Fitout.Pricing.Coefficient

/-!
The price of a cart: product lines cost price times quantity, service lines also the market
coefficient. Sums are taken in line order from zero, and nothing is rounded.
-/

namespace Fitout.Pricing

inductive LineKind where
  | product
  | service
  deriving DecidableEq, Repr

def LineKind.name : LineKind → String
  | product => "product"
  | service => "service"

structure LineTotal where
  kind : LineKind
  itemId : Int
  price : Float
  quantity : Number
  total : Float

structure Breakdown where
  lines : List LineTotal
  productsSubtotal : Float
  servicesSubtotal : Float
  coefficient : Float

def Breakdown.total (b : Breakdown) : Float :=
  b.productsSubtotal + b.servicesSubtotal

/-- The quantity to charge for: one in place of a missing one, of one below one and of one that is
not finite. -/
def effectiveQuantity : Option Number → Except Overflow Number
  | none => .ok (.whole 1)
  | some (.whole n) => (Number.floatOfInt n).map fun _ => .whole (max 1 n)
  | some (.real x) => .ok (if !x.isFinite || x < 1 then .whole 1 else .real x)

def productTotal (line : ProductLine) : Except Overflow LineTotal := do
  let quantity ← effectiveQuantity line.quantity
  return ⟨.product, line.productId, line.price, quantity, line.price * (← quantity.toFloat)⟩

def serviceTotal (coefficient : Float) (line : ServiceLine) : Except Overflow LineTotal := do
  let quantity ← effectiveQuantity line.quantity
  return ⟨.service, line.serviceId, line.price, quantity,
    line.price * (← quantity.toFloat) * coefficient⟩

/-- The sum of line totals, added up in order. -/
def subtotal (lines : List LineTotal) : Float :=
  lines.foldl (· + ·.total) 0

/-- Price every line with a coefficient that may be applied. -/
def breakdownWith (cart : Cart) (coefficient : Float) : Except Overflow Breakdown := do
  let products ← cart.products.mapM productTotal
  let services ← cart.services.mapM (serviceTotal coefficient)
  return ⟨products ++ services, subtotal products, subtotal services, coefficient⟩

def breakdown (cart : Cart) (coefficient : Option Number) : Except Overflow Breakdown := do
  breakdownWith cart (← applied coefficient)

def LineTotal.toJson (line : LineTotal) : Json :=
  .object [("kind", .text line.kind.name), ("item_id", .whole line.itemId),
    ("price", .real line.price), ("quantity", .number line.quantity), ("total", .real line.total)]

def Breakdown.toJson (b : Breakdown) : Json :=
  .object [("lines", .list (b.lines.map LineTotal.toJson)),
    ("products_subtotal", .real b.productsSubtotal),
    ("services_subtotal", .real b.servicesSubtotal), ("coefficient", .real b.coefficient),
    ("total", .real b.total)]

end Fitout.Pricing
