import Fitout.Cart.Merge
import Fitout.Catalog.Store
import Fitout.Pricing.Breakdown

/-!
A plan is what one visitor works on: a selection of categories, a cart and the market it is meant
for. Commands change a plan against the current catalog, or fail and change nothing.
-/

namespace Fitout

structure Plan where
  selection : Selection
  cart : Cart
  market : Option MarketType

/-- The categories that can be chosen next on each level. -/
structure SelectionOptions where
  rooms : List Category
  elements : List Category
  subElements : List Category

namespace Plan

def empty : Plan :=
  ⟨.empty, .empty, none⟩

/-- Whether a chosen category is in the catalog under the same parent. -/
def isCurrent (snapshot : Catalog.Snapshot) (c : Category) : Bool :=
  (snapshot.category? c.id).any (·.parentId == c.parentId)

/-- The chosen categories that the catalog no longer bears out; a room that is no root comes
last. -/
def outdated (snapshot : Catalog.Snapshot) (selection : Selection) : List Int :=
  ((selection.chosen.filter (!isCurrent snapshot ·)).map Category.id) ++
    ((selection.room?.toList.filter (!snapshot.tree.isRoot ·.id)).map Category.id)

/-- Drop a selection that the catalog no longer bears out. -/
def sync (snapshot : Catalog.Snapshot) (plan : Plan) : Plan :=
  if (outdated snapshot plan.selection).isEmpty then plan else { plan with selection := .empty }

inductive Answer where
  | plan
  | options (options : SelectionOptions)
  | products (products : List Product)
  | coefficient (value : Float)
  | total (breakdown : Pricing.Breakdown)

structure Done where
  plan : Plan
  answer : Answer := .plan
  events : Journal := []

inductive Command where
  | get
  | selectRoom (category : Int)
  | selectElement (category : Int)
  | selectSubElement (category : Int)
  | resetSelection
  | selectionOptions
  | listProducts
  | addProduct (product : Int)
  | removeProduct (product : Int)
  | setProductQuantity (product : Int) (entry : Json)
  | addService (service : Int)
  | removeService (service : Int)
  | updateService (service : Int) (entry : Json) (unit : Option String)
  | clearCart
  | applyPreset (preset : Int)
  | setMarket (market : Option MarketType)
  | coefficient
  | total

abbrev Outcome := Except Refusal Done

def ofSelection : Except SelectionError Selection → Except Refusal Selection
  | .ok s => .ok s
  | .error e => .error (.domain (.invalidSelection e))

variable (store : Catalog.Store) (plan : Plan)

def selectRoom (id : Int) : Outcome := do
  let snapshot ← Refusal.ofDomain store.current
  let category ← Refusal.ofDomain (store.category id)
  if snapshot.tree.isRoot id then
    return { plan := { plan with selection := plan.selection.selectRoom category } }
  else throw (.domain (.invalidSelection (.notRoom id)))

def selectElement (id : Int) : Outcome := do
  let category ← Refusal.ofDomain (store.category id)
  let selection ← ofSelection (plan.selection.selectElement category)
  return { plan := { plan with selection } }

def selectSubElement (id : Int) : Outcome := do
  let category ← Refusal.ofDomain (store.category id)
  let selection ← ofSelection (plan.selection.selectSubElement category)
  return { plan := { plan with selection } }

/-- The rooms of the tree, and the children of what is chosen. -/
def selectionOptions : Outcome := do
  let snapshot ← Refusal.ofDomain store.current
  return { plan, answer := .options {
    rooms := snapshot.tree.rooms.map (·.category)
    elements := plan.selection.availableElements snapshot.categories
    subElements := plan.selection.availableSubElements snapshot.categories } }

/-- The products of the chosen sub-element. -/
def listProducts : Outcome := do
  let snapshot ← Refusal.ofDomain store.current
  let subElement := plan.selection.subElement?.map Category.id
  return { plan, answer := .products (Product.ofSubElement snapshot.products subElement) }

def addProduct (id : Int) : Outcome := do
  let product ← Refusal.ofDomain (store.product id)
  let (cart, added) := plan.cart.addProduct product
  return {
    plan := { plan with cart }
    events := [.cartChanged .addProduct, .productAdded id added]
  }

def addService (id : Int) : Outcome := do
  let service ← Refusal.ofDomain (store.service id)
  let (cart, added) := plan.cart.addService service
  return {
    plan := { plan with cart }
    events := [.cartChanged .addService, .serviceAdded id added]
  }

/-- Change the cart, which counts as one operation. -/
def withCart (operation : CartOperation) (cart : Cart) : Done :=
  { plan := { plan with cart }, events := [.cartChanged operation] }

def setProductQuantity (id : Int) (entry : Json) : Outcome := do
  let cart ← Refusal.ofOverflow (plan.cart.setProductQuantity id entry)
  return plan.withCart .setProductQuantity cart

/-- Set the quantity unless the entry is null, then the unit unless there is none. -/
def updateService (id : Int) (entry : Json) (unit : Option String) : Outcome := do
  let cart ← match entry with
    | .null => pure plan.cart
    | entry => Refusal.ofOverflow (plan.cart.setServiceQuantity id entry)
  let cart := match unit with
    | none => cart
    | some unit => cart.setServiceUnit id (some unit)
  return plan.withCart .updateService cart

/-- Merge a preset of the catalog into the cart. -/
def applyPreset (id : Int) : Outcome := do
  let preset ← Refusal.ofDomain (store.preset id)
  let merge := plan.cart.merge preset
  return {
    plan := { plan with cart := merge.cart }
    events := [.presetMerged preset.id preset.items.length merge.added merge.broken,
      .presetApplied id] }

/-- The coefficient of the plan's market; without a catalog it is one. -/
def resolution (names : Pricing.MarketNames) : Pricing.Resolution :=
  match store.installed with
  | none => .unasked
  | some snapshot => Pricing.resolve plan.market snapshot.coefficients names

def resolutionEvents : Pricing.Resolution → Journal
  | .unlisted market name => [.coefficientUnlisted market name]
  | .unasked | .listed _ => []

def coefficient (names : Pricing.MarketNames) : Outcome :=
  let found := plan.resolution store names
  .ok { plan, answer := .coefficient found.coefficient, events := resolutionEvents found }

/-- Price the cart with the coefficient of the plan's market. -/
def total (names : Pricing.MarketNames) : Outcome := do
  let found := plan.resolution store names
  let given := some (Number.real found.coefficient)
  let breakdown ← Refusal.ofOverflow (Pricing.breakdown plan.cart given)
  let refused := (Pricing.refused? given).toList.map Event.coefficientRefused
  return { plan, answer := .total breakdown, events := resolutionEvents found ++ refused }

def run (names : Pricing.MarketNames) : Command → Outcome
  | .get => .ok { plan }
  | .selectRoom id => plan.selectRoom store id
  | .selectElement id => plan.selectElement store id
  | .selectSubElement id => plan.selectSubElement store id
  | .resetSelection => .ok { plan := { plan with selection := .empty } }
  | .selectionOptions => plan.selectionOptions store
  | .listProducts => plan.listProducts store
  | .addProduct id => plan.addProduct store id
  | .removeProduct id => .ok (plan.withCart .removeProduct (plan.cart.removeProduct id).1)
  | .setProductQuantity id entry => plan.setProductQuantity id entry
  | .addService id => plan.addService store id
  | .removeService id => .ok (plan.withCart .removeService (plan.cart.removeService id).1)
  | .updateService id entry unit => plan.updateService id entry unit
  | .clearCart => .ok (plan.withCart .clear .empty)
  | .applyPreset id => plan.applyPreset store id
  | .setMarket market => .ok { plan := { plan with market }, events := [.marketSet market] }
  | .coefficient => plan.coefficient store names
  | .total => plan.total store names

end Plan

def SelectionOptions.toJson (o : SelectionOptions) : Json :=
  .object [("rooms", .list (o.rooms.map Category.toJson)),
    ("elements", .list (o.elements.map Category.toJson)),
    ("sub_elements", .list (o.subElements.map Category.toJson))]

end Fitout
