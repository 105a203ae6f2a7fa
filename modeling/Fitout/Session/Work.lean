import Fitout.Session.Plan

/-!
Commands at work. A command reads, writes and reports one thing after the other. What it wrote and
reported stays when a later step refuses; nothing is taken back.
-/

namespace Fitout.Plan

/-- A plan that is being worked on, and what was reported so far. -/
structure Desk where
  plan : Plan
  events : Journal

/-- Steps of work. A refusal ends them and leaves the desk as it is at that moment. -/
abbrev Work := EStateM Refusal Desk

namespace Work

def plan : Work Plan := do
  return (← get).plan

def write (plan : Plan) : Work Unit :=
  modify ({ · with plan })

def writeCart (cart : Cart) : Work Unit := do
  write { (← plan) with cart }

def report (events : Journal) : Work Unit :=
  modify fun desk => { desk with events := desk.events ++ events }

/-- Go on with a value, if there is one. -/
def take {α : Type} : Except Refusal α → Work α
  | .ok a => pure a
  | .error e => throw e

/-- Write what choosing a category makes of the selection, if it can be chosen. -/
def choose (select : Selection → Except SelectionError Selection) : Work Unit := do
  let plan ← plan
  let selection ← take (ofSelection (select plan.selection))
  write { plan with selection }

end Work

open Work

/-- Carry out a command at a desk. -/
def carryOut (store : Catalog.Store) (names : Pricing.MarketNames) : Command → Work Answer
  | .get => return .plan
  | .selectRoom id => do
    let snapshot ← take (Refusal.ofDomain store.current)
    let category ← take (Refusal.ofDomain (store.category id))
    if snapshot.tree.isRoot id then
      choose fun selection => .ok (selection.selectRoom category)
      return .plan
    else throw (.domain (.invalidSelection (.notRoom id)))
  | .selectElement id => do
    let category ← take (Refusal.ofDomain (store.category id))
    choose (·.selectElement category)
    return .plan
  | .selectSubElement id => do
    let category ← take (Refusal.ofDomain (store.category id))
    choose (·.selectSubElement category)
    return .plan
  | .resetSelection => do
    choose fun _ => .ok .empty
    return .plan
  | .selectionOptions => do
    let snapshot ← take (Refusal.ofDomain store.current)
    let selection := (← plan).selection
    return .options {
      rooms := snapshot.tree.rooms.map (·.category)
      elements := selection.availableElements snapshot.categories
      subElements := selection.availableSubElements snapshot.categories }
  | .listProducts => do
    let snapshot ← take (Refusal.ofDomain store.current)
    let subElement := (← plan).selection.subElement?.map Category.id
    return .products (Product.ofSubElement snapshot.products subElement)
  | .addProduct id => do
    let product ← take (Refusal.ofDomain (store.product id))
    let (cart, added) := (← plan).cart.addProduct product
    writeCart cart
    report [.cartChanged .addProduct, .productAdded id added]
    return .plan
  | .removeProduct id => do
    writeCart ((← plan).cart.removeProduct id).1
    report [.cartChanged .removeProduct]
    return .plan
  | .setProductQuantity id entry => do
    writeCart (← take (Refusal.ofOverflow ((← plan).cart.setProductQuantity id entry)))
    report [.cartChanged .setProductQuantity]
    return .plan
  | .addService id => do
    let service ← take (Refusal.ofDomain (store.service id))
    let (cart, added) := (← plan).cart.addService service
    writeCart cart
    report [.cartChanged .addService, .serviceAdded id added]
    return .plan
  | .removeService id => do
    writeCart ((← plan).cart.removeService id).1
    report [.cartChanged .removeService]
    return .plan
  | .updateService id entry unit => do
    -- The quantity is written before the unit is looked at.
    match entry with
    | .null => pure ()
    | entry => writeCart (← take (Refusal.ofOverflow ((← plan).cart.setServiceQuantity id entry)))
    match unit with
    | none => pure ()
    | some unit => writeCart ((← plan).cart.setServiceUnit id (some unit))
    report [.cartChanged .updateService]
    return .plan
  | .clearCart => do
    writeCart .empty
    report [.cartChanged .clear]
    return .plan
  | .applyPreset id => do
    let preset ← take (Refusal.ofDomain (store.preset id))
    let merge := (← plan).cart.merge preset
    writeCart merge.cart
    report [.presetMerged preset.id preset.items.length merge.added merge.broken,
      .presetApplied id]
    return .plan
  | .setMarket market => do
    write { (← plan) with market }
    report [.marketSet market]
    return .plan
  | .coefficient => do
    let found := (← plan).resolution store names
    report (resolutionEvents found)
    return .coefficient found.coefficient
  | .total => do
    let found := (← plan).resolution store names
    report (resolutionEvents found)
    let given := some (Number.real found.coefficient)
    report ((Pricing.refused? given).toList.map .coefficientRefused)
    return .total (← take (Refusal.ofOverflow (Pricing.breakdown (← plan).cart given)))

end Fitout.Plan
