import Fitout.Cart.Basic

/-!
Merging a preset into a cart: its products become lines, in preset order, unless the cart has one.
-/

namespace Fitout

structure Merge where
  cart : Cart
  /-- How many lines are new. -/
  added : Nat
  /-- How many items had no product. -/
  broken : Nat

namespace Cart

/-- The lines that the items of a preset bring in, given the ids they brought in before. -/
def newLines (cart : Cart) (seen : List Int) : List (Option Product) → List ProductLine
  | [] => []
  | none :: rest => cart.newLines seen rest
  | some p :: rest =>
    if seen.contains p.id || cart.hasProduct p.id then cart.newLines seen rest
    else .ofProduct p :: cart.newLines (p.id :: seen) rest

/-- Merge a preset; lines that exist keep their place, price and quantity. -/
def merge (cart : Cart) (preset : Preset) : Merge :=
  let (merged, added) := cart.appendLines (cart.newLines [] preset.items)
  ⟨merged, added, preset.items.countP Option.isNone⟩

end Cart

end Fitout
