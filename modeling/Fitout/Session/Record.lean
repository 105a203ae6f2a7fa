import Fitout.Record
import Fitout.Session.Plan

/-!
Markets and commands from records. A command is named by the member `do`.
-/

namespace Fitout

open Record

inductive CommandError where
  | unknownCommand
  | unknownMarket
  deriving DecidableEq, Repr

def MarketType.ofRecord : Json → Except CommandError (Option MarketType)
  | .null => .ok none
  | v =>
    match (text? v).bind MarketType.ofName? with
    | some m => .ok (some m)
    | none => .error .unknownMarket

/-- The coefficient names of markets; there may be no others than these. -/
def Pricing.MarketNames.ofRecord (v : Json) : Except CommandError Pricing.MarketNames :=
  match v with
  | .object ms =>
    if ms.all fun (key, _) => (MarketType.ofName? key).isSome then
      .ok ⟨text? (get v "primary"), text? (get v "secondary")⟩
    else .error .unknownMarket
  | _ => .ok ⟨none, none⟩

def Plan.Command.ofRecord (v : Json) : Except CommandError Plan.Command :=
  let id := whole v "id"
  match text v "do" with
  | "get_session" => .ok .get
  | "select_room" => .ok (.selectRoom id)
  | "select_element" => .ok (.selectElement id)
  | "select_sub_element" => .ok (.selectSubElement id)
  | "reset_selection" => .ok .resetSelection
  | "selection_options" => .ok .selectionOptions
  | "list_products" => .ok .listProducts
  | "add_product" => .ok (.addProduct id)
  | "remove_product" => .ok (.removeProduct id)
  | "set_product_quantity" => .ok (.setProductQuantity id (Record.get v "quantity"))
  | "add_service" => .ok (.addService id)
  | "remove_service" => .ok (.removeService id)
  | "update_service" =>
    .ok (.updateService id (Record.get v "quantity") (text? (Record.get v "unit")))
  | "clear_cart" => .ok .clearCart
  | "apply_preset" => .ok (.applyPreset id)
  | "set_market_type" => (MarketType.ofRecord (Record.get v "market_type")).map .setMarket
  | "coefficient_for" => .ok .coefficient
  | "get_total" => .ok .total
  | _ => .error .unknownCommand

end Fitout
