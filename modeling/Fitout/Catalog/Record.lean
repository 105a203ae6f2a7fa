import Fitout.Catalog.Snapshot
import Fitout.DomainError
import Fitout.Record

/-!
Catalog entities from records, which are taken at their word. A price must be a double and not be
below zero.
-/

namespace Fitout

open Record

def Category.ofRecord (v : Json) : Category :=
  ⟨whole v "id", text v "name", whole? (get v "parent_id"), text? (get v "description")⟩

def Attribute.ofRecord (v : Json) : Attribute :=
  ⟨text v "name", text v "value", text? (get v "unit")⟩

def ServiceRef.ofRecord (v : Json) : ServiceRef :=
  ⟨whole v "service_id", text? (get v "name")⟩

/-- An entity whose price was checked. -/
def ofChecked {α : Type} : Except NegativePrice α → Except Refusal α
  | .ok a => .ok a
  | .error e => .error (.domain (.negativePrice e))

def Product.ofRecord (v : Json) : Except Refusal Product := do
  let p : Product := {
    id := whole v "product_id"
    name := text v "name"
    price := ← Refusal.ofOverflow (double v "price")
    categoryId := whole? (get v "category_id")
    description := text? (get v "description")
    imageUrl := text? (get v "image_url")
    attributes := (list v "attributes").map Attribute.ofRecord
    services := (list v "services").map ServiceRef.ofRecord }
  ofChecked p.checked

def Service.ofRecord (v : Json) : Except Refusal Service := do
  let price ← Refusal.ofOverflow (double v "price")
  ofChecked (Service.checked ⟨whole v "id", text v "name", price, text? (get v "description")⟩)

/-- An item of a preset; null is a broken one. -/
def Preset.itemOfRecord : Json → Except Refusal (Option Product)
  | .null => .ok none
  | item => some <$> Product.ofRecord item

def Preset.ofRecord (v : Json) : Except Refusal Preset := do
  return {
    id := whole v "preset_id"
    name := text v "name"
    items := ← (list v "items").mapM Preset.itemOfRecord
    totalPrice := ← Refusal.ofOverflow (double v "total_price")
    description := text? (get v "description")
    imageUrl := text? (get v "image_url") }

def Coefficient.ofRecord (v : Json) : Except Refusal Coefficient := do
  return ⟨whole v "id", text v "name", ← Refusal.ofOverflow (double v "value")⟩

def Catalog.Data.ofRecord (v : Json) : Except Refusal Catalog.Data := do
  return {
    categories := (list v "categories").map Category.ofRecord
    products := ← (list v "products").mapM Product.ofRecord
    services := ← (list v "services").mapM Service.ofRecord
    presets := ← (list v "presets").mapM Preset.ofRecord
    coefficients := ← (list v "coefficients").mapM Coefficient.ofRecord }

def Catalog.Data.toJson (d : Catalog.Data) : Json :=
  .object [("categories", .list (d.categories.map Category.toJson)),
    ("products", .list (d.products.map Product.toJson)),
    ("services", .list (d.services.map Service.toJson)),
    ("presets", .list (d.presets.map Preset.toJson)),
    ("coefficients", .list (d.coefficients.map Coefficient.toJson))]

end Fitout
