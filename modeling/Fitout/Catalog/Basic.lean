import Fitout.Category.Basic

/-!
What the catalog offers besides categories: products, services, presets and market coefficients.
-/

namespace Fitout

structure Attribute where
  name : String
  value : String
  unit : Option String

/-- A service that a product is commonly bought with. -/
structure ServiceRef where
  serviceId : Int
  name : Option String

/-- A product belongs to a sub-element; the ones inside presets may belong to none. -/
structure Product where
  id : Int
  name : String
  price : Float
  categoryId : Option Int
  description : Option String
  imageUrl : Option String
  attributes : List Attribute
  services : List ServiceRef

structure Service where
  id : Int
  name : String
  price : Float
  description : Option String

/-- A named, ordered bundle; an item without a product is a broken reference. -/
structure Preset where
  id : Int
  name : String
  items : List (Option Product)
  totalPrice : Float
  description : Option String
  imageUrl : Option String

/-- A named multiplier of service prices. -/
structure Coefficient where
  id : Int
  name : String
  value : Float

inductive MarketType where
  | primary
  | secondary
  deriving DecidableEq, Repr

namespace MarketType

def name : MarketType → String
  | primary => "primary"
  | secondary => "secondary"

def ofName? (name : String) : Option MarketType :=
  [primary, secondary].find? (·.name == name)

end MarketType

inductive NegativePrice where
  | product
  | service
  deriving DecidableEq, Repr

namespace Attribute

def toJson (a : Attribute) : Json :=
  .object [("name", .text a.name), ("value", .text a.value), ("unit", .ofOption .text a.unit)]

end Attribute

namespace ServiceRef

def toJson (r : ServiceRef) : Json :=
  .object [("service_id", .whole r.serviceId), ("name", .ofOption .text r.name)]

end ServiceRef

namespace Product

/-- The product, unless its price is below zero. -/
def checked (p : Product) : Except NegativePrice Product :=
  if p.price < 0 then .error .product else .ok p

def toJson (p : Product) : Json :=
  .object [("product_id", .whole p.id), ("name", .text p.name), ("price", .real p.price),
    ("category_id", .ofOption .whole p.categoryId),
    ("description", .ofOption .text p.description), ("image_url", .ofOption .text p.imageUrl),
    ("attributes", .list (p.attributes.map Attribute.toJson)),
    ("services", .list (p.services.map ServiceRef.toJson))]

/-- The products of a sub-element, in catalog order; without one there are none. -/
def ofSubElement (products : List Product) : Option Int → List Product
  | none => []
  | some id => products.filter (·.categoryId == some id)

end Product

namespace Service

/-- The service, unless its price is below zero. -/
def checked (s : Service) : Except NegativePrice Service :=
  if s.price < 0 then .error .service else .ok s

def toJson (s : Service) : Json :=
  .object [("id", .whole s.id), ("name", .text s.name), ("price", .real s.price),
    ("description", .ofOption .text s.description)]

end Service

namespace Preset

/-- The products in item order, without the broken items. -/
def products (p : Preset) : List Product :=
  p.items.filterMap fun item => item

def itemJson (item : Option Product) : Json :=
  .object [("product", .ofOption Product.toJson item)]

def toJson (p : Preset) : Json :=
  .object [("preset_id", .whole p.id), ("name", .text p.name),
    ("description", .ofOption .text p.description), ("image_url", .ofOption .text p.imageUrl),
    ("total_price", .real p.totalPrice), ("items", .list (p.items.map itemJson))]

end Preset

namespace Coefficient

def toJson (c : Coefficient) : Json :=
  .object [("id", .whole c.id), ("name", .text c.name), ("value", .real c.value)]

end Coefficient

end Fitout
