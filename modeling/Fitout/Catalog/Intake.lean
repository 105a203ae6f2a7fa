import Fitout.Catalog.Basic
import Fitout.Schema.Scalar

/-!
Reading catalog entities from JSON. Ids go by several names, texts are trimmed, and the parts of a
product that are of no use are dropped: attributes without a name, and preset products that cannot
be read.
-/

namespace Fitout

open Schema

/-- An object, whose members are to be read. -/
def Schema.members {α : Type} (check : List (String × Json) → Reading α) : Json → Reading α
  | .object ms => check ms
  | _ => .fail .objectType

namespace Category

def ofMembers (ms : List (String × Json)) : Reading Category :=
  Category.mk <$> field ms ["id", "category_id"] whole
    <*> field ms ["name"] trimmed
    <*> fieldOr ms "parent_id" none (nullable whole)
    <*> fieldOr ms "description" none (nullable trimmed)

def ofJson : Json → Reading Category :=
  members ofMembers

end Category

namespace Attribute

/-- The value of an attribute; numbers are written out. -/
def valueText : Json → Reading String
  | .null => .valid ""
  | .number n => .valid n.text
  | value => trimmed value

/-- The unit of an attribute; an empty one is none. -/
def unitText (value : Json) : Reading (Option String) :=
  (·.filter (!·.isEmpty)) <$> nullable trimmed value

def ofMembers (ms : List (String × Json)) : Reading Attribute :=
  Attribute.mk <$> field ms ["name"] trimmed
    <*> fieldOr ms "value" "" valueText
    <*> fieldOr ms "unit" none unitText

/-- Whether a value is an object with a name. -/
def isNamed : Json → Bool
  | .object ms => (ms.lookup "name").any Json.isTruthy
  | _ => false

/-- The attributes of a product: the values that are objects with a name. -/
def listOfJson : Json → Reading (List Attribute)
  | .null => .valid []
  | .list values => itemsFrom (members ofMembers) 0 (values.filter isNamed)
  | _ => .fail .refused

end Attribute

namespace ServiceRef

def ofMembers (ms : List (String × Json)) : Reading ServiceRef :=
  ServiceRef.mk <$> field ms ["service_id", "id"] whole
    <*> fieldOr ms "name" none (nullable trimmed)

def listOfJson : Json → Reading (List ServiceRef)
  | .null => .valid []
  | value => items (members ofMembers) value

end ServiceRef

namespace Product

def ofMembers (ms : List (String × Json)) : Reading Product :=
  Product.mk <$> field ms ["product_id", "id"] whole
    <*> field ms ["name"] trimmed
    <*> field ms ["price"] nonNegative
    <*> fieldOr ms "category_id" none (nullable whole)
    <*> fieldOr ms "description" none (nullable trimmed)
    <*> fieldOr ms "image_url" none (nullable trimmed)
    <*> fieldOr ms "attributes" [] Attribute.listOfJson
    <*> fieldOr ms "services" [] ServiceRef.listOfJson

def ofJson : Json → Reading Product :=
  members ofMembers

end Product

namespace Service

def ofMembers (ms : List (String × Json)) : Reading Service :=
  Service.mk <$> field ms ["id", "service_id"] whole
    <*> field ms ["name"] trimmed
    <*> field ms ["price"] nonNegative
    <*> fieldOr ms "description" none (nullable trimmed)

def ofJson : Json → Reading Service :=
  members ofMembers

end Service

namespace Preset

/-- The product of a preset item; an item that is no object, or has none, is broken. -/
def itemProduct : Json → Reading (Option Product)
  | .object ms => match ms.lookup "product" with
    | some value => nullable Product.ofJson value
    | none => .valid none
  | _ => .valid none

/-- The items of a preset; a product that cannot be read makes a broken item. -/
def itemsOfJson : Json → Reading (List (Option Product))
  | .null => .valid []
  | .list values => .valid (values.map fun value => (itemProduct value).toOption.join)
  | _ => .fail .listType

/-- How many issues each dropped product of a preset has, in item order. -/
def dropped : Json → List Nat
  | .object ms => match ms.lookup "items" with
    | some (.list values) =>
      values.map (fun value => (itemProduct value).issueCount) |>.filter (· != 0)
    | _ => []
  | _ => []

def ofMembers (ms : List (String × Json)) : Reading Preset :=
  (fun id name description imageUrl totalPrice items =>
      ⟨id, name, items, totalPrice, description, imageUrl⟩)
    <$> field ms ["preset_id", "id"] whole
    <*> field ms ["name"] trimmed
    <*> fieldOr ms "description" none (nullable trimmed)
    <*> fieldOr ms "image_url" none (nullable trimmed)
    <*> fieldOr ms "total_price" 0 real
    <*> fieldOr ms "items" [] itemsOfJson

def ofJson : Json → Reading Preset :=
  members ofMembers

end Preset

namespace Coefficient

def ofMembers (ms : List (String × Json)) : Reading Coefficient :=
  Coefficient.mk <$> field ms ["id", "coefficient_id"] whole
    <*> field ms ["name"] trimmed
    <*> field ms ["value"] real

def ofJson : Json → Reading Coefficient :=
  members ofMembers

end Coefficient

end Fitout
