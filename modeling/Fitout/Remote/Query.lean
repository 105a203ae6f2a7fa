import Fitout.Catalog.Listing
import Fitout.Remote.Client

/-!
What can be asked of the catalog server: its lists, single entities, and changes to them.
-/

namespace Fitout.Remote

/-- The entities that can be changed, by the names they have on the server. -/
inductive Resource where
  | category
  | product
  | services
  | presets
  deriving DecidableEq, Repr

def Resource.name : Resource → String
  | category => "category"
  | product => "product"
  | services => "services"
  | presets => "presets"

def Resource.ofName? (name : String) : Option Resource :=
  [.category, .product, .services, .presets].find? (·.name == name)

namespace Query

def read (path resource : String) : Query :=
  ⟨.get, path, resource, none, false⟩

/-- Ask for a list; coefficients are open to the privileged only. -/
def ofKind (kind : Catalog.Kind) : Query :=
  match kind with
  | .categories => read "/category" kind.name
  | .products => read "/product" kind.name
  | .services => read "/services" kind.name
  | .presets => read "/presets/detailed" kind.name
  | .coefficients => { read "/admin/coefficients" kind.name with isPrivileged := true }

def category (id : Int) : Query :=
  read s!"/category/{id}" "category"

def product (id : Int) : Query :=
  read s!"/product/{id}" "product"

def productsOfCategory (id : Int) : Query :=
  read s!"/product/category/{id}" "product"

def preset (id : Int) : Query :=
  read s!"/presets/{id}" "preset"

def change (method : Method) (resource : Resource) (path : String) (body : Option Json) : Query :=
  ⟨method, s!"/admin/{resource.name}" ++ path, resource.name, body, true⟩

/-- A body to be sent; null is none. -/
def payload? : Json → Option Json
  | .null => none
  | body => some body

def create (resource : Resource) (payload : Json) : Query :=
  change .post resource "" (payload? payload)

def update (resource : Resource) (id : Int) (payload : Json) : Query :=
  change .put resource s!"/{id}" (payload? payload)

def delete (resource : Resource) (id : Int) : Query :=
  change .delete resource s!"/{id}" none

end Query

end Fitout.Remote
