import Fitout.Remote.Query

/-!
The operations of the client: each sends one query and reads what comes back.
-/

namespace Fitout.Remote

namespace Client

/-- Turn the body of an answer into a value. -/
def Step.map {α β : Type} (f : α → β) (s : Step α) : Step β :=
  ⟨s.result.map f, s.client, s.events⟩

/-- Report events before those of a call. -/
def Step.after {α : Type} (events : Journal) (s : Step α) : Step α :=
  { s with events := events ++ s.events }

/-- Ask for a list and read its entries. -/
def readList {α : Type} (c : Client) (now : Float) (q : Query)
    (check : Json → Catalog.Listing α) : Step (List α) :=
  let answer := c.send now q
  match answer.result with
  | .error e => ⟨.error e, answer.client, answer.events⟩
  | .ok body =>
    let listing := check body
    ⟨.ok listing.entities, answer.client, answer.events ++ listing.remarks.map .listRemark⟩

def categories (c : Client) (now : Float) : Step (List Category) :=
  c.readList now (.ofKind .categories) Catalog.readCategories

def products (c : Client) (now : Float) : Step (List Product) :=
  c.readList now (.ofKind .products) Catalog.readProducts

def productsOfCategory (c : Client) (now : Float) (id : Int) : Step (List Product) :=
  c.readList now (.productsOfCategory id) Catalog.readProducts

def services (c : Client) (now : Float) : Step (List Service) :=
  c.readList now (.ofKind .services) Catalog.readServices

def presets (c : Client) (now : Float) : Step (List Preset) :=
  c.readList now (.ofKind .presets) Catalog.readPresets

def coefficients (c : Client) (now : Float) : Step (List Coefficient) :=
  c.readList now (.ofKind .coefficients) Catalog.readCoefficients

def category (c : Client) (now : Float) (id : Int) : Step (Schema.Reading Category) :=
  (c.send now (.category id)).map Category.ofJson

def product (c : Client) (now : Float) (id : Int) : Step (Schema.Reading Product) :=
  (c.send now (.product id)).map Product.ofJson

def preset (c : Client) (now : Float) (id : Int) : Step (Schema.Reading Preset) :=
  let answer := c.send now (.preset id)
  match answer.result with
  | .error e => ⟨.error e, answer.client, answer.events⟩
  | .ok body =>
    ⟨.ok (Preset.ofJson body), answer.client,
      answer.events ++ (Preset.dropped body).map fun n => .listRemark (.droppedProduct n)⟩

def create (c : Client) (now : Float) (resource : Resource) (payload : Json) : Step Json :=
  (c.send now (.create resource payload)).after [.entityCreating resource.name]

def update (c : Client) (now : Float) (resource : Resource) (id : Int) (payload : Json) :
    Step Json :=
  (c.send now (.update resource id payload)).after [.entityUpdating resource.name id]

def delete (c : Client) (now : Float) (resource : Resource) (id : Int) : Step Unit :=
  ((c.send now (.delete resource id)).map fun _ => ()).after [.entityDeleting resource.name id]

end Client

end Fitout.Remote
