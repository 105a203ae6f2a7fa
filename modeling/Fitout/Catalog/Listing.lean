import Fitout.Catalog.Intake

/-!
Reading whole lists of entities. An entry that cannot be read is left out with a remark, and does
not touch the others.
-/

namespace Fitout.Catalog

/-- The lists that make up a catalog. -/
inductive Kind where
  | categories
  | products
  | services
  | presets
  | coefficients
  deriving DecidableEq, Repr

def Kind.name : Kind → String
  | categories => "categories"
  | products => "products"
  | services => "services"
  | presets => "presets"
  | coefficients => "coefficients"

def Kind.all : List Kind :=
  [.categories, .products, .services, .presets, .coefficients]

def Kind.ofName? (name : String) : Option Kind :=
  Kind.all.find? (·.name == name)

/-- What is worth saying about a list that was read. -/
inductive Remark where
  /-- The body is no list and holds none. -/
  | noList (kindName : String)
  /-- An entry was left out for its issues. -/
  | skipped (kind : Kind) (index : Nat) (issues : Nat)
  /-- A preset item lost its product. -/
  | droppedProduct (issues : Nat)
  deriving DecidableEq, Repr

/-- The list that a body is, or holds under one of two names; other bodies count as empty. -/
def unwrap : Json → List Json
  | .list values => values
  | .object ms =>
    match ms.lookup "data", ms.lookup "items" with
    | some (.list values), _ => values
    | _, some (.list values) => values
    | _, _ => []
  | _ => []

/-- Whether a body is a list, holds one or is empty. -/
def isListed : Json → Bool
  | .null | .list _ => true
  | .object ms =>
    match ms.lookup "data", ms.lookup "items" with
    | some (.list _), _ => true
    | _, some (.list _) => true
    | _, _ => false
  | _ => false

/-- The remark on a body that holds no list. -/
def unwrapRemarks (body : Json) : List Remark :=
  if isListed body then [] else [.noList body.kindName]

/-- The entries that can be read. -/
def readEntries {α : Type} (check : Json → Schema.Reading α) (entries : List Json) : List α :=
  entries.filterMap fun entry => (check entry).toOption

/-- The remarks on entries, the first of which has the given index. -/
def entryRemarks {α : Type} (kind : Kind) (check : Json → Schema.Reading α)
    (losses : Json → List Nat) (index : Nat) : List Json → List Remark
  | [] => []
  | entry :: rest =>
    (losses entry).map .droppedProduct ++
      (match check entry with
        | .valid _ => []
        | .invalid issues => [.skipped kind index issues.length]) ++
      entryRemarks kind check losses (index + 1) rest

/-- A list that was read, with the remarks on it. -/
structure Listing (α : Type) where
  entities : List α
  remarks : List Remark

/-- Read the entries of a body one by one. -/
def Listing.ofBody {α : Type} (kind : Kind) (check : Json → Schema.Reading α)
    (losses : Json → List Nat) (body : Json) : Listing α where
  entities := readEntries check (unwrap body)
  remarks := unwrapRemarks body ++ entryRemarks kind check losses 0 (unwrap body)

def noLosses (_ : Json) : List Nat :=
  []

def readCategories : Json → Listing Category :=
  .ofBody .categories Category.ofJson noLosses

def readProducts : Json → Listing Product :=
  .ofBody .products Product.ofJson noLosses

def readServices : Json → Listing Service :=
  .ofBody .services Service.ofJson noLosses

def readPresets : Json → Listing Preset :=
  .ofBody .presets Preset.ofJson Preset.dropped

def readCoefficients : Json → Listing Coefficient :=
  .ofBody .coefficients Coefficient.ofJson noLosses

end Fitout.Catalog
