import Fitout.Catalog.Basic
import Fitout.Category.Assembly

/-!
Snapshots of the catalog: its lists as they were loaded at one time, and the tree built from them.
-/

namespace Fitout

namespace Catalog

/-- The lists of a catalog, as loaded. -/
structure Data where
  categories : List Category
  products : List Product
  services : List Service
  presets : List Preset
  coefficients : List Coefficient

def Data.empty : Data :=
  ⟨[], [], [], [], []⟩

/-- A snapshot bears the ticket of the load that it came from. Its categories are the last entries
of their ids. -/
structure Snapshot where
  ticket : Int
  categories : List Category
  products : List Product
  services : List Service
  presets : List Preset
  coefficients : List Coefficient
  tree : Category.Tree

/-- What a snapshot holds, in numbers. -/
structure Summary where
  ticket : Int
  categories : Nat
  products : Nat
  services : Nat
  presets : Nat
  coefficients : Nat
  treeIssues : Nat
  deriving DecidableEq, Repr

namespace Snapshot

def build (ticket : Int) (data : Data) : Snapshot where
  ticket := ticket
  categories := Category.latest data.categories
  products := data.products
  services := data.services
  presets := data.presets
  coefficients := data.coefficients
  tree := Category.Tree.build data.categories

def category? (s : Snapshot) (id : Int) : Option Category :=
  Category.find? s.categories id

def product? (s : Snapshot) (id : Int) : Option Product :=
  s.products.find? (·.id == id)

def service? (s : Snapshot) (id : Int) : Option Service :=
  s.services.find? (·.id == id)

def preset? (s : Snapshot) (id : Int) : Option Preset :=
  s.presets.find? (·.id == id)

def summary (s : Snapshot) : Summary where
  ticket := s.ticket
  categories := s.categories.length
  products := s.products.length
  services := s.services.length
  presets := s.presets.length
  coefficients := s.coefficients.length
  treeIssues := s.tree.issues.length

end Snapshot

def Summary.members (s : Summary) : List (String × Json) :=
  [("ticket", .whole s.ticket), ("categories", .ofNat s.categories),
    ("products", .ofNat s.products), ("services", .ofNat s.services),
    ("presets", .ofNat s.presets), ("coefficients", .ofNat s.coefficients),
    ("tree_issues", .ofNat s.treeIssues)]

end Catalog

end Fitout
