import Fitout.Catalog.Listing

/-!
Making entities of what was read. An entry is checked first and the entity is made afterwards;
products and services refuse to be made with a price below zero, and that would end the reading of
the whole list.
-/

namespace Fitout

namespace Preset

/-- An item, unless its product has a price below zero. -/
def checkedItem : Option Product → Except NegativePrice (Option Product)
  | none => .ok none
  | some product => some <$> product.checked

/-- The preset, unless one of its products has a price below zero. -/
def checked (p : Preset) : Except NegativePrice Preset := do
  return { p with items := ← p.items.mapM checkedItem }

end Preset

namespace Catalog

/-- What the entries of a list are to be. -/
def Kind.Entity : Kind → Type
  | .categories => Category
  | .products => Product
  | .services => Service
  | .presets => Preset
  | .coefficients => Coefficient

/-- How the entries of a list are read. -/
structure Reader (α : Type) where
  kind : Kind
  check : Json → Schema.Reading α
  make : α → Except NegativePrice α
  losses : Json → List Nat

/-- What stands in the way of an entity. -/
inductive Obstacle where
  | invalid (issues : List Schema.Issue)
  | negativePrice (what : NegativePrice)

namespace Reader

variable {α : Type} (r : Reader α)

/-- Read a single entity. -/
def one (entry : Json) : Except Obstacle α :=
  match r.check entry with
  | .invalid issues => .error (.invalid issues)
  | .valid value => (r.make value).mapError .negativePrice

/-- Read entries, the first of which has the given index. What was remarked stays if an entity
cannot be made. -/
def entries (index : Nat) : List Json → Except NegativePrice (List α) × List Remark
  | [] => (.ok [], [])
  | entry :: rest =>
    let lost := (r.losses entry).map .droppedProduct
    match r.check entry with
    | .invalid issues =>
      let (found, remarks) := entries (index + 1) rest
      (found, lost ++ [.skipped r.kind index issues.length] ++ remarks)
    | .valid value =>
      match r.make value with
      | .error e => (.error e, lost)
      | .ok entity =>
        let (found, remarks) := entries (index + 1) rest
        (found.map (entity :: ·), lost ++ remarks)

/-- Read the entries of a body. -/
def read (body : Json) : Except NegativePrice (List α) × List Remark :=
  let (found, remarks) := r.entries 0 (unwrap body)
  (found, unwrapRemarks body ++ remarks)

end Reader

/-- The readers of the lists of a catalog. -/
def reader : (kind : Kind) → Reader kind.Entity
  | .categories => ⟨.categories, Category.ofJson, .ok, noLosses⟩
  | .products => ⟨.products, Product.ofJson, Product.checked, noLosses⟩
  | .services => ⟨.services, Service.ofJson, Service.checked, noLosses⟩
  | .presets => ⟨.presets, Preset.ofJson, Preset.checked, Preset.dropped⟩
  | .coefficients => ⟨.coefficients, Coefficient.ofJson, .ok, noLosses⟩

/-- Read a list of a catalog. -/
def readList : (kind : Kind) → Json → Listing kind.Entity
  | .categories => readCategories
  | .products => readProducts
  | .services => readServices
  | .presets => readPresets
  | .coefficients => readCoefficients

end Catalog

end Fitout
