import Fitout.Catalog.Snapshot
import Fitout.Source.Fetch

/-!
Loading a catalog: its five lists are fetched and read. A catalog whose coefficients are missing is
still a catalog; any other list that is missing is an error.
-/

namespace Fitout

namespace Catalog

/-- What stands for each of the lists of a catalog. -/
abbrev Lists (α : Type) := Kind → α

namespace Lists

variable (bodies : Lists Json)

/-- Read the lists of a catalog from their bodies. -/
def data : Data where
  categories := (readCategories (bodies .categories)).entities
  products := (readProducts (bodies .products)).entities
  services := (readServices (bodies .services)).entities
  presets := (readPresets (bodies .presets)).entities
  coefficients := (readCoefficients (bodies .coefficients)).entities

/-- The remarks on the bodies of a list. -/
def remarks : Kind → List Remark
  | .categories => (readCategories (bodies .categories)).remarks
  | .products => (readProducts (bodies .products)).remarks
  | .services => (readServices (bodies .services)).remarks
  | .presets => (readPresets (bodies .presets)).remarks
  | .coefficients => (readCoefficients (bodies .coefficients)).remarks

end Lists

def Data.sizes (d : Data) : ListSizes :=
  ⟨d.categories.length, d.products.length, d.services.length, d.presets.length,
    d.coefficients.length⟩

end Catalog

namespace LoadError

/-- Whether the server was asked and gave no list. -/
def isMissing : LoadError → Bool
  | request (.refused _ _) | request (.faulty _) => true
  | _ => false

end LoadError

namespace Source

structure Step (α : Type) where
  result : Except LoadError α
  source : Source
  events : Journal

/-- The result of a fetch, where missing coefficients count as an empty list. -/
def settle (kind : Catalog.Kind) (result : Except LoadError Json) :
    Except LoadError Json × Journal :=
  match kind, result with
  | .coefficients, .error e =>
    if e.isMissing then (.ok (.list []), [.coefficientsMissing e.message]) else (.error e, [])
  | _, result => (result, [])

def list (s : Source) (now : Float) (force : Bool) (kind : Catalog.Kind) : Step Json :=
  let fetched := s.fetch now force kind
  let settled := settle kind (fetched.fetch.result?.get (s.isSome_result?_fetch now force kind))
  ⟨settled.1, fetched.source, fetched.events ++ settled.2⟩

/-- Fetch lists one after the other. All are fetched, and of several errors the first counts. -/
def lists (s : Source) (now : Float) (force : Bool) :
    List Catalog.Kind → Step (Catalog.Lists Json)
  | [] => ⟨.ok fun _ => .null, s, []⟩
  | kind :: rest =>
    let first := s.list now force kind
    let others := first.source.lists now force rest
    let result := do
      let body ← first.result
      let bodies ← others.result
      return fun k => if k = kind then body else bodies k
    ⟨result, others.source, first.events ++ others.events⟩

/-- Drop all that is cached, before a load that is forced. -/
def forget (s : Source) (force : Bool) : Source × Journal :=
  match s.cache with
  | none => (s, [])
  | some cache =>
    if force then
      let dropped := cache.invalidateAll
      ({ s with cache := some dropped.cache }, dropped.events)
    else (s, [])

def readEvents (bodies : Catalog.Lists Json) : Journal :=
  (Catalog.Kind.all.flatMap bodies.remarks).map .listRemark ++ [.catalogLoaded bodies.data.sizes]

/-- Load a catalog; a forced load takes nothing from the cache. -/
def load (s : Source) (now : Float) (force : Bool) : Step Catalog.Data :=
  let (s, forgotten) := s.forget force
  let fetched := s.lists now force Catalog.Kind.all
  match fetched.result with
  | .error e => ⟨.error e, fetched.source, forgotten ++ fetched.events⟩
  | .ok bodies =>
    ⟨.ok bodies.data, fetched.source, forgotten ++ fetched.events ++ readEvents bodies⟩

end Source

end Fitout
