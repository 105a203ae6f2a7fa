import Fitout.Proofs.Catalog.Intake

/-!
# Broken items do not cost a preset

A preset is read off two parts that do not touch: its heading, which is all members but the items,
and the items, which are read whatever the list holds. What an item comes to is what its product
comes to when it is read on its own, or nothing.
-/

namespace Fitout

namespace Schema

variable {α β : Type}

namespace Reading

@[simp] theorem toOption_map (f : α → β) (x : Reading α) :
    (f <$> x).toOption = x.toOption.map f := by
  cases x <;> rfl

theorem isSome_toOption_seq (f : Reading (α → β)) (x : Reading α) :
    (f <*> x).toOption.isSome = (f.toOption.isSome && x.toOption.isSome) := by
  cases f <;> cases x <;> rfl

@[simp] theorem toOption_seq (f : Reading (α → β)) (x : Reading α) :
    (f <*> x).toOption = f.toOption.bind fun g => x.toOption.map g := by
  cases f <;> cases x <;> rfl

@[simp] theorem toOption_under (step : Step) (x : Reading α) :
    (x.under step).toOption = x.toOption := by
  cases x <;> rfl

theorem toOption_eq_some_iff {x : Reading α} {a : α} : x.toOption = some a ↔ x = .valid a := by
  cases x <;> simp [toOption]

theorem Gives.of_toOption {x : Reading α} {P : α → Prop} (gives : x.Gives P) {a : α}
    (given : x.toOption = some a) : P a :=
  gives a (toOption_eq_some_iff.mp given)

end Reading

section Fields

variable {ms others : List (String × Json)} {check : Json → Reading α}

theorem firstPresent?_congr {names : List String}
    (same : ∀ name ∈ names, ms.lookup name = others.lookup name) :
    firstPresent? ms names = firstPresent? others names := by
  induction names with
  | nil => rfl
  | cons name rest inductionHypothesis =>
    obtain ⟨first, later⟩ := List.forall_mem_cons.mp same
    simp only [firstPresent?, first, inductionHypothesis later]

theorem field_congr {names : List String}
    (same : ∀ name ∈ names, ms.lookup name = others.lookup name) :
    field ms names check = field others names check := by
  simp only [field, firstPresent?_congr same]

theorem fieldOr_congr {name : String} {absent : α} (same : ms.lookup name = others.lookup name) :
    fieldOr ms name absent check = fieldOr others name absent check := by
  simp only [fieldOr, same]

end Fields

end Schema

open Schema Catalog

namespace Product

/-- The product that a value is read as on its own, if it is accepted. -/
def read? (value : Json) : Option Product :=
  ((reader .products).one value).toOption

theorem read?_eq (value : Json) : read? value = (ofJson value).toOption :=
  Reader.toOption_one (isSound_reader .products) value

theorem read?_eq_some_iff {value : Json} {product : Product} :
    read? value = some product ↔ (reader .products).one value = .ok product :=
  toOption_eq_some_iff

end Product

namespace Preset

/-- The preset that an object is read as, if it is accepted. -/
def read? (ms : List (String × Json)) : Option Preset :=
  ((reader .presets).one (.object ms)).toOption

/-- The raw items of a preset, if the member is absent, null or a list. -/
def rawItems? (ms : List (String × Json)) : Option (List Json) :=
  match ms.lookup "items" with
  | none | some .null => some []
  | some (.list values) => some values
  | some (.bool _) | some (.number _) | some (.text _) | some (.object _) => none

/-- The product of a raw item, read on its own. -/
def embedded? : Json → Option Product
  | .object ms => (ms.lookup "product").bind Product.read?
  | .null | .bool _ | .number _ | .text _ | .list _ => none

/-- The preset without its items. -/
def bare (p : Preset) : Preset :=
  { p with items := [] }

/-- The members of a preset besides its items. -/
def headingNames : List String :=
  ["preset_id", "id", "name", "description", "image_url", "total_price"]

/-- What is read of a preset besides its items. -/
def heading (ms : List (String × Json)) : Reading (List (Option Product) → Preset) :=
  (fun id name description imageUrl totalPrice items =>
      ⟨id, name, items, totalPrice, description, imageUrl⟩)
    <$> field ms ["preset_id", "id"] whole
    <*> field ms ["name"] trimmed
    <*> fieldOr ms "description" none (nullable trimmed)
    <*> fieldOr ms "image_url" none (nullable trimmed)
    <*> fieldOr ms "total_price" 0 real

section Heading

variable {ms others : List (String × Json)}

theorem read?_eq_some_iff {p : Preset} :
    read? ms = some p ↔ (reader .presets).one (.object ms) = .ok p :=
  toOption_eq_some_iff

/-- A heading takes the items as they are, and nothing else in it depends on them. -/
theorem heading_gives (ms : List (String × Json)) :
    (heading ms).Gives fun make => ∀ items, (make items).items = items ∧
      (make items).bare = make [] := by
  apply Reading.Gives.seq
  apply Reading.Gives.seq
  apply Reading.Gives.seq
  apply Reading.Gives.seq
  apply Reading.Gives.map
  intro id _ name description imageUrl totalPrice items
  exact ⟨rfl, rfl⟩

theorem heading_congr (same : ∀ name ∈ headingNames, ms.lookup name = others.lookup name) :
    heading ms = heading others := by
  simp only [headingNames, List.forall_mem_cons] at same
  obtain ⟨presetId, id, name, description, imageUrl, totalPrice, _⟩ := same
  have ids : ∀ name ∈ ["preset_id", "id"], ms.lookup name = others.lookup name := by
    simp [presetId, id]
  have names : ∀ name ∈ ["name"], ms.lookup name = others.lookup name := by
    simp [name]
  rw [heading, field_congr ids, field_congr names, fieldOr_congr description,
    fieldOr_congr imageUrl, fieldOr_congr totalPrice]
  rfl

theorem isSome_heading (ms : List (String × Json)) : (heading ms).toOption.isSome =
    ((field ms ["preset_id", "id"] whole).toOption.isSome &&
      (field ms ["name"] trimmed).toOption.isSome &&
      (fieldOr ms "description" none (nullable trimmed)).toOption.isSome &&
      (fieldOr ms "image_url" none (nullable trimmed)).toOption.isSome &&
      (fieldOr ms "total_price" 0 real).toOption.isSome) := by
  simp only [heading, Reading.isSome_toOption_seq, Reading.toOption_map,
    Option.isSome_map]

end Heading

section Items

/-- The product of an item is kept exactly if it would be accepted on its own. -/
theorem itemProduct_toOption (value : Json) :
    (itemProduct value).toOption.join = embedded? value := by
  cases value with
  | object ms =>
    rw [itemProduct, embedded?]
    cases ms.lookup "product" with
    | none => rfl
    | some value =>
      rw [Option.bind_some, Product.read?_eq]
      cases value with
      | null => rfl
      | bool _ | number _ | text _ | list _ | object _ =>
        simp only [nullable, Reading.toOption_map]
        cases (Product.ofJson _).toOption <;> rfl
  | null | bool _ | number _ | text _ | list _ => rfl

theorem items_toOption (ms : List (String × Json)) :
    (fieldOr ms "items" [] itemsOfJson).toOption =
      (rawItems? ms).map fun values => values.map embedded? := by
  rw [fieldOr, rawItems?]
  cases ms.lookup "items" with
  | none => rfl
  | some value =>
    dsimp only
    rw [Reading.toOption_under]
    cases value with
    | list values =>
      rw [itemsOfJson]
      simp only [itemProduct_toOption]
      rfl
    | null | bool _ | number _ | text _ | object _ => rfl

theorem embedded?_eq_some_iff {value : Json} {product : Product} :
    embedded? value = some product ↔ ∃ ms given, value = .object ms ∧
      ms.lookup "product" = some given ∧ (reader .products).one given = .ok product := by
  constructor
  · intro kept
    cases value with
    | object ms =>
      obtain ⟨given, present, read⟩ := Option.bind_eq_some_iff.mp kept
      exact ⟨ms, given, rfl, present, Product.read?_eq_some_iff.mp read⟩
    | null | bool _ | number _ | text _ | list _ => cases kept
  · rintro ⟨ms, given, rfl, present, read⟩
    rw [embedded?, present, Option.bind_some, Product.read?_eq_some_iff.mpr read]

end Items

/-- A preset is its heading over what its raw items come to one by one. -/
theorem read?_eq (ms : List (String × Json)) : read? ms =
    (heading ms).toOption.bind fun make =>
      (rawItems? ms).map fun values => make (values.map embedded?) := by
  have checked : read? ms = (ofMembers ms).toOption :=
    Reader.toOption_one (isSound_reader .presets) (.object ms)
  have parts : ofMembers ms = heading ms <*> fieldOr ms "items" [] itemsOfJson := rfl
  rw [checked, parts, Reading.toOption_seq, items_toOption]
  simp only [Option.map_map, Function.comp_def]

theorem isSome_read? (ms : List (String × Json)) :
    (read? ms).isSome = ((heading ms).toOption.isSome && (rawItems? ms).isSome) := by
  rw [read?_eq]
  cases (heading ms).toOption <;> simp

theorem map_bare_read? (ms : List (String × Json)) : (read? ms).map bare =
    (heading ms).toOption.bind fun make =>
      if (rawItems? ms).isSome then some (make []) else none := by
  rw [read?_eq]
  cases headed : (heading ms).toOption with
  | none => rfl
  | some make =>
    have same := (heading_gives ms).of_toOption headed
    cases rawItems? ms with
    | none => rfl
    | some raw => exact congrArg some (same _).2

/-- Whether a preset is accepted depends on its heading and on whether its items, if it has any, are
a list; what is in the list makes no difference to that, nor to the rest of the preset. An accepted
preset has an item for each raw one, with a product exactly where the product of the raw one would
be accepted on its own. -/
theorem broken_items_cost_nothing (ms : List (String × Json)) :
    ((∃ p : Preset, (reader .presets).one (.object ms) = .ok p) ↔
      (field ms ["preset_id", "id"] whole).toOption.isSome ∧
      (field ms ["name"] trimmed).toOption.isSome ∧
      (fieldOr ms "description" none (nullable trimmed)).toOption.isSome ∧
      (fieldOr ms "image_url" none (nullable trimmed)).toOption.isSome ∧
      (fieldOr ms "total_price" 0 real).toOption.isSome ∧ (rawItems? ms).isSome) ∧
    (∀ others, (∀ name ∈ headingNames, ms.lookup name = others.lookup name) →
      (rawItems? ms).isSome = (rawItems? others).isSome →
      (read? ms).map bare = (read? others).map bare) ∧
    ∀ p : Preset, (reader .presets).one (.object ms) = .ok p →
      ∃ raw, rawItems? ms = some raw ∧ p.items.length = raw.length ∧
        (∀ (i : Nat) (product : Product), p.items[i]? = some (some product) ↔
          ∃ item value, raw[i]? = some (.object item) ∧ item.lookup "product" = some value ∧
            (reader .products).one value = .ok product) ∧
        p.products = raw.filterMap embedded? := by
  refine ⟨?_, ?_, ?_⟩
  · simp only [← read?_eq_some_iff, ← Option.isSome_iff_exists, isSome_read?, isSome_heading,
      Bool.and_eq_true, and_assoc]
  · intro others same alike
    rw [map_bare_read?, map_bare_read?, heading_congr same, alike]
  · intro p accepted
    have read := read?_eq_some_iff.mpr accepted
    rw [read?_eq] at read
    obtain ⟨make, headed, made⟩ := Option.bind_eq_some_iff.mp read
    obtain ⟨raw, listed, rfl⟩ := Option.map_eq_some_iff.mp made
    have items : (make (raw.map embedded?)).items = raw.map embedded? :=
      ((heading_gives ms).of_toOption headed _).1
    refine ⟨raw, listed, ?_, ?_, ?_⟩
    · rw [items, List.length_map]
    · intro i product
      rw [items, List.getElem?_map, Option.map_eq_some_iff]
      simp only [embedded?_eq_some_iff]
      constructor
      · rintro ⟨_, there, item, value, rfl, present, read⟩
        exact ⟨item, value, there, present, read⟩
      · rintro ⟨item, value, there, present, read⟩
        exact ⟨.object item, there, item, value, rfl, present, read⟩
    · rw [products, items, List.filterMap_map]
      rfl

/-- A number, a slab without a name and an item without a product stand around the tile. -/
theorem loft_keeps_its_tile :
    let slab : Json := .object [("id", .whole 7), ("price", .real 70)]
    let tile : Json := .object [("id", .whole 5), ("name", .text "Tile"), ("price", .real 20)]
    let loft (items : Json) : List (String × Json) :=
      [("items", items), ("id", .whole 1), ("name", .text " Loft ")]
    let raw : List Json :=
      [.whole 9, .object [("product", slab)], .object [("product", tile)], .object []]
    let read : Product := ⟨5, "Tile", 20, none, none, none, [], []⟩
    let p : Preset := ⟨1, "Loft", [none, none, some read, none], 0, none, none⟩
    (reader .presets).one (.object (loft (.list raw))) = .ok p ∧
      p.items.length = raw.length ∧ p.products = raw.filterMap embedded? ∧
      (read? (loft (.list raw))).map bare = (read? (loft .null)).map bare := by
  intro slab tile loft raw read p
  obtain ⟨_, alike, kept⟩ := broken_items_cost_nothing (loft (.list raw))
  have accepted : (reader .presets).one (.object (loft (.list raw))) = .ok p := rfl
  obtain ⟨given, listed, length, _, products⟩ := kept p accepted
  obtain rfl : raw = given := Option.some.inj listed
  refine ⟨accepted, length, products, alike (loft .null) ?_ rfl⟩
  simp [headingNames, loft, List.lookup]

end Preset

end Fitout
