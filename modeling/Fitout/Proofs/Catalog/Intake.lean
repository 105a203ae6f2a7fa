import Fitout.Catalog.Reader
import Fitout.Proofs.Decimal.Double
import Fitout.Proofs.Fallible

/-!
# Lists are read entry by entry

What an entry comes to depends on nothing but the entry. All prices that pass the check are at least
zero, so no entity fails to be made of what passed, and reading a list never ends before its last
entry.
-/

namespace Fitout

namespace Schema

variable {α β : Type}

/-- What is read, if anything is, has this property. -/
def Reading.Gives (x : Reading α) (P : α → Prop) : Prop :=
  ∀ a, x = .valid a → P a

namespace Reading.Gives

variable {x : Reading α} {P : β → Prop}

theorem map {f : α → β} (gives : x.Gives fun a => P (f a)) : (f <$> x).Gives P := by
  intro b valid
  cases x with
  | invalid issues => cases valid
  | valid a => exact Reading.valid.inj valid ▸ gives a rfl

/-- Both parts are read, and the second is one that has a property of its own. -/
theorem seqWith {f : Reading (α → β)} {Q : α → Prop} (second : x.Gives Q)
    (first : f.Gives fun g => ∀ a, Q a → P (g a)) : (f <*> x).Gives P := by
  intro b valid
  cases f with
  | invalid issues => cases x <;> cases valid
  | valid g =>
    cases x with
    | invalid issues => cases valid
    | valid a => exact Reading.valid.inj valid ▸ first g rfl a (second a rfl)

theorem seq {f : Reading (α → β)} (first : f.Gives fun g => ∀ a, P (g a)) : (f <*> x).Gives P :=
  .seqWith (Q := fun _ => True) (fun _ _ => trivial) fun g valid a _ => first g valid a

theorem under {P : α → Prop} {step : Step} (gives : x.Gives P) : (x.under step).Gives P := by
  intro a valid
  cases x with
  | invalid issues => cases valid
  | valid b => exact gives a valid

theorem field {P : α → Prop} {members : List (String × Json)} {names : List String}
    {check : Json → Reading α} (gives : ∀ value, (check value).Gives P) :
    (field members names check).Gives P := by
  unfold Schema.field
  split
  · exact (gives _).under
  · intro a valid
    cases valid

theorem fieldOr {P : α → Prop} {members : List (String × Json)} {name : String} {absent : α}
    {check : Json → Reading α} (gives : ∀ value, (check value).Gives P) (default : P absent) :
    (fieldOr members name absent check).Gives P := by
  unfold Schema.fieldOr
  split
  · exact (gives _).under
  · intro a valid
    exact Reading.valid.inj valid ▸ default

theorem members {P : α → Prop} {check : List (String × Json) → Reading α}
    (gives : ∀ ms, (check ms).Gives P) (value : Json) : (members check value).Gives P := by
  cases value with
  | object ms => exact gives ms
  | null | bool _ | number _ | text _ | list _ =>
    intro a valid
    cases valid

theorem nullable {P : α → Prop} {check : Json → Reading α} (gives : ∀ value, (check value).Gives P)
    (value : Json) : (nullable check value).Gives fun given => ∀ a, given = some a → P a := by
  cases value with
  | null =>
    intro given valid
    obtain rfl := Reading.valid.inj valid
    rintro a ⟨⟩
  | bool _ | number _ | text _ | list _ | object _ =>
    refine .map fun a valid => ?_
    rintro b ⟨⟩
    exact gives _ a valid

theorem nonNegative (value : Json) : (nonNegative value).Gives (0 ≤ ·) := by
  intro x valid
  unfold Schema.nonNegative at valid
  split at valid
  · split at valid
    · next least => exact Reading.valid.inj valid ▸ least
    · cases valid
  · cases valid

end Reading.Gives

end Schema

open Schema.Reading (Gives)

namespace Product

theorem ofJson_gives_price (entry : Json) : (ofJson entry).Gives fun p => 0 ≤ p.price := by
  refine .members (fun ms => ?_) entry
  -- The price is the third of eight members.
  refine .seq (.seq (.seq (.seq (.seq (.seqWith (.field .nonNegative) (.seq (.map ?_)))))))
  intro id _ name price least category description imageUrl attributes services
  exact least

theorem checked_eq {p : Product} (least : 0 ≤ p.price) : p.checked = .ok p :=
  if_neg (Decimal.Double.not_lt_of_le least)

end Product

namespace Service

theorem ofJson_gives_price (entry : Json) : (ofJson entry).Gives fun s => 0 ≤ s.price := by
  refine .members (fun ms => ?_) entry
  refine .seq (.seqWith (.field .nonNegative) (.seq (.map ?_)))
  intro id _ name price least description
  exact least

theorem checked_eq {s : Service} (least : 0 ≤ s.price) : s.checked = .ok s :=
  if_neg (Decimal.Double.not_lt_of_le least)

end Service

namespace Preset

theorem mem_products_iff {p : Preset} {product : Product} :
    product ∈ p.products ↔ some product ∈ p.items := by
  simp [products]

section Items

variable {P : Product → Prop} (gives : ∀ value, (Product.ofJson value).Gives P)

include gives

theorem itemProduct_gives (value : Json) :
    (itemProduct value).Gives fun item => ∀ product, item = some product → P product := by
  have broken : (Schema.Reading.valid (none : Option Product)).Gives
      fun item => ∀ product, item = some product → P product := by
    rintro item ⟨⟩ product ⟨⟩
  cases value with
  | object ms =>
    rw [itemProduct]
    cases ms.lookup "product" with
    | none => exact broken
    | some value => exact .nullable gives value
  | null | bool _ | number _ | text _ | list _ => exact broken

/-- A product is left in an item only if it was read. -/
theorem itemsOfJson_gives (value : Json) :
    (itemsOfJson value).Gives fun items => ∀ product, some product ∈ items → P product := by
  intro items valid product member
  cases value with
  | null =>
    obtain rfl := Schema.Reading.valid.inj valid
    cases member
  | list values =>
    obtain rfl := Schema.Reading.valid.inj valid
    obtain ⟨value, _, kept⟩ := List.mem_map.mp member
    cases read : itemProduct value with
    | invalid issues =>
      rw [read] at kept
      cases kept
    | valid item =>
      rw [read] at kept
      exact itemProduct_gives gives value item read product kept
  | bool _ | number _ | text _ | object _ => cases valid

end Items

theorem ofJson_gives_prices (entry : Json) :
    (ofJson entry).Gives fun p => ∀ product ∈ p.products, 0 ≤ product.price := by
  refine .members (fun ms => ?_) entry
  refine .seqWith (.fieldOr (itemsOfJson_gives Product.ofJson_gives_price)
      fun _ none => absurd none List.not_mem_nil)
    (.seq (.seq (.seq (.seq (.map ?_)))))
  intro id _ name description imageUrl totalPrice items least product member
  exact least product (mem_products_iff.mp member)

theorem checked_eq {p : Preset} (least : ∀ product ∈ p.products, 0 ≤ product.price) :
    p.checked = .ok p := by
  have made : ∀ item ∈ p.items, ∃ after, checkedItem item = .ok after ∧ item = after := by
    intro item member
    cases item with
    | none => exact ⟨none, rfl, rfl⟩
    | some product =>
      have same := Product.checked_eq (least product (mem_products_iff.mpr member))
      exact ⟨some product, congrArg (some <$> ·) same, rfl⟩
  obtain ⟨items, mapped, same⟩ := exists_mapM_eq_ok made
  rw [List.forall₂_eq_eq_eq] at same
  subst same
  rw [checked, mapped]
  rfl

end Preset

namespace Catalog

/-- An entry was left out. -/
def Remark.isSkip : Remark → Bool
  | .skipped _ _ _ => true
  | .noList _ | .droppedProduct _ => false

namespace Reader

variable {α : Type} {r : Reader α}

/-- What passes the check can be made into an entity. -/
def IsSound (r : Reader α) : Prop :=
  ∀ entry, (r.check entry).Gives fun a => r.make a = .ok a

/-- The remark on an entry that is left out. -/
def skip? (r : Reader α) (entry : Json) (index : Nat) : Option Remark :=
  match r.one entry with
  | .error (.invalid issues) => some (.skipped r.kind index issues.length)
  | .error (.negativePrice _) | .ok _ => none

theorem one_eq (sound : r.IsSound) (entry : Json) :
    r.one entry = match r.check entry with
      | .valid a => .ok a
      | .invalid issues => .error (.invalid issues) := by
  unfold one
  cases checked : r.check entry with
  | invalid issues => rfl
  | valid a =>
    dsimp only
    rw [sound entry a checked]
    rfl

theorem toOption_one (sound : r.IsSound) (entry : Json) :
    (r.one entry).toOption = (r.check entry).toOption := by
  rw [one_eq sound]
  cases r.check entry <;> rfl

/-- No entity fails to be made, so the reading goes on to the last entry. -/
theorem entries_eq (sound : r.IsSound) (index : Nat) (values : List Json) :
    r.entries index values =
      (.ok (readEntries r.check values),
        entryRemarks r.kind r.check r.losses index values) := by
  induction values generalizing index with
  | nil => rfl
  | cons entry rest inductionHypothesis =>
    unfold entries entryRemarks readEntries
    cases checked : r.check entry with
    | invalid issues =>
      rw [List.filterMap_cons_none (by rw [checked]; rfl)]
      rw [inductionHypothesis]
      rfl
    | valid a =>
      rw [List.filterMap_cons_some (by rw [checked]; rfl)]
      dsimp only
      rw [sound entry a checked, inductionHypothesis]
      simp [Except.map, readEntries]

theorem read_eq (sound : r.IsSound) (body : Json) :
    let listing := Listing.ofBody r.kind r.check r.losses body
    r.read body = (.ok listing.entities, listing.remarks) := by
  rw [read, entries_eq sound]
  rfl

theorem filter_isSkip_entryRemarks (sound : r.IsSound) (index : Nat) (values : List Json) :
    (entryRemarks r.kind r.check r.losses index values).filter Remark.isSkip =
      (values.zipIdx index).filterMap fun (entry, i) => r.skip? entry i := by
  induction values generalizing index with
  | nil => rfl
  | cons entry rest inductionHypothesis =>
    have lost : ((r.losses entry).map Remark.droppedProduct).filter Remark.isSkip = [] :=
      List.filter_eq_nil_iff.mpr fun remark member => by
        obtain ⟨_, _, rfl⟩ := List.mem_map.mp member
        exact Bool.false_ne_true
    rw [entryRemarks, List.filter_append, List.filter_append, lost, List.nil_append,
      inductionHypothesis, List.zipIdx_cons, List.filterMap_cons]
    simp only [skip?, one_eq sound entry]
    cases r.check entry <;> rfl

/-- Reading lists with this reader goes entry by entry, and a listing is what comes of it. -/
structure IsEntryWise (r : Reader α) (listing : Json → Listing α) : Prop where
  /-- The reading ends, with entities. -/
  returns : ∀ body, r.read body = (.ok (listing body).entities, (listing body).remarks)
  entities : ∀ body, (listing body).entities =
    (unwrap body).filterMap fun entry => (r.one entry).toOption
  skips : ∀ body, (listing body).remarks.filter Remark.isSkip =
    (unwrap body).zipIdx.filterMap fun (entry, index) => r.skip? entry index
  append : ∀ xs ys, (listing (.list (xs ++ ys))).entities =
    (listing (.list xs)).entities ++ (listing (.list ys)).entities
  wrapped : ∀ name ∈ ["data", "items"], ∀ xs,
    listing (.object [(name, .list xs)]) = listing (.list xs)

theorem isEntryWise_ofBody (sound : r.IsSound) :
    r.IsEntryWise (.ofBody r.kind r.check r.losses) where
  returns := read_eq sound
  entities body := by
    simp only [toOption_one sound]
    rfl
  skips body := by
    have listed : (unwrapRemarks body).filter Remark.isSkip = [] := by
      unfold unwrapRemarks
      split <;> rfl
    simp only [Listing.ofBody, List.filter_append, listed, List.nil_append]
    exact filter_isSkip_entryRemarks sound 0 (unwrap body)
  append xs ys := List.filterMap_append
  wrapped name known xs := by
    rcases List.mem_cons.mp known with rfl | known
    · rfl
    · obtain rfl := List.mem_singleton.mp known
      rfl

end Reader

theorem isSound_reader (kind : Kind) : (reader kind).IsSound := by
  intro entry entity valid
  cases kind with
  | categories | coefficients => rfl
  | products => exact Product.checked_eq (Product.ofJson_gives_price entry entity valid)
  | services => exact Service.checked_eq (Service.ofJson_gives_price entry entity valid)
  | presets => exact Preset.checked_eq (Preset.ofJson_gives_prices entry entity valid)

theorem readList_eq (kind : Kind) :
    readList kind = .ofBody (reader kind).kind (reader kind).check (reader kind).losses := by
  cases kind <;> rfl

/-- The prices that an entity comes with. -/
def Kind.prices : (kind : Kind) → kind.Entity → List Float
  | .products, p => [p.price]
  | .services, s => [s.price]
  | .presets, p => p.products.map Product.price
  | .categories, _ | .coefficients, _ => []

theorem check_gives_prices (kind : Kind) (entry : Json) :
    ((reader kind).check entry).Gives fun entity => ∀ price ∈ kind.prices entity, 0 ≤ price := by
  intro entity valid price member
  cases kind with
  | categories | coefficients => cases member
  | products =>
    obtain rfl := List.mem_singleton.mp member
    exact Product.ofJson_gives_price entry entity valid
  | services =>
    obtain rfl := List.mem_singleton.mp member
    exact Service.ofJson_gives_price entry entity valid
  | presets =>
    obtain ⟨product, listed, rfl⟩ := List.mem_map.mp member
    exact Preset.ofJson_gives_prices entry entity valid product listed

/-- Every list is read entry by entry, whatever the body. No entry that passes its check is refused
for a price below zero, since every price that comes of an entry is a number from zero up. -/
theorem lists_are_read_entry_by_entry (kind : Kind) :
    (reader kind).IsEntryWise (readList kind) ∧
    (∀ entry what, (reader kind).one entry ≠ .error (.negativePrice what)) ∧
    (∀ entry entity, (reader kind).one entry = .ok entity →
      ∀ price ∈ kind.prices entity, 0 ≤ price ∧ price.isNaN = false) ∧
    ∀ body, ∀ entity ∈ (readList kind body).entities,
      ∀ price ∈ kind.prices entity, 0 ≤ price ∧ price.isNaN = false := by
  have sound := isSound_reader kind
  have entryWise : (reader kind).IsEntryWise (readList kind) := by
    rw [readList_eq]
    exact Reader.isEntryWise_ofBody sound
  have priced : ∀ entry entity, (reader kind).one entry = .ok entity →
      ∀ price ∈ kind.prices entity, 0 ≤ price ∧ price.isNaN = false := by
    intro entry entity read price member
    rw [Reader.one_eq sound] at read
    split at read
    · next given checked =>
      obtain rfl := Except.ok.inj read
      have least := check_gives_prices kind entry given checked price member
      exact ⟨least, Decimal.Double.isNaN_of_le least⟩
    · cases read
  refine ⟨entryWise, ?_, priced, ?_⟩
  · intro entry what refused
    rw [Reader.one_eq sound] at refused
    split at refused <;> cases refused
  · intro body entity listed
    rw [entryWise.entities] at listed
    obtain ⟨entry, _, kept⟩ := List.mem_filterMap.mp listed
    exact priced entry entity (of_toOption_eq_some kept)

/-- A slab whose price is no number is left out of a wrapped list, and the tile after it is read. -/
theorem slab_without_price_is_left_out :
    let slab : Json := .object [("id", .whole 1), ("name", .text "Slab"), ("price", .text "nan")]
    let tile : Json := .object [("id", .whole 2), ("name", .text "Tile"), ("price", .real 20)]
    let read : Product := ⟨2, "Tile", 20, none, none, none, [], []⟩
    readList .products (.object [("data", .list [slab, tile])]) =
        ⟨[read], [.skipped .products 0 1]⟩ ∧
      0 ≤ read.price ∧ read.price.isNaN = false := by
  intro slab tile read
  obtain ⟨entryWise, _, _, priced⟩ := lists_are_read_entry_by_entry .products
  have listing : readList .products (.list [slab, tile]) = ⟨[read], [.skipped .products 0 1]⟩ := rfl
  refine ⟨(entryWise.wrapped "data" (by decide) [slab, tile]).trans listing, ?_⟩
  exact priced (.list [slab, tile]) read (listing ▸ List.mem_singleton_self read) 20
    (List.mem_singleton_self _)

end Catalog

end Fitout
