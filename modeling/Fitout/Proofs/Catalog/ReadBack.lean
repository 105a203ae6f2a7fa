import Fitout.Proofs.Catalog.Intake
import Fitout.Proofs.Text.Tidy

/-!
# Entities read back from what is written of them

What the reading of a part gives is read as itself once it is written again: a text that was
trimmed, a number that was written out, a unit that is there. So an entity comes back as it is, but
for one thing. Whether an attribute has a name is asked before the name is trimmed, so a name of
white space passes the first time and is empty the second time.
-/

namespace Fitout

namespace Schema

variable {α : Type} {check : Json → Reading α} {write : α → Json}

/-- Whether a value is read as itself from what is written of it. -/
def ReadsBack (check : Json → Reading α) (write : α → Json) (a : α) : Prop :=
  check (write a) = .valid a

theorem readsBack_whole (n : Int) : ReadsBack whole .whole n :=
  rfl

theorem readsBack_real (x : Float) : ReadsBack real .real x :=
  rfl

theorem readsBack_trimmed {s : String} (tidy : Text.IsTidy s) : ReadsBack trimmed .text s := by
  simp only [ReadsBack, trimmed, wellFormed, tidy.wellFormed, if_true, Reading.map_valid,
    tidy.trimmed]

theorem trimmed_gives_tidy (value : Json) : (trimmed value).Gives Text.IsTidy := by
  intro s valid
  cases value with
  | text given =>
    rw [trimmed, wellFormed] at valid
    split at valid
    · rename_i wellFormed
      obtain rfl := Reading.valid.inj valid
      exact Text.isTidy_trim wellFormed
    · cases valid
  | null | bool _ | number _ | list _ | object _ => cases valid

theorem trimmed_gives_back (value : Json) : (trimmed value).Gives (ReadsBack trimmed .text) :=
  fun s valid => readsBack_trimmed (trimmed_gives_tidy value s valid)

theorem nonNegative_gives_back (value : Json) :
    (nonNegative value).Gives (ReadsBack nonNegative .real) :=
  fun x valid => if_pos (Reading.Gives.nonNegative value x valid)

theorem readsBack_nullable (solid : ∀ a, write a ≠ .null) {given : Option α}
    (back : ∀ a, given = some a → ReadsBack check write a) :
    ReadsBack (nullable check) (.ofOption write) given := by
  cases given with
  | none => rfl
  | some a =>
    have same : check (write a) = .valid a := back a rfl
    rw [ReadsBack, Json.ofOption, nullable]
    · rw [same, Reading.map_valid]
    · exact solid a

theorem nullable_gives_back (solid : ∀ a, write a ≠ .null)
    (gives : ∀ value, (check value).Gives (ReadsBack check write)) (value : Json) :
    (nullable check value).Gives (ReadsBack (nullable check) (.ofOption write)) :=
  fun given valid => readsBack_nullable solid (Reading.Gives.nullable gives value given valid)

theorem nullable_trimmed_gives_back (value : Json) :
    (nullable trimmed value).Gives (ReadsBack (nullable trimmed) (.ofOption .text)) :=
  nullable_gives_back (fun _ null => by cases null) trimmed_gives_back value

theorem nullable_whole_gives_back (value : Json) :
    (nullable whole value).Gives (ReadsBack (nullable whole) (.ofOption .whole)) :=
  nullable_gives_back (fun _ null => by cases null) (fun _ n _ => readsBack_whole n) value

section Items

theorem itemsFrom_gives {P : α → Prop} (gives : ∀ value, (check value).Gives P) (index : Nat)
    (values : List Json) : (itemsFrom check index values).Gives fun items => ∀ a ∈ items, P a := by
  induction values generalizing index with
  | nil =>
    rintro items ⟨⟩ a member
    cases member
  | cons value rest inductionHypothesis =>
    refine .seqWith (inductionHypothesis (index + 1)) (.map ?_)
    intro a valid others all
    exact List.forall_mem_cons.mpr ⟨Reading.Gives.under (gives value) a valid, all⟩

theorem itemsFrom_map {values : List α} (back : ∀ a ∈ values, ReadsBack check write a)
    (index : Nat) : itemsFrom check index (values.map write) = .valid values := by
  induction values generalizing index with
  | nil => rfl
  | cons a rest inductionHypothesis =>
    obtain ⟨first, others⟩ := List.forall_mem_cons.mp back
    have same : check (write a) = .valid a := first
    rw [List.map_cons, itemsFrom, same, inductionHypothesis others]
    rfl

end Items

section Fields

variable {members : List (String × Json)} {name : String} {value : Json} {a : α}

theorem field_eq_valid {names : List String} (read : check value = .valid a)
    (present : members.lookup name = some value) :
    field members (name :: names) check = .valid a := by
  simp only [field, firstPresent?, present, read]
  rfl

theorem fieldOr_eq_valid {absent : α} (read : check value = .valid a)
    (present : members.lookup name = some value) :
    fieldOr members name absent check = .valid a := by
  simp only [fieldOr, present, read]
  rfl

end Fields

end Schema

open Schema

namespace Category

theorem ofJson_gives_back (entry : Json) : (ofJson entry).Gives (ReadsBack ofJson toJson) := by
  apply Reading.Gives.members
  intro ms
  refine .seqWith (.fieldOr nullable_trimmed_gives_back rfl)
    (.seqWith (.fieldOr nullable_whole_gives_back rfl)
    (.seqWith (.field trimmed_gives_back) (.map ?_)))
  intro id _ name tidy parentId parent description described
  rw [ReadsBack, toJson, ofJson, members, ofMembers, field_eq_valid (readsBack_whole id),
    field_eq_valid tidy, fieldOr_eq_valid parent, fieldOr_eq_valid described]
  all_goals rfl

end Category

namespace Attribute

theorem valueText_gives_back (value : Json) :
    (valueText value).Gives (ReadsBack valueText .text) := by
  intro s valid
  cases value with
  | null =>
    obtain rfl := Reading.valid.inj valid
    rfl
  | number n =>
    obtain rfl := Reading.valid.inj valid
    exact readsBack_trimmed n.isTidy_text
  | text given => exact trimmed_gives_back (.text given) s valid
  | bool _ | list _ | object _ => cases valid

theorem unitText_gives_back (value : Json) :
    (unitText value).Gives (ReadsBack unitText (.ofOption .text)) := by
  refine .map fun given valid => ?_
  cases given with
  | none => rfl
  | some s =>
    have back : nullable trimmed (.text s) = .valid (some s) :=
      nullable_trimmed_gives_back value (some s) valid
    cases empty : s.isEmpty with
    | true =>
      rw [Option.filter_some, empty]
      rfl
    | false =>
      rw [Option.filter_some, empty]
      simp [ReadsBack, unitText, Json.ofOption, back, empty]

theorem ofMembers_gives_back (ms : List (String × Json)) :
    (ofMembers ms).Gives (ReadsBack (members ofMembers) toJson) := by
  refine .seqWith (.fieldOr unitText_gives_back rfl)
    (.seqWith (.fieldOr valueText_gives_back rfl) (.map ?_))
  intro name read value valued unit united
  have tidy := Reading.Gives.field trimmed_gives_back name read
  rw [ReadsBack, toJson, members, ofMembers, field_eq_valid tidy, fieldOr_eq_valid valued,
    fieldOr_eq_valid united]
  all_goals rfl

/-- Whether an attribute has a name. -/
def hasName (a : Attribute) : Bool :=
  !a.name.isEmpty

theorem hasName_iff {a : Attribute} : a.hasName = true ↔ a.name ≠ "" := by
  simp [hasName]

theorem isNamed_toJson (a : Attribute) : isNamed a.toJson = a.hasName :=
  rfl

theorem listOfJson_gives_back (value : Json) : (listOfJson value).Gives fun attributes =>
    ∀ a ∈ attributes, ReadsBack (members ofMembers) toJson a := by
  intro attributes valid
  cases value with
  | null =>
    obtain rfl := Reading.valid.inj valid
    intro a member
    cases member
  | list values => exact itemsFrom_gives (.members ofMembers_gives_back) 0 _ attributes valid
  | bool _ | number _ | text _ | object _ => cases valid

/-- Nameless attributes are left out the second time. -/
theorem listOfJson_map_toJson {attributes : List Attribute}
    (back : ∀ a ∈ attributes, ReadsBack (members ofMembers) toJson a) :
    listOfJson (.list (attributes.map toJson)) = .valid (attributes.filter hasName) := by
  have named : (attributes.map toJson).filter isNamed = (attributes.filter hasName).map toJson := by
    simp only [List.filter_map, Function.comp_def, isNamed_toJson]
  rw [listOfJson, named]
  apply itemsFrom_map
  intro a member
  exact back a (List.mem_of_mem_filter member)

end Attribute

namespace ServiceRef

theorem ofMembers_gives_back (ms : List (String × Json)) :
    (ofMembers ms).Gives (ReadsBack (members ofMembers) toJson) := by
  refine .seqWith (.fieldOr nullable_trimmed_gives_back rfl) (.map ?_)
  intro id _ name tidy
  rw [ReadsBack, toJson, members, ofMembers, field_eq_valid (readsBack_whole id),
    fieldOr_eq_valid tidy]
  all_goals rfl

theorem listOfJson_gives_back (value : Json) :
    (listOfJson value).Gives (ReadsBack listOfJson fun refs => .list (refs.map toJson)) := by
  intro refs valid
  have back : ∀ r ∈ refs, ReadsBack (members ofMembers) toJson r := by
    cases value with
    | null =>
      obtain rfl := Reading.valid.inj valid
      intro r member
      cases member
    | list values => exact itemsFrom_gives (.members ofMembers_gives_back) 0 _ refs valid
    | bool _ | number _ | text _ | object _ => cases valid
  exact itemsFrom_map back 0

end ServiceRef

namespace Product

/-- The product without its nameless attributes. -/
def named (p : Product) : Product :=
  { p with attributes := p.attributes.filter Attribute.hasName }

theorem named_eq_self_iff {p : Product} : p.named = p ↔ ∀ a ∈ p.attributes, a.name ≠ "" := by
  have attributes : p.named = p ↔ p.attributes.filter Attribute.hasName = p.attributes := by
    cases p
    simp [named]
  rw [attributes, List.filter_eq_self]
  exact forall₂_congr fun a _ => Attribute.hasName_iff

theorem named_named (p : Product) : p.named.named = p.named :=
  named_eq_self_iff.mpr fun _ member => Attribute.hasName_iff.mp (List.mem_filter.mp member).2

theorem ofJson_gives_back (entry : Json) :
    (ofJson entry).Gives fun p => ofJson p.toJson = .valid p.named := by
  apply Reading.Gives.members
  intro ms
  refine .seqWith (.fieldOr ServiceRef.listOfJson_gives_back rfl)
    (.seqWith (.fieldOr Attribute.listOfJson_gives_back fun _ none => by cases none)
    (.seqWith (.fieldOr nullable_trimmed_gives_back rfl)
    (.seqWith (.fieldOr nullable_trimmed_gives_back rfl)
    (.seqWith (.fieldOr nullable_whole_gives_back rfl)
    (.seqWith (.field nonNegative_gives_back)
    (.seqWith (.field trimmed_gives_back) (.map ?_)))))))
  intro id _ name tidy price least categoryId category description described imageUrl shown
    attributes attributed services served
  -- The attributes are the only part that need not read back as it is.
  have attributed := Attribute.listOfJson_map_toJson attributed
  rw [toJson, ofJson, members, ofMembers, field_eq_valid (readsBack_whole id),
    field_eq_valid tidy, field_eq_valid least, fieldOr_eq_valid category,
    fieldOr_eq_valid described, fieldOr_eq_valid shown, fieldOr_eq_valid attributed,
    fieldOr_eq_valid served]
  all_goals rfl

end Product

namespace Service

theorem ofJson_gives_back (entry : Json) : (ofJson entry).Gives (ReadsBack ofJson toJson) := by
  apply Reading.Gives.members
  intro ms
  refine .seqWith (.fieldOr nullable_trimmed_gives_back rfl)
    (.seqWith (.field nonNegative_gives_back)
    (.seqWith (.field trimmed_gives_back) (.map ?_)))
  intro id _ name tidy price least description described
  rw [ReadsBack, toJson, ofJson, members, ofMembers, field_eq_valid (readsBack_whole id),
    field_eq_valid tidy, field_eq_valid least, fieldOr_eq_valid described]
  all_goals rfl

end Service

namespace Preset

/-- The preset without the nameless attributes of its products. -/
def named (p : Preset) : Preset :=
  { p with items := p.items.map (·.map Product.named) }

theorem named_eq_self_iff {p : Preset} :
    p.named = p ↔ ∀ product ∈ p.products, product.named = product := by
  have items : p.named = p ↔ p.items.map (·.map Product.named) = p.items.map fun item => item := by
    cases p
    simp [named]
  rw [items, List.map_inj_left]
  constructor
  · intro same product member
    exact Option.some.inj (same (some product) (mem_products_iff.mp member))
  · intro same item member
    cases item with
    | none => rfl
    | some product => exact congrArg some (same product (mem_products_iff.mpr member))

theorem named_named (p : Preset) : p.named.named = p.named := by
  apply named_eq_self_iff.mpr
  intro product member
  obtain ⟨item, _, kept⟩ := List.mem_map.mp (mem_products_iff.mp member)
  obtain ⟨original, rfl, rfl⟩ := Option.map_eq_some_iff.mp kept
  exact original.named_named

theorem itemProduct_itemJson {p : Product} (back : Product.ofJson p.toJson = .valid p.named) :
    itemProduct (itemJson (some p)) = .valid (some p.named) := by
  have read : nullable Product.ofJson p.toJson = some <$> Product.ofJson p.toJson := rfl
  exact read.trans (congrArg (some <$> ·) back)

/-- A broken item is written as null and stays broken. -/
theorem itemsOfJson_gives_back (value : Json) : (itemsOfJson value).Gives fun items =>
    itemsOfJson (.list (items.map itemJson)) = .valid (items.map (·.map Product.named)) := by
  intro items valid
  have back := itemsOfJson_gives Product.ofJson_gives_back value items valid
  rw [itemsOfJson, List.map_map]
  apply congrArg Reading.valid
  apply List.map_congr_left
  intro item member
  cases item with
  | none => rfl
  | some p =>
    rw [Function.comp_apply, itemProduct_itemJson (back p member)]
    rfl

theorem ofJson_gives_back (entry : Json) :
    (ofJson entry).Gives fun p => ofJson p.toJson = .valid p.named := by
  apply Reading.Gives.members
  intro ms
  refine .seqWith (.fieldOr itemsOfJson_gives_back rfl)
    (.seq (.seqWith (.fieldOr nullable_trimmed_gives_back rfl)
    (.seqWith (.fieldOr nullable_trimmed_gives_back rfl)
    (.seqWith (.field trimmed_gives_back) (.map ?_)))))
  intro id _ name tidy description described imageUrl shown totalPrice items listed
  rw [toJson, ofJson, members, ofMembers, field_eq_valid (readsBack_whole id),
    field_eq_valid tidy, fieldOr_eq_valid described, fieldOr_eq_valid shown,
    fieldOr_eq_valid (readsBack_real totalPrice), fieldOr_eq_valid listed]
  all_goals rfl

end Preset

namespace Coefficient

theorem ofJson_gives_back (entry : Json) : (ofJson entry).Gives (ReadsBack ofJson toJson) := by
  apply Reading.Gives.members
  intro ms
  refine .seq (.seqWith (.field trimmed_gives_back) (.map ?_))
  intro id _ name tidy value
  rw [ReadsBack, toJson, ofJson, members, ofMembers, field_eq_valid (readsBack_whole id),
    field_eq_valid tidy, field_eq_valid (readsBack_real value)]
  all_goals rfl

end Coefficient

namespace Catalog

/-- What is written of an entity. -/
def Kind.toJson : (kind : Kind) → kind.Entity → Json
  | .categories => Category.toJson
  | .products => Product.toJson
  | .services => Service.toJson
  | .presets => Preset.toJson
  | .coefficients => Coefficient.toJson

/-- The attributes that an entity comes with. -/
def Kind.attributes : (kind : Kind) → kind.Entity → List Attribute
  | .products, p => p.attributes
  | .presets, p => p.products.flatMap Product.attributes
  | .categories, _ | .services, _ | .coefficients, _ => []

/-- An entity without its nameless attributes. -/
def Kind.named : (kind : Kind) → kind.Entity → kind.Entity
  | .products => Product.named
  | .presets => Preset.named
  | .categories | .services | .coefficients => id

theorem named_eq_self_iff (kind : Kind) (e : kind.Entity) :
    kind.named e = e ↔ ∀ a ∈ kind.attributes e, a.name ≠ "" := by
  cases kind with
  | products => exact Product.named_eq_self_iff
  | presets =>
    refine Preset.named_eq_self_iff.trans ?_
    simp only [Kind.attributes, List.mem_flatMap, Product.named_eq_self_iff]
    exact ⟨fun named a ⟨product, listed, member⟩ => named product listed a member,
      fun named product listed a member => named a ⟨product, listed, member⟩⟩
  | categories | services | coefficients =>
    exact iff_of_true rfl fun a none => absurd none List.not_mem_nil

theorem named_named (kind : Kind) (e : kind.Entity) :
    kind.named (kind.named e) = kind.named e := by
  cases kind with
  | products => exact Product.named_named e
  | presets => exact Preset.named_named e
  | categories | services | coefficients => rfl

theorem check_gives_back (kind : Kind) (entry : Json) :
    ((reader kind).check entry).Gives fun e =>
      (reader kind).check (kind.toJson e) = .valid (kind.named e) := by
  cases kind with
  | categories => exact Category.ofJson_gives_back entry
  | products => exact Product.ofJson_gives_back entry
  | services => exact Service.ofJson_gives_back entry
  | presets => exact Preset.ofJson_gives_back entry
  | coefficients => exact Coefficient.ofJson_gives_back entry

theorem one_gives_back (kind : Kind) {entry : Json} {e : kind.Entity}
    (accepted : (reader kind).one entry = .ok e) :
    (reader kind).one (kind.toJson e) = .ok (kind.named e) := by
  rw [Reader.one_eq (isSound_reader kind)] at accepted ⊢
  cases checked : (reader kind).check entry with
  | invalid issues =>
    rw [checked] at accepted
    cases accepted
  | valid value =>
    rw [checked] at accepted
    obtain rfl := Except.ok.inj accepted
    rw [check_gives_back kind entry value checked]

/-- An entity that was read comes back from what is written of it without its nameless attributes,
which is the entity itself if it has none, and what came back comes back as it is. -/
theorem entity_reads_back_but_for_nameless_attributes (kind : Kind) {entry : Json}
    {e : kind.Entity} (accepted : (reader kind).one entry = .ok e) :
    (reader kind).one (kind.toJson e) = .ok (kind.named e) ∧
      (kind.named e = e ↔ ∀ a ∈ kind.attributes e, a.name ≠ "") ∧
      (reader kind).one (kind.toJson (kind.named e)) = .ok (kind.named e) := by
  have back := one_gives_back kind accepted
  refine ⟨back, named_eq_self_iff kind e, ?_⟩
  rw [one_gives_back kind back, named_named]

/-- A product whose texts stand in white space, with a number for a value and an empty unit. -/
theorem spaced_product_reads_back :
    let width : Json :=
      .object [("name", .text " Width "), ("value", .whole 30), ("unit", .text " ")]
    let entry : Json := .object [("id", .text " 7 "), ("name", .text "Tile\n"), ("price", .real 20),
      ("attributes", .list [.null, width])]
    let e : Product := ⟨7, "Tile", 20, none, none, none, [⟨"Width", "30", none⟩], []⟩
    (reader .products).one entry = .ok e ∧ (reader .products).one e.toJson = .ok e := by
  intro width entry e
  have accepted : (reader .products).one entry = .ok e := rfl
  obtain ⟨back, same, _⟩ := entity_reads_back_but_for_nameless_attributes .products accepted
  have named : Kind.named .products e = e := same.mpr (by decide)
  exact ⟨accepted, back.trans (congrArg Except.ok named)⟩

/-- An attribute whose name is white space is read with an empty name, and is lost the next time. -/
theorem blank_attribute_name_is_lost :
    ¬ ∀ (entry : Json) (e : Product), (reader .products).one entry = .ok e →
      (reader .products).one e.toJson = .ok e := by
  intro idempotent
  let entry : Json := .object [("id", .whole 7), ("name", .text "Tile"), ("price", .real 20),
    ("attributes", .list [.object [("name", .text " ")]])]
  have accepted : (reader .products).one entry =
      .ok (⟨7, "Tile", 20, none, none, none, [⟨"", "", none⟩], []⟩ : Product) := rfl
  have lost : (reader .products).one
      (Product.toJson ⟨7, "Tile", 20, none, none, none, [⟨"", "", none⟩], []⟩) =
      .ok (⟨7, "Tile", 20, none, none, none, [], []⟩ : Product) := rfl
  have same := Except.ok.inj (lost.symm.trans (idempotent entry _ accepted))
  cases congrArg Product.attributes same

end Catalog

end Fitout
