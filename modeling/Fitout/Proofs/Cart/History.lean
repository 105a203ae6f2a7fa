import Mathlib
import Fitout.Cart.Basic
import Fitout.Proofs.Cart.Lines
import Fitout.Proofs.Fallible

/-!
# The history of a cart

A run performs operations on a cart one after the other; one that fails changes nothing. What the
run comes to is told by its history: the edits that the operations make to product lines and those
that they make to service lines, each on their own.
-/

namespace Fitout.Cart

inductive Operation where
  | addProduct (p : Product)
  | appendLines (lines : List ProductLine)
  | removeProduct (id : Int)
  | setProductQuantity (id : Int) (entry : Json)
  | addService (s : Service)
  | removeService (id : Int)
  | setServiceQuantity (id : Int) (entry : Json)
  | setServiceUnit (id : Int) (unit : Option String)
  | clear

/-- What an operation gives: whether there was something to do, the line it was about, or how many
lines it appended. -/
inductive Answer where
  | flag (b : Bool)
  | product (line : Option ProductLine)
  | service (line : Option ServiceLine)
  | count (n : Nat)
  | nothing

def perform (cart : Cart) : Operation → Except Overflow (Cart × Answer)
  | .addProduct p => .ok ((cart.addProduct p).1, .flag (cart.addProduct p).2)
  | .appendLines lines => .ok ((cart.appendLines lines).1, .count (cart.appendLines lines).2)
  | .removeProduct id => .ok ((cart.removeProduct id).1, .flag (cart.removeProduct id).2)
  | .setProductQuantity id entry =>
    (cart.setProductQuantity id entry).map fun after => (after, .product (after.product? id))
  | .addService s => .ok ((cart.addService s).1, .flag (cart.addService s).2)
  | .removeService id => .ok ((cart.removeService id).1, .flag (cart.removeService id).2)
  | .setServiceQuantity id entry =>
    (cart.setServiceQuantity id entry).map fun after => (after, .service (after.service? id))
  | .setServiceUnit id unit =>
    .ok (cart.setServiceUnit id unit, .service ((cart.setServiceUnit id unit).service? id))
  | .clear => .ok (.empty, .nothing)

def step (cart : Cart) (operation : Operation) : Cart :=
  match cart.perform operation with
  | .ok (after, _) => after
  | .error _ => cart

/-- What the operations make of an empty cart. -/
def run (operations : List Operation) : Cart :=
  operations.foldl step .empty

/-- Product lines, in which counts are set. The price and the name stay. -/
def productLines : LineKind ProductLine Int where
  id := ProductLine.productId
  set count line := { line with quantity := some (.whole count) }
  revised line counts := { line with quantity := (counts.getLast?.map .whole).or line.quantity }
  id_set _ _ := rfl
  revised_nil _ := rfl
  revised_concat line counts count := by simp

inductive ServiceValue where
  | measure (x : Float)
  | unit (text : String)

namespace ServiceValue

def measure? : ServiceValue → Option Float
  | measure x => some x
  | unit _ => none

def unit? : ServiceValue → Option String
  | measure _ => none
  | unit text => some text

end ServiceValue

/-- Service lines, in which measures and units are set. The price and the name stay. -/
def serviceLines : LineKind ServiceLine ServiceValue where
  id := ServiceLine.serviceId
  set value line := match value with
    | .measure x => { line with quantity := some (.real x) }
    | .unit text => { line with unit := text }
  revised line values := { line with
    quantity := ((values.filterMap (·.measure?)).getLast?.map .real).or line.quantity
    unit := (values.filterMap (·.unit?)).getLast?.getD line.unit }
  id_set value line := by cases value <;> rfl
  revised_nil _ := rfl
  revised_concat line values value := by
    cases value <;> simp [ServiceValue.measure?, ServiceValue.unit?]

namespace Operation

/-- The edits of product lines. Lines are appended one after the other. -/
def productEdits : Operation → List (Edit ProductLine Int)
  | addProduct p => [.offer (.ofProduct p)]
  | appendLines lines => lines.map .offer
  | removeProduct id => [.drop id]
  | setProductQuantity id entry =>
    match Quantity.count entry with
    | .ok count => [.set id count]
    | .error _ => []
  | clear => [.clear]
  | addService _ | removeService _ | setServiceQuantity _ _ | setServiceUnit _ _ => []

def serviceEdits : Operation → List (Edit ServiceLine ServiceValue)
  | addService s => [.offer (.ofService s)]
  | removeService id => [.drop id]
  | setServiceQuantity id entry =>
    match Quantity.measure entry with
    | .ok x => [.set id (.measure x)]
    | .error _ => []
  | setServiceUnit id unit => [.set id (.unit (Text.trimGaps (unit.getD "")))]
  | clear => [.clear]
  | addProduct _ | appendLines _ | removeProduct _ | setProductQuantity _ _ => []

/-- Whether the operation is one on product lines only. -/
def isOnProducts : Operation → Bool
  | addProduct _ | appendLines _ | removeProduct _ | setProductQuantity _ _ => true
  | addService _ | removeService _ | setServiceQuantity _ _ | setServiceUnit _ _ | clear => false

def isOnServices : Operation → Bool
  | addService _ | removeService _ | setServiceQuantity _ _ | setServiceUnit _ _ => true
  | addProduct _ | appendLines _ | removeProduct _ | setProductQuantity _ _ | clear => false

/-- Whether an answer tells which lines there were, and the line that there is. -/
def Agrees (before after : Cart) : Operation → Answer → Prop
  | addProduct p, .flag added => added = !before.hasProduct p.id
  | appendLines lines, .count appended => appended =
      ((lines.map ProductLine.productId).toFinset.filter (before.hasProduct · = false)).card
  | removeProduct id, .flag removed => removed = before.hasProduct id
  | setProductQuantity id _, .product line =>
    line = after.product? id ∧ line.isSome = before.hasProduct id
  | addService s, .flag added => added = !before.hasService s.id
  | removeService id, .flag removed => removed = before.hasService id
  | setServiceQuantity id _, .service line | setServiceUnit id _, .service line =>
    line = after.service? id ∧ line.isSome = before.hasService id
  | clear, .nothing => True
  | _, _ => False

end Operation

section Effects

variable (cart : Cart)

theorem updateProduct_eq_self {id : Int} (missing : cart.hasProduct id = false)
    (update : ProductLine → ProductLine) : cart.updateProduct id update = cart :=
  congrArg (Cart.mk · cart.services) (productLines.map_update_eq_self cart.products missing update)

theorem updateService_eq_self {id : Int} (missing : cart.hasService id = false)
    (update : ServiceLine → ServiceLine) : cart.updateService id update = cart :=
  congrArg (Cart.mk cart.products ·) (serviceLines.map_update_eq_self cart.services missing update)

theorem setProductQuantity_of_count_eq_ok (id : Int) {entry : Json} {count : Int}
    (counted : Quantity.count entry = .ok count) :
    cart.setProductQuantity id entry = .ok (cart.updateProduct id (productLines.set count)) := by
  cases has : cart.hasProduct id with
  | false => simp [setProductQuantity, has, cart.updateProduct_eq_self has]
  | true => simp [setProductQuantity, has, counted, productLines]

theorem setProductQuantity_of_count_eq_error (id : Int) {entry : Json} {e : Overflow}
    (refused : Quantity.count entry = .error e) :
    cart.setProductQuantity id entry = if cart.hasProduct id then .error e else .ok cart := by
  cases has : cart.hasProduct id <;> simp [setProductQuantity, has, refused]

theorem setServiceQuantity_of_measure_eq_ok (id : Int) {entry : Json} {x : Float}
    (measured : Quantity.measure entry = .ok x) :
    cart.setServiceQuantity id entry =
      .ok (cart.updateService id (serviceLines.set (.measure x))) := by
  cases has : cart.hasService id with
  | false => simp [setServiceQuantity, has, cart.updateService_eq_self has]
  | true => simp [setServiceQuantity, has, measured, serviceLines]

theorem setServiceQuantity_of_measure_eq_error (id : Int) {entry : Json} {e : Overflow}
    (refused : Quantity.measure entry = .error e) :
    cart.setServiceQuantity id entry = if cart.hasService id then .error e else .ok cart := by
  cases has : cart.hasService id <;> simp [setServiceQuantity, has, refused]

/-- An entry that is refused changes nothing, whether or not there is a line. -/
theorem step_setProductQuantity (id : Int) (entry : Json) :
    cart.step (.setProductQuantity id entry) = match Quantity.count entry with
      | .ok count => cart.updateProduct id (productLines.set count)
      | .error _ => cart := by
  rw [step, perform]
  cases counted : Quantity.count entry with
  | ok count =>
    rw [cart.setProductQuantity_of_count_eq_ok id counted]
    rfl
  | error e =>
    rw [cart.setProductQuantity_of_count_eq_error id counted]
    cases cart.hasProduct id <;> rfl

theorem step_setServiceQuantity (id : Int) (entry : Json) :
    cart.step (.setServiceQuantity id entry) = match Quantity.measure entry with
      | .ok x => cart.updateService id (serviceLines.set (.measure x))
      | .error _ => cart := by
  rw [step, perform]
  cases measured : Quantity.measure entry with
  | ok x =>
    rw [cart.setServiceQuantity_of_measure_eq_ok id measured]
    rfl
  | error e =>
    rw [cart.setServiceQuantity_of_measure_eq_error id measured]
    cases cart.hasService id <;> rfl

/-- The cart with one line more. -/
def withLine (line : ProductLine) : Cart :=
  { cart with products := cart.products ++ [line] }

theorem appendLines_cons_of_has {line : ProductLine} {rest : List ProductLine}
    (has : cart.hasProduct line.productId = true) :
    cart.appendLines (line :: rest) = cart.appendLines rest := by
  simp [appendLines, has]

theorem appendLines_cons_of_not_has {line : ProductLine} {rest : List ProductLine}
    (missing : cart.hasProduct line.productId = false) :
    cart.appendLines (line :: rest) =
      let (longer, appended) := (cart.withLine line).appendLines rest
      (longer, appended + 1) := by
  simp [appendLines, missing, withLine]

theorem products_appendLines (lines : List ProductLine) :
    (cart.appendLines lines).1.products =
      (lines.map Edit.offer).foldl productLines.apply cart.products := by
  induction lines generalizing cart with
  | nil => rfl
  | cons line rest inductionHypothesis =>
    rw [List.map_cons, List.foldl_cons]
    cases has : cart.hasProduct line.productId with
    | true =>
      have same : productLines.apply cart.products (.offer line) = cart.products := if_pos has
      rw [cart.appendLines_cons_of_has has, same, inductionHypothesis]
    | false =>
      have longer : productLines.apply cart.products (.offer line) =
          (cart.withLine line).products :=
        if_neg (Bool.eq_false_iff.mp has)
      rw [cart.appendLines_cons_of_not_has has, longer, inductionHypothesis]

theorem services_appendLines (lines : List ProductLine) :
    (cart.appendLines lines).1.services = cart.services := by
  induction lines generalizing cart with
  | nil => rfl
  | cons line rest inductionHypothesis =>
    cases has : cart.hasProduct line.productId with
    | true => rw [cart.appendLines_cons_of_has has, inductionHypothesis]
    | false =>
      rw [cart.appendLines_cons_of_not_has has, inductionHypothesis]
      rfl

/-- Each line that is appended is new, so ids are counted. -/
theorem count_appendLines (lines : List ProductLine) : (cart.appendLines lines).2 =
    ((lines.map ProductLine.productId).toFinset.filter (cart.hasProduct · = false)).card := by
  induction lines generalizing cart with
  | nil => rfl
  | cons line rest inductionHypothesis =>
    rw [List.map_cons, List.toFinset_cons, Finset.filter_insert]
    cases has : cart.hasProduct line.productId with
    | true =>
      rw [cart.appendLines_cons_of_has has, inductionHypothesis]
      simp
    | false =>
      rw [cart.appendLines_cons_of_not_has has, if_pos rfl]
      simp only [inductionHypothesis]
      generalize (rest.map ProductLine.productId).toFinset = ids
      have known (id : Int) : (cart.withLine line).hasProduct id = false ↔
          cart.hasProduct id = false ∧ line.productId ≠ id := by
        simp [hasProduct, withLine]
      have same : insert line.productId (ids.filter (cart.hasProduct · = false)) =
          insert line.productId (ids.filter ((cart.withLine line).hasProduct · = false)) := by
        ext id
        by_cases first : id = line.productId
        · simp [first]
        · simp [first, known, Ne.symm first]
      rw [same, Finset.card_insert_of_notMem (by simp [known])]

theorem products_step (operation : Operation) : (cart.step operation).products =
    operation.productEdits.foldl productLines.apply cart.products := by
  cases operation with
  | addProduct p =>
    simp only [step, perform, addProduct]
    split <;> simp_all [Operation.productEdits, LineKind.apply, hasProduct, productLines,
      ProductLine.ofProduct]
  | appendLines lines => exact cart.products_appendLines lines
  | setProductQuantity id entry =>
    rw [step_setProductQuantity, Operation.productEdits]
    split <;> rfl
  | addService s =>
    simp only [step, perform, addService]
    split <;> rfl
  | setServiceQuantity id entry =>
    rw [step_setServiceQuantity]
    split <;> rfl
  | removeProduct id | removeService id | setServiceUnit id unit | clear => rfl

theorem services_step (operation : Operation) : (cart.step operation).services =
    operation.serviceEdits.foldl serviceLines.apply cart.services := by
  cases operation with
  | addProduct p =>
    simp only [step, perform, addProduct]
    split <;> rfl
  | appendLines lines => exact cart.services_appendLines lines
  | setProductQuantity id entry =>
    rw [step_setProductQuantity]
    split <;> rfl
  | addService s =>
    simp only [step, perform, addService]
    split <;> simp_all [Operation.serviceEdits, LineKind.apply, hasService, serviceLines,
      ServiceLine.ofService]
  | setServiceQuantity id entry =>
    rw [step_setServiceQuantity, Operation.serviceEdits]
    split <;> rfl
  | removeProduct id | removeService id | setServiceUnit id unit | clear => rfl

theorem step_of_perform_eq_ok {operation : Operation} {after : Cart} {answer : Answer}
    (done : cart.perform operation = .ok (after, answer)) : cart.step operation = after := by
  rw [step, done]

theorem step_of_perform_eq_error {operation : Operation} {e : Overflow}
    (failed : cart.perform operation = .error e) : cart.step operation = cart := by
  rw [step, failed]

end Effects

section Answers

variable (cart : Cart)

theorem isSome_product? (id : Int) : (cart.product? id).isSome = cart.hasProduct id := by
  rw [Bool.eq_iff_iff, product?, hasProduct, List.find?_isSome, List.any_eq_true]

theorem isSome_service? (id : Int) : (cart.service? id).isSome = cart.hasService id := by
  rw [Bool.eq_iff_iff, service?, hasService, List.find?_isSome, List.any_eq_true]

theorem hasProduct_updateProduct (id other : Int) (count : Int) :
    (cart.updateProduct id (productLines.set count)).hasProduct other = cart.hasProduct other :=
  productLines.any_apply_set cart.products id other count

theorem hasService_updateService (id other : Int) (value : ServiceValue) :
    (cart.updateService id (serviceLines.set value)).hasService other = cart.hasService other :=
  serviceLines.any_apply_set cart.services id other value

theorem hasProduct_step_setProductQuantity (id other : Int) (entry : Json) :
    (cart.step (.setProductQuantity id entry)).hasProduct other = cart.hasProduct other := by
  rw [step_setProductQuantity]
  split
  · exact cart.hasProduct_updateProduct id other _
  · rfl

theorem hasService_step_setServiceQuantity (id other : Int) (entry : Json) :
    (cart.step (.setServiceQuantity id entry)).hasService other = cart.hasService other := by
  rw [step_setServiceQuantity]
  split
  · exact cart.hasService_updateService id other _
  · rfl

theorem agrees_of_perform_eq_ok {operation : Operation} {after : Cart} {answer : Answer}
    (done : cart.perform operation = .ok (after, answer)) : operation.Agrees cart after answer := by
  have after_eq := cart.step_of_perform_eq_ok done
  cases operation with
  | addProduct p =>
    cases done
    change (cart.addProduct p).2 = !cart.hasProduct p.id
    unfold addProduct
    split <;> simp_all
  | appendLines lines =>
    cases done
    exact cart.count_appendLines lines
  | removeProduct id =>
    cases done
    rfl
  | setProductQuantity id entry =>
    obtain ⟨changed, -, answered⟩ := of_map_eq_ok done
    cases answered
    refine ⟨rfl, ?_⟩
    rw [isSome_product?, ← after_eq, hasProduct_step_setProductQuantity]
  | addService s =>
    cases done
    change (cart.addService s).2 = !cart.hasService s.id
    unfold addService
    split <;> simp_all
  | removeService id =>
    cases done
    rfl
  | setServiceQuantity id entry =>
    obtain ⟨changed, -, answered⟩ := of_map_eq_ok done
    cases answered
    refine ⟨rfl, ?_⟩
    rw [isSome_service?, ← after_eq, hasService_step_setServiceQuantity]
  | setServiceUnit id unit =>
    cases done
    refine ⟨rfl, ?_⟩
    rw [isSome_service?]
    exact cart.hasService_updateService id id (.unit _)
  | clear =>
    cases done
    exact trivial

end Answers

section Run

theorem run_append (operations more : List Operation) :
    run (operations ++ more) = more.foldl step (run operations) :=
  List.foldl_append

theorem products_run (operations : List Operation) : (run operations).products =
    (operations.flatMap Operation.productEdits).foldl productLines.apply [] := by
  induction operations using List.reverseRecOn with
  | nil => rfl
  | append_singleton operations operation inductionHypothesis =>
    rw [run_append, List.foldl_cons, List.foldl_nil, products_step, inductionHypothesis,
      List.flatMap_append, List.foldl_append, List.flatMap_singleton]

theorem services_run (operations : List Operation) : (run operations).services =
    (operations.flatMap Operation.serviceEdits).foldl serviceLines.apply [] := by
  induction operations using List.reverseRecOn with
  | nil => rfl
  | append_singleton operations operation inductionHypothesis =>
    rw [run_append, List.foldl_cons, List.foldl_nil, services_step, inductionHypothesis,
      List.flatMap_append, List.foldl_append, List.flatMap_singleton]

theorem flatMap_filter_of_eq_nil {α β : Type} {f : α → List β} {p : α → Bool}
    (none : ∀ x, p x = true → f x = []) (xs : List α) :
    (xs.filter (!p ·)).flatMap f = xs.flatMap f := by
  induction xs with
  | nil => rfl
  | cons x rest inductionHypothesis =>
    cases skipped : p x with
    | true => simp [skipped, none x skipped, inductionHypothesis]
    | false => simp [skipped, inductionHypothesis]

/-- Operations on products make no difference to services. -/
theorem services_run_filter (operations : List Operation) :
    (run (operations.filter (!·.isOnProducts))).services = (run operations).services := by
  rw [services_run, services_run, flatMap_filter_of_eq_nil]
  intro operation onProducts
  cases operation with
  | addProduct | appendLines | removeProduct | setProductQuantity => rfl
  | addService | removeService | setServiceQuantity | setServiceUnit | clear => cases onProducts

/-- Operations on services make no difference to products. -/
theorem products_run_filter (operations : List Operation) :
    (run (operations.filter (!·.isOnServices))).products = (run operations).products := by
  rw [products_run, products_run, flatMap_filter_of_eq_nil]
  intro operation onServices
  cases operation with
  | addService | removeService | setServiceQuantity | setServiceUnit => rfl
  | addProduct | appendLines | removeProduct | setProductQuantity | clear => cases onServices

/-- Product lines and service lines follow the edits that were made to them, each kind on its own,
and every operation tells which lines there were. -/
theorem run_follows_history (operations : List Operation) :
    productLines.Follows (operations.flatMap Operation.productEdits) (run operations).products ∧
    serviceLines.Follows (operations.flatMap Operation.serviceEdits) (run operations).services ∧
    (run (operations.filter (!·.isOnProducts))).services = (run operations).services ∧
    (run (operations.filter (!·.isOnServices))).products = (run operations).products ∧
    ∀ operation, match (run operations).perform operation with
      | .ok (after, answer) => run (operations ++ [operation]) = after ∧
          operation.Agrees (run operations) after answer
      | .error _ => run (operations ++ [operation]) = run operations := by
  refine ⟨?_, ?_, services_run_filter operations, products_run_filter operations, ?_⟩
  · rw [products_run]
    exact productLines.follows_foldl _
  · rw [services_run]
    exact serviceLines.follows_foldl _
  · intro operation
    have next : run (operations ++ [operation]) = (run operations).step operation :=
      run_append operations [operation]
    rw [next]
    cases done : (run operations).perform operation with
    | error e => exact step_of_perform_eq_error _ done
    | ok performed =>
      obtain ⟨after, answer⟩ := performed
      exact ⟨step_of_perform_eq_ok _ done, agrees_of_perform_eq_ok _ done⟩

/-- A line that comes back goes to the end, with the price and the name that it comes back with. -/
example :
    let wall : ProductLine := ⟨1, 10, none, "wall"⟩
    let tile : ProductLine := ⟨2, 5, none, "tile"⟩
    let floor : ProductLine := ⟨1, 7, none, "floor"⟩
    (run [.appendLines [wall, tile, floor], .removeProduct 1,
      .appendLines [floor, wall]]).products = [tile, floor] := by
  rfl

end Run

end Fitout.Cart
