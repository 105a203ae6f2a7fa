import Fitout.Journal.Metric
import Fitout.Session.Work

/-!
# What commands come to

A command works in steps, and a refusal takes none of them back. All that a command writes is
written after the last step that may refuse, so it is carried out as one change or leaves the plan
as it was.
-/

namespace Fitout.Plan

/-- How work ends at a desk: the outcome was written and reported as a whole, or nothing was written
and nothing reported that counts. -/
inductive EndsWith (desk : Desk) : Outcome → EStateM.Result Refusal Desk Answer → Prop where
  | done (done : Done) :
      EndsWith desk (.ok done) (.ok done.answer ⟨done.plan, desk.events ++ done.events⟩)
  | refused (refusal : Refusal) (logged : Journal)
      (uncounted : ∀ event ∈ logged, Series.ofEvent? event = none) :
      EndsWith desk (.error refusal) (.error refusal ⟨desk.plan, desk.events ++ logged⟩)

namespace EndsWith

variable {desk : Desk}

theorem unreported (plan : Plan) (answer : Answer) :
    EndsWith desk (.ok { plan, answer }) (.ok answer ⟨plan, desk.events⟩) := by
  have ended : EndsWith desk _ _ := .done { plan, answer }
  rwa [List.append_nil] at ended

theorem untouched (refusal : Refusal) : EndsWith desk (.error refusal) (.error refusal desk) := by
  have ended : EndsWith desk _ _ := .refused refusal [] (by simp)
  rwa [List.append_nil] at ended

/-- A step that may refuse, with nothing written before it. -/
theorem take {α : Type} {x : Except Refusal α} {f : α → Outcome} {g : α → Work Answer}
    (onward : ∀ a, EndsWith desk (f a) (g a desk)) :
    EndsWith desk (x >>= f) ((Work.take x >>= g) desk) := by
  cases x with
  | error refusal => exact untouched refusal
  | ok a => exact onward a

theorem choose (select : Selection → Except SelectionError Selection) :
    EndsWith desk
      (ofSelection (select desk.plan.selection) >>= fun selection =>
        return { plan := { desk.plan with selection } })
      ((Work.choose select >>= fun _ => return .plan) desk) := by
  have stepwise : (Work.choose select >>= fun _ => return Answer.plan) desk =
      (Work.take (ofSelection (select desk.plan.selection)) >>= fun selection => do
        Work.write { desk.plan with selection }
        return Answer.plan) desk := by
    simp only [Work.choose, bind_assoc]
    rfl
  rw [stepwise]
  exact take fun selection => unreported _ _

end EndsWith

variable {store : Catalog.Store} {names : Pricing.MarketNames} {desk : Desk}

theorem endsWith_updateService (id : Int) (entry : Json) (unit : Option String) :
    EndsWith desk (desk.plan.updateService id entry unit)
      (carryOut store names (.updateService id entry unit) desk) := by
  cases entry with
  | null => cases unit <;> exact .done _
  | _ =>
    refine .take fun cart => ?_
    cases unit <;> exact .done _

theorem ofEvent?_of_mem_resolutionEvents {found : Pricing.Resolution} {event : Event}
    (logged : event ∈ resolutionEvents found) : Series.ofEvent? event = none := by
  cases found with
  | unasked | listed value => cases logged
  | unlisted market name =>
    obtain rfl := List.mem_singleton.mp logged
    rfl

/-- Pricing looks the coefficient up and checks it before it looks at the lines; both may be logged,
but do not count. -/
theorem endsWith_total :
    EndsWith desk (desk.plan.total store names) (carryOut store names .total desk) := by
  let found := desk.plan.resolution store names
  let given := some (Number.real found.coefficient)
  let logged := resolutionEvents found ++
    (Pricing.refused? given).toList.map Event.coefficientRefused
  have uncounted : ∀ event ∈ logged, Series.ofEvent? event = none := by
    intro event member
    rcases List.mem_append.mp member with ofFound | ofGiven
    · exact ofEvent?_of_mem_resolutionEvents ofFound
    · obtain ⟨_, _, rfl⟩ := List.mem_map.mp ofGiven
      rfl
  have priced : carryOut store names .total desk =
      (Work.take (Refusal.ofOverflow (Pricing.breakdown desk.plan.cart given)) >>= fun breakdown =>
        return .total breakdown) ⟨desk.plan, desk.events ++ logged⟩ := by
    rw [← List.append_assoc]
    rfl
  rw [priced, total]
  cases Refusal.ofOverflow (Pricing.breakdown desk.plan.cart given) with
  | error refusal => exact .refused refusal logged uncounted
  | ok breakdown => exact .done ⟨desk.plan, .total breakdown, logged⟩

theorem endsWith_run (store : Catalog.Store) (names : Pricing.MarketNames) (command : Command)
    (desk : Desk) :
    EndsWith desk (desk.plan.run store names command) (carryOut store names command desk) := by
  cases command with
  | get => exact .unreported _ _
  | selectRoom id =>
    refine .take fun snapshot => .take fun category => ?_
    by_cases root : snapshot.tree.isRoot id = true
    · rw [if_pos root, if_pos root]
      exact .unreported _ _
    · rw [if_neg root, if_neg root]
      exact .untouched _
  | selectElement id => exact .take fun category => .choose (·.selectElement category)
  | selectSubElement id => exact .take fun category => .choose (·.selectSubElement category)
  | resetSelection => exact .unreported _ _
  | selectionOptions => exact .take fun snapshot => .unreported _ _
  | listProducts => exact .take fun snapshot => .unreported _ _
  | addProduct id => exact .take fun product => .done _
  | addService id => exact .take fun service => .done _
  | removeProduct _ | removeService _ | clearCart | setMarket _ | coefficient => exact .done _
  | setProductQuantity id entry => exact .take fun cart => .done _
  | updateService id entry unit => exact endsWith_updateService id entry unit
  | applyPreset id => exact .take fun preset => .done _
  | total => exact endsWith_total

end Fitout.Plan
