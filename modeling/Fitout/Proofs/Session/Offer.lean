import Fitout.Proofs.Session.Lookup
import Fitout.Proofs.Session.Path

/-!
# What is offered is what can be chosen

The rooms that are offered are read off the tree, elements and sub-elements off the list of
categories. Choosing looks the id up among the last entries and then asks the tree or compares
parents. Both come to the same in every state, and what is not offered is refused for the one reason
that applies.
-/

namespace Fitout

namespace Selection

inductive Slot where
  | room
  | element
  | subElement

def slot? (s : Selection) : Slot → Option Category
  | .room => s.room?
  | .element => s.element?
  | .subElement => s.subElement?

/-- Choose a listed category for a slot. -/
def choose (snapshot : Catalog.Snapshot) (s : Selection) (c : Category) :
    Slot → Except SelectionError Selection
  | .room => if snapshot.tree.isRoot c.id then .ok (s.selectRoom c) else .error (.notRoom c.id)
  | .element => s.selectElement c
  | .subElement => s.selectSubElement c

theorem slot?_of_choose_eq_ok {snapshot : Catalog.Snapshot} {s t : Selection} {c : Category}
    {slot : Slot} (ok : s.choose snapshot c slot = .ok t) : t.slot? slot = some c := by
  cases slot with
  | room =>
    simp only [choose] at ok
    split at ok
    · obtain rfl := Except.ok.inj ok
      rfl
    · cases ok
  | element =>
    obtain ⟨r, _, _, rfl⟩ := of_selectElement_eq_ok ok
    rfl
  | subElement =>
    obtain ⟨e, _, _, rfl⟩ := of_selectSubElement_eq_ok ok
    rfl

theorem selectElement_isOk_iff {s : Selection} {c : Category} :
    (∃ t, s.selectElement c = .ok t) ↔ ∃ r, s.room? = some r ∧ c.parentId = some r.id := by
  constructor
  · rintro ⟨t, ok⟩
    obtain ⟨r, chosen, named, _⟩ := of_selectElement_eq_ok ok
    exact ⟨r, chosen, named⟩
  · rintro ⟨r, chosen, named⟩
    simp [selectElement, chosen, named]

theorem selectSubElement_isOk_iff {s : Selection} {c : Category} :
    (∃ t, s.selectSubElement c = .ok t) ↔ ∃ e, s.element? = some e ∧ c.parentId = some e.id := by
  constructor
  · rintro ⟨t, ok⟩
    obtain ⟨e, chosen, named, _⟩ := of_selectSubElement_eq_ok ok
    exact ⟨e, chosen, named⟩
  · rintro ⟨e, chosen, named⟩
    simp [selectSubElement, chosen, named]

end Selection

open Selection

def SelectionOptions.on (options : SelectionOptions) : Slot → List Category
  | .room => options.rooms
  | .element => options.elements
  | .subElement => options.subElements

def Plan.Command.choose (id : Int) : Slot → Plan.Command
  | .room => .selectRoom id
  | .element => .selectElement id
  | .subElement => .selectSubElement id

namespace Catalog.Snapshot

/-- What a snapshot offers to a selection. -/
def options (snapshot : Snapshot) (s : Selection) : SelectionOptions where
  rooms := snapshot.tree.rooms.map (·.category)
  elements := s.availableElements snapshot.categories
  subElements := s.availableSubElements snapshot.categories

open Category

variable {ticket : Int} {data : Data} {s : Selection}

theorem mem_childrenOf_map_iff {categories : List Category} {parent : Option Category}
    {c : Category} : c ∈ childrenOf categories (parent.map Category.id) ↔
      c ∈ categories ∧ ∃ p, parent = some p ∧ c.parentId = some p.id := by
  cases parent with
  | none => simp [childrenOf]
  | some p => simp [childrenOf]

theorem options_sublist (slot : Slot) :
    (((build ticket data).options s).on slot).Sublist (latest data.categories) := by
  have children (parent : Option Int) :
      (childrenOf (latest data.categories) parent).Sublist (latest data.categories) := by
    cases parent with
    | none => exact List.nil_sublist _
    | some id => exact List.filter_sublist
  cases slot with
  | room =>
    change ((Tree.build data.categories).rooms.map RoomNode.category).Sublist _
    rw [Tree.map_category_rooms]
    exact Tree.layer_sublist data.categories 0
  | element => exact children _
  | subElement => exact children _

theorem nodup_options (slot : Slot) :
    ((((build ticket data).options s).on slot).map Category.id).Nodup :=
  (nodup_latest data.categories).sublist ((options_sublist slot).map _)

/-- A listed category is offered for a slot exactly if it can be chosen for it. -/
theorem mem_options_iff {c : Category} (survives : Survives data.categories c) (slot : Slot) :
    c ∈ ((build ticket data).options s).on slot ↔
      ∃ t, s.choose (build ticket data) c slot = .ok t := by
  have listed : c ∈ latest data.categories := mem_latest_iff.mpr survives
  cases slot with
  | room =>
    have root : (build ticket data).tree.isRoot c.id = true ↔
        c ∈ ((build ticket data).options s).on .room := by
      rw [Plan.isRoot_iff]
      constructor
      · rintro ⟨room, roomListed, same⟩
        exact List.mem_map.mpr
          ⟨room, roomListed, (Tree.survives_of_mem_rooms roomListed).eq survives same⟩
      · intro offered
        obtain ⟨room, roomListed, rfl⟩ := List.mem_map.mp offered
        exact ⟨room, roomListed, rfl⟩
    rw [← root]
    simp only [Selection.choose]
    by_cases isRoot : (build ticket data).tree.isRoot c.id = true
    · simp [isRoot]
    · simp [isRoot]
  | element =>
    exact mem_childrenOf_map_iff.trans
      ((and_iff_right listed).trans selectElement_isOk_iff.symm)
  | subElement =>
    exact mem_childrenOf_map_iff.trans
      ((and_iff_right listed).trans selectSubElement_isOk_iff.symm)

theorem mem_ids_iff {id : Int} :
    id ∈ (build ticket data).categories.map Category.id ↔
      ∃ c, (build ticket data).category? id = some c := by
  constructor
  · intro known
    obtain ⟨c, listed, same⟩ := List.mem_map.mp known
    exact ⟨c, category?_build_eq_some_iff.mpr ⟨mem_latest_iff.mp listed, same⟩⟩
  · rintro ⟨c, found⟩
    obtain ⟨survives, same⟩ := category?_build_eq_some_iff.mp found
    exact List.mem_map.mpr ⟨c, mem_latest_iff.mpr survives, same⟩

theorem mem_ids_options_iff {id : Int} {slot : Slot} :
    id ∈ (((build ticket data).options s).on slot).map Category.id ↔
      ∃ c t, (build ticket data).category? id = some c ∧
        s.choose (build ticket data) c slot = .ok t := by
  constructor
  · intro offered
    obtain ⟨c, listed, same⟩ := List.mem_map.mp offered
    have survives := mem_latest_iff.mp ((options_sublist slot).subset listed)
    obtain ⟨t, ok⟩ := (mem_options_iff survives slot).mp listed
    exact ⟨c, t, category?_build_eq_some_iff.mpr ⟨survives, same⟩, ok⟩
  · rintro ⟨c, t, found, ok⟩
    obtain ⟨survives, same⟩ := category?_build_eq_some_iff.mp found
    exact List.mem_map.mpr ⟨c, (mem_options_iff survives slot).mpr ⟨t, ok⟩, same⟩

end Catalog.Snapshot

namespace Plan

open Catalog

variable {store : Store} {snapshot : Snapshot}

theorem current_eq (installed : store.installed = some snapshot) :
    store.current = .ok snapshot := by
  rw [Store.current, installed]

theorem category_of_listed (installed : store.installed = some snapshot) {id : Int} {c : Category}
    (listed : snapshot.category? id = some c) : store.category id = .ok c := by
  simp only [Store.category, current_eq installed, bind, Except.bind, listed]
  rfl

theorem category_of_unknown (installed : store.installed = some snapshot) {id : Int}
    (unknown : snapshot.category? id = none) :
    store.category id = .error (.categoryNotFound id) := by
  simp only [Store.category, current_eq installed, bind, Except.bind, unknown]
  rfl

variable (names : Pricing.MarketNames) (plan : Plan)

theorem run_selectionOptions (installed : store.installed = some snapshot) :
    plan.run store names .selectionOptions =
      .ok { plan, answer := .options (snapshot.options plan.selection) } := by
  simp only [run, selectionOptions, current_eq installed]
  rfl

theorem run_choose_unknown (installed : store.installed = some snapshot) {id : Int}
    (unknown : snapshot.category? id = none) (slot : Slot) :
    plan.run store names (.choose id slot) = .error (.domain (.categoryNotFound id)) := by
  have notFound := category_of_unknown installed unknown
  cases slot with
  | room =>
    simp only [Command.choose, run, selectRoom, current_eq installed, notFound]
    rfl
  | element =>
    simp only [Command.choose, run, selectElement, notFound]
    rfl
  | subElement =>
    simp only [Command.choose, run, selectSubElement, notFound]
    rfl

theorem run_choose_listed (installed : store.installed = some snapshot) {c : Category}
    (listed : snapshot.category? c.id = some c) (slot : Slot) :
    plan.run store names (.choose c.id slot) =
      (ofSelection (plan.selection.choose snapshot c slot)).map fun selection =>
        { plan := { plan with selection } } := by
  have found := category_of_listed installed listed
  cases slot with
  | room =>
    simp only [Command.choose, run, selectRoom, current_eq installed, found, Selection.choose]
    change (if snapshot.tree.isRoot c.id = true then _ else _) = _
    by_cases root : snapshot.tree.isRoot c.id = true
    · rw [if_pos root, if_pos root]
      rfl
    · rw [if_neg root, if_neg root]
      rfl
  | element =>
    simp only [Command.choose, run, selectElement, found]
    exact bind_pure_comp _ (ofSelection (plan.selection.selectElement c))
  | subElement =>
    simp only [Command.choose, run, selectSubElement, found]
    exact bind_pure_comp _ (ofSelection (plan.selection.selectSubElement c))

end Plan

namespace Configurator

open Catalog

variable {T : Type} [Sub T] [LT T] [DecidableLT T]

section Visited

variable {c : Configurator T} {now : T} {id : String} {command : Plan.Command}
  {before : Session T} (found : (c.registry.evict now).find? id = some before)

include found in
/-- A session that is found after a visit is the one that the visit left. -/
theorem eq_commanded {done : Plan.Done}
    (ran : (c.synced before.plan).run c.store c.names command = .ok done) {later : T}
    {s : Session T}
    (live : ((c.visit now id command).configurator.registry.evict later).find? id = some s) :
    s = c.commanded now before done := by
  obtain ⟨_, rfl⟩ := Registry.of_find?_eq_some found
  obtain ⟨listed, same⟩ := Registry.of_find?_eq_some live
  have listed := Registry.mem_sessions_evict listed
  rw [c.configurator_visit now before.id command found ran] at listed
  exact Registry.eq_of_mem_put listed same

include found in
theorem find?_visit_refused {refusal : Refusal}
    (refused : (c.synced before.plan).run c.store c.names command = .error refusal) :
    (c.visit now id command).configurator.registry.find? id = some (c.accessed now before) := by
  obtain ⟨_, rfl⟩ := Registry.of_find?_eq_some found
  rw [(c.visit_refused now before.id command found refused).2]
  exact Registry.find?_put found

end Visited

/-- What becomes of the choice of an id for a slot, from a state in which options are offered and
something was selected. -/
structure Decides (snapshot : Snapshot) (options : SelectionOptions) (was : Selection) (k : Int)
    (slot : Slot) (id : String) (step : Step T (Visit T)) : Prop where
  succeeds : (∃ visited, step.result = .ok visited) ↔ k ∈ (options.on slot).map Category.id
  unknown : step.result = .error (.domain (.categoryNotFound k)) ↔
    k ∉ snapshot.categories.map Category.id
  misplaced : (∃ e, step.result = .error (.domain (.invalidSelection e))) ↔
    k ∈ snapshot.categories.map Category.id ∧ k ∉ (options.on slot).map Category.id
  chosen : ∀ visited, step.result = .ok visited → ∃ category ∈ options.on slot,
    category.id = k ∧ visited.session.plan.selection.slot? slot = some category
  unchanged : ∀ refusal, step.result = .error refusal →
    (step.configurator.registry.find? id).map (·.plan.selection) = some was

section Decide

variable {c : Configurator T} {now : T} {id : String} {before : Session T}
  (found : (c.registry.evict now).find? id = some before)

include found in
theorem unchanged_of_refused {command : Plan.Command} {refusal : Refusal}
    (refused : (c.synced before.plan).run c.store c.names command = .error refusal) :
    ((c.visit now id command).configurator.registry.find? id).map (·.plan.selection) =
      some (c.synced before.plan).selection := by
  rw [find?_visit_refused found refused]
  rfl

variable {ticket : Int} {data : Data} (installed : c.store.installed = some (.build ticket data))

include found installed

theorem decides_of_unknown {k : Int}
    (missed : (Snapshot.build ticket data).category? k = none) (slot : Slot) :
    Decides (.build ticket data)
      ((Snapshot.build ticket data).options (c.synced before.plan).selection)
      (c.synced before.plan).selection k slot id (c.visit now id (.choose k slot)) := by
  have ran := Plan.run_choose_unknown c.names (c.synced before.plan) installed missed slot
  have result := (c.visit_refused now id _ found ran).1
  constructor
  · simp [result, Snapshot.mem_ids_options_iff, missed]
  · simp [result, Snapshot.mem_ids_iff, missed]
  · simp [result, Snapshot.mem_ids_iff, missed]
  · intro visited ok
    rw [result] at ok
    cases ok
  · exact fun _ _ => unchanged_of_refused found ran

theorem decides_of_chosen {d : Category} {s : Selection}
    (listed : (Snapshot.build ticket data).category? d.id = some d) {slot : Slot}
    (ok : (c.synced before.plan).selection.choose (.build ticket data) d slot = .ok s) :
    Decides (.build ticket data)
      ((Snapshot.build ticket data).options (c.synced before.plan).selection)
      (c.synced before.plan).selection d.id slot id (c.visit now id (.choose d.id slot)) := by
  have ran := Plan.run_choose_listed c.names (c.synced before.plan) installed listed slot
  rw [ok] at ran
  have result := (c.visit_done now id _ found ran).1
  have survives := (Snapshot.category?_build_eq_some_iff.mp listed).1
  constructor
  · simp [result, Snapshot.mem_ids_options_iff, listed, ok]
  · simp [result, Snapshot.mem_ids_iff, listed]
  · simp [result, Snapshot.mem_ids_options_iff, listed, ok]
  · intro visited done
    rw [result] at done
    obtain rfl := Except.ok.inj done
    exact ⟨d, (Snapshot.mem_options_iff survives slot).mpr ⟨s, ok⟩, rfl, slot?_of_choose_eq_ok ok⟩
  · intro refusal refused
    rw [result] at refused
    cases refused

theorem decides_of_misplaced {d : Category} {e : SelectionError}
    (listed : (Snapshot.build ticket data).category? d.id = some d) {slot : Slot}
    (error : (c.synced before.plan).selection.choose (.build ticket data) d slot = .error e) :
    Decides (.build ticket data)
      ((Snapshot.build ticket data).options (c.synced before.plan).selection)
      (c.synced before.plan).selection d.id slot id (c.visit now id (.choose d.id slot)) := by
  have ran := Plan.run_choose_listed c.names (c.synced before.plan) installed listed slot
  rw [error] at ran
  have result := (c.visit_refused now id _ found ran).1
  constructor
  · simp [result, Snapshot.mem_ids_options_iff, listed, error]
  · simp [result, Snapshot.mem_ids_iff, listed]
  · simp [result, Snapshot.mem_ids_iff, Snapshot.mem_ids_options_iff, listed, error]
  · intro visited ok
    rw [result] at ok
    cases ok
  · exact fun _ _ => unchanged_of_refused found ran

/-- The options of a selection decide every choice that is made from it. -/
theorem decides (k : Int) (slot : Slot) :
    Decides (.build ticket data)
      ((Snapshot.build ticket data).options (c.synced before.plan).selection)
      (c.synced before.plan).selection k slot id (c.visit now id (.choose k slot)) := by
  cases listed : (Snapshot.build ticket data).category? k with
  | none => exact decides_of_unknown found installed listed slot
  | some d =>
    obtain ⟨_, rfl⟩ := Snapshot.category?_build_eq_some_iff.mp listed
    cases made : (c.synced before.plan).selection.choose (.build ticket data) d slot with
    | ok s => exact decides_of_chosen found installed listed made
    | error e => exact decides_of_misplaced found installed listed made

end Decide

omit [Sub T] [LT T] [DecidableLT T] in
theorem synced_synced (c : Configurator T) (plan : Plan) :
    c.synced (c.synced plan) = c.synced plan := by
  cases installed : c.store.installed with
  | none => rw [synced, installed]
  | some snapshot =>
    rw [synced_eq_sync installed, synced_eq_sync installed]
    exact Plan.sync_eq_self (Plan.outdated_isEmpty_sync snapshot plan)

/-- While a snapshot is installed, a session is offered exactly what it can choose, each once: from
the state in which the options are asked for, and from the one that asking leaves, for as long as
the session lives. -/
theorem offered_iff_choosable (names : Pricing.MarketNames) (ttl : T)
    (actions : List (Action T)) :
    let c := (start names ttl).run actions
    ∀ now id before snapshot, (c.registry.evict now).find? id = some before →
      c.store.installed = some snapshot →
      ∃ asked options, (c.visit now id .selectionOptions).result = .ok asked ∧
        asked.answer = .options options ∧
        (∀ slot, ((options.on slot).map Category.id).Nodup) ∧
        ∀ k slot,
          Decides snapshot options asked.session.plan.selection k slot id
            (c.visit now id (.choose k slot)) ∧
          ∀ later s,
            let shown := (c.visit now id .selectionOptions).configurator
            (shown.registry.evict later).find? id = some s →
            Decides snapshot options asked.session.plan.selection k slot id
              (shown.visit later id (.choose k slot)) := by
  intro c now id before snapshot found installed
  obtain ⟨ticket, data, rfl⟩ := exists_build_of_installed installed
  have ran := Plan.run_selectionOptions c.names (c.synced before.plan) installed
  have result := (c.visit_done now id .selectionOptions found ran).1
  refine ⟨_, _, result, rfl, fun slot => Snapshot.nodup_options slot, fun k slot => ⟨?_, ?_⟩⟩
  · exact decides found installed k slot
  · intro later s shown live
    have same : shown.store = c.store := c.store_visit now id .selectionOptions
    have decided := decides live (same ▸ installed) k slot
    obtain rfl := eq_commanded found ran live
    have kept : shown.synced (c.synced before.plan) = c.synced before.plan := by
      rw [synced, same]
      exact c.synced_synced before.plan
    simp only [commanded, left, kept] at decided
    exact decided

/-- A category whose parent is unknown is offered as a room, and can be chosen as one. -/
theorem orphan_is_offered_as_room :
    let data : Data := { Data.empty with
      categories := [⟨1, "Bathroom", none, none⟩, ⟨2, "Floor", some 1, none⟩,
        ⟨3, "Tiles", some 9, none⟩] }
    let c : Configurator Int := (start ⟨none, none⟩ 60).run [.install 1 data, .create 0]
    ∃ asked options, (c.visit 1 "s1" .selectionOptions).result = .ok asked ∧
      asked.answer = .options options ∧ options.rooms.map Category.id = [1, 3] ∧
      (∃ visited, (c.visit 1 "s1" (.selectRoom 3)).result = .ok visited) ∧
      ∃ e, (c.visit 1 "s1" (.selectRoom 2)).result = .error (.domain (.invalidSelection e)) := by
  intro data c
  have live : ((c.registry.evict 1).find? "s1").isSome = true := by decide +kernel
  obtain ⟨before, found⟩ := Option.isSome_iff_exists.mp live
  have installed : c.store.installed = some (.build 1 data) := rfl
  obtain ⟨asked, options, result, answer, _, decided⟩ := offered_iff_choosable ⟨none, none⟩
    (60 : Int) [.install 1 data, .create 0] 1 "s1" before (.build 1 data) found installed
  have roots : ((Snapshot.build 1 data).tree.rooms.map (·.category)).map Category.id = [1, 3] := by
    decide +kernel
  have rooms : options.rooms.map Category.id = [1, 3] := by
    have ran := Plan.run_selectionOptions c.names (c.synced before.plan) installed
    rw [(c.visit_done 1 "s1" _ found ran).1] at result
    obtain rfl := Except.ok.inj result
    obtain rfl := Plan.Answer.options.inj answer
    exact roots
  have known : (2 : Int) ∈ (Snapshot.build 1 data).categories.map Category.id := by
    decide +kernel
  refine ⟨asked, options, result, answer, rooms, ?_, ?_⟩
  · apply (decided 3 .room).1.succeeds.mpr
    change (3 : Int) ∈ options.rooms.map Category.id
    simp [rooms]
  · apply (decided 2 .room).1.misplaced.mpr
    refine ⟨known, ?_⟩
    change (2 : Int) ∉ options.rooms.map Category.id
    simp [rooms]

end Configurator

end Fitout
