import Fitout.Proofs.Category.Walks

/-!
# What a survey finds

The loops of a survey against the chain of parents: where the chain of a category ends its depth is
the number of steps, and where it does not the category is marked. The ids found on loops are those
that lead back to themselves, and not those below them. None of this depends on the order in which
the categories are surveyed.
-/

namespace Fitout.Category

/-- One or more steps along the parents lead back to where they began. -/
def Returns (entries : List Category) (c : Category) : Prop :=
  ∃ steps, Climbs entries c (steps + 1) c

section Chain

variable {entries : List Category}

theorem Climbs.mono {others : List Category} {c top : Category} {steps : Nat}
    (survivors : ∀ d, Survives entries d → Survives others d)
    (climb : Climbs entries c steps top) : Climbs others c steps top := by
  induction climb with
  | here c => exact .here c
  | up survives named _ inductionHypothesis =>
    exact .up (survivors _ survives) named inductionHypothesis

section Order

variable {order categories : List Category} (distinct : (categories.map Category.id).Nodup)
  (same : order.Perm categories)

include distinct same in
/-- The chains are the same in every order. -/
theorem climbs_perm {c top : Category} {steps : Nat} :
    Climbs order c steps top ↔ Climbs categories c steps top := by
  have distinctToo : (order.map Category.id).Nodup :=
    (same.map Category.id).nodup_iff.mpr distinct
  have survivors (d : Category) : Survives order d ↔ Survives categories d := by
    rw [survives_iff_mem distinct, survives_iff_mem distinctToo]
    exact same.mem_iff
  constructor
  · exact Climbs.mono fun d => (survivors d).mp
  · exact Climbs.mono fun d => (survivors d).mpr

include distinct same in
theorem endsAfter_perm {c : Category} {steps : Nat} :
    EndsAfter order c steps ↔ EndsAfter categories c steps := by
  simp only [EndsAfter, climbs_perm distinct same, same.mem_iff]

include distinct same in
theorem neverEnds_perm {c : Category} : NeverEnds order c ↔ NeverEnds categories c := by
  simp only [NeverEnds, climbs_perm distinct same]

include distinct same in
theorem returns_perm {c : Category} : Returns order c ↔ Returns categories c := by
  simp only [Returns, climbs_perm distinct same]

end Order

end Chain

namespace Survey

variable {categories : List Category} (nodup : (categories.map Category.id).Nodup)

include nodup in
theorem Leads.climbs {parent c : Category} {near far : List Int}
    (leads : Leads categories parent.id (near ++ c.id :: far)) (parentListed : parent ∈ categories)
    (listed : c ∈ categories) : Climbs categories c (near.length + 1) parent := by
  have survives : Survives categories parent := (survives_iff_mem nodup).mpr parentListed
  induction near generalizing parent with
  | nil =>
    obtain ⟨⟨d, listedToo, same, below⟩, _⟩ := leads
    obtain rfl := eq_of_id_eq nodup listedToo listed same
    exact .up survives (listedParent?_eq_some_iff.mp below).1 (.here parent)
  | cons first near inductionHypothesis =>
    obtain ⟨⟨d, listedToo, rfl, below⟩, rest⟩ := leads
    have climb := inductionHypothesis rest listedToo ((survives_iff_mem nodup).mpr listedToo)
    exact climb.onward survives (listedParent?_eq_some_iff.mp below).1

include nodup in
/-- A path that comes back to an id leads each category up to there back to itself. -/
theorem Leads.returns {c : Category} {near far : List Int} {current : Int}
    (leads : Leads categories current (near ++ [current] ++ far)) (listed : c ∈ categories)
    (member : c.id ∈ near ++ [current]) : Returns categories c := by
  obtain ⟨top, topListed, rfl, _⟩ := leads.parent_mem (List.mem_append_right near (.head []))
  rw [List.append_assoc, List.singleton_append] at leads
  rcases List.mem_append.mp member with inNear | atEnd
  · obtain ⟨nearer, farther, rfl⟩ := List.append_of_mem inNear
    rw [List.append_assoc, List.cons_append] at leads
    have up := leads.climbs nodup topListed listed
    have down := leads.of_append.climbs nodup listed topListed
    exact ⟨nearer.length + 1 + farther.length, up.trans down⟩
  · obtain rfl := eq_of_id_eq nodup listed topListed (List.mem_singleton.mp atEnd)
    exact ⟨near.length, leads.climbs nodup listed listed⟩

/-- The parent of a category whose depth fits was settled. -/
theorem Fits.parent_mem {s : Survey} {c parent : Category} {d : Depth}
    (fits : s.Fits categories c d) (survives : Survives categories parent)
    (named : c.parentId = some parent.id) : parent.id ∈ s.ids := by
  have below : listedParent? categories c = some parent.id :=
    listedParent?_eq_some_iff.mpr ⟨named, parent, survives.mem, rfl⟩
  simp only [Fits, below] at fits
  obtain ⟨base, found, _⟩ := fits
  exact mem_ids_iff.mpr ⟨base, found⟩

/-- What was settled is closed under steps along the parents. -/
theorem Consistent.known_of_climbs {s : Survey} (consistent : s.Consistent categories)
    {c top : Category} {steps : Nat} (climb : Climbs categories c steps top)
    (listed : c ∈ categories) (known : c.id ∈ s.ids) : top.id ∈ s.ids := by
  induction climb with
  | here => exact known
  | up survives named _ inductionHypothesis =>
    obtain ⟨d, found⟩ := mem_ids_iff.mp known
    have fits := consistent _ listed d found
    exact inductionHypothesis survives.mem (fits.parent_mem survives named)

/-- A category that gets its depth from what was settled before does not lead back to itself. -/
theorem Consistent.not_returns {s : Survey} (consistent : s.Consistent categories) {c : Category}
    (unknown : s.depths.lookup c.id = none) {d : Depth} (fits : s.Fits categories c d) :
    ¬ Returns categories c := by
  rintro ⟨steps, climb⟩
  cases climb with
  | up survives named further =>
    have settled := fits.parent_mem survives named
    exact not_mem_ids unknown (consistent.known_of_climbs further survives.mem settled)

/-- What a survey found so far holds: its depths fit, no id has two of them, and the ids on loops
are those settled ones that lead back to themselves. -/
structure Sound (categories : List Category) (s : Survey) : Prop where
  consistent : s.Consistent categories
  distinct : s.ids.Nodup
  listed : ∀ id ∈ s.ids, ∃ c ∈ categories, c.id = id
  settled : ∀ id ∈ s.onLoop, id ∈ s.ids
  onLoop_iff : ∀ c ∈ categories, c.id ∈ s.ids → (c.id ∈ s.onLoop ↔ Returns categories c)

theorem sound_empty : Sound categories .empty where
  consistent := fun _ _ _ found => by cases found
  distinct := List.nodup_nil
  listed := fun _ member => by cases member
  settled := fun _ member => by cases member
  onLoop_iff := fun _ _ member => by cases member

namespace Sound

variable {s : Survey}

include nodup in
theorem settle (sound : s.Sound categories) {c : Category} (listed : c ∈ categories)
    (unknown : s.depths.lookup c.id = none) {d : Depth} (fits : s.Fits categories c d) :
    Sound categories ⟨(c.id, d) :: s.depths, s.onLoop⟩ where
  consistent := sound.consistent.cons nodup listed unknown fits
  distinct := List.nodup_cons.mpr ⟨not_mem_ids unknown, sound.distinct⟩
  listed := by
    intro id member
    rcases List.mem_cons.mp member with rfl | earlier
    · exact ⟨c, listed, rfl⟩
    · exact sound.listed id earlier
  settled := fun id member => List.mem_cons_of_mem _ (sound.settled id member)
  onLoop_iff := by
    intro other otherListed member
    rcases List.mem_cons.mp member with same | earlier
    · obtain rfl := eq_of_id_eq nodup otherListed listed same
      constructor
      · intro onLoop
        exact absurd (sound.settled _ onLoop) (not_mem_ids unknown)
      · intro returns
        exact absurd returns (sound.consistent.not_returns unknown fits)
    · exact sound.onLoop_iff other otherListed earlier

include nodup in
theorem descend (sound : s.Sound categories) {parent : Int} {base : Depth}
    (found : s.depths.lookup parent = some base) {path : List Int}
    (leads : Leads categories parent path) (fresh : ∀ id ∈ path, s.depths.lookup id = none)
    (distinct : path.Nodup) : (s.descend base path).Sound categories := by
  induction path generalizing s parent base with
  | nil => exact sound
  | cons id path inductionHypothesis =>
    obtain ⟨⟨c, listed, rfl, below⟩, rest⟩ := leads
    obtain ⟨apart, distinctRest⟩ := List.nodup_cons.mp distinct
    have fits : s.Fits categories c base.below := by
      simp only [Fits, below]
      exact ⟨base, found, rfl⟩
    have settled := sound.settle nodup listed (fresh c.id List.mem_cons_self) fits
    apply inductionHypothesis settled List.lookup_cons_self rest _ distinctRest
    intro id member
    rw [lookup_cons_ne (ne_of_mem_of_not_mem member apart)]
    exact fresh id (List.mem_cons_of_mem _ member)

include nodup in
theorem close (sound : s.Sound categories) {near far : List Int} {current : Int}
    (leads : Leads categories current (near ++ [current] ++ far))
    (fresh : ∀ id ∈ near ++ [current], s.depths.lookup id = none)
    (distinct : (near ++ [current]).Nodup) :
    (s.close (near ++ [current])).Sound categories where
  consistent :=
    (sound.consistent.close fresh (leads.closed nodup (List.mem_append_right near (.head [])))).1
  distinct := by
    rw [ids_close, List.nodup_append]
    refine ⟨distinct, sound.distinct, ?_⟩
    rintro id onPath _ settled rfl
    exact not_mem_ids (fresh id onPath) settled
  listed := by
    intro id member
    rw [ids_close] at member
    rcases List.mem_append.mp member with onPath | earlier
    · obtain ⟨c, listed, same, _⟩ := leads.parent_mem onPath
      exact ⟨c, listed, same⟩
    · exact sound.listed id earlier
  settled := by
    intro id member
    rw [ids_close]
    rcases List.mem_append.mp member with onPath | earlier
    · exact List.mem_append_left _ onPath
    · exact List.mem_append_right _ (sound.settled id earlier)
  onLoop_iff := by
    intro c listed member
    rw [ids_close] at member
    by_cases onPath : c.id ∈ near ++ [current]
    · exact iff_of_true (List.mem_append_left _ onPath) (leads.returns nodup listed onPath)
    · have earlier := (List.mem_append.mp member).resolve_left onPath
      rw [← sound.onLoop_iff c listed earlier]
      constructor
      · intro onLoop
        exact (List.mem_append.mp onLoop).resolve_left onPath
      · exact List.mem_append_right _

end Sound

include nodup in
theorem Walk.sound {s result : Survey} {path : List Int} {current : Int} {rounds : Nat}
    (walk : Walk categories s path current rounds result) (sound : s.Sound categories)
    (leads : Leads categories current path) (fresh : ∀ id ∈ path, s.depths.lookup id = none)
    (distinct : path.Nodup) : result.Sound categories := by
  induction walk with
  | surveyed known => exact sound.descend nodup known leads fresh distinct
  | @loop near far current unknown new =>
    have split : near ++ current :: far = near ++ [current] ++ far := by simp
    have leadsFar : Leads categories current far := leads.of_append
    rw [split] at leads fresh distinct
    obtain ⟨distinctLoop, distinctFar, apart⟩ := List.nodup_append.mp distinct
    have closed := sound.close nodup leads
      (fun id member => fresh id (List.mem_append_left far member)) distinctLoop
    apply closed.descend nodup _ leadsFar _ distinctFar
    · rw [lookup_close, if_pos (List.mem_append_right near (.head []))]
    · intro id member
      rw [lookup_close, if_neg fun onLoop => apart id onLoop id member rfl]
      exact fresh id (List.mem_append_right _ member)
  | @top path c unknown new listed ends =>
    have fits : s.Fits categories c (.ends 0) := by
      simp only [Fits, ends]
    have settled := sound.settle nodup listed unknown fits
    apply settled.descend nodup List.lookup_cons_self leads _ distinct
    intro id member
    rw [lookup_cons_ne (ne_of_mem_of_not_mem member new)]
    exact fresh id member
  | up unknown new listed below _ inductionHypothesis =>
    apply inductionHypothesis
    · exact ⟨⟨_, listed, rfl, below⟩, leads⟩
    · exact List.forall_mem_cons.mpr ⟨unknown, fresh⟩
    · exact List.nodup_cons.mpr ⟨new, distinct⟩

include nodup in
theorem Walks.sound {s result : Survey} {starts : List Category} {rounds : Nat}
    (walks : Walks categories s starts rounds result) (sound : s.Sound categories) :
    result.Sound categories := by
  induction walks with
  | done => exact sound
  | passed _ _ inductionHypothesis => exact inductionHypothesis sound
  | walked _ walk _ inductionHypothesis =>
    apply inductionHypothesis
    exact walk.sound nodup sound trivial (fun _ member => by cases member) .nil

end Survey

section Survey

variable {categories : List Category} (nodup : (categories.map Category.id).Nodup)

include nodup in
theorem sound_survey : (survey categories).Sound categories := by
  obtain ⟨rounds, walks⟩ : ∃ rounds, Survey.Walks categories .empty categories rounds _ :=
    Survey.exists_walks_foldl fun _ member => member
  exact walks.sound nodup Survey.sound_empty

include nodup in
theorem ids_survey_perm : (survey categories).ids.Perm (categories.map Category.id) := by
  have sound := sound_survey nodup
  apply (List.perm_ext_iff_of_nodup sound.distinct nodup).mpr
  intro id
  constructor
  · intro member
    obtain ⟨c, listed, rfl⟩ := sound.listed id member
    exact List.mem_map_of_mem listed
  · intro member
    exact Survey.mem_ids_iff.mpr ((survey_settles nodup).known id member)

include nodup in
/-- The loops end with the survey and nothing else, after two rounds at most for each category. -/
theorem Survey.Walks.eq_survey {rounds : Nat} {result : Survey}
    (walks : Survey.Walks categories .empty categories rounds result) :
    result = survey categories ∧ rounds ≤ 2 * categories.length := by
  obtain rfl : survey categories = result := walks.foldl_eq nodup
  have bound := walks.rounds_le
  rw [(ids_survey_perm nodup).length_eq, List.length_map] at bound
  exact ⟨rfl, Nat.le_of_add_left_le bound⟩

include nodup in
theorem lookup_survey_eq_some_iff {c : Category} (listed : c ∈ categories) {d : Depth} :
    (survey categories).depths.lookup c.id = some d ↔ (survey categories).depth c.id = d := by
  obtain ⟨found, known⟩ := (survey_settles nodup).known c.id (List.mem_map_of_mem listed)
  rw [Survey.depth, known, Option.some.injEq, Option.getD_some]

include nodup in
theorem lookup_survey_eq_ends_iff {c : Category} (listed : c ∈ categories) {steps : Nat} :
    (survey categories).depths.lookup c.id = some (.ends steps) ↔ EndsAfter categories c steps := by
  have ends : _ = Depth.ends steps ↔ _ :=
    depth_eq_ends_iff ((survives_iff_mem nodup).mpr listed)
  rwa [latest_eq_self nodup, ← lookup_survey_eq_some_iff nodup listed] at ends

include nodup in
theorem lookup_survey_eq_loops_iff {c : Category} (listed : c ∈ categories) :
    (survey categories).depths.lookup c.id = some .loops ↔ NeverEnds categories c := by
  have endless := depth_eq_loops_iff_neverEnds ((survives_iff_mem nodup).mpr listed)
  rwa [latest_eq_self nodup, ← lookup_survey_eq_some_iff nodup listed] at endless

include nodup in
theorem mem_onLoop_survey_iff {id : Int} : id ∈ (survey categories).onLoop ↔
    ∃ c ∈ categories, c.id = id ∧ Returns categories c := by
  have sound := sound_survey nodup
  constructor
  · intro member
    have known := sound.settled id member
    obtain ⟨c, listed, rfl⟩ := sound.listed id known
    exact ⟨c, listed, rfl, (sound.onLoop_iff c listed known).mp member⟩
  · rintro ⟨c, listed, rfl, returns⟩
    have known := (ids_survey_perm nodup).mem_iff.mpr (List.mem_map_of_mem listed)
    exact (sound.onLoop_iff c listed known).mpr returns

end Survey

/-- In whatever order the categories come, their survey ends after two rounds for each at most. It
finds one depth for each id, and that is where its chain leads; on loops it finds the ids that lead
back to themselves. -/
theorem survey_finds_chains {categories order : List Category}
    (distinct : (categories.map Category.id).Nodup) (same : order.Perm categories) :
    (∃ rounds, Survey.Walks order .empty order rounds (survey order)) ∧
    (∀ rounds result, Survey.Walks order .empty order rounds result →
      result = survey order ∧ rounds ≤ 2 * categories.length) ∧
    ((survey order).depths.map Prod.fst).Perm (categories.map Category.id) ∧
    (∀ c ∈ categories, ∀ steps,
      (survey order).depths.lookup c.id = some (.ends steps) ↔ EndsAfter categories c steps) ∧
    (∀ c ∈ categories,
      (survey order).depths.lookup c.id = some .loops ↔ NeverEnds categories c) ∧
    ∀ id, id ∈ (survey order).onLoop ↔ ∃ c ∈ categories, c.id = id ∧ Returns categories c := by
  have sameIds : (order.map Category.id).Perm (categories.map Category.id) :=
    same.map Category.id
  have distinctToo : (order.map Category.id).Nodup := sameIds.nodup_iff.mpr distinct
  refine ⟨Survey.exists_walks_foldl fun _ member => member, ?_,
    (ids_survey_perm distinctToo).trans sameIds, ?_, ?_, ?_⟩
  · intro rounds result walks
    rw [← same.length_eq]
    exact walks.eq_survey distinctToo
  · intro c listed steps
    rw [lookup_survey_eq_ends_iff distinctToo (same.mem_iff.mpr listed)]
    exact endsAfter_perm distinct same
  · intro c listed
    rw [lookup_survey_eq_loops_iff distinctToo (same.mem_iff.mpr listed)]
    exact neverEnds_perm distinct same
  · intro id
    rw [mem_onLoop_survey_iff distinctToo]
    simp only [same.mem_iff, returns_perm distinct same]

/-- A category below a loop has no end to its chain, but the chain does not come back to it. -/
theorem tail_is_not_on_loop :
    let loop : List Category := [⟨1, "Walls", some 2, none⟩, ⟨2, "Floor", some 1, none⟩]
    let tail : Category := ⟨3, "Tiles", some 1, none⟩
    let orphan : Category := ⟨4, "Cellar", some 8, none⟩
    let child : Category := ⟨5, "Stairs", some 4, none⟩
    let categories := loop ++ [tail, child, orphan]
    categories.reverse.Perm categories ∧ NeverEnds categories tail ∧
      ¬ Returns categories tail ∧ (∀ c ∈ loop, Returns categories c) ∧
      EndsAfter categories child 1 := by
  intro loop tail orphan child categories
  have distinct : (categories.map Category.id).Nodup := by decide
  have same : categories.reverse.Perm categories := categories.reverse_perm
  obtain ⟨_, _, _, ends, endless, onLoop⟩ := survey_finds_chains distinct same
  refine ⟨same, ?_, ?_, ?_, ?_⟩
  · exact (endless tail (by decide)).mp (by decide +kernel)
  · intro returns
    have found := (onLoop 3).mpr ⟨tail, by decide, rfl, returns⟩
    exact absurd found (by decide +kernel)
  · intro c member
    have found : c.id ∈ (survey categories.reverse).onLoop := by
      revert c
      decide +kernel
    obtain ⟨d, listed, sameId, returns⟩ := (onLoop c.id).mp found
    rwa [eq_of_id_eq distinct (List.mem_append_left _ member) listed sameId.symm]
  · exact (ends child (by decide) 1).mp (by decide +kernel)

end Fitout.Category
