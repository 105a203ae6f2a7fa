import Fitout.Category.Depth

/-!
What a survey finds. Every category gets a depth, and it is the one after its listed parent's. The
survey keeps to that at each step: a path is settled from the end whose depth is known, and a loop
is closed all at once.
-/

namespace Fitout.Category

theorem eq_of_id_eq {categories : List Category} (nodup : (categories.map Category.id).Nodup)
    {c d : Category} (listed : c ∈ categories) (other : d ∈ categories) (same : c.id = d.id) :
    c = d := by
  induction categories with
  | nil => cases listed
  | cons first rest inductionHypothesis =>
    obtain ⟨fresh, restNodup⟩ := List.nodup_cons.mp nodup
    rcases List.mem_cons.mp listed with rfl | later
    · rcases List.mem_cons.mp other with rfl | otherLater
      · rfl
      · exact absurd (List.mem_map.mpr ⟨d, otherLater, same.symm⟩) fresh
    · rcases List.mem_cons.mp other with rfl | otherLater
      · exact absurd (List.mem_map.mpr ⟨c, later, same⟩) fresh
      · exact inductionHypothesis restNodup later otherLater

theorem of_find?_eq_some {categories : List Category} {id : Int} {c : Category}
    (found : find? categories id = some c) : c ∈ categories ∧ c.id = id :=
  ⟨List.mem_of_find?_eq_some found, by simpa using List.find?_some found⟩

theorem listedParent?_eq_some_iff {categories : List Category} {c : Category} {parent : Int} :
    listedParent? categories c = some parent ↔
      c.parentId = some parent ∧ ∃ d ∈ categories, d.id = parent := by
  simp [listedParent?, Option.filter_eq_some_iff]

namespace Survey

/-- Everything one survey found, another one found too. -/
def Extends (later earlier : Survey) : Prop :=
  ∀ id d, earlier.depths.lookup id = some d → later.depths.lookup id = some d

theorem Extends.refl (s : Survey) : s.Extends s :=
  fun _ _ found => found

theorem Extends.trans {last later earlier : Survey} (second : last.Extends later)
    (first : later.Extends earlier) : last.Extends earlier :=
  fun id d found => second id d (first id d found)

/-- This depth is the one after the depth found for the listed parent. -/
def Fits (categories : List Category) (s : Survey) (c : Category) (d : Depth) : Prop :=
  match listedParent? categories c with
  | none => d = .ends 0
  | some parent => ∃ base, s.depths.lookup parent = some base ∧ d = base.below

/-- All depths found so far fit. -/
def Consistent (categories : List Category) (s : Survey) : Prop :=
  ∀ c ∈ categories, ∀ d, s.depths.lookup c.id = some d → s.Fits categories c d

theorem Fits.mono {categories : List Category} {later earlier : Survey} {c : Category} {d : Depth}
    (fits : earlier.Fits categories c d) (extension : later.Extends earlier) :
    later.Fits categories c d := by
  unfold Fits at *
  split
  · rename_i top
    simpa only [top] using fits
  · rename_i parent below
    simp only [below] at fits
    obtain ⟨base, found, after⟩ := fits
    exact ⟨base, extension parent base found, after⟩

/-- One survey goes on from another and finds the depths of these ids. -/
structure Settles (categories : List Category) (later earlier : Survey) (ids : List Int) :
    Prop where
  consistent : later.Consistent categories
  extension : later.Extends earlier
  known : ∀ id ∈ ids, ∃ d, later.depths.lookup id = some d

/-- Ids of which the first is a child of this one, and each other one a child of the one before. -/
def Leads (categories : List Category) : Int → List Int → Prop
  | _, [] => True
  | parent, id :: path =>
    (∃ c ∈ categories, c.id = id ∧ listedParent? categories c = some parent) ∧
      Leads categories id path

theorem Leads.of_append {categories : List Category} {parent id : Int} {near far : List Int}
    (leads : Leads categories parent (near ++ id :: far)) : Leads categories id far := by
  induction near generalizing parent with
  | nil => exact leads.2
  | cons first near inductionHypothesis => exact inductionHypothesis leads.2

/-- On a path, the parent of each id is the id the path leads from or another one of the path. -/
theorem Leads.parent_mem {categories : List Category} {parent : Int} {near far : List Int}
    (leads : Leads categories parent (near ++ far)) {id : Int} (member : id ∈ near) :
    ∃ c ∈ categories, c.id = id ∧
      ∃ next, listedParent? categories c = some next ∧ (next = parent ∨ next ∈ near) := by
  induction near generalizing parent with
  | nil => cases member
  | cons first near inductionHypothesis =>
    obtain ⟨⟨c, listed, rfl, below⟩, rest⟩ := leads
    rcases List.mem_cons.mp member with rfl | member
    · exact ⟨c, listed, rfl, parent, below, .inl rfl⟩
    · obtain ⟨d, listedToo, same, next, nextBelow, place⟩ := inductionHypothesis rest member
      refine ⟨d, listedToo, same, next, nextBelow, .inr ?_⟩
      rcases place with rfl | place
      · exact List.mem_cons_self
      · exact List.mem_cons_of_mem _ place

theorem lookup_cons_ne {depths : List (Int × Depth)} {id other : Int} (apart : other ≠ id)
    (d : Depth) : ((id, d) :: depths).lookup other = depths.lookup other := by
  rw [List.lookup_cons, beq_false_of_ne apart]

theorem extends_cons {s : Survey} {id : Int} (fresh : s.depths.lookup id = none) (d : Depth) :
    Extends ⟨(id, d) :: s.depths, s.onLoop⟩ s := by
  intro other otherDepth found
  by_cases same : other = id
  · rw [same, fresh] at found
    cases found
  · rw [lookup_cons_ne same]
    exact found

variable {categories : List Category} (nodup : (categories.map Category.id).Nodup)

include nodup in
theorem Consistent.cons {s : Survey} (consistent : s.Consistent categories) {c : Category}
    (listed : c ∈ categories) (fresh : s.depths.lookup c.id = none) {d : Depth}
    (fits : s.Fits categories c d) :
    Consistent categories ⟨(c.id, d) :: s.depths, s.onLoop⟩ := by
  intro other otherListed otherDepth found
  have extension := extends_cons fresh d
  by_cases same : other.id = c.id
  · obtain rfl := eq_of_id_eq nodup otherListed listed same
    rw [List.lookup_cons_self] at found
    obtain rfl := Option.some.inj found
    exact fits.mono extension
  · rw [lookup_cons_ne same] at found
    exact (consistent other otherListed otherDepth found).mono extension

include nodup in
theorem Consistent.descend {s : Survey} (consistent : s.Consistent categories) {parent : Int}
    {base : Depth} (found : s.depths.lookup parent = some base) {path : List Int}
    (leads : Leads categories parent path)
    (fresh : ∀ id ∈ path, s.depths.lookup id = none) (distinct : path.Nodup) :
    Settles categories (s.descend base path) s path := by
  induction path generalizing s parent base with
  | nil => exact ⟨consistent, .refl s, by simp⟩
  | cons id path inductionHypothesis =>
    obtain ⟨⟨c, listed, rfl, below⟩, rest⟩ := leads
    obtain ⟨apart, distinctRest⟩ := List.nodup_cons.mp distinct
    have unknown := fresh c.id List.mem_cons_self
    have fits : s.Fits categories c base.below := by
      simp only [Fits, below]
      exact ⟨base, found, rfl⟩
    have known : (⟨(c.id, base.below) :: s.depths, s.onLoop⟩ : Survey).depths.lookup c.id =
        some base.below := List.lookup_cons_self
    have freshRest : ∀ id ∈ path,
        (⟨(c.id, base.below) :: s.depths, s.onLoop⟩ : Survey).depths.lookup id = none := by
      intro id member
      have other : id ≠ c.id := fun same => apart (same ▸ member)
      rw [lookup_cons_ne other]
      exact fresh id (List.mem_cons_of_mem _ member)
    have settles := inductionHypothesis (consistent.cons nodup listed unknown fits) known rest
      freshRest distinctRest
    refine ⟨settles.consistent, settles.extension.trans (extends_cons unknown _), ?_⟩
    intro id member
    rcases List.mem_cons.mp member with rfl | later
    · exact ⟨_, settles.extension _ _ known⟩
    · exact settles.known id later

theorem lookup_close (s : Survey) (loop : List Int) (id : Int) :
    (s.close loop).depths.lookup id =
      if id ∈ loop then some .loops else s.depths.lookup id := by
  induction loop with
  | nil => simp [close]
  | cons first loop inductionHypothesis =>
    have opened : (s.close (first :: loop)).depths = (first, .loops) :: (s.close loop).depths := rfl
    rw [opened]
    by_cases same : id = first
    · rw [same, List.lookup_cons_self, if_pos List.mem_cons_self]
    · rw [lookup_cons_ne same, inductionHypothesis]
      simp only [List.mem_cons, same, false_or]

/-- The ids of a loop get their depth all at once, each with its parent. -/
theorem Consistent.close {s : Survey} (consistent : s.Consistent categories) {loop : List Int}
    (fresh : ∀ id ∈ loop, s.depths.lookup id = none)
    (closed : ∀ c ∈ categories, c.id ∈ loop →
      ∃ next ∈ loop, listedParent? categories c = some next) :
    (s.close loop).Consistent categories ∧ (s.close loop).Extends s := by
  have extension : (s.close loop).Extends s := by
    intro id d found
    rw [lookup_close]
    split
    · rename_i member
      rw [fresh id member] at found
      cases found
    · exact found
  refine ⟨fun c listed d found => ?_, extension⟩
  rw [lookup_close] at found
  split at found
  · rename_i member
    obtain ⟨next, nextMember, below⟩ := closed c listed member
    obtain rfl := Option.some.inj found
    simp only [Fits, below]
    exact ⟨.loops, by rw [lookup_close, if_pos nextMember], rfl⟩
  · exact (consistent c listed d found).mono extension

/-- A path that comes back to one of its ids splits there: what is near closes a loop, and what is
far leads to that id. -/
theorem split_at {near : List Int} {current : Int} (new : current ∉ near) (far : List Int) :
    (near ++ current :: far).takeWhile (· != current) = near ∧
      ((near ++ current :: far).dropWhile (· != current)).drop 1 = far := by
  have passes : ∀ id ∈ near, (id != current) = true := by
    intro id member
    exact bne_iff_ne.mpr (ne_of_mem_of_not_mem member new)
  constructor
  · rw [List.takeWhile_append_of_pos passes]
    simp
  · rw [List.dropWhile_append_of_pos passes]
    simp

include nodup in
/-- A path that holds the id it leads from goes around: each of its ids up to there has its parent
among them. -/
theorem Leads.closed {loop far : List Int} {current : Int}
    (leads : Leads categories current (loop ++ far)) (back : current ∈ loop) :
    ∀ c ∈ categories, c.id ∈ loop → ∃ next ∈ loop, listedParent? categories c = some next := by
  intro c listed member
  obtain ⟨d, listedToo, same, next, below, place⟩ := leads.parent_mem member
  obtain rfl := eq_of_id_eq nodup listedToo listed same
  refine ⟨next, ?_, below⟩
  rcases place with rfl | place
  · exact back
  · exact place

include nodup in
theorem Consistent.loop {s : Survey} (consistent : s.Consistent categories) {loop far : List Int}
    {current : Int} (back : current ∈ loop) (leads : Leads categories current (loop ++ far))
    (leadsFar : Leads categories current far)
    (fresh : ∀ id ∈ loop ++ far, s.depths.lookup id = none) (distinct : (loop ++ far).Nodup) :
    Settles categories ((s.close loop).descend .loops far) s (loop ++ far) := by
  obtain ⟨closedConsistent, closedExtends⟩ := consistent.close
    (fun id member => fresh id (List.mem_append_left _ member)) (leads.closed nodup back)
  obtain ⟨_, distinctFar, apart⟩ := List.nodup_append.mp distinct
  have found {id : Int} (member : id ∈ loop) :
      (s.close loop).depths.lookup id = some .loops := by
    rw [lookup_close, if_pos member]
  have freshFar : ∀ id ∈ far, (s.close loop).depths.lookup id = none := by
    intro id member
    rw [lookup_close, if_neg fun inLoop => apart id inLoop id member rfl]
    exact fresh id (List.mem_append_right _ member)
  have settles := closedConsistent.descend nodup (found back) leadsFar freshFar distinctFar
  refine ⟨settles.consistent, settles.extension.trans closedExtends, fun id member => ?_⟩
  rcases List.mem_append.mp member with inLoop | inFar
  · exact ⟨_, settles.extension _ _ (found inLoop)⟩
  · exact settles.known id inFar

theorem mem_without_iff {id : Int} {rest : List Category} {c : Category} :
    c ∈ without id rest ↔ c ∈ rest ∧ c.id ≠ id := by
  simp [without]

/-- What is not on the path is not visited yet, after one more id too. -/
theorem unvisited_cons {path : List Int} {rest : List Category}
    (unvisited : ∀ c ∈ categories, c.id ∉ path → c ∈ rest) (id : Int) :
    ∀ c ∈ categories, c.id ∉ id :: path → c ∈ without id rest := by
  intro c listed notVisited
  apply mem_without_iff.mpr
  constructor
  · exact unvisited c listed (List.not_mem_of_not_mem_cons notVisited)
  · exact List.ne_of_not_mem_cons notVisited

/-- A climb, round after round. A round ends it and settles the path, or goes on to the parent. -/
inductive Walk (categories : List Category) (s : Survey) :
    List Int → Int → Nat → Survey → Prop where
  | surveyed {path : List Int} {current : Int} {base : Depth}
      (known : s.depths.lookup current = some base) :
      Walk categories s path current 1 (s.descend base path)
  | loop {near far : List Int} {current : Int} (unknown : s.depths.lookup current = none)
      (new : current ∉ near) :
      Walk categories s (near ++ current :: far) current 1
        ((s.close (near ++ [current])).descend .loops far)
  | top {path : List Int} {c : Category} (unknown : s.depths.lookup c.id = none)
      (new : c.id ∉ path) (listed : c ∈ categories) (ends : listedParent? categories c = none) :
      Walk categories s path c.id 1
        (Survey.descend ⟨(c.id, .ends 0) :: s.depths, s.onLoop⟩ (.ends 0) path)
  | up {path : List Int} {c : Category} {parent : Int} {rounds : Nat} {result : Survey}
      (unknown : s.depths.lookup c.id = none) (new : c.id ∉ path) (listed : c ∈ categories)
      (below : listedParent? categories c = some parent)
      (further : Walk categories s (c.id :: path) parent rounds result) :
      Walk categories s path c.id (rounds + 1) result

theorem exists_walk_climb {s : Survey} {path : List Int} {current : Int} {rest : List Category}
    (listed : ∃ c ∈ categories, c.id = current) (within : ∀ c ∈ rest, c ∈ categories)
    (unvisited : ∀ c ∈ categories, c.id ∉ path → c ∈ rest) :
    ∃ rounds, Walk categories s path current rounds (s.climb categories path current rest) := by
  fun_induction Survey.climb categories s path current rest with
  | case1 path current rest base found => exact ⟨1, .surveyed found⟩
  | case2 path current rest unknown back loop =>
    obtain ⟨near, far, rfl, new⟩ := List.eq_append_cons_of_mem (List.contains_iff_mem.mp back)
    obtain ⟨taken, dropped⟩ := split_at new far
    simp only [loop, taken, dropped]
    exact ⟨1, .loop unknown new⟩
  | case3 path current rest unknown apart missing =>
    obtain ⟨c, listed, rfl⟩ := listed
    have inRest := unvisited c listed fun member => apart (List.contains_iff_mem.mpr member)
    have notFound := List.find?_eq_none.mp missing c inRest
    simp at notFound
  | case4 path current rest unknown apart c found top =>
    obtain ⟨inRest, rfl⟩ := of_find?_eq_some found
    exact ⟨1, .top unknown (mt List.contains_iff_mem.mpr apart) (within c inRest) top⟩
  | case5 path current rest unknown apart c found parent below inductionHypothesis =>
    obtain ⟨inRest, rfl⟩ := of_find?_eq_some found
    have new : c.id ∉ path := mt List.contains_iff_mem.mpr apart
    obtain ⟨rounds, walk⟩ := inductionHypothesis (listedParent?_eq_some_iff.mp below).2
      (fun d member => within d (mem_without_iff.mp member).1)
      (unvisited_cons unvisited c.id)
    exact ⟨rounds + 1, .up unknown new (within c inRest) below walk⟩

include nodup in
theorem Walk.settles {s result : Survey} {path : List Int} {current : Int} {rounds : Nat}
    (walk : Walk categories s path current rounds result) (consistent : s.Consistent categories)
    (leads : Leads categories current path) (fresh : ∀ id ∈ path, s.depths.lookup id = none)
    (distinct : path.Nodup) : Settles categories result s (current :: path) := by
  induction walk with
  | @surveyed path current base known =>
    have settles := consistent.descend nodup known leads fresh distinct
    refine ⟨settles.consistent, settles.extension, ?_⟩
    exact List.forall_mem_cons.mpr ⟨⟨base, settles.extension _ _ known⟩, settles.known⟩
  | @loop near far current unknown new =>
    have split : near ++ current :: far = near ++ [current] ++ far := by simp
    have leadsFar : Leads categories current far := leads.of_append
    rw [split] at leads fresh distinct ⊢
    have back : current ∈ near ++ [current] := List.mem_append_right near (.head [])
    have settles := consistent.loop nodup back leads leadsFar fresh distinct
    refine ⟨settles.consistent, settles.extension, ?_⟩
    exact List.forall_mem_cons.mpr
      ⟨settles.known current (List.mem_append_left far back), settles.known⟩
  | @top path c unknown new listed ends =>
    have fits : s.Fits categories c (.ends 0) := by
      simp only [Fits, ends]
    have freshPath : ∀ id ∈ path,
        (⟨(c.id, .ends 0) :: s.depths, s.onLoop⟩ : Survey).depths.lookup id = none := by
      intro id member
      rw [lookup_cons_ne (ne_of_mem_of_not_mem member new)]
      exact fresh id member
    have settles := (consistent.cons nodup listed unknown fits).descend nodup
      List.lookup_cons_self leads freshPath distinct
    refine ⟨settles.consistent, settles.extension.trans (extends_cons unknown _), ?_⟩
    exact List.forall_mem_cons.mpr
      ⟨⟨_, settles.extension _ _ List.lookup_cons_self⟩, settles.known⟩
  | @up path c parent rounds result unknown new listed below _ inductionHypothesis =>
    have settles := inductionHypothesis ⟨⟨c, listed, rfl, below⟩, leads⟩
      (List.forall_mem_cons.mpr ⟨unknown, fresh⟩) (List.nodup_cons.mpr ⟨new, distinct⟩)
    exact ⟨settles.consistent, settles.extension, (List.forall_mem_cons.mp settles.known).2⟩

include nodup in
theorem Consistent.foldl_climb {s : Survey} (consistent : s.Consistent categories)
    {starts : List Category} (listed : ∀ c ∈ starts, c ∈ categories) :
    Settles categories (starts.foldl (fun s c => s.climb categories [] c.id categories) s) s
      (starts.map Category.id) := by
  induction starts generalizing s with
  | nil => exact ⟨consistent, .refl s, by simp⟩
  | cons c starts inductionHypothesis =>
    have walked : ∃ rounds, Walk categories s [] c.id rounds _ :=
      exists_walk_climb ⟨c, listed c List.mem_cons_self, rfl⟩ (fun _ member => member)
        (fun _ member _ => member)
    obtain ⟨rounds, walk⟩ := walked
    have first := walk.settles nodup consistent trivial (fun _ member => by cases member) .nil
    have others := inductionHypothesis first.consistent fun d member =>
      listed d (List.mem_cons_of_mem _ member)
    refine ⟨others.consistent, others.extension.trans first.extension, fun id member => ?_⟩
    rcases List.mem_cons.mp member with rfl | later
    · obtain ⟨d, found⟩ := first.known c.id List.mem_cons_self
      exact ⟨d, others.extension _ _ found⟩
    · exact others.known id later

end Survey

section Depth

variable {categories : List Category} (nodup : (categories.map Category.id).Nodup)

include nodup in
theorem survey_settles : Survey.Settles categories (survey categories) .empty
    (categories.map Category.id) :=
  Survey.Consistent.foldl_climb nodup (fun _ _ _ found => by cases found) fun _ member => member

include nodup in
theorem depth_of_top {c : Category} (listed : c ∈ categories)
    (top : listedParent? categories c = none) : (survey categories).depth c.id = .ends 0 := by
  have settles := survey_settles nodup
  obtain ⟨d, found⟩ := settles.known c.id (List.mem_map_of_mem listed)
  have fits := settles.consistent c listed d found
  simp only [Survey.Fits, top] at fits
  simp only [Survey.depth, found, fits, Option.getD_some]

include nodup in
theorem depth_of_child {c : Category} (listed : c ∈ categories) {parent : Int}
    (below : listedParent? categories c = some parent) :
    (survey categories).depth c.id = ((survey categories).depth parent).below := by
  have settles := survey_settles nodup
  obtain ⟨d, found⟩ := settles.known c.id (List.mem_map_of_mem listed)
  have fits := settles.consistent c listed d found
  simp only [Survey.Fits, below] at fits
  obtain ⟨base, foundParent, after⟩ := fits
  simp only [Survey.depth, found, foundParent, after, Option.getD_some]

include nodup in
theorem depth_eq_zero_iff {c : Category} (listed : c ∈ categories) :
    (survey categories).depth c.id = .ends 0 ↔ listedParent? categories c = none := by
  constructor
  · intro found
    cases below : listedParent? categories c with
    | none => rfl
    | some parent =>
      rw [depth_of_child nodup listed below] at found
      cases base : (survey categories).depth parent <;> rw [base] at found <;> cases found
  · exact depth_of_top nodup listed

include nodup in
/-- Below the top, the depth of a category tells that of its parent. -/
theorem exists_parent_of_depth {c : Category} (listed : c ∈ categories) {d : Depth}
    (found : (survey categories).depth c.id = d) (notTop : d ≠ .ends 0) :
    ∃ parent ∈ categories, c.parentId = some parent.id ∧
      ((survey categories).depth parent.id).below = d := by
  cases below : listedParent? categories c with
  | none => exact absurd (found.symm.trans (depth_of_top nodup listed below)) notTop
  | some parent =>
    obtain ⟨named, p, parentListed, rfl⟩ := listedParent?_eq_some_iff.mp below
    exact ⟨p, parentListed, named, (depth_of_child nodup listed below).symm.trans found⟩

include nodup in
theorem depth_of_parent {c parent : Category} (listed : c ∈ categories)
    (parentListed : parent ∈ categories) (named : c.parentId = some parent.id) :
    (survey categories).depth c.id = ((survey categories).depth parent.id).below :=
  depth_of_child nodup listed (listedParent?_eq_some_iff.mpr ⟨named, parent, parentListed, rfl⟩)

include nodup in
theorem depth_eq_succ_iff {c : Category} (listed : c ∈ categories) {steps : Nat} :
    (survey categories).depth c.id = .ends (steps + 1) ↔
      ∃ parent ∈ categories, c.parentId = some parent.id ∧
        (survey categories).depth parent.id = .ends steps := by
  constructor
  · intro found
    obtain ⟨parent, parentListed, named, below⟩ :=
      exists_parent_of_depth nodup listed found (by simp)
    refine ⟨parent, parentListed, named, ?_⟩
    cases base : (survey categories).depth parent.id with
    | ends others =>
      rw [base] at below
      injection below with same
      rw [Nat.succ.inj same]
    | loops => rw [base] at below; cases below
  · rintro ⟨parent, parentListed, named, base⟩
    rw [depth_of_parent nodup listed parentListed named, base]
    rfl

include nodup in
theorem depth_eq_loops_iff {c : Category} (listed : c ∈ categories) :
    (survey categories).depth c.id = .loops ↔
      ∃ parent ∈ categories, c.parentId = some parent.id ∧
        (survey categories).depth parent.id = .loops := by
  constructor
  · intro found
    obtain ⟨parent, parentListed, named, below⟩ :=
      exists_parent_of_depth nodup listed found (by simp)
    refine ⟨parent, parentListed, named, ?_⟩
    cases base : (survey categories).depth parent.id with
    | ends steps => rw [base] at below; cases below
    | loops => rfl
  · rintro ⟨parent, parentListed, named, base⟩
    rw [depth_of_parent nodup listed parentListed named, base]
    rfl

end Depth

end Fitout.Category
