import Fitout.Category.Survey

/-!
# The chain of parents

The chain is said about the entries as they were delivered: an id is spoken for by its last entry,
and a parent is the entry that speaks for the id named as one. The depth that a survey finds is
the length of the chain.
-/

namespace Fitout.Category

/-- The last entry with its id. -/
def Survives (entries : List Category) (c : Category) : Prop :=
  ∃ before after, entries = before ++ c :: after ∧ ∀ later ∈ after, later.id ≠ c.id

/-- Both survive, and the first one stands before the other. -/
def Precedes (entries : List Category) (c d : Category) : Prop :=
  ∃ before after, entries = before ++ c :: after ∧ (∀ later ∈ after, later.id ≠ c.id) ∧
    Survives after d

/-- So many steps along the parents lead from one category to another. -/
inductive Climbs (entries : List Category) : Category → Nat → Category → Prop where
  | here (c : Category) : Climbs entries c 0 c
  | up {c parent top : Category} {steps : Nat} (survives : Survives entries parent)
      (named : c.parentId = some parent.id) (further : Climbs entries parent steps top) :
      Climbs entries c (steps + 1) top

/-- After so many steps the chain reaches an entry whose parent is null or not listed. -/
def EndsAfter (entries : List Category) (c : Category) (steps : Nat) : Prop :=
  ∃ top, Climbs entries c steps top ∧ ∀ entry ∈ entries, top.parentId ≠ some entry.id

/-- Every step is followed by another one. -/
def NeverEnds (entries : List Category) (c : Category) : Prop :=
  ∀ steps, ∃ top, Climbs entries c steps top

variable {entries : List Category}

theorem Survives.mem {c : Category} (survives : Survives entries c) : c ∈ entries := by
  obtain ⟨before, after, rfl, _⟩ := survives
  exact List.mem_append_right before List.mem_cons_self

theorem survives_cons_iff {first c : Category} {rest : List Category} :
    Survives (first :: rest) c ↔
      (c = first ∧ ∀ later ∈ rest, later.id ≠ c.id) ∨ Survives rest c := by
  constructor
  · rintro ⟨before, after, split, last⟩
    cases before with
    | nil =>
      obtain ⟨rfl, rfl⟩ := List.cons.inj split
      exact .inl ⟨rfl, last⟩
    | cons head before =>
      obtain ⟨_, rfl⟩ := List.cons.inj split
      exact .inr ⟨before, after, rfl, last⟩
  · rintro (⟨rfl, last⟩ | ⟨before, after, rfl, last⟩)
    · exact ⟨[], rest, rfl, last⟩
    · exact ⟨first :: before, after, rfl, last⟩

theorem mem_latest_iff {c : Category} : c ∈ latest entries ↔ Survives entries c := by
  induction entries with
  | nil => simp [latest, Survives]
  | cons first rest inductionHypothesis =>
    rw [survives_cons_iff, ← inductionHypothesis, latest]
    by_cases again : rest.any (·.id == first.id) = true
    · rw [if_pos again]
      obtain ⟨later, member, same⟩ := List.any_eq_true.mp again
      constructor
      · exact .inr
      · rintro (⟨rfl, last⟩ | kept)
        · exact absurd (beq_iff_eq.mp same) (last later member)
        · exact kept
    · rw [if_neg again, List.mem_cons]
      have fresh : ∀ later ∈ rest, later.id ≠ first.id := by
        intro later member same
        exact again (List.any_eq_true.mpr ⟨later, member, beq_iff_eq.mpr same⟩)
      constructor
      · rintro (rfl | kept)
        · exact .inl ⟨rfl, fresh⟩
        · exact .inr kept
      · rintro (⟨rfl, _⟩ | kept)
        · exact .inl rfl
        · exact .inr kept

theorem Survives.eq {c d : Category} (first : Survives entries c) (second : Survives entries d)
    (same : c.id = d.id) : c = d :=
  eq_of_id_eq (nodup_latest entries) (mem_latest_iff.mpr first) (mem_latest_iff.mpr second) same

theorem exists_survives_of_mem {entry : Category} (listed : entry ∈ entries) :
    ∃ c, Survives entries c ∧ c.id = entry.id := by
  obtain ⟨c, kept, same⟩ := exists_latest_of_mem listed
  exact ⟨c, mem_latest_iff.mp kept, same⟩

theorem Precedes.cons {c d : Category} (order : Precedes entries c d) (first : Category) :
    Precedes (first :: entries) c d := by
  obtain ⟨before, after, rfl, last, survives⟩ := order
  exact ⟨first :: before, after, rfl, last, survives⟩

theorem pairwise_precedes_latest (entries : List Category) :
    (latest entries).Pairwise (Precedes entries) := by
  induction entries with
  | nil => exact List.Pairwise.nil
  | cons first rest inductionHypothesis =>
    have shifted := inductionHypothesis.imp fun order => Precedes.cons order first
    rw [latest]
    split
    · exact shifted
    · rename_i again
      apply List.pairwise_cons.mpr
      refine ⟨fun d kept => ⟨[], rest, rfl, ?_, mem_latest_iff.mp kept⟩, shifted⟩
      intro later member same
      exact again (List.any_eq_true.mpr ⟨later, member, beq_iff_eq.mpr same⟩)

/-- If no id is listed twice, every entry is kept. -/
theorem latest_eq_self (distinct : (entries.map Category.id).Nodup) :
    latest entries = entries := by
  induction entries with
  | nil => rfl
  | cons first rest inductionHypothesis =>
    obtain ⟨fresh, distinctRest⟩ := List.nodup_cons.mp distinct
    have unrepeated : ¬ rest.any (·.id == first.id) = true := by
      intro again
      obtain ⟨later, member, same⟩ := List.any_eq_true.mp again
      exact fresh (List.mem_map.mpr ⟨later, member, beq_iff_eq.mp same⟩)
    rw [latest, if_neg unrepeated, inductionHypothesis distinctRest]

/-- If no id is listed twice, every entry survives. -/
theorem survives_iff_mem (distinct : (entries.map Category.id).Nodup) {c : Category} :
    Survives entries c ↔ c ∈ entries := by
  rw [← mem_latest_iff, latest_eq_self distinct]

theorem latest_latest (entries : List Category) : latest (latest entries) = latest entries :=
  latest_eq_self (nodup_latest entries)

theorem Climbs.unique {c first second : Category} {steps : Nat}
    (climb : Climbs entries c steps first) (other : Climbs entries c steps second) :
    first = second := by
  induction climb with
  | here c =>
    cases other
    rfl
  | up survives named further inductionHypothesis =>
    cases other with
    | up survivesToo namedToo furtherToo =>
      have same := Option.some.inj (named.symm.trans namedToo)
      obtain rfl := survives.eq survivesToo same
      exact inductionHypothesis furtherToo

theorem Climbs.onward {c middle top : Category} {steps : Nat}
    (climb : Climbs entries c steps middle) (survives : Survives entries top)
    (named : middle.parentId = some top.id) : Climbs entries c (steps + 1) top := by
  induction climb with
  | here c => exact .up survives named (.here top)
  | up parentSurvives parentNamed _ inductionHypothesis =>
    exact .up parentSurvives parentNamed (inductionHypothesis named)

theorem Climbs.trans {c middle top : Category} {steps more : Nat}
    (climb : Climbs entries c steps middle) (further : Climbs entries middle more top) :
    Climbs entries c (steps + more) top := by
  induction climb with
  | here c =>
    rw [Nat.zero_add]
    exact further
  | up survives named _ inductionHypothesis =>
    rw [Nat.succ_add]
    exact .up survives named (inductionHypothesis further)

theorem endsAfter_zero_iff {c : Category} :
    EndsAfter entries c 0 ↔ ∀ entry ∈ entries, c.parentId ≠ some entry.id := by
  constructor
  · rintro ⟨top, climb, unlisted⟩
    cases climb
    exact unlisted
  · intro unlisted
    exact ⟨c, .here c, unlisted⟩

theorem endsAfter_succ_iff {c : Category} {steps : Nat} :
    EndsAfter entries c (steps + 1) ↔
      ∃ parent, Survives entries parent ∧ c.parentId = some parent.id ∧
        EndsAfter entries parent steps := by
  constructor
  · rintro ⟨top, climb, unlisted⟩
    cases climb with
    | up survives named further => exact ⟨_, survives, named, top, further, unlisted⟩
  · rintro ⟨parent, survives, named, top, further, unlisted⟩
    exact ⟨top, .up survives named further, unlisted⟩

/-- No step leads past the end of a chain. -/
theorem Climbs.le_of_endsAfter {c top : Category} {steps length : Nat}
    (climb : Climbs entries c steps top) (ends : EndsAfter entries c length) :
    steps ≤ length := by
  induction climb generalizing length with
  | here c => exact Nat.zero_le length
  | up survives named further inductionHypothesis =>
    cases length with
    | zero => exact absurd named (endsAfter_zero_iff.mp ends _ survives.mem)
    | succ length =>
      obtain ⟨parent, survivesToo, namedToo, rest⟩ := endsAfter_succ_iff.mp ends
      have same := Option.some.inj (named.symm.trans namedToo)
      obtain rfl := survives.eq survivesToo same
      exact Nat.succ_le_succ (inductionHypothesis rest)

theorem EndsAfter.unique {c : Category} {steps other : Nat} (ends : EndsAfter entries c steps)
    (otherEnds : EndsAfter entries c other) : steps = other := by
  obtain ⟨top, climb, unlisted⟩ := ends
  obtain ⟨otherTop, otherClimb, otherUnlisted⟩ := otherEnds
  apply Nat.le_antisymm
  · exact climb.le_of_endsAfter ⟨otherTop, otherClimb, otherUnlisted⟩
  · exact otherClimb.le_of_endsAfter ⟨top, climb, unlisted⟩

theorem NeverEnds.not_endsAfter {c : Category} (endless : NeverEnds entries c) (length : Nat) :
    ¬ EndsAfter entries c length := by
  intro ends
  obtain ⟨top, climb⟩ := endless (length + 1)
  have := climb.le_of_endsAfter ends
  omega

theorem listedParent?_latest_eq_none_iff {c : Category} :
    listedParent? (latest entries) c = none ↔
      ∀ entry ∈ entries, c.parentId ≠ some entry.id := by
  constructor
  · intro top entry listed named
    obtain ⟨d, kept, same⟩ := exists_latest_of_mem listed
    have below := listedParent?_eq_some_iff.mpr ⟨named, d, kept, same⟩
    rw [top] at below
    cases below
  · intro unlisted
    cases below : listedParent? (latest entries) c with
    | none => rfl
    | some parent =>
      obtain ⟨named, d, kept, rfl⟩ := listedParent?_eq_some_iff.mp below
      exact absurd named (unlisted d (mem_latest_of_mem kept))

/-- The depth of a category is the length of its chain. -/
theorem depth_eq_ends_iff {c : Category} (survives : Survives entries c) {steps : Nat} :
    (survey (latest entries)).depth c.id = .ends steps ↔ EndsAfter entries c steps := by
  have nodup := nodup_latest entries
  induction steps generalizing c with
  | zero =>
    rw [depth_eq_zero_iff nodup (mem_latest_iff.mpr survives), endsAfter_zero_iff,
      listedParent?_latest_eq_none_iff]
  | succ steps inductionHypothesis =>
    rw [depth_eq_succ_iff nodup (mem_latest_iff.mpr survives), endsAfter_succ_iff]
    constructor
    · rintro ⟨parent, kept, named, found⟩
      have parentSurvives := mem_latest_iff.mp kept
      exact ⟨parent, parentSurvives, named, (inductionHypothesis parentSurvives).mp found⟩
    · rintro ⟨parent, parentSurvives, named, ends⟩
      exact ⟨parent, mem_latest_iff.mpr parentSurvives, named,
        (inductionHypothesis parentSurvives).mpr ends⟩

theorem depth_eq_loops_iff_neverEnds {c : Category} (survives : Survives entries c) :
    (survey (latest entries)).depth c.id = .loops ↔ NeverEnds entries c := by
  constructor
  -- Each parent on the way has the same depth, so there is always one more step.
  · intro found steps
    induction steps generalizing c with
    | zero => exact ⟨c, .here c⟩
    | succ steps inductionHypothesis =>
      obtain ⟨parent, kept, named, parentFound⟩ :=
        (depth_eq_loops_iff (nodup_latest entries) (mem_latest_iff.mpr survives)).mp found
      obtain ⟨top, climb⟩ := inductionHypothesis (mem_latest_iff.mp kept) parentFound
      exact ⟨top, .up (mem_latest_iff.mp kept) named climb⟩
  · intro endless
    cases found : (survey (latest entries)).depth c.id with
    | loops => rfl
    | ends steps =>
      exact absurd ((depth_eq_ends_iff survives).mp found) (endless.not_endsAfter steps)

/-- A chain either ends after one number of steps, or it never ends. -/
theorem chain_cases {c : Category} (survives : Survives entries c) :
    ((∃ steps, EndsAfter entries c steps ∧
        ∀ other, EndsAfter entries c other → other = steps) ∧ ¬ NeverEnds entries c) ∨
      (NeverEnds entries c ∧ ∀ steps, ¬ EndsAfter entries c steps) := by
  cases found : (survey (latest entries)).depth c.id with
  | ends steps =>
    have ends := (depth_eq_ends_iff survives).mp found
    apply Or.inl
    refine ⟨⟨steps, ends, fun other otherEnds => otherEnds.unique ends⟩, ?_⟩
    intro endless
    exact endless.not_endsAfter steps ends
  | loops =>
    have endless := (depth_eq_loops_iff_neverEnds survives).mp found
    exact .inr ⟨endless, endless.not_endsAfter⟩

end Fitout.Category
