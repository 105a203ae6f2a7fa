import Mathlib.Data.List.Induction

/-!
# Lines and the edits they came from

Lines of one kind are edited one after the other: a line is offered, which counts only if its id has
none, a line is dropped, a value of it is set, or all lines are cleared. The lines that result are
told by the edits alone: an id has a line iff it was offered after it was last dropped, the first
such offer made the line and gave it its place, and the values set since are in it.
-/

namespace Fitout.Cart

/-- A kind of lines: what setting a value does to a line, and what it is after several were set. -/
structure LineKind (Line Value : Type) where
  id : Line → Int
  set : Value → Line → Line
  revised : Line → List Value → Line
  id_set : ∀ value line, id (set value line) = id line
  revised_nil : ∀ line, revised line [] = line
  revised_concat : ∀ line values value,
    revised line (values ++ [value]) = set value (revised line values)

inductive Edit (Line Value : Type) where
  | offer (line : Line)
  | drop (id : Int)
  | set (id : Int) (value : Value)
  | clear

variable {Line Value : Type}

namespace Edit

/-- Whether a line of this id does not outlast the edit. -/
def drops (id : Int) : Edit Line Value → Bool
  | drop other => other == id
  | clear => true
  | offer _ | set _ _ => false

/-- The value that the edit sets in a line of this id. -/
def value? (id : Int) : Edit Line Value → Option Value
  | set other value => if other = id then some value else none
  | offer _ | drop _ | clear => none

end Edit

theorem concat_eq_append_cons_iff {α : Type} {xs before since : List α} {x y : α} :
    xs ++ [x] = before ++ y :: since ↔
      (∃ earlier, since = earlier ++ [x] ∧ xs = before ++ y :: earlier) ∨
        since = [] ∧ y = x ∧ before = xs := by
  induction since using List.reverseRecOn with
  | nil =>
    rw [List.append_singleton_inj]
    constructor
    · rintro ⟨rfl, rfl⟩
      exact .inr ⟨rfl, rfl, rfl⟩
    · rintro (⟨earlier, none, -⟩ | ⟨-, rfl, rfl⟩)
      · simp at none
      · exact ⟨rfl, rfl⟩
  | append_singleton earlier last _ =>
    rw [← List.cons_append, ← List.append_assoc, List.append_singleton_inj]
    constructor
    · rintro ⟨split, rfl⟩
      exact .inl ⟨earlier, rfl, split⟩
    · rintro (⟨others, same, split⟩ | ⟨none, -⟩)
      · obtain ⟨rfl, rfl⟩ := List.append_singleton_inj.mp same
        exact ⟨split, rfl⟩
      · simp at none

namespace LineKind

variable (kind : LineKind Line Value)

def apply (lines : List Line) : Edit Line Value → List Line
  | .offer line => if lines.any (kind.id · == kind.id line) then lines else lines ++ [line]
  | .drop id => lines.filter (kind.id · != id)
  | .set id value => lines.map fun line => if kind.id line == id then kind.set value line else line
  | .clear => []

/-- Whether the id was offered after it was last dropped. -/
def Lives (edits : List (Edit Line Value)) (id : Int) : Prop :=
  ∃ before line since, edits = before ++ .offer line :: since ∧ kind.id line = id ∧
    ∀ edit ∈ since, edit.drops id = false

/-- The edit that created a line which is still there: the edits before it, the line as created, and
the edits since. -/
structure Origin (edits before : List (Edit Line Value)) (created : Line)
    (since : List (Edit Line Value)) : Prop where
  split : edits = before ++ .offer created :: since
  fresh : ¬ kind.Lives before (kind.id created)
  kept : ∀ edit ∈ since, edit.drops (kind.id created) = false

/-- Whether the line of an id was created by the edit of this number. -/
def BornAt (edits : List (Edit Line Value)) (id : Int) (number : Nat) : Prop :=
  ∃ before created since, kind.Origin edits before created since ∧ kind.id created = id ∧
    before.length = number

/-- Whether these are the lines that the edits, and nothing else, make of none. -/
structure Follows (edits : List (Edit Line Value)) (lines : List Line) : Prop where
  mem_iff : ∀ id, id ∈ lines.map kind.id ↔ kind.Lives edits id
  nodup : (lines.map kind.id).Nodup
  origin : ∀ line ∈ lines, ∃ before created since, kind.Origin edits before created since ∧
    line = kind.revised created (since.filterMap (·.value? (kind.id created)))
  sorted : lines.Pairwise fun first second => ∀ m n, kind.BornAt edits (kind.id first) m →
    kind.BornAt edits (kind.id second) n → m < n

section Update

variable (lines : List Line)

theorem map_update_eq_self {id : Int} (missing : lines.any (kind.id · == id) = false)
    (update : Line → Line) :
    (lines.map fun line => if kind.id line == id then update line else line) = lines := by
  refine (List.map_congr_left fun line listed => ?_).trans (List.map_id lines)
  exact if_neg (List.any_eq_false.mp missing line listed)

theorem any_apply_set (id other : Int) (value : Value) :
    (kind.apply lines (.set id value)).any (kind.id · == other) =
      lines.any (kind.id · == other) := by
  rw [apply, List.any_map]
  refine congrArg lines.any (funext fun line => ?_)
  rw [Function.comp_apply]
  split
  · rw [kind.id_set]
  · rfl

theorem any_apply_of_spared {edit : Edit Line Value} {id : Int}
    (there : lines.any (kind.id · == id) = true) (spared : edit.drops id = false) :
    (kind.apply lines edit).any (kind.id · == id) = true := by
  cases edit with
  | offer line =>
    simp only [apply]
    split
    · exact there
    · rw [List.any_append, there, Bool.true_or]
  | drop other =>
    obtain ⟨line, listed, same⟩ := List.any_eq_true.mp there
    have kept : (kind.id line != other) = true := by
      rw [beq_iff_eq.mp same, bne_iff_ne]
      exact fun equal => beq_eq_false_iff_ne.mp spared equal.symm
    exact List.any_eq_true.mpr ⟨line, List.mem_filter.mpr ⟨listed, kept⟩, same⟩
  | set other value => exact (kind.any_apply_set lines other id value).trans there
  | clear => cases spared

end Update

section Concat

variable {kind} {edits : List (Edit Line Value)} {edit : Edit Line Value} {id : Int}

theorem lives_concat_iff : kind.Lives (edits ++ [edit]) id ↔
    (kind.Lives edits id ∧ edit.drops id = false) ∨
      ∃ line, edit = .offer line ∧ kind.id line = id := by
  constructor
  · rintro ⟨before, line, since, split, same, kept⟩
    obtain ⟨earlier, rfl, known⟩ | ⟨rfl, rfl, rfl⟩ := concat_eq_append_cons_iff.mp split
    · simp only [List.forall_mem_append, List.forall_mem_singleton] at kept
      exact .inl ⟨⟨before, line, earlier, known, same, kept.1⟩, kept.2⟩
    · exact .inr ⟨line, rfl, same⟩
  · rintro (⟨⟨before, line, earlier, rfl, same, kept⟩, spared⟩ | ⟨line, rfl, same⟩)
    · refine ⟨before, line, earlier ++ [edit], by simp, same, ?_⟩
      simp only [List.forall_mem_append, List.forall_mem_singleton]
      exact ⟨kept, spared⟩
    · exact ⟨edits, line, [], rfl, same, by simp⟩

theorem origin_concat_iff {before since : List (Edit Line Value)} {created : Line} :
    kind.Origin (edits ++ [edit]) before created since ↔
      (∃ earlier, since = earlier ++ [edit] ∧ kind.Origin edits before created earlier ∧
        edit.drops (kind.id created) = false) ∨
      since = [] ∧ edit = .offer created ∧ before = edits ∧
        ¬ kind.Lives edits (kind.id created) := by
  constructor
  · rintro ⟨split, fresh, kept⟩
    obtain ⟨earlier, rfl, known⟩ | ⟨rfl, rfl, rfl⟩ := concat_eq_append_cons_iff.mp split
    · simp only [List.forall_mem_append, List.forall_mem_singleton] at kept
      exact .inl ⟨earlier, rfl, ⟨known, fresh, kept.1⟩, kept.2⟩
    · exact .inr ⟨rfl, rfl, rfl, fresh⟩
  · rintro (⟨earlier, rfl, ⟨rfl, fresh, kept⟩, spared⟩ | ⟨rfl, rfl, rfl, fresh⟩)
    · refine ⟨by simp, fresh, ?_⟩
      simp only [List.forall_mem_append, List.forall_mem_singleton]
      exact ⟨kept, spared⟩
    · exact ⟨rfl, fresh, by simp⟩

theorem bornAt_concat_iff {number : Nat} : kind.BornAt (edits ++ [edit]) id number ↔
    (kind.BornAt edits id number ∧ edit.drops id = false) ∨
      (∃ line, edit = .offer line ∧ kind.id line = id) ∧ ¬ kind.Lives edits id ∧
        number = edits.length := by
  constructor
  · rintro ⟨before, created, since, origin, rfl, rfl⟩
    obtain ⟨earlier, rfl, origin, spared⟩ | ⟨rfl, rfl, rfl, fresh⟩ := origin_concat_iff.mp origin
    · exact .inl ⟨⟨before, created, earlier, origin, rfl, rfl⟩, spared⟩
    · exact .inr ⟨⟨created, rfl, rfl⟩, fresh, rfl⟩
  · rintro (⟨⟨before, created, since, origin, rfl, rfl⟩, spared⟩ | ⟨⟨line, rfl, rfl⟩, fresh, rfl⟩)
    · exact ⟨before, created, since ++ [edit],
        origin_concat_iff.mpr (.inl ⟨since, rfl, origin, spared⟩), rfl, rfl⟩
    · exact ⟨edits, line, [], origin_concat_iff.mpr (.inr ⟨rfl, rfl, rfl, fresh⟩), rfl, rfl⟩

theorem BornAt.lt_length {number : Nat} (born : kind.BornAt edits id number) :
    number < edits.length := by
  obtain ⟨before, created, since, origin, -, rfl⟩ := born
  simp [origin.split]

end Concat

section Apply

/-- What an edit makes of a line that outlasts it. -/
def revise (edit : Edit Line Value) (line : Line) : Line :=
  (edit.value? (kind.id line)).elim line (kind.set · line)

/-- The lines that outlast an edit. -/
def carried (lines : List Line) (edit : Edit Line Value) : List Line :=
  (lines.filter fun line => !edit.drops (kind.id line)).map (kind.revise edit)

variable {kind} {lines : List Line} {edits : List (Edit Line Value)} {edit : Edit Line Value}

@[simp] theorem id_revised (line : Line) (values : List Value) :
    kind.id (kind.revised line values) = kind.id line := by
  induction values using List.reverseRecOn with
  | nil => rw [kind.revised_nil]
  | append_singleton values value inductionHypothesis =>
    rw [kind.revised_concat, kind.id_set, inductionHypothesis]

@[simp] theorem id_revise (line : Line) : kind.id (kind.revise edit line) = kind.id line := by
  unfold revise
  cases edit.value? (kind.id line) with
  | none => rfl
  | some value => exact kind.id_set value line

theorem map_revise_of_value?_eq_none (lines : List Line)
    (none : ∀ id, edit.value? id = none) : lines.map (kind.revise edit) = lines := by
  refine (List.map_congr_left fun line _ => ?_).trans (List.map_id lines)
  simp [revise, none]

theorem carried_of_spared (lines : List Line) (spared : ∀ id, edit.drops id = false) :
    kind.carried lines edit = lines.map (kind.revise edit) := by
  rw [carried, List.filter_eq_self.mpr fun line _ => by rw [spared]; rfl]

/-- Except for an offer that counts, an edit makes no line. -/
theorem apply_eq_carried
    (settled : ∀ line, edit = .offer line → kind.id line ∈ lines.map kind.id) :
    kind.apply lines edit = kind.carried lines edit := by
  cases edit with
  | offer line =>
    have there : lines.any (kind.id · == kind.id line) = true := by
      simpa using settled line rfl
    rw [carried_of_spared lines fun _ => rfl, map_revise_of_value?_eq_none lines fun _ => rfl,
      apply, if_pos there]
  | drop id =>
    rw [carried, map_revise_of_value?_eq_none _ fun _ => rfl, apply]
    refine List.filter_congr fun line _ => ?_
    rw [Edit.drops, bne, BEq.comm]
  | set id value =>
    rw [carried_of_spared lines fun _ => rfl, apply]
    refine List.map_congr_left fun line _ => ?_
    by_cases same : kind.id line = id
    · simp [revise, Edit.value?, same]
    · simp [revise, Edit.value?, same, Ne.symm same]
  | clear => simp [apply, carried, Edit.drops]

theorem apply_offer_of_not_mem {line : Line} (missing : kind.id line ∉ lines.map kind.id) :
    kind.apply lines (.offer line) = lines ++ [line] := by
  have none : lines.any (kind.id · == kind.id line) = false := by
    simpa using missing
  simp [apply, none]

theorem map_id_carried :
    (kind.carried lines edit).map kind.id =
      (lines.map kind.id).filter fun id => !edit.drops id := by
  simp [carried, List.filter_map, Function.comp_def]

theorem Follows.carry (follows : kind.Follows edits lines)
    (settled : ∀ line, edit = .offer line → kind.Lives edits (kind.id line)) :
    kind.Follows (edits ++ [edit]) (kind.carried lines edit) := by
  constructor
  · intro id
    rw [map_id_carried, List.mem_filter, follows.mem_iff, lives_concat_iff]
    constructor
    · rintro ⟨lives, spared⟩
      exact .inl ⟨lives, by simpa using spared⟩
    · rintro (⟨lives, spared⟩ | ⟨line, rfl, rfl⟩)
      · exact ⟨lives, by simp [spared]⟩
      · exact ⟨settled line rfl, rfl⟩
  · rw [map_id_carried]
    exact follows.nodup.filter _
  · intro revised member
    obtain ⟨line, kept, rfl⟩ := List.mem_map.mp member
    obtain ⟨listed, spared⟩ := List.mem_filter.mp kept
    obtain ⟨before, created, since, origin, line_eq⟩ := follows.origin line listed
    have same : kind.id line = kind.id created := by rw [line_eq, id_revised]
    have spared : edit.drops (kind.id created) = false := by simpa [same] using spared
    refine ⟨before, created, since ++ [edit],
      origin_concat_iff.mpr (.inl ⟨since, rfl, origin, spared⟩), ?_⟩
    rw [revise, same, List.filterMap_append, line_eq]
    cases value : edit.value? (kind.id created) with
    | none => simp [value]
    | some value => simp [value, kind.revised_concat]
  · refine List.pairwise_map.mpr ((follows.sorted.filter _).imp ?_)
    intro first second earlier m n firstBorn secondBorn
    rw [id_revise] at firstBorn secondBorn
    have older {id : Int} {number : Nat} (born : kind.BornAt (edits ++ [edit]) id number) :
        kind.BornAt edits id number := by
      obtain ⟨born, -⟩ | ⟨⟨other, rfl, rfl⟩, fresh, -⟩ := bornAt_concat_iff.mp born
      · exact born
      · exact absurd (settled other rfl) fresh
    exact earlier m n (older firstBorn) (older secondBorn)

theorem Follows.create (follows : kind.Follows edits lines) {line : Line}
    (fresh : ¬ kind.Lives edits (kind.id line)) :
    kind.Follows (edits ++ [.offer line]) (lines ++ [line]) := by
  have missing : kind.id line ∉ lines.map kind.id := mt (follows.mem_iff _).mp fresh
  constructor
  · intro id
    rw [List.map_append, List.mem_append, follows.mem_iff, lives_concat_iff]
    simp [Edit.drops, eq_comm]
  · rw [List.map_append, List.nodup_append]
    refine ⟨follows.nodup, by simp, ?_⟩
    simpa using missing
  · intro other member
    obtain listed | last := List.mem_append.mp member
    · obtain ⟨before, created, since, origin, rfl⟩ := follows.origin other listed
      refine ⟨before, created, since ++ [.offer line],
        origin_concat_iff.mpr (.inl ⟨since, rfl, origin, rfl⟩), ?_⟩
      simp [List.filterMap_append, Edit.value?]
    · obtain rfl := List.mem_singleton.mp last
      refine ⟨edits, other, [], origin_concat_iff.mpr (.inr ⟨rfl, rfl, rfl, fresh⟩), ?_⟩
      simp [kind.revised_nil]
  · have old {other : Line} (listed : other ∈ lines) {number : Nat}
        (born : kind.BornAt (edits ++ [.offer line]) (kind.id other) number) :
        kind.BornAt edits (kind.id other) number := by
      obtain ⟨born, -⟩ | ⟨-, unknown, -⟩ := bornAt_concat_iff.mp born
      · exact born
      · exact absurd ((follows.mem_iff _).mp (List.mem_map_of_mem listed)) unknown
    refine List.pairwise_append.mpr ⟨?_, by simp, ?_⟩
    · refine follows.sorted.imp_of_mem ?_
      intro first second firstListed secondListed earlier m n firstBorn secondBorn
      exact earlier m n (old firstListed firstBorn) (old secondListed secondBorn)
    · intro first listed second last m n firstBorn secondBorn
      obtain rfl := List.mem_singleton.mp last
      obtain ⟨born, -⟩ | ⟨-, -, rfl⟩ := bornAt_concat_iff.mp secondBorn
      · obtain ⟨before, created, since, origin, same, -⟩ := born
        exact absurd ⟨before, created, since, origin.split, same, same ▸ origin.kept⟩ fresh
      · exact (old listed firstBorn).lt_length

theorem Follows.apply (follows : kind.Follows edits lines) (edit : Edit Line Value) :
    kind.Follows (edits ++ [edit]) (kind.apply lines edit) := by
  by_cases settled : ∀ line, edit = .offer line → kind.id line ∈ lines.map kind.id
  · rw [apply_eq_carried settled]
    exact follows.carry fun line offered => (follows.mem_iff _).mp (settled line offered)
  · push Not at settled
    obtain ⟨line, rfl, missing⟩ := settled
    rw [apply_offer_of_not_mem missing]
    exact follows.create (mt (follows.mem_iff _).mpr missing)

end Apply

theorem follows_nil : kind.Follows [] [] where
  mem_iff id := by simp [Lives]
  nodup := List.nodup_nil
  origin _ none := absurd none List.not_mem_nil
  sorted := List.Pairwise.nil

/-- Lines are what the edits make of them. -/
theorem follows_foldl (edits : List (Edit Line Value)) :
    kind.Follows edits (edits.foldl kind.apply []) := by
  induction edits using List.reverseRecOn with
  | nil => exact kind.follows_nil
  | append_singleton edits edit inductionHypothesis =>
    rw [List.foldl_append]
    exact inductionHypothesis.apply edit

end LineKind

end Fitout.Cart
