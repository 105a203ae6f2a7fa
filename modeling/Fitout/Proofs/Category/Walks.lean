import Fitout.Proofs.Category.Chain

/-!
# The rounds of a survey

A climb goes on as long as it meets categories that it has not met before, and nothing but the list
of all categories tells it where to go on. It comes to an end all the same, and every round but one
settles a category, so that a survey takes at most two rounds for each of them.
-/

namespace Fitout.Category.Survey

/-- One climb after the other from the categories of a list. Those surveyed before are passed
over; the rounds of the climbs are counted. -/
inductive Walks (categories : List Category) :
    Survey → List Category → Nat → Survey → Prop where
  | done (s : Survey) : Walks categories s [] 0 s
  | passed {s result : Survey} {c : Category} {rest : List Category} {rounds : Nat} {d : Depth}
      (known : s.depths.lookup c.id = some d) (others : Walks categories s rest rounds result) :
      Walks categories s (c :: rest) rounds result
  | walked {s next result : Survey} {c : Category} {rest : List Category} {rounds more : Nat}
      (unknown : s.depths.lookup c.id = none) (walk : Walk categories s [] c.id rounds next)
      (others : Walks categories next rest more result) :
      Walks categories s (c :: rest) (rounds + more) result

variable {categories : List Category} {s : Survey}

theorem find?_eq_some_of_mem (nodup : (categories.map Category.id).Nodup) {rest : List Category}
    (within : ∀ c ∈ rest, c ∈ categories) {c : Category} (member : c ∈ rest) :
    find? rest c.id = some c := by
  cases found : find? rest c.id with
  | none =>
    have notFound := List.find?_eq_none.mp found c member
    simp at notFound
  | some d =>
    obtain ⟨memberToo, same⟩ := of_find?_eq_some found
    rw [eq_of_id_eq nodup (within d memberToo) (within c member) same]

/-- The rounds come to nothing else than what the climb over the categories that are left does. -/
theorem Walk.climb_eq (nodup : (categories.map Category.id).Nodup) {path : List Int}
    {current : Int} {rounds : Nat} {result : Survey}
    (walk : Walk categories s path current rounds result) {rest : List Category}
    (within : ∀ c ∈ rest, c ∈ categories)
    (unvisited : ∀ c ∈ categories, c.id ∉ path → c ∈ rest) :
    s.climb categories path current rest = result := by
  induction walk generalizing rest with
  | surveyed known =>
    rw [climb]
    simp only [known]
  | @loop near far current unknown new =>
    obtain ⟨taken, dropped⟩ := split_at new far
    rw [climb]
    simp [unknown, taken, dropped]
  | @top path c unknown new listed ends =>
    have found := find?_eq_some_of_mem nodup within (unvisited c listed new)
    rw [climb]
    simp only [unknown, List.contains_iff_mem, if_neg new]
    split
    · next missing =>
      rw [found] at missing
      cases missing
    · next d foundToo =>
      obtain rfl := Option.some.inj (found.symm.trans foundToo)
      simp only [ends]
  | @up path c parent rounds result unknown new listed below _ inductionHypothesis =>
    have found := find?_eq_some_of_mem nodup within (unvisited c listed new)
    rw [climb]
    simp only [unknown, List.contains_iff_mem, if_neg new]
    split
    · next missing =>
      rw [found] at missing
      cases missing
    · next d foundToo =>
      obtain rfl := Option.some.inj (found.symm.trans foundToo)
      simp only [below]
      apply inductionHypothesis
      · intro d member
        exact within d (mem_without_iff.mp member).1
      · exact unvisited_cons unvisited c.id

theorem climb_of_surveyed {c : Category} {d : Depth} (known : s.depths.lookup c.id = some d) :
    s.climb categories [] c.id categories = s := by
  rw [climb]
  split
  · rfl
  · next unknown =>
    rw [known] at unknown
    cases unknown

theorem exists_walks_foldl {starts : List Category} (listed : ∀ c ∈ starts, c ∈ categories) :
    ∃ rounds, Walks categories s starts rounds
      (starts.foldl (fun s c => s.climb categories [] c.id categories) s) := by
  induction starts generalizing s with
  | nil => exact ⟨0, .done s⟩
  | cons c starts inductionHypothesis =>
    obtain ⟨here, others⟩ := List.forall_mem_cons.mp listed
    rw [List.foldl_cons]
    cases surveyed : s.depths.lookup c.id with
    | some d =>
      rw [climb_of_surveyed surveyed]
      obtain ⟨rounds, walks⟩ := inductionHypothesis others
      exact ⟨rounds, .passed surveyed walks⟩
    | none =>
      have walked : ∃ rounds, Walk categories s [] c.id rounds _ :=
        exists_walk_climb ⟨c, here, rfl⟩ (fun _ member => member) (fun _ member _ => member)
      obtain ⟨rounds, walk⟩ := walked
      obtain ⟨more, walks⟩ := inductionHypothesis others
      exact ⟨rounds + more, .walked surveyed walk walks⟩

theorem Walks.foldl_eq (nodup : (categories.map Category.id).Nodup) {starts : List Category}
    {rounds : Nat} {result : Survey} (walks : Walks categories s starts rounds result) :
    starts.foldl (fun s c => s.climb categories [] c.id categories) s = result := by
  induction walks with
  | done => rfl
  | passed known _ inductionHypothesis =>
    rw [List.foldl_cons, climb_of_surveyed known]
    exact inductionHypothesis
  | walked _ walk _ inductionHypothesis =>
    rw [List.foldl_cons, walk.climb_eq nodup (fun _ member => member) (fun _ member _ => member)]
    exact inductionHypothesis

/-- The ids whose depth was found, the last one first. -/
def ids (s : Survey) : List Int :=
  s.depths.map Prod.fst

theorem mem_ids_iff {id : Int} : id ∈ s.ids ↔ ∃ d, s.depths.lookup id = some d := by
  rw [ids, List.mem_map, ← Option.isSome_iff_exists, List.lookup_isSome_iff]
  constructor
  · rintro ⟨entry, member, rfl⟩
    exact ⟨entry, member, beq_self_eq_true _⟩
  · rintro ⟨entry, member, same⟩
    exact ⟨entry, member, (beq_iff_eq.mp same).symm⟩

theorem not_mem_ids {id : Int} (unknown : s.depths.lookup id = none) : id ∉ s.ids := by
  intro member
  obtain ⟨d, known⟩ := mem_ids_iff.mp member
  rw [unknown] at known
  cases known

theorem ids_cons (id : Int) (d : Depth) :
    ids ⟨(id, d) :: s.depths, s.onLoop⟩ = id :: s.ids := rfl

theorem ids_descend (base : Depth) (path : List Int) :
    (s.descend base path).ids = path.reverse ++ s.ids := by
  induction path generalizing s base with
  | nil => rfl
  | cons id path inductionHypothesis =>
    rw [descend, inductionHypothesis, ids_cons]
    simp

theorem ids_close (loop : List Int) : (s.close loop).ids = loop ++ s.ids := by
  simp [ids, close, Function.comp_def]

namespace Walk

variable {path : List Int} {current : Int} {rounds : Nat} {result : Survey}

theorem rounds_pos (walk : Walk categories s path current rounds result) : 0 < rounds := by
  cases walk <;> exact Nat.succ_pos _

/-- In the end, what was on the path is settled, and so is what each further round but the last one
has put there. -/
theorem length_le (walk : Walk categories s path current rounds result) :
    s.ids.length + path.length + rounds ≤ result.ids.length + 1 := by
  induction walk with
  | surveyed =>
    rw [ids_descend, List.length_append, List.length_reverse]
    omega
  | loop =>
    simp only [ids_descend, ids_close, List.length_append, List.length_reverse, List.length_cons,
      List.length_nil]
    omega
  | top =>
    rw [ids_descend, ids_cons, List.length_append, List.length_reverse, List.length_cons]
    omega
  | up _ _ _ _ _ inductionHypothesis =>
    rw [List.length_cons] at inductionHypothesis
    omega

theorem length_lt (walk : Walk categories s [] current rounds result)
    (unknown : s.depths.lookup current = none) : s.ids.length < result.ids.length := by
  generalize start : [] = path at walk
  cases walk with
  | surveyed known =>
    rw [unknown] at known
    cases known
  | loop => simp at start
  | top =>
    subst start
    exact Nat.lt_succ_self _
  | up _ _ _ _ further =>
    subst start
    have settled := further.length_le
    have positive := further.rounds_pos
    rw [List.length_singleton] at settled
    omega

end Walk

/-- A survey takes at most two rounds for each category that it settles. -/
theorem Walks.rounds_le {starts : List Category} {rounds : Nat} {result : Survey}
    (walks : Walks categories s starts rounds result) :
    2 * s.ids.length + rounds ≤ 2 * result.ids.length := by
  induction walks with
  | done => exact Nat.le_refl _
  | passed _ _ inductionHypothesis => exact inductionHypothesis
  | walked unknown walk _ inductionHypothesis =>
    have settled := walk.length_le
    have more := walk.length_lt unknown
    rw [List.length_nil] at settled
    omega

end Fitout.Category.Survey
