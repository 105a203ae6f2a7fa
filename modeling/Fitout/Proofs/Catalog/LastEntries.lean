import Fitout.Proofs.Catalog.Views
import Fitout.Proofs.Category.Build

/-!
# Repeated ids

An id that is listed more than once stands for its last entry. If the other entries are dropped
beforehand, nothing changes but that they are not reported: the tree is the same, and so is what an
id is looked up as.
-/

namespace Fitout.Category

variable {entries : List Category}

theorem Precedes.survives_left {c d : Category} (order : Precedes entries c d) :
    Survives entries c := by
  obtain ⟨before, after, split, last, _⟩ := order
  exact ⟨before, after, split, last⟩

theorem Precedes.survives_right {c d : Category} (order : Precedes entries c d) :
    Survives entries d := by
  obtain ⟨before, after, rfl, _, between, behind, rfl, last⟩ := order
  exact ⟨before ++ c :: between, behind, by simp, last⟩

theorem precedes_cons_iff {first c d : Category} {rest : List Category} :
    Precedes (first :: rest) c d ↔
      (c = first ∧ (∀ later ∈ rest, later.id ≠ c.id) ∧ Survives rest d) ∨
        Precedes rest c d := by
  constructor
  · rintro ⟨before, after, split, last, survives⟩
    cases before with
    | nil =>
      obtain ⟨rfl, rfl⟩ := List.cons.inj split
      exact .inl ⟨rfl, last, survives⟩
    | cons head before =>
      obtain ⟨_, rfl⟩ := List.cons.inj split
      exact .inr ⟨before, after, rfl, last, survives⟩
  · rintro (⟨rfl, last, survives⟩ | order)
    · exact ⟨[], rest, rfl, last, survives⟩
    · exact order.cons first

theorem Precedes.asymm {c d : Category} (order : Precedes entries c d) :
    ¬ Precedes entries d c := by
  intro back
  induction entries with
  | nil => cases order.survives_left.mem
  | cons first rest inductionHypothesis =>
    rcases precedes_cons_iff.mp order with ⟨rfl, last, _⟩ | orderLater
    · rcases precedes_cons_iff.mp back with ⟨rfl, _, again⟩ | backLater
      · exact last _ again.mem rfl
      · exact last _ backLater.survives_right.mem rfl
    · rcases precedes_cons_iff.mp back with ⟨rfl, last, _⟩ | backLater
      · exact last _ orderLater.survives_right.mem rfl
      · exact inductionHypothesis orderLater backLater

theorem nodup_of_pairwise_precedes {kept : List Category}
    (order : kept.Pairwise (Precedes entries)) : kept.Nodup := by
  apply order.imp
  rintro c _ first rfl
  exact first.asymm first

/-- The surviving entries in their own order make up one list only. -/
theorem eq_latest_iff {kept : List Category} :
    kept = latest entries ↔
      (∀ c, c ∈ kept ↔ Survives entries c) ∧ kept.Pairwise (Precedes entries) := by
  constructor
  · rintro rfl
    exact ⟨fun c => mem_latest_iff, pairwise_precedes_latest entries⟩
  · rintro ⟨members, order⟩
    have latestOrder := pairwise_precedes_latest entries
    have same : kept.Perm (latest entries) := by
      apply (List.perm_ext_iff_of_nodup (nodup_of_pairwise_precedes order)
        (nodup_of_pairwise_precedes latestOrder)).mpr
      intro c
      exact (members c).trans mem_latest_iff.symm
    apply same.eq_of_pairwise _ order latestOrder
    intro c d _ _ first second
    exact absurd second first.asymm

/-- The entries whose id occurred before, in input order. -/
def repetitions (entries : List Category) : List Category :=
  (entries.zipIdx.filter fun (c, place) => (entries.take place).any (·.id == c.id)).map Prod.fst

theorem repeatedIds_eq {before rest : List Category} {seen : List Int}
    (known : ∀ id, id ∈ seen ↔ ∃ c ∈ before, c.id = id) :
    repeatedIds seen rest = ((rest.zipIdx before.length).filter fun (c, place) =>
      ((before ++ rest).take place).any (·.id == c.id)).map fun (c, _) => c.id := by
  induction rest generalizing before seen with
  | nil => rfl
  | cons c rest inductionHypothesis =>
    have onward : before ++ c :: rest = (before ++ [c]) ++ rest := by simp
    have place : before.length + 1 = (before ++ [c]).length := by simp
    have seenBefore : ((before ++ c :: rest).take before.length).any (·.id == c.id) =
        seen.contains c.id := by
      rw [List.take_left, Bool.eq_iff_iff, List.contains_iff_mem, known]
      simp
    rw [List.zipIdx_cons, List.filter_cons, repeatedIds]
    simp only [seenBefore]
    have among (id : Int) : (∃ d ∈ before ++ [c], d.id = id) ↔ id ∈ seen ∨ id = c.id := by
      rw [known]
      simp [or_and_right, exists_or, eq_comm]
    split
    · next again =>
      rw [List.map_cons, onward, place]
      congr 1
      apply inductionHypothesis
      intro id
      rw [among]
      constructor
      · exact .inl
      · rintro (earlier | rfl)
        · exact earlier
        · exact List.contains_iff_mem.mp again
    · next fresh =>
      rw [onward, place]
      apply inductionHypothesis
      intro id
      rw [among, List.mem_cons, or_comm]

theorem repeatedIds_nil_eq (entries : List Category) :
    repeatedIds [] entries = (repetitions entries).map Category.id := by
  have none (id : Int) : id ∈ ([] : List Int) ↔ ∃ c ∈ ([] : List Category), c.id = id := by simp
  rw [repetitions, List.map_map]
  exact repeatedIds_eq none

theorem repeatedIds_latest (entries : List Category) : repeatedIds [] (latest entries) = [] := by
  apply List.eq_nil_iff_forall_not_mem.mpr
  intro id again
  have once := List.nodup_iff_count_le_one.mp (nodup_latest entries) id
  have positive := List.count_pos_iff.mpr again
  rw [Tree.count_repeatedIds, if_neg List.not_mem_nil, Tree.occurrences] at positive
  omega

namespace Tree

theorem rooms_build_latest (entries : List Category) :
    (build (latest entries)).rooms = (build entries).rooms := by
  simp only [rooms_build, layer, latest_latest]

theorem issues_build_eq (entries : List Category) :
    (build entries).issues =
      (repetitions entries).map (fun c => .duplicate c.id) ++ (build (latest entries)).issues := by
  simp only [build_eq, issuesOf, latest_latest, repeatedIds_latest, List.map_nil, List.nil_append]
  rw [repeatedIds_nil_eq, List.map_map]
  rfl

end Tree

end Fitout.Category

namespace Fitout.Catalog.Snapshot

open Category

/-- Each id stands for its last entry: in the list without repetitions, in the tree, which is that
of this list but for the reports, and where an id is looked up. -/
theorem repeated_id_stands_for_last_entry (ticket : Int) (data : Data) :
    let entries := data.categories
    let snapshot := build ticket data
    (∀ kept, kept = latest entries ↔
      (∀ c, c ∈ kept ↔ Survives entries c) ∧ kept.Pairwise (Precedes entries)) ∧
    latest (latest entries) = latest entries ∧
    (Tree.build entries).rooms = (Tree.build (latest entries)).rooms ∧
    (Tree.build entries).issues = (repetitions entries).map (fun c => .duplicate c.id) ++
      (Tree.build (latest entries)).issues ∧
    (∀ id, (∃ c, snapshot.category? id = some c) ↔ ∃ entry ∈ entries, entry.id = id) ∧
    ∀ id c, snapshot.category? id = some c ↔ Survives entries c ∧ c.id = id := by
  intro entries snapshot
  refine ⟨fun kept => eq_latest_iff, latest_latest entries,
    (Tree.rooms_build_latest entries).symm, Tree.issues_build_eq entries, ?_, ?_⟩
  · intro id
    constructor
    · rintro ⟨c, found⟩
      obtain ⟨survives, same⟩ := category?_build_eq_some_iff.mp found
      exact ⟨c, survives.mem, same⟩
    · rintro ⟨entry, listed, rfl⟩
      obtain ⟨c, survives, same⟩ := exists_survives_of_mem listed
      exact ⟨c, category?_build_eq_some_iff.mpr ⟨survives, same⟩⟩
  · intro id c
    exact category?_build_eq_some_iff

end Fitout.Catalog.Snapshot
