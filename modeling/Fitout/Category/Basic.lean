import Fitout.Json.Basic

/-!
Categories of the catalog: a flat list in which each names its parent. An id that occurs again
replaces the earlier entry.
-/

namespace Fitout

structure Category where
  id : Int
  name : String
  parentId : Option Int
  description : Option String
  deriving DecidableEq

namespace Category

/-- A category without a parent is declared a room. -/
def isRoom (c : Category) : Bool :=
  c.parentId.isNone

/-- The categories that name a parent, in input order; no parent has no children. -/
def childrenOf (categories : List Category) : Option Int → List Category
  | none => []
  | some id => categories.filter (·.parentId == some id)

/-- Keep the last entry of each id, at its own place. -/
def latest : List Category → List Category
  | [] => []
  | c :: rest => if rest.any (·.id == c.id) then latest rest else c :: latest rest

/-- The ids of the entries whose id occurred before, given the ids that already did. -/
def repeatedIds (seen : List Int) : List Category → List Int
  | [] => []
  | c :: rest =>
    if seen.contains c.id then c.id :: repeatedIds seen rest
    else repeatedIds (c.id :: seen) rest

def find? (categories : List Category) (id : Int) : Option Category :=
  categories.find? (·.id == id)

theorem mem_latest_of_mem {categories : List Category} {c : Category}
    (kept : c ∈ latest categories) : c ∈ categories := by
  induction categories with
  | nil => exact kept
  | cons first rest inductionHypothesis =>
    unfold latest at kept
    split at kept
    · exact List.mem_cons_of_mem _ (inductionHypothesis kept)
    · rcases List.mem_cons.mp kept with rfl | later
      · exact List.mem_cons_self
      · exact List.mem_cons_of_mem _ (inductionHypothesis later)

theorem exists_latest_of_mem {categories : List Category} {c : Category}
    (listed : c ∈ categories) : ∃ d ∈ latest categories, d.id = c.id := by
  induction categories generalizing c with
  | nil => cases listed
  | cons first rest inductionHypothesis =>
    unfold latest
    rcases List.mem_cons.mp listed with rfl | later
    · split
      · rename_i again
        obtain ⟨d, d_mem, same⟩ := List.any_eq_true.mp again
        obtain ⟨e, e_mem, e_id⟩ := inductionHypothesis d_mem
        exact ⟨e, e_mem, e_id.trans (by simpa using same)⟩
      · exact ⟨_, List.mem_cons_self, rfl⟩
    · obtain ⟨d, d_mem, d_id⟩ := inductionHypothesis later
      split
      · exact ⟨d, d_mem, d_id⟩
      · exact ⟨d, List.mem_cons_of_mem _ d_mem, d_id⟩

/-- Every id is kept once. -/
theorem nodup_latest (categories : List Category) :
    ((latest categories).map Category.id).Nodup := by
  induction categories with
  | nil => exact List.nodup_nil
  | cons first rest inductionHypothesis =>
    unfold latest
    split
    · exact inductionHypothesis
    · rename_i fresh
      refine List.nodup_cons.mpr ⟨fun again => fresh ?_, inductionHypothesis⟩
      obtain ⟨d, d_mem, d_id⟩ := List.mem_map.mp again
      exact List.any_eq_true.mpr ⟨d, mem_latest_of_mem d_mem, by simp [d_id]⟩

def toJson (c : Category) : Json :=
  .object [("id", .whole c.id), ("name", .text c.name), ("parent_id", .ofOption .whole c.parentId),
    ("description", .ofOption .text c.description)]

end Category

end Fitout
