import Fitout.Category.Basic

/-!
How deep categories lie. The depth of a category is the number of steps along its parents to one
whose parent is not listed; below a loop of parents there is no depth.
-/

namespace Fitout.Category

/-- Where the chain of parents of a category leads. -/
inductive Depth where
  /-- To its end, after this many steps. -/
  | ends (steps : Nat)
  /-- Into a loop. -/
  | loops
  deriving DecidableEq, Repr

/-- The depth of a child. -/
def Depth.below : Depth → Depth
  | ends steps => ends (steps + 1)
  | loops => loops

/-- Depths found so far, and the ids found to lie on loops. -/
structure Survey where
  depths : List (Int × Depth)
  onLoop : List Int

def Survey.empty : Survey :=
  ⟨[], []⟩

/-- The depth found for an id; an id that was never surveyed counts as a room. -/
def Survey.depth (s : Survey) (id : Int) : Depth :=
  (s.depths.lookup id).getD (.ends 0)

/-- The listed parent of a category. -/
def listedParent? (categories : List Category) (c : Category) : Option Int :=
  c.parentId.filter fun parent => categories.any (·.id == parent)

/-- Give each id of a path, of which every one is the parent of the next, the depth after the one
before it. -/
def Survey.descend (s : Survey) (base : Depth) : List Int → Survey
  | [] => s
  | id :: path => descend ⟨(id, base.below) :: s.depths, s.onLoop⟩ base.below path

/-- Mark the ids of a closed loop. -/
def Survey.close (s : Survey) (loop : List Int) : Survey :=
  ⟨loop.map (·, Depth.loops) ++ s.depths, loop ++ s.onLoop⟩

/-- The categories with another id. -/
def without (id : Int) (categories : List Category) : List Category :=
  categories.filter (·.id != id)

theorem length_without_lt {id : Int} {categories : List Category} {c : Category}
    (found : find? categories id = some c) :
    (without id categories).length < categories.length := by
  refine List.length_filter_lt_length_iff_exists.mpr ⟨c, List.mem_of_find?_eq_some found, ?_⟩
  have := List.find?_some found
  simp_all

/-- Climb from `current` to a surveyed category, to the end of the chain or around a loop, and
settle the path. The path holds the ids climbed from, the last first; `rest` holds the categories
that were not visited. -/
def Survey.climb (categories : List Category) (s : Survey) (path : List Int) (current : Int)
    (rest : List Category) : Survey :=
  match s.depths.lookup current with
  | some base => s.descend base path
  | none =>
    if path.contains current then
      let loop := path.takeWhile (· != current) ++ [current]
      (s.close loop).descend .loops ((path.dropWhile (· != current)).drop 1)
    else
      match _found : find? rest current with
      | none => s.descend (.ends 0) path
      | some c =>
        match listedParent? categories c with
        | none => Survey.descend ⟨(current, .ends 0) :: s.depths, s.onLoop⟩ (.ends 0) path
        | some parent =>
          climb categories s (current :: path) parent (without current rest)
termination_by rest.length
decreasing_by exact length_without_lt _found

/-- The depths of all categories, of which no two share an id. -/
def survey (categories : List Category) : Survey :=
  categories.foldl (fun s c => s.climb categories [] c.id categories) .empty

end Fitout.Category
