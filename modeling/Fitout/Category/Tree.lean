import Fitout.Category.Depth

/-!
The display tree of a flat category list: rooms, their elements, and the sub-elements of these.
Categories that have no place in it, or an unexpected one, are reported as issues.
-/

namespace Fitout.Category

def deepest : Nat := 2

structure ElementNode where
  category : Category
  subElements : List Category
  deriving DecidableEq

structure RoomNode where
  category : Category
  elements : List ElementNode
  deriving DecidableEq

inductive TreeIssue where
  /-- The id occurred before. -/
  | duplicate (id : Int)
  | onCycle (id : Int)
  | belowCycle (id : Int)
  | tooDeep (id : Int) (depth : Nat)
  /-- The parent is not listed, so the category became a room. -/
  | orphan (id : Int) (parent : Int)
  deriving DecidableEq, Repr

namespace TreeIssue

def categoryId : TreeIssue → Int
  | duplicate id | onCycle id | belowCycle id | tooDeep id _ | orphan id _ => id

def kind : TreeIssue → String
  | duplicate _ => "duplicate"
  | onCycle _ | belowCycle _ => "cycle"
  | tooDeep _ _ => "too_deep"
  | orphan _ _ => "orphan"

def detail : TreeIssue → String
  | duplicate id => s!"Category id {id} appears more than once, last entry wins"
  | onCycle id => s!"Category {id} is part of a parent cycle"
  | belowCycle id => s!"Category {id} descends from a parent cycle"
  | tooDeep id depth => s!"Category {id} is nested at depth {depth}, max is {deepest}"
  | orphan id parent => s!"Parent {parent} of category {id} does not exist, promoted to room"

def toJson (issue : TreeIssue) : Json :=
  .object [("category_id", .whole issue.categoryId), ("kind", .text issue.kind),
    ("detail", .text issue.detail)]

/-- How often each kind occurs, in order of first occurrence. -/
def countKinds (issues : List TreeIssue) : List (String × Nat) :=
  let kinds := issues.map kind
  kinds.eraseDups.map fun k => (k, kinds.count k)

end TreeIssue

structure Tree where
  rooms : List RoomNode
  issues : List TreeIssue
  deriving DecidableEq

namespace Tree

inductive Node where
  | room (node : RoomNode)
  | element (node : ElementNode)
  | subElement (category : Category)
  deriving DecidableEq

namespace Node

def category : Node → Category
  | room node => node.category
  | element node => node.category
  | subElement category => category

def id (node : Node) : Int :=
  node.category.id

def depth : Node → Nat
  | room _ => 0
  | element _ => 1
  | subElement _ => 2

def children : Node → List Node
  | room node => node.elements.map element
  | element node => node.subElements.map subElement
  | subElement _ => []

end Node

/-- All nodes, each before its children. -/
def nodes (tree : Tree) : List Node :=
  tree.rooms.flatMap fun room =>
    .room room :: room.elements.flatMap fun element =>
      .element element :: element.subElements.map .subElement

/-- How many nodes there are at a node and below. -/
def Node.size : Node → Nat
  | .room node => 1 + node.elements.length + (node.elements.flatMap (·.subElements)).length
  | .element node => 1 + node.subElements.length
  | .subElement _ => 1

/-- How many nodes a stack and what lies below it hold. -/
def stackSize : List Node → Nat
  | [] => 0
  | node :: stack => node.size + stackSize stack

theorem stackSize_append (top bottom : List Node) :
    stackSize (top ++ bottom) = stackSize top + stackSize bottom := by
  induction top with
  | nil => simp [stackSize]
  | cons node top inductionHypothesis =>
    simp only [List.cons_append, stackSize, inductionHypothesis]
    omega

theorem stackSize_reverse (stack : List Node) : stackSize stack.reverse = stackSize stack := by
  induction stack with
  | nil => rfl
  | cons node stack inductionHypothesis =>
    simp only [List.reverse_cons, stackSize_append, stackSize, inductionHypothesis]
    omega

theorem stackSize_map_subElement (categories : List Category) :
    stackSize (categories.map .subElement) = categories.length := by
  induction categories with
  | nil => rfl
  | cons c categories inductionHypothesis =>
    simp only [List.map_cons, stackSize, inductionHypothesis, Node.size, List.length_cons]
    omega

theorem stackSize_map_element (elements : List ElementNode) :
    stackSize (elements.map .element) =
      elements.length + (elements.flatMap (·.subElements)).length := by
  induction elements with
  | nil => rfl
  | cons element elements inductionHypothesis =>
    simp only [List.map_cons, stackSize, inductionHypothesis, Node.size, List.length_cons,
      List.flatMap_cons, List.length_append]
    omega

theorem stackSize_children_lt (node : Node) : stackSize node.children < node.size := by
  cases node with
  | room node =>
    simp only [Node.children, stackSize_map_element, Node.size]
    omega
  | element node =>
    simp only [Node.children, stackSize_map_subElement, Node.size]
    omega
  | subElement c => exact Nat.zero_lt_one

/-- Search the nodes on a stack and what lies below them. The top comes first, and the children of
a node that is not the one go on top, the last one uppermost. -/
def search (id : Int) (stack : List Node) : Option Node :=
  match stack with
  | [] => none
  | node :: stack =>
    if node.id == id then some node else search id (node.children.reverse ++ stack)
termination_by stackSize stack
decreasing_by
  have smaller := stackSize_children_lt node
  simp only [stackSize_append, stackSize_reverse, stackSize]
  omega

def find? (tree : Tree) (id : Int) : Option Node :=
  search id (tree.rooms.map .room).reverse

def isRoot (tree : Tree) (id : Int) : Bool :=
  tree.rooms.any (·.category.id == id)

def level (s : Survey) (categories : List Category) (depth : Nat) : List Category :=
  categories.filter fun c => s.depth c.id == .ends depth

/-- What is wrong with a category, given the depths. -/
def issue? (s : Survey) (c : Category) : Option TreeIssue :=
  match s.depth c.id with
  | .loops => some (if s.onLoop.contains c.id then .onCycle c.id else .belowCycle c.id)
  | .ends 0 => c.parentId.map (.orphan c.id)
  | .ends depth => if deepest < depth then some (.tooDeep c.id depth) else none

def nodeJson (category : Category) (depth : Nat) (elements subElements : List Json) : Json :=
  .object [("id", .whole category.id), ("name", .text category.name),
    ("parent_id", .ofOption .whole category.parentId),
    ("description", .ofOption .text category.description), ("depth", .ofNat depth),
    ("elements", .list elements), ("sub_elements", .list subElements)]

def toJson (tree : Tree) : Json :=
  let subElementJson (c : Category) := nodeJson c 2 [] []
  let elementJson (node : ElementNode) :=
    nodeJson node.category 1 [] (node.subElements.map subElementJson)
  let roomJson (node : RoomNode) := nodeJson node.category 0 (node.elements.map elementJson) []
  .object [("roots", .list (tree.rooms.map roomJson)),
    ("issues", .list (tree.issues.map TreeIssue.toJson))]

end Tree

end Fitout.Category
