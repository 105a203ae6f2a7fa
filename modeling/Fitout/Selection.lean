import Fitout.Category.Basic

/-!
The drill-down from a room over an element to a sub-element. Choosing on a level clears the deeper
ones, and a choice must name the one above it as its parent.
-/

namespace Fitout

/-- A slot for each level. Nothing but the operations below relates them to each other. -/
structure Selection where
  room? : Option Category
  element? : Option Category
  subElement? : Option Category
  deriving DecidableEq

inductive SelectionError where
  | roomNeeded
  | notElementOf (category room : Int)
  | elementNeeded
  | notSubElementOf (category element : Int)
  | notRoom (category : Int)
  deriving DecidableEq, Repr

def SelectionError.message : SelectionError → String
  | roomNeeded => "Select a room before selecting an element"
  | notElementOf category room => s!"Category {category} is not an element of room {room}"
  | elementNeeded => "Select an element before selecting a sub-element"
  | notSubElementOf category element =>
    s!"Category {category} is not a sub-element of element {element}"
  | notRoom category => s!"Category {category} is not a room"

namespace Selection

def empty : Selection :=
  ⟨none, none, none⟩

/-- The chosen categories, from the room down. -/
def chosen (s : Selection) : List Category :=
  s.room?.toList ++ s.element?.toList ++ s.subElement?.toList

/-- The name of the level that was reached. -/
def stage (s : Selection) : String :=
  if s.subElement?.isSome then "sub_element_chosen"
  else if s.element?.isSome then "element_chosen"
  else if s.room?.isSome then "room_chosen"
  else "empty"

def selectRoom (_ : Selection) (r : Category) : Selection :=
  ⟨some r, none, none⟩

def selectElement (s : Selection) (e : Category) : Except SelectionError Selection :=
  match s.room? with
  | none => .error .roomNeeded
  | some r =>
    if e.parentId == some r.id then .ok { s with element? := some e, subElement? := none }
    else .error (.notElementOf e.id r.id)

def selectSubElement (s : Selection) (c : Category) : Except SelectionError Selection :=
  match s.element? with
  | none => .error .elementNeeded
  | some e =>
    if c.parentId == some e.id then .ok { s with subElement? := some c }
    else .error (.notSubElementOf c.id e.id)

def availableElements (s : Selection) (categories : List Category) : List Category :=
  Category.childrenOf categories (s.room?.map Category.id)

def availableSubElements (s : Selection) (categories : List Category) : List Category :=
  Category.childrenOf categories (s.element?.map Category.id)

def toJson (s : Selection) : Json :=
  .object [("stage", .text s.stage), ("room", .ofOption Category.toJson s.room?),
    ("element", .ofOption Category.toJson s.element?),
    ("sub_element", .ofOption Category.toJson s.subElement?)]

end Selection

end Fitout
