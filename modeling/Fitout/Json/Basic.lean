import Fitout.Number

/-!
JSON values. Objects keep the order of their members, and whole numbers are kept apart from
doubles.
-/

namespace Fitout

inductive Json where
  | null
  | bool (b : Bool)
  | number (n : Number)
  | text (s : String)
  | list (items : List Json)
  | object (members : List (String × Json))
  deriving Inhabited

namespace Json

abbrev whole (n : Int) : Json := .number (.whole n)

abbrev real (x : Float) : Json := .number (.real x)

instance : Coe String Json := ⟨.text⟩

instance : Coe Int Json := ⟨.whole⟩

instance : Coe Bool Json := ⟨.bool⟩

def ofOption {α : Type} (f : α → Json) : Option α → Json
  | none => null
  | some a => f a

def ofNat (n : Nat) : Json := whole n

/-- Set a member: one that exists keeps its place, another goes to the end. -/
def setMember {α : Type} (key : String) (value : α) : List (String × α) → List (String × α)
  | [] => [(key, value)]
  | (k, v) :: rest => if k == key then (key, value) :: rest else (k, v) :: setMember key value rest

/-- The members read one after the other, later ones taking the place of earlier ones. -/
def distinctMembers {α : Type} (members : List (String × α)) : List (String × α) :=
  members.foldl (fun known (key, value) => setMember key value known) []

/-- The member of an object; other values have none. -/
def member? (key : String) : Json → Option Json
  | object members => members.lookup key
  | _ => none

/-- Zero, nothing and empty values count as false, all others as true. -/
def isTruthy : Json → Bool
  | null => false
  | bool b => b
  | number (.whole n) => n != 0
  | number (.real x) => x != 0
  | text s => !s.isEmpty
  | list items => !items.isEmpty
  | object members => !members.isEmpty

mutual

/-- How many lists and objects lie inside each other at most. -/
def depth : Json → Nat
  | list items => depthOfItems items + 1
  | object members => depthOfMembers members + 1
  | _ => 0

def depthOfItems : List Json → Nat
  | [] => 0
  | item :: rest => max (depth item) (depthOfItems rest)

def depthOfMembers : List (String × Json) → Nat
  | [] => 0
  | (_, value) :: rest => max (depth value) (depthOfMembers rest)

end

/-- The name of a value's kind, as reports give it. -/
def kindName : Json → String
  | null => "NoneType"
  | bool _ => "bool"
  | number (.whole _) => "int"
  | number (.real _) => "float"
  | text _ => "str"
  | list _ => "list"
  | object _ => "dict"

end Json

end Fitout
