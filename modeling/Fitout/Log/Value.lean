import Fitout.Decimal.Exact
import Fitout.Json.Basic

/-!
Values that are passed to the log. They may be of kinds that JSON lacks; what is written is plain
JSON, in which a collection stands as a list and a value of another kind as its text.
-/

namespace Fitout.Log

/-- A key of a mapping, which need not be a text. -/
inductive Key where
  | text (s : String)
  | whole (n : Int)
  | foreign (shown : String)
  deriving DecidableEq, Repr

def Key.shown : Key → String
  | text s => s
  | whole n => toString n
  | foreign shown => shown

inductive Value where
  | null
  | bool (b : Bool)
  | number (n : Number)
  | text (s : String)
  | list (items : List Value)
  | tuple (items : List Value)
  /-- The members of a set in the order in which it yields them. -/
  | set (items : List Value)
  | mapping (entries : List (Key × Value))
  | decimal (d : Decimal.Exact)
  /-- A value of another kind, known by its text. -/
  | foreign (shown : String)

namespace Value

mutual

/-- A JSON value as it is passed. -/
def ofJson : Json → Value
  | .null => null
  | .bool b => bool b
  | .number n => number n
  | .text s => text s
  | .list items => list (ofItems items)
  | .object members => mapping (ofMembers members)

def ofItems : List Json → List Value
  | [] => []
  | item :: rest => ofJson item :: ofItems rest

def ofMembers : List (String × Json) → List (Key × Value)
  | [] => []
  | (key, value) :: rest => (.text key, ofJson value) :: ofMembers rest

end

mutual

/-- What is written for a value. Keys are written as texts, the last of equal ones counting. -/
def toJson : Value → Json
  | null => .null
  | bool b => .bool b
  | number n => .number n
  | text s => .text s
  | list items | tuple items | set items => .list (itemsToJson items)
  | mapping entries => .object (Json.distinctMembers (entriesToJson entries))
  | decimal d => .text d.text
  | foreign shown => .text shown

def itemsToJson : List Value → List Json
  | [] => []
  | item :: rest => item.toJson :: itemsToJson rest

def entriesToJson : List (Key × Value) → List (String × Json)
  | [] => []
  | (key, value) :: rest => (key.shown, value.toJson) :: entriesToJson rest

end

/-- Whether a value counts as true: zero, nothing and empty values do not. -/
def isTruthy : Value → Bool
  | null => false
  | bool b => b
  | number n => (Json.number n).isTruthy
  | text s => !s.isEmpty
  | list items | tuple items | set items => !items.isEmpty
  | mapping entries => !entries.isEmpty
  | decimal d => !d.isZero
  | foreign _ => true

end Value

end Fitout.Log
