import Fitout.Json.Basic

/-!
Records: objects whose members are taken at their word. A member that is missing, or is of another
kind than expected, counts as null or as empty.
-/

namespace Fitout.Record

def get (v : Json) (key : String) : Json :=
  (v.member? key).getD .null

def whole? : Json → Option Int
  | .number (.whole n) => some n
  | .bool b => some b.toInt
  | _ => none

def text? : Json → Option String
  | .text s => some s
  | _ => none

/-- A number, or the name of a special one. -/
def number? : Json → Option Number
  | .number n => some n
  | .bool b => some (.whole b.toInt)
  | .text "NaN" => some (.real Decimal.notANumber)
  | .text "Infinity" => some (.real Decimal.infinity)
  | .text "-Infinity" => some (.real (-Decimal.infinity))
  | _ => none

def whole (v : Json) (key : String) : Int :=
  (whole? (get v key)).getD 0

def natural (v : Json) (key : String) : Nat :=
  (whole v key).toNat

def text (v : Json) (key : String) : String :=
  (text? (get v key)).getD ""

def list (v : Json) (key : String) : List Json :=
  match get v key with
  | .list items => items
  | _ => []

def flag (v : Json) (key : String) : Bool :=
  (get v key).isTruthy

def double (v : Json) (key : String) : Except Overflow Float :=
  match number? (get v key) with
  | some n => n.toFloat
  | none => .ok 0

/-- A span of time; one that is too long for a double is endless. -/
def seconds? (v : Json) (key : String) : Option Float :=
  (number? (get v key)).map fun n =>
    match n, n.toFloat with
    | _, .ok x => x
    | .whole k, .error _ => if k < 0 then -Decimal.infinity else Decimal.infinity
    | .real x, .error _ => x

end Fitout.Record
