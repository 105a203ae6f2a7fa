import Fitout.Json.Basic

/-!
Quantities as people enter them. Whatever is entered counts as one unless it is a finite number
from one upward; products are counted in whole pieces, services are measured.
-/

namespace Fitout.Quantity

/-- The finite number that an entry stands for. A whole number beyond the doubles is an error. -/
def amount? : Json → Except Overflow (Option Float)
  | .number n => n.toFloat.map fun x => if x.isFinite then some x else none
  | .text s => .ok ((Decimal.ofUserText? s).filter Float.isFinite)
  | _ => .ok none

/-- The whole part of a number, but at least one. -/
def wholeCount (x : Float) : Int :=
  match Decimal.Binary.ofFloat? x with
  | some b => max 1 b.truncate
  | none => 1

/-- The number, but at least one. -/
def atLeastOne (x : Float) : Float :=
  if x < 1 then 1 else x

def count (entry : Json) : Except Overflow Int :=
  (amount? entry).map (·.elim 1 wholeCount)

def measure (entry : Json) : Except Overflow Float :=
  (amount? entry).map (·.elim 1 atLeastOne)

end Fitout.Quantity
