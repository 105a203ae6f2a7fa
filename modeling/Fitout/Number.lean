import Fitout.Decimal.Reader
import Fitout.Decimal.Text

/-!
Numbers as they are given: whole ones of any size, and doubles.
-/

namespace Fitout

inductive Number where
  | whole (n : Int)
  | real (x : Float)

/-- A whole number is too large for a double. -/
inductive Overflow where
  | beyondDouble
  deriving DecidableEq, Repr

namespace Number

/-- The double nearest to a whole number. -/
def floatOfInt (n : Int) : Except Overflow Float :=
  let x := Float.ofInt n
  if x.isFinite then .ok x else .error .beyondDouble

def toFloat : Number → Except Overflow Float
  | whole n => floatOfInt n
  | real x => .ok x

/-- The text of a number: all digits of a whole one, the shortest of a double. -/
def text : Number → String
  | whole n => toString n
  | real x => Decimal.textOf .standard x

end Number

end Fitout
