import Fitout.Decimal.Fixed
import Fitout.Decimal.Reader

/-!
Decimals with all of their digits. Beside them there are infinity and undefined values, which may
signal and bear a number as a label.
-/

namespace Fitout.Decimal

/-- A decimal with all of its digits, zeros at the end included: plainly if the last one does not
stand before the units and the leading one lies no deeper than the sixth place after the point,
with an exponent part otherwise. -/
def Scientific.exactText (s : Scientific) : String :=
  let digits := Nat.toDigits 10 s.digits
  let lead := s.exponent + digits.length - 1
  let body :=
    if s.exponent ≤ 0 && -6 ≤ lead then pointText false s.exponent.natAbs digits
    else (exponentForm 1 digits lead).toUpper
  if s.negative then "-" ++ body else body

inductive Exact where
  | finite (value : Scientific)
  | infinite (negative : Bool)
  | undefined (negative signals : Bool) (label : Nat)

namespace Exact

/-- How far from the units the leading digit of a decimal may lie. -/
def reach : Int := 999999999999999999

/-- Whether a decimal is neither too large nor has too many places. -/
def isWithinReach (s : Scientific) : Bool :=
  s.exponent + digitCount s.digits - 1 ≤ reach && -(2 * reach - 1) ≤ s.exponent

/-- The text of a decimal without what counts for nothing: gaps around it, underscores, and the
script and the case of its characters. -/
def bare (s : String) : List Char :=
  ((Text.trimGaps s).toList.filter (· != '_')).map fun c => (asciiDigit c).toLower

/-- The label of an undefined value, which may be missing. -/
def label? (digits : List Char) : Option Nat :=
  if digits.all Text.isAsciiDigit then some (Text.digitsValue digits) else none

/-- The decimal that a text is, if it is one. -/
def ofText? (s : String) : Option Exact :=
  let (negative, body) := splitSign (bare s)
  match body with
  | 'n' :: 'a' :: 'n' :: digits => (label? digits).map (undefined negative false)
  | 's' :: 'n' :: 'a' :: 'n' :: digits => (label? digits).map (undefined negative true)
  | _ =>
    let name := String.ofList body
    if name == "inf" || name == "infinity" then some (infinite negative)
    else ((readUnsigned? negative body).filter isWithinReach).map finite

def text : Exact → String
  | finite value => value.exactText
  | infinite negative => (if negative then "-" else "") ++ "Infinity"
  | undefined negative signals label =>
    (if negative then "-" else "") ++ (if signals then "sNaN" else "NaN") ++
      (if label == 0 then "" else toString label)

def isZero : Exact → Bool
  | finite value => value.digits == 0
  | _ => false

end Exact

end Fitout.Decimal
