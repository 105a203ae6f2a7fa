import Fitout.Decimal.Whole
import Fitout.Schema.Reading
import Fitout.Text.Encoding

/-!
Reading scalars leniently: numbers may come as text, and whole numbers as doubles or truth values.
-/

namespace Fitout.Schema

/-- A text that holds characters only. -/
def wellFormed (s : String) : Reading String :=
  if Text.isWellFormed s then .valid s else .fail .stringUnicode

/-- A whole number as text. -/
def wholeOfText (s : String) : Reading Int :=
  if !Text.isWellFormed s then .fail .stringUnicode
  else match Decimal.Whole.ofField s with
    | .ok n => .valid n
    | .error .malformed => .fail .intParsing
    | .error .tooLong => .fail .intParsingSize

/-- A double as text. -/
def realOfText (s : String) : Reading Float :=
  if !Text.isWellFormed s then .fail .stringUnicode
  else match Decimal.ofFieldText? s with
    | some x => .valid x
    | none => .fail .floatParsing

/-- A whole number as a double, if it has no fraction and fits 64 bits. -/
def wholeOfFloat (x : Float) : Reading Int :=
  match Decimal.Binary.ofFloat? x with
  | none => .fail .finiteNumber
  | some b =>
    if !b.isWhole then .fail .intFromFloat
    else if b.wholePart < Nat.pow 2 63 then .valid b.truncate
    else .fail .intParsingSize

def whole : Json → Reading Int
  | .bool b => .valid b.toInt
  | .number (.whole n) => .valid n
  | .number (.real x) => wholeOfFloat x
  | .text s => wholeOfText s
  | _ => .fail .intType

def real : Json → Reading Float
  | .bool b => .valid (if b then 1 else 0)
  | .number n =>
    match n.toFloat with
    | .ok x => .valid x
    | .error _ => .fail .floatType
  | .text s => realOfText s
  | _ => .fail .floatType

/-- A number that is zero or more. -/
def nonNegative (value : Json) : Reading Float :=
  match real value with
  | .valid x => if 0 ≤ x then .valid x else .fail .tooSmall
  | .invalid issues => .invalid issues

/-- A text as it is. -/
def text : Json → Reading String
  | .text s => wellFormed s
  | _ => .fail .stringType

/-- A text without the white space around it. -/
def trimmed : Json → Reading String
  | .text s => Text.trim <$> wellFormed s
  | _ => .fail .stringType

end Fitout.Schema
