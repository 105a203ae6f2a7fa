import Fitout.Decimal.Shortest

/-!
How doubles are written: the shortest digits that read back, laid out plainly or with an exponent.
-/

namespace Fitout.Decimal

structure Layout where
  /-- The least leading exponent that is written without an exponent part. -/
  plainFrom : Int
  /-- The leading exponent from which on there is an exponent part. -/
  plainBelow : Int
  /-- The fewest digits of an exponent part. -/
  exponentWidth : Nat
  /-- The texts of "not a number" and of infinity. -/
  undefined : String
  infinite : String

/-- Plain from a ten-thousandth up to sixteen digits before the point. -/
def Layout.standard : Layout where
  plainFrom := -4
  plainBelow := 16
  exponentWidth := 2
  undefined := "nan"
  infinite := "inf"

/-- The layout of numbers in data, which spells the special values out. -/
def Layout.data : Layout :=
  { Layout.standard with undefined := "NaN", infinite := "Infinity" }

/-- Digits with a point after the first `lead + 1` of them, and at least one digit on each side. -/
def plainText (digits : List Char) (lead : Int) : String :=
  match lead with
  | .ofNat e =>
    let before := digits.take (e + 1) ++ List.replicate (e + 1 - digits.length) '0'
    let after := digits.drop (e + 1)
    String.ofList (before ++ '.' :: if after.isEmpty then ['0'] else after)
  | .negSucc e => String.ofList ('0' :: '.' :: List.replicate e '0' ++ digits)

/-- An exponent part: a sign and at least `width` digits. -/
def exponentText (width : Nat) (exponent : Int) : String :=
  let digits := Nat.toDigits 10 exponent.natAbs
  String.ofList ('e' :: (if exponent < 0 then '-' else '+') ::
    List.replicate (width - digits.length) '0' ++ digits)

/-- One digit, the others after a point if there are any, and an exponent part. -/
def exponentForm (width : Nat) (digits : List Char) (lead : Int) : String :=
  let mantissa := match digits with
    | first :: second :: rest => String.ofList (first :: '.' :: second :: rest)
    | short => String.ofList short
  mantissa ++ exponentText width lead

def Scientific.text (layout : Layout) (s : Scientific) : String :=
  let digits := Nat.toDigits 10 s.digits
  let lead := if s.digits == 0 then 0 else s.exponent + digits.length - 1
  let body :=
    if layout.plainFrom ≤ lead && lead < layout.plainBelow then plainText digits lead
    else exponentForm layout.exponentWidth digits lead
  if s.negative then "-" ++ body else body

def textOf (layout : Layout) (x : Float) : String :=
  match Binary.ofFloat? x with
  | some b => (shortest b).text layout
  | none =>
    if x.isNaN then layout.undefined
    else if x < 0 then "-" ++ layout.infinite
    else layout.infinite

end Fitout.Decimal
