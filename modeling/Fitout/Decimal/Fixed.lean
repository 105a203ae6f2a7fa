import Fitout.Decimal.Text

/-!
Doubles written with a given number of digits: plainly, with an exponent, or whichever is shorter.
The texts are those of magnitudes, without a sign.
-/

namespace Fitout.Decimal

/-- Digits of which the last `places` stand after the point; a point that nothing follows is left
out unless it is kept. -/
def pointText (keepPoint : Bool) (places : Nat) (digits : List Char) : String :=
  let padded := List.replicate (places + 1 - digits.length) '0' ++ digits
  let before := padded.take (padded.length - places)
  let after := padded.drop (padded.length - places)
  String.ofList (before ++ if after.isEmpty && !keepPoint then [] else '.' :: after)

/-- A number of places after the point. -/
def fixedText (keepPoint : Bool) (places : Nat) (b : Binary) : String :=
  pointText keepPoint places (Nat.toDigits 10 (rounded places b).digits)

/-- The value rounded to a leading digit and `places` more, with the exponent of the leading one. -/
def leadingDigits (places : Nat) (b : Binary) : Nat × Int :=
  if b.mantissa == 0 then (0, 0)
  else
    let (num, den) := b.ratio
    let lead := leadingExponent num den
    let (num, den) := scaleTen num den (places - lead)
    let digits := roundQuotient num den
    if digits == Nat.pow 10 (places + 1) then (Nat.pow 10 places, lead + 1) else (digits, lead)

/-- The fewest digits of an exponent part. -/
def exponentWidth : Nat := 2

/-- A leading digit, a number of places after the point, and an exponent part. -/
def exponentialText (keepPoint : Bool) (places : Nat) (b : Binary) : String :=
  let (digits, lead) := leadingDigits places b
  pointText keepPoint places (Nat.toDigits 10 digits) ++ exponentText exponentWidth lead

/-- Drop the zeros at the end of a fraction, and a point that nothing follows. -/
def trimFraction (s : String) : String :=
  let cs := s.toList
  if cs.contains '.' then
    let kept := cs.reverse.dropWhile (· == '0')
    String.ofList (match kept with
      | '.' :: rest => rest.reverse
      | kept => kept.reverse)
  else s

/-- A number of significant digits, at least one: plainly if the leading one lies neither below the
fourth place after the point nor beyond those digits, with an exponent part otherwise. Zeros at the
end of the fraction are kept only with the point. -/
def generalText (keepPoint : Bool) (digits : Nat) (b : Binary) : String :=
  let places := digits - 1
  let (_, lead) := leadingDigits places b
  let trim (s : String) : String := if keepPoint then s else trimFraction s
  if -4 ≤ lead && lead < (places + 1 : Nat) then
    trim (fixedText keepPoint (places - lead).toNat b)
  else
    let (value, lead) := leadingDigits places b
    trim (pointText keepPoint places (Nat.toDigits 10 value)) ++ exponentText exponentWidth lead

end Fitout.Decimal
