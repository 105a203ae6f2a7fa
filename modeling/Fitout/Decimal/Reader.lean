import Fitout.Decimal.Shortest
import Fitout.Text.Blank
import Fitout.Text.Digit

/-!
Reading decimals. A numeral is a sign, digits with an optional point, and an optional exponent;
it is rounded to the nearest double.
-/

namespace Fitout.Decimal

def infinity : Float := 1 / 0

def notANumber : Float := 0 / 0

/-- The number of digits that a natural number has. -/
def digitCount (n : Nat) : Nat :=
  (Nat.toDigits 10 n).length

/-- The double nearest to a decimal. The exponents that can only give zero or infinity are settled
before any power of ten is computed. -/
def Scientific.toFloat (s : Scientific) : Float :=
  let magnitude : Float :=
    if s.digits == 0 then 0
    else if s.exponent + digitCount s.digits > 310 then infinity
    else if s.exponent + digitCount s.digits < -330 then 0
    else match s.exponent with
      | .ofNat e => Float.ofScientific s.digits false e
      | .negSucc e => Float.ofScientific s.digits true (e + 1)
  if s.negative then -magnitude else magnitude

/-- The value rounded to a number of decimal places; special values stay. -/
def roundPlaces (places : Nat) (x : Float) : Float :=
  match Binary.ofFloat? x with
  | some b => (rounded places b).toFloat
  | none => x

/-- An optional sign; whether it is a minus, and what follows. -/
def splitSign : List Char → Bool × List Char
  | '-' :: rest => (true, rest)
  | '+' :: rest => (false, rest)
  | cs => (false, cs)

/-- An exponent part that takes up all that is left; none counts as zero. -/
def readExponent? : List Char → Option Int
  | [] => some 0
  | mark :: rest =>
    if mark == 'e' || mark == 'E' then
      let (negative, digits) := splitSign rest
      if !digits.isEmpty && digits.all Text.isAsciiDigit then
        let value : Int := Text.digitsValue digits
        some (if negative then -value else value)
      else none
    else none

/-- An unsigned numeral: digits, of which some stand before or after an optional point, and an
optional exponent. -/
def readUnsigned? (negative : Bool) (cs : List Char) : Option Scientific :=
  let before := cs.takeWhile Text.isAsciiDigit
  let rest := cs.dropWhile Text.isAsciiDigit
  let (after, rest) := match rest with
    | '.' :: more => (more.takeWhile Text.isAsciiDigit, more.dropWhile Text.isAsciiDigit)
    | _ => ([], rest)
  if before.isEmpty && after.isEmpty then none
  else (readExponent? rest).map fun exponent =>
    ⟨negative, Text.digitsValue (before ++ after), exponent - after.length⟩

/-- A numeral with an optional sign, or a name of a special value in any case. -/
def readNumeral? (cs : List Char) : Option Float :=
  let (negative, body) := splitSign cs
  let name := String.ofList (body.map Char.toLower)
  if name == "inf" || name == "infinity" then some (if negative then -infinity else infinity)
  else if name == "nan" then some notANumber
  else (readUnsigned? negative body).map Scientific.toFloat

/-- Drop the underscores if each stands between two digits. -/
def dropDigitSeparators? : (previous : Option Char) → List Char → Option (List Char)
  | _, [] => some []
  | previous, '_' :: rest =>
    let digitBefore := previous.any Text.isAsciiDigit
    let digitAfter := rest.head?.any Text.isAsciiDigit
    if digitBefore && digitAfter then dropDigitSeparators? (some '_') rest else none
  | _, c :: rest => (dropDigitSeparators? (some c) rest).map (c :: ·)

/-- Drop the underscores if none is first, last or beside another. -/
def dropSingleUnderscores? (cs : List Char) : Option (List Char) :=
  let parts := cs.splitOn '_'
  if parts.length == 1 then some cs
  else if parts.any List.isEmpty then none
  else some parts.flatten

/-- A digit of another script as one of ASCII; other characters stay. -/
def asciiDigit (c : Char) : Char :=
  if c.toNat < 128 then c
  else match Text.digitValue? c with
    | some value => Char.ofNat (48 + value)
    | none => c

/-- A numeral as people type it: white space around it, digits of any script, and underscores
between digits. -/
def ofUserText? (s : String) : Option Float := do
  readNumeral? (← dropDigitSeparators? none ((Text.trim s).toList.map asciiDigit))

/-- A numeral in a data field: with white space around it, or with single underscores anywhere
inside. -/
def ofFieldText? (s : String) : Option Float :=
  match readNumeral? (Text.trim s).toList with
  | some x => some x
  | none => (dropSingleUnderscores? s.toList).bind readNumeral?

end Fitout.Decimal
