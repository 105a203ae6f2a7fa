import Fitout.Decimal.Fixed
import Fitout.Json.Writer
import Fitout.Log.Template
import Fitout.Record

/-!
Messages: templates filled with values. A template without values stands for itself; with values,
each piece has to find its value, and none may be left over.
-/

namespace Fitout.Log

/-- The values that are still to be used. -/
inductive Supply where
  | listed (rest : List Json)
  /-- Named values, and the one that the next directive is filled from. -/
  | named (members : List (String × Json)) (next : Option Json)

namespace Supply

/-- A single object gives its members by name, and as a whole to the first directive without a
name. -/
def ofValues : List Json → Supply
  | [.object (first :: others)] =>
    named (first :: others) (some (.object (first :: others)))
  | values => listed values

def take? : Supply → Option (Json × Supply)
  | listed [] => none
  | listed (value :: rest) => some (value, listed rest)
  | named _ none => none
  | named members (some value) => some (value, named members none)

/-- Make the value of a name the next one. -/
def select? (name : String) : Supply → Option Supply
  | listed _ => none
  | named members _ => (members.lookup name).map fun value => named members (some value)

/-- Whether no value is left over; named ones need not be used. -/
def isSpent : Supply → Bool
  | listed rest => rest.isEmpty
  | named _ _ => true

end Supply

/-- The largest width and precision. -/
def largestSize : Nat := 2147483647

/-- The value of a size, which is negative only if it is taken. -/
def Size.resolve? (supply : Supply) : Option Size → Option (Option Int × Supply)
  | none => some (none, supply)
  | some (.given n) => if n ≤ largestSize then some (some n, supply) else none
  | some .taken => do
    let (value, supply) ← supply.take?
    let n ← Record.whole? value
    if n.natAbs ≤ largestSize then some (some n, supply) else none

/-- A value written for a directive, before it is filled up. -/
structure Written where
  /-- What stands before the zeros that fill a number up: its sign, and the mark of its base. -/
  lead : String
  body : String
  isNumber : Bool

namespace Written

def ofText (precision : Option Nat) (s : String) : Written :=
  ⟨"", match precision with
    | some n => Text.take n s
    | none => s, false⟩

def sign (flags : Flags) (negative : Bool) : String :=
  if negative then "-" else if flags.plus then "+" else if flags.blank then " " else ""

/-- A whole number in a base, with at least as many digits as the precision says. -/
def ofInt (flags : Flags) (precision : Option Nat) (base : Nat) (mark : String) (upper : Bool)
    (n : Int) : Written :=
  let digits := Nat.toDigits base n.natAbs
  let digits := if upper then digits.map Char.toUpper else digits
  let zeros := List.replicate (precision.getD 0 - digits.length) '0'
  ⟨sign flags (n < 0) ++ if flags.marked then mark else "", String.ofList (zeros ++ digits), true⟩

/-- The precision of numbers with a fraction, unless there is one. -/
def usualPrecision : Nat := 6

/-- A number with a fraction, by the way to write its magnitude. -/
def ofFloat (flags : Flags) (precision : Option Nat) (upper : Bool)
    (write : Bool → Nat → Decimal.Binary → String) (x : Float) : Written :=
  let (negative, body) := match Decimal.Binary.ofFloat? x with
    | some b => (b.negative, write flags.marked (precision.getD usualPrecision) b)
    | none => (x < 0, if x.isNaN then "nan" else "inf")
  ⟨sign flags negative, if upper then body.toUpper else body, true⟩

/-- Fill up to a width. -/
def fill (flags : Flags) (width : Nat) (w : Written) : String :=
  let missing := width - (Text.length w.lead + Text.length w.body)
  let filling (c : Char) := String.ofList (List.replicate missing c)
  if flags.left then w.lead ++ w.body ++ filling ' '
  else if flags.zeros && w.isNumber then w.lead ++ filling '0' ++ w.body
  else filling ' ' ++ w.lead ++ w.body

end Written

/-- A number without its fraction. -/
def truncatedValue? : Json → Option Int
  | .number (.real x) => (Decimal.Binary.ofFloat? x).map Decimal.Binary.truncate
  | value => Record.whole? value

/-- A number as a double. -/
def doubleValue? : Json → Option Float
  | .number n => n.toFloat.toOption
  | .bool b => some (Float.ofInt b.toInt)
  | _ => none

/-- A code, given itself or by its number. -/
def codeValue? : Json → Option Text.Code
  | .text s => match Text.codes s with
    | [code] => some code
    | _ => none
  | value => do
    let n ← Record.whole? value
    if 0 ≤ n && n < 0x110000 then some (.ofNat n.toNat) else none

/-- A quoted value in ASCII characters. -/
def asciiQuoted (value : Json) : String :=
  String.join (value.quoted.toList.map fun c =>
    if c.toNat < 0x80 then c.toString else Text.codeEscape (.char c))

namespace Conversion

/-- A value as it is written; none if it is of the wrong kind. -/
def write? (flags : Flags) (precision : Option Nat) (value : Json) : Conversion → Option Written
  | plain => some (.ofText precision value.plain)
  | quoted => some (.ofText precision value.quoted)
  | ascii => some (.ofText precision (asciiQuoted value))
  | character => (codeValue? value).map fun code => .ofText none (Text.ofCodes [code])
  | whole => (truncatedValue? value).map (.ofInt flags precision 10 "" false)
  | octal => (Record.whole? value).map (.ofInt flags precision 8 "0o" false)
  | hex upper =>
    (Record.whole? value).map (.ofInt flags precision 16 (if upper then "0X" else "0x") upper)
  | exponential upper =>
    (doubleValue? value).map (.ofFloat flags precision upper Decimal.exponentialText)
  | fixed upper => (doubleValue? value).map (.ofFloat flags precision upper Decimal.fixedText)
  | general upper => (doubleValue? value).map (.ofFloat flags precision upper Decimal.generalText)

end Conversion

namespace Directive

/-- The text of a directive, and the values that are left. -/
def fill? (d : Directive) (supply : Supply) : Option (String × Supply) := do
  let supply ← match d.name with
    | some name => supply.select? name
    | none => some supply
  let (width, supply) ← Size.resolve? supply d.width
  let (precision, supply) ← Size.resolve? supply d.precision
  let width := width.getD 0
  let flags := if width < 0 then { d.flags with left := true } else d.flags
  let (value, supply) ← supply.take?
  let written ← d.conversion.write? flags (precision.map Int.toNat) value
  some (written.fill flags width.natAbs, supply)

end Directive

namespace Template

/-- The text of the pieces; none if a value is missing, left over or of the wrong kind. -/
def fill? : List Piece → Supply → Option String
  | [], supply => if supply.isSpent then some "" else none
  | .literal c :: rest, supply => (fill? rest supply).map (c.toString ++ ·)
  | .directive d :: rest, supply => do
    let (text, supply) ← d.fill? supply
    return text ++ (← fill? rest supply)

/-- The message of a template and its values. -/
def message? (template : String) : List Json → Option String
  | [] => some template
  | values => do fill? (← pieces? template.toList) (.ofValues values)

end Template

end Fitout.Log
