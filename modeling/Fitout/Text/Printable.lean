import Fitout.Text.Code
import Fitout.Text.Printable.Table

/-!
Printable characters, and texts quoted so that only these appear.
-/

namespace Fitout.Text

/-- Whether a character may stand for itself in quoted text. -/
def isPrintable (c : Char) : Bool :=
  printableRanges.any fun (first, last) => first ≤ c.toNat && c.toNat ≤ last

/-- The lower-case hexadecimal digits of a number, at least `width` of them. -/
def hex (width n : Nat) : String :=
  let digits := Nat.toDigits 16 n
  String.ofList (List.replicate (width - digits.length) '0' ++ digits)

/-- A code by its number. -/
def codeEscape (code : Code) : String :=
  if code.value < 0x100 then "\\x" ++ hex 2 code.value
  else if code.value < 0x10000 then "\\u" ++ hex 4 code.value
  else "\\U" ++ hex 8 code.value

/-- A code inside quotes: the quote, the backslash and what cannot be printed are escaped. -/
def escapeCode (quote : Char) : Code → String
  | .char c =>
    if c == quote || c == '\\' then String.ofList ['\\', c]
    else if c == '\t' then "\\t"
    else if c == '\n' then "\\n"
    else if c == '\r' then "\\r"
    else if isPrintable c then c.toString
    else codeEscape (.char c)
  | .half n => codeEscape (.half n)

def singleQuote : Char :=
  Char.ofNat 0x27

/-- The text in single quotes, or in double quotes when it holds single quotes only. -/
def quoted (s : String) : String :=
  let quote := if s.contains singleQuote && !s.contains '"' then '"' else singleQuote
  quote.toString ++ String.join ((codes s).map (escapeCode quote)) ++ quote.toString

end Fitout.Text
