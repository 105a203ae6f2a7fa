import Fitout.Text.Utf8

/-!
Percent-encoded text: characters that have a meaning where the text stands are written as the
hexadecimal digits of their bytes.
-/

namespace Fitout.Text

/-- The bytes of percent-encoded text; a `%` that no two digits follow stands for itself. -/
def percentBytes : List Char → Bytes
  | '%' :: a :: b :: rest =>
    match hexValue? a, hexValue? b with
    | some high, some low => UInt8.ofNat (16 * high + low) :: percentBytes rest
    | _, _ => Bytes.ofText "%" ++ percentBytes (a :: b :: rest)
  | c :: rest => Bytes.ofText (String.singleton c) ++ percentBytes rest
  | [] => []

/-- Percent-encoded text as it is meant. -/
def decodePercent (s : String) : String :=
  replacedText (percentBytes (chars s))

/-- A byte by its two digits. -/
def percentByte (b : UInt8) : String :=
  "%" ++ (hex 2 b.toNat).toUpper

/-- Text with its unsafe characters encoded. -/
def encodePercent (safe : Char → Bool) (s : String) : String :=
  String.join ((chars s).map fun c =>
    if safe c then c.toString else String.join ((Bytes.ofText c.toString).map percentByte))

end Fitout.Text
