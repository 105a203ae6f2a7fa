import Fitout.Text.Fold.Table
import Fitout.Text.Blank

/-!
Texts compared without regard to case or spacing.
-/

namespace Fitout.Text

/-- The characters that a character folds to. -/
def foldChar (c : Char) : List Char :=
  if c.toNat < 65 then [c]
  else match foldRuns.find? (·.covers c.toNat) with
    | some run => [Char.ofNat (c.toNat + run.shift).toNat]
    | none =>
      match foldExpansions.lookup c.toNat with
      | some codes => codes.map Char.ofNat
      | none => [c]

def fold (s : String) : String :=
  String.ofList (s.toList.flatMap foldChar)

/-- The form in which two names are compared: case folded, with single spaces between words. -/
def looseName (s : String) : String :=
  fold (" ".intercalate (words s))

end Fitout.Text
