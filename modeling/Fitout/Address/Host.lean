import Fitout.Text.Cut
import Fitout.Text.Digit

/-!
Numeric hosts: four numbers below 256 with points between them, or eight groups of hexadecimal
digits with colons between them, a run of which may be left out.
-/

namespace Fitout.Address

/-- A number below 256 without leading zeros. -/
def isOctet (s : String) : Bool :=
  let cs := s.toList
  cs.all Text.isAsciiDigit && !cs.isEmpty && cs.length ≤ 3 &&
    (cs.length == 1 || cs.head? != some '0') && Text.digitsValue cs < 256

/-- Four numbers with points between them. -/
def isFourPart (s : String) : Bool :=
  let parts := s.splitOn "."
  parts.length == 4 && parts.all isOctet

/-- Whether a host is made of runs of digits with one character, of whatever kind, between two runs;
so many of these are still to come. -/
def isDigitRuns (inRun : Bool) : (gaps : Nat) → List Char → Bool
  | gaps, [] => inRun && gaps == 0
  | gaps, c :: rest =>
    (Text.isAsciiDigit c && isDigitRuns true gaps rest) ||
      match inRun, gaps with
      | true, gaps + 1 => isDigitRuns false gaps rest
      | _, _ => false

/-- Whether a host claims to be four numbers. -/
def seemsFourPart (s : String) : Bool :=
  isDigitRuns false 3 s.toList

/-- One to four hexadecimal digits. -/
def isGroup (s : String) : Bool :=
  let cs := s.toList
  cs.all (fun c => (Text.hexValue? c).isSome) && !cs.isEmpty && cs.length ≤ 4

/-- How many groups a list of parts makes up; four numbers at its end count as two. -/
def groupCount? (mayEndInNumbers : Bool) (parts : List String) : Option Nat :=
  match parts.reverse with
  | last :: rest =>
    if mayEndInNumbers && last.contains '.' then
      if isFourPart last && rest.all isGroup then some (rest.length + 2) else none
    else if parts.all isGroup then some parts.length
    else none
  | [] => some 0

/-- The parts between colons; of nothing there are none. -/
def colonParts (s : String) : List String :=
  if s.isEmpty then [] else s.splitOn ":"

/-- What stands before the first two colons in a row, and what after them. -/
def cutAtGap : List Char → Option (List Char × List Char)
  | ':' :: ':' :: rest => some ([], rest)
  | c :: rest => (cutAtGap rest).map fun (before, after) => (c :: before, after)
  | [] => none

/-- Eight groups, or fewer around a gap. -/
def isGroups (s : String) : Bool :=
  match cutAtGap s.toList with
  | none => groupCount? true (colonParts s) == some 8
  | some (before, after) =>
    let first := groupCount? false (colonParts (String.ofList before))
    let second := groupCount? true (colonParts (String.ofList after))
    match first, second with
    | some n, some m => n + m < 8
    | _, _ => false

/-- Eight groups with the name of a zone after a percent sign, or without one. -/
def isEightPart (s : String) : Bool :=
  if s.contains '/' then false
  else match Text.cutAt '%' s with
    | (groups, none) => isGroups groups
    | (groups, some zone) => isGroups groups && !zone.isEmpty && !zone.contains '%'

end Fitout.Address
