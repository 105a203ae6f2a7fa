import Fitout.Text.Digit

/-!
Message templates. A percent sign starts a directive, which says from which value it is filled, how
wide the result is and how the value is written; two of them stand for one, and all else stands for
itself. The main statement is that reading a directive uses up text, so that a template has finitely
many pieces.
-/

namespace Fitout.Log

/-- How a value is written. -/
inductive Conversion where
  | plain
  | quoted
  /-- Quoted, with only ASCII characters. -/
  | ascii
  | character
  | whole
  | octal
  | hex (upper : Bool)
  | exponential (upper : Bool)
  | fixed (upper : Bool)
  | general (upper : Bool)
  deriving DecidableEq, Repr

def Conversion.ofChar? : Char → Option Conversion
  | 's' => some plain
  | 'r' => some quoted
  | 'a' => some ascii
  | 'c' => some character
  | 'd' | 'i' | 'u' => some whole
  | 'o' => some octal
  | 'x' => some (hex false)
  | 'X' => some (hex true)
  | 'e' => some (exponential false)
  | 'E' => some (exponential true)
  | 'f' => some (fixed false)
  | 'F' => some (fixed true)
  | 'g' => some (general false)
  | 'G' => some (general true)
  | _ => none

/-- A width or a precision: written down, or taken from the values. -/
inductive Size where
  | given (n : Nat)
  | taken
  deriving DecidableEq, Repr

structure Flags where
  /-- Fill up on the right. -/
  left : Bool
  /-- Write a plus before numbers that are not negative. -/
  plus : Bool
  /-- Write a blank before numbers that are not negative. -/
  blank : Bool
  /-- Mark the base of whole numbers, and keep the point of others. -/
  marked : Bool
  /-- Fill numbers up with zeros. -/
  zeros : Bool
  deriving DecidableEq, Repr

structure Directive where
  /-- The name of the value among named ones. -/
  name : Option String
  flags : Flags
  width : Option Size
  precision : Option Size
  conversion : Conversion
  deriving DecidableEq, Repr

inductive Piece where
  | literal (c : Char)
  | directive (d : Directive)
  deriving DecidableEq, Repr

namespace Template

/-- A name up to the parenthesis that closes it. Those inside are balanced, and `depth` of them are
open. -/
def readName? : (depth : Nat) → List Char → Option (List Char × List Char)
  | _, [] => none
  | 0, ')' :: rest => some ([], rest)
  | depth, c :: rest =>
    let depth := if c == '(' then depth + 1 else if c == ')' then depth - 1 else depth
    (readName? depth rest).map fun (name, rest) => (c :: name, rest)

theorem length_readName? {depth : Nat} {cs name rest : List Char}
    (h : readName? depth cs = some (name, rest)) : rest.length ≤ cs.length := by
  induction cs generalizing depth name with
  | nil => simp [readName?] at h
  | cons c cs inductionHypothesis =>
    unfold readName? at h
    split at h
    · simp at h
    · simp_all
    · rename_i cs' _ heq
      obtain ⟨-, rfl⟩ := List.cons.inj heq
      obtain ⟨⟨name', rest'⟩, hread, hpair⟩ := Option.map_eq_some_iff.1 h
      obtain ⟨-, rfl⟩ := Prod.mk.inj hpair
      exact Nat.le_succ_of_le (inductionHypothesis hread)

/-- An optional name in parentheses. -/
def readKey? : List Char → Option (Option String × List Char)
  | '(' :: rest => (readName? 0 rest).map fun (name, rest) => (some (String.ofList name), rest)
  | cs => some (none, cs)

theorem length_readKey? {cs rest : List Char} {name : Option String}
    (h : readKey? cs = some (name, rest)) : rest.length ≤ cs.length := by
  unfold readKey? at h
  split at h
  · obtain ⟨⟨name', rest'⟩, hread, hpair⟩ := Option.map_eq_some_iff.1 h
    obtain ⟨-, rfl⟩ := Prod.mk.inj hpair
    exact Nat.le_succ_of_le (length_readName? hread)
  · simp_all

def isFlag (c : Char) : Bool :=
  c == '-' || c == '+' || c == ' ' || c == '#' || c == '0'

def readFlags (cs : List Char) : Flags × List Char :=
  let found := cs.takeWhile isFlag
  (⟨found.contains '-', found.contains '+', found.contains ' ', found.contains '#',
    found.contains '0'⟩, cs.dropWhile isFlag)

theorem length_readFlags (cs : List Char) : (readFlags cs).2.length ≤ cs.length :=
  (List.dropWhile_suffix isFlag).length_le

/-- An optional size. -/
def readSize : List Char → Option Size × List Char
  | '*' :: rest => (some .taken, rest)
  | cs =>
    let digits := cs.takeWhile Text.isAsciiDigit
    (if digits.isEmpty then none else some (.given (Text.digitsValue digits)),
      cs.dropWhile Text.isAsciiDigit)

theorem length_readSize (cs : List Char) : (readSize cs).2.length ≤ cs.length := by
  unfold readSize
  split
  · simp
  · exact (List.dropWhile_suffix Text.isAsciiDigit).length_le

/-- An optional precision after a point, zero if nothing follows. -/
def readPrecision : List Char → Option Size × List Char
  | '.' :: rest =>
    let (size, rest) := readSize rest
    (some (size.getD (.given 0)), rest)
  | cs => (none, cs)

theorem length_readPrecision (cs : List Char) : (readPrecision cs).2.length ≤ cs.length := by
  unfold readPrecision
  split
  · exact Nat.le_succ_of_le (length_readSize _)
  · exact Nat.le_refl _

/-- Pass over a letter that tells the size of a number in memory. -/
def skipLength : List Char → List Char
  | c :: rest => if c == 'h' || c == 'l' || c == 'L' then rest else c :: rest
  | [] => []

theorem length_skipLength (cs : List Char) : (skipLength cs).length ≤ cs.length := by
  unfold skipLength
  split
  · split <;> simp
  · exact Nat.le_refl _

/-- A directive after its percent sign. -/
def readDirective? (cs : List Char) : Option (Directive × List Char) := do
  let (name, rest) ← readKey? cs
  let (flags, rest) := readFlags rest
  let (width, rest) := readSize rest
  let (precision, rest) := readPrecision rest
  match skipLength rest with
  | [] => none
  | c :: rest => (Conversion.ofChar? c).map fun conversion =>
    (⟨name, flags, width, precision, conversion⟩, rest)

theorem length_readDirective? {cs rest : List Char} {d : Directive}
    (h : readDirective? cs = some (d, rest)) : rest.length < cs.length := by
  obtain ⟨⟨name, afterKey⟩, hkey, h⟩ := Option.bind_eq_some_iff.1 h
  have hskip := length_skipLength (readPrecision (readSize (readFlags afterKey).2).2).2
  have hprecision := length_readPrecision (readSize (readFlags afterKey).2).2
  have hsize := length_readSize (readFlags afterKey).2
  have hflags := length_readFlags afterKey
  have hname := length_readKey? hkey
  dsimp only at h
  split at h
  · simp at h
  · rename_i c rest' heq
    obtain ⟨conversion, -, hpair⟩ := Option.map_eq_some_iff.1 h
    obtain ⟨-, rfl⟩ := Prod.mk.inj hpair
    simp only [heq, List.length_cons] at hskip
    omega

/-- The pieces of a template; none if a directive breaks off or has an unknown letter. -/
def pieces? : List Char → Option (List Piece)
  | [] => some []
  | '%' :: '%' :: rest => (pieces? rest).map (.literal '%' :: ·)
  | '%' :: rest =>
    match _found : readDirective? rest with
    | none => none
    | some (d, after) => (pieces? after).map (.directive d :: ·)
  | c :: rest => (pieces? rest).map (.literal c :: ·)
termination_by cs => cs.length
decreasing_by
  · exact Nat.lt_succ_of_lt (Nat.lt_succ_self _)
  · exact Nat.lt_succ_of_lt (length_readDirective? _found)
  · exact Nat.lt_succ_self _

end Template

end Fitout.Log
