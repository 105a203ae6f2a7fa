import Fitout.Text.Printable

/-!
Which texts can be spelled in bytes. ASCII has the first 128 characters only; UTF-8 has all
characters, but not the halves of surrogate pairs.
-/

namespace Fitout.Text

inductive Encoding where
  | ascii
  | utf8
  deriving DecidableEq, Repr

namespace Encoding

def name : Encoding → String
  | ascii => "ascii"
  | utf8 => "utf-8"

/-- Whether bytes can spell a code. -/
def covers : Encoding → Code → Bool
  | ascii, code => code.value < 128
  | utf8, code => code.isChar

def reason : Encoding → String
  | ascii => "ordinal not in range(128)"
  | utf8 => "surrogates not allowed"

end Encoding

/-- The first codes of a text that an encoding does not cover, and how many come before. -/
structure Unencodable where
  encoding : Encoding
  start : Nat
  run : List Code
  deriving DecidableEq, Repr

/-- Why a text cannot be spelled, if so. -/
def Encoding.refusal? (e : Encoding) (s : String) : Option Unencodable :=
  let covered := (codes s).takeWhile e.covers
  let run := ((codes s).drop covered.length).takeWhile (!e.covers ·)
  if run.isEmpty then none else some ⟨e, covered.length, run⟩

/-- The codes in question, with their place. -/
def Unencodable.place (u : Unencodable) : String :=
  match u.run with
  | [code] =>
    let quote := singleQuote.toString
    "character " ++ quote ++ codeEscape code ++ quote ++ " in position " ++ toString u.start
  | run =>
    "characters in position " ++ toString u.start ++ "-" ++
      toString (u.start + run.length - 1)

def Unencodable.message (u : Unencodable) : String :=
  let quote := singleQuote.toString
  quote ++ u.encoding.name ++ quote ++ " codec can't encode " ++ u.place ++ ": " ++
    u.encoding.reason

/-- Whether a text holds characters only. -/
def isWellFormed (s : String) : Bool :=
  (codes s).all Code.isChar

end Fitout.Text
