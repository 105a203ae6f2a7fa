import Fitout.Decimal.Whole
import Fitout.Json.Writer
import Fitout.Log.Value
import Fitout.Record

/-!
Values of kinds that JSON lacks, read off records with a `type` and a `value`.
-/

namespace Fitout.Log

/-- Why a record stands for no value. -/
inductive RecordError where
  | noNumber
  | noDecimal
  /-- A member of a set that may change. -/
  | mutable
  deriving DecidableEq, Repr

namespace Value

/-- Entries with whole numbers as keys, the last of equal ones counting. -/
def wholeEntries : List (String × Json) → Except RecordError (List (Key × Value))
  | [] => .ok []
  | (key, value) :: rest =>
    match Decimal.Whole.ofUserText? key with
    | some n => (wholeEntries rest).map ((.whole n, ofJson value) :: ·)
    | none => .error .noNumber

/-- The number that a value is or counts as. -/
def counted? : Json → Option Number
  | .number n => some n
  | .bool b => some (.whole b.toInt)
  | _ => none

/-- Whether two members of a set are the same; numbers are compared by what they are worth. -/
def isSame : Json → Json → Bool
  | .null, .null => true
  | .text s, .text t => s == t
  | a, b =>
    match counted? a, counted? b with
    | some (.whole n), some (.whole m) => n == m
    | some (.real x), some (.real y) => x == y
    | some (.whole n), some (.real x) | some (.real x), some (.whole n) =>
      (Decimal.Binary.ofFloat? x).any fun b => b.isWhole && b.truncate == n
    | _, _ => false

/-- The members of a set, each as it stood first. -/
def distinct : List Json → Except RecordError (List Json)
  | [] => .ok []
  | .list _ :: _ | .object _ :: _ => .error .mutable
  | item :: rest => (distinct rest).map fun others => item :: others.filter (!isSame item ·)

/-- The value that a record stands for. -/
def ofRecord (v : Json) : Except RecordError Value :=
  let items := (Record.list v "value").map ofJson
  match Record.text v "type", Record.get v "value" with
  | "tuple", _ => .ok (.tuple items)
  | "set", _ => (distinct (Record.list v "value")).map fun members => .set (members.map ofJson)
  | "decimal", value =>
    match Decimal.Exact.ofText? value.plain with
    | some d => .ok (.decimal d)
    | none => .error .noDecimal
  | "float", .text s =>
    match Decimal.ofUserText? s with
    | some x => .ok (.number (.real x))
    | none => .error .noNumber
  | _, .object members => (wholeEntries members).map .mapping
  | _, value => .ok (ofJson value)

end Value

end Fitout.Log
