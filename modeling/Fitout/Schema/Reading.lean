import Fitout.Json.Basic

/-!
Reading a value out of JSON, with every problem reported at its place. Two readings taken together
are valid only if both are, and report the problems of both in order.
-/

namespace Fitout.Schema

/-- A step from a value into one of its parts. -/
inductive Step where
  | member (name : String)
  | item (index : Nat)
  deriving DecidableEq, Repr

inductive Problem where
  | missing
  | intType
  | intParsing
  | intParsingSize
  | intFromFloat
  | finiteNumber
  | floatType
  | floatParsing
  | stringType
  | stringUnicode
  | stringTooLong
  | boolParsing
  | listType
  | objectType
  | bodyType
  | tooSmall
  | notOneOf
  | refused
  | badJson
  deriving DecidableEq, Repr

def Problem.name : Problem → String
  | missing => "missing"
  | intType => "int_type"
  | intParsing => "int_parsing"
  | intParsingSize => "int_parsing_size"
  | intFromFloat => "int_from_float"
  | finiteNumber => "finite_number"
  | floatType => "float_type"
  | floatParsing => "float_parsing"
  | stringType => "string_type"
  | stringUnicode => "string_unicode"
  | stringTooLong => "string_too_long"
  | boolParsing => "bool_parsing"
  | listType => "list_type"
  | objectType => "model_type"
  | bodyType => "model_attributes_type"
  | tooSmall => "greater_than_equal"
  | notOneOf => "enum"
  | refused => "value_error"
  | badJson => "json_invalid"

/-- A problem and the way to the part that has it. -/
structure Issue where
  path : List Step
  problem : Problem
  deriving DecidableEq, Repr

/-- The part that a path leads to, or the last one on the way if it leads on to nothing. -/
def part : List Step → Json → Json
  | .member name :: rest, .object members =>
    match members.lookup name with
    | some value => part rest value
    | none => .object members
  | .item index :: rest, .list items =>
    match items[index]? with
    | some value => part rest value
    | none => .list items
  | _, value => value

def Step.toJson : Step → Json
  | member name => .text name
  | item index => .ofNat index

def Issue.toJson (issue : Issue) : Json :=
  .object [("loc", .list (issue.path.map Step.toJson)), ("type", .text issue.problem.name)]

/-- What was read, or all that stands in the way. -/
inductive Reading (α : Type) where
  | valid (value : α)
  | invalid (issues : List Issue)

namespace Reading

variable {α β : Type}

def fail (problem : Problem) : Reading α :=
  invalid [⟨[], problem⟩]

def map (f : α → β) : Reading α → Reading β
  | valid a => valid (f a)
  | invalid issues => invalid issues

/-- Both readings, with the issues of the first before those of the second. -/
def seq (f : Reading (α → β)) (a : Reading α) : Reading β :=
  match f, a with
  | valid f, valid a => valid (f a)
  | valid _, invalid issues => invalid issues
  | invalid issues, valid _ => invalid issues
  | invalid first, invalid second => invalid (first ++ second)

instance : Applicative Reading where
  pure := valid
  map := map
  seq f a := seq f (a ())

/-- The same reading, seen from the value that the part belongs to. -/
def under (step : Step) : Reading α → Reading α
  | valid a => valid a
  | invalid issues => invalid (issues.map fun issue => { issue with path := step :: issue.path })

def toOption : Reading α → Option α
  | valid a => some a
  | invalid _ => none

def issueCount : Reading α → Nat
  | valid _ => 0
  | invalid issues => issues.length

@[simp] theorem map_valid (f : α → β) (a : α) : f <$> valid a = valid (f a) := rfl

@[simp] theorem map_invalid (f : α → β) (issues : List Issue) :
    f <$> (invalid issues : Reading α) = invalid issues := rfl

@[simp] theorem valid_seq_valid (f : α → β) (a : α) : valid f <*> valid a = valid (f a) := rfl

@[simp] theorem valid_seq_invalid (f : α → β) (issues : List Issue) :
    valid f <*> invalid issues = invalid issues := rfl

@[simp] theorem invalid_seq_valid (issues : List Issue) (a : α) :
    (invalid issues : Reading (α → β)) <*> valid a = invalid issues := rfl

@[simp] theorem invalid_seq_invalid (first second : List Issue) :
    (invalid first : Reading (α → β)) <*> (invalid second : Reading α) =
      invalid (first ++ second) := rfl

end Reading

/-- The first of several names that an object has a member of. -/
def firstPresent? (members : List (String × Json)) : List String → Option (String × Json)
  | [] => none
  | name :: names =>
    match members.lookup name with
    | some value => some (name, value)
    | none => firstPresent? members names

/-- A member known by several names, the first present one of which counts. -/
def field {α : Type} (members : List (String × Json)) (names : List String)
    (check : Json → Reading α) : Reading α :=
  match firstPresent? members names with
  | some (name, value) => (check value).under (.member name)
  | none => (Reading.fail .missing).under (.member (names.headD ""))

/-- A member that may be absent. -/
def fieldOr {α : Type} (members : List (String × Json)) (name : String) (absent : α)
    (check : Json → Reading α) : Reading α :=
  match members.lookup name with
  | some value => (check value).under (.member name)
  | none => .valid absent

/-- Each item of a list, from an index on. -/
def itemsFrom {α : Type} (check : Json → Reading α) (index : Nat) :
    List Json → Reading (List α)
  | [] => .valid []
  | item :: rest =>
    List.cons <$> (check item).under (.item index) <*> itemsFrom check (index + 1) rest

/-- A list of values that are all to be read. -/
def items {α : Type} (check : Json → Reading α) : Json → Reading (List α)
  | .list values => itemsFrom check 0 values
  | _ => .fail .listType

/-- Null, or a value to be read. -/
def nullable {α : Type} (check : Json → Reading α) : Json → Reading (Option α)
  | .null => .valid none
  | value => some <$> check value

end Fitout.Schema
