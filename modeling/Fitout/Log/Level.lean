/-!
The levels of log entries, and the names that set the least level to be written.
-/

namespace Fitout

inductive Level where
  | debug
  | info
  | warning
  | error
  | critical
  deriving DecidableEq, Repr

namespace Level

def name : Level → String
  | debug => "DEBUG"
  | info => "INFO"
  | warning => "WARNING"
  | error => "ERROR"
  | critical => "CRITICAL"

def severity : Level → Nat
  | debug => 10
  | info => 20
  | warning => 30
  | error => 40
  | critical => 50

/-- The names of severities, some of which no entry has. -/
def severities : List (String × Nat) :=
  [("CRITICAL", 50), ("FATAL", 50), ("ERROR", 40), ("WARNING", 30), ("WARN", 30), ("INFO", 20),
    ("DEBUG", 10), ("NOTSET", 0)]

/-- The upper case of a character, in so far as it is one of ASCII: the dotless i, the long s and
two ligatures of s and t have such forms. -/
def upperChar (c : Char) : List Char :=
  if c.toNat == 0x131 then ['I']
  else if c.toNat == 0x17F then ['S']
  else if c.toNat == 0xFB05 || c.toNat == 0xFB06 then ['S', 'T']
  else [c.toUpper]

/-- A name in upper case, in so far as it can be one of a severity. -/
def upperName (name : String) : String :=
  String.ofList (name.toList.flatMap upperChar)

/-- Names that are taken, but by a format and a table of styles. -/
inductive BadName where
  | format
  | styles
  deriving DecidableEq, Repr

/-- The least severity to be written, by its name in any case; a name that is not known stands for
the usual one. -/
def threshold (name : String) : Except BadName Nat :=
  let name := upperName name
  if name == "BASIC_FORMAT" then .error .format
  else if name == "_STYLES" then .error .styles
  else .ok ((severities.lookup name).getD info.severity)

end Level

end Fitout
