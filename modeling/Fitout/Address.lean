import Fitout.Address.Host
import Fitout.Decimal.Whole
import Fitout.Text.Percent

/-!
Addresses: `scheme://user@host:port/path?query#fragment`, of which every part may be missing. They
are kept percent-encoded, and in an address that is not relative no part of the path is a dot or
two.
-/

namespace Fitout

structure Address where
  scheme : String
  /-- A name and a password with a colon between them. -/
  user : String
  host : String
  port : Option Int
  path : String
  query : Option String
  fragment : Option String
  deriving DecidableEq, Repr

namespace Address

/-! ### Characters -/

def isControl (c : Char) : Bool :=
  c.toNat < 0x20 || c.toNat == 0x7F

/-- Whether a character is visible and not among those that a part sets aside. -/
def isSafe (setAside : String) (c : Char) : Bool :=
  0x20 < c.toNat && c.toNat < 0x7F && !setAside.contains c

def encodePath (s : String) : String :=
  Text.encodePercent (isSafe "\"#<>?`\x7b\x7d") s

def encodeQuery (s : String) : String :=
  Text.encodePercent (isSafe "\"#<>") s

def encodeFragment (s : String) : String :=
  Text.encodePercent (isSafe "\"<>`") s

def encodeUser (s : String) : String :=
  Text.encodePercent (isSafe "\"#<>?`\x7b\x7d/;=@[\\]^|") s

/-! ### Parts -/

/-- A letter, followed by letters, digits and some signs; or nothing. -/
def isScheme (s : String) : Bool :=
  match s.toList with
  | [] => true
  | c :: rest => c.isAlpha && rest.all fun c => c.isAlphanum || c == '+' || c == '.' || c == '-'

def splitScheme (s : String) : String × String :=
  match Text.cutAt ':' s with
  | (scheme, some rest) => if isScheme scheme then (scheme, rest) else ("", s)
  | (_, none) => ("", s)

/-- What stands between two slashes and the next one, and the path from there on. -/
def splitAuthority (s : String) : String × String :=
  match s.toList with
  | '/' :: '/' :: rest =>
    let authority := rest.takeWhile (· != '/')
    (String.ofList authority, String.ofList (rest.drop authority.length))
  | _ => ("", s)

/-- A host, which may stand in brackets, and the text of its port. -/
def splitPort (s : String) : String × String :=
  match s.startsWith "[", Text.cutAtLast ']' s with
  | true, (some inside, rest) => (inside ++ "]", (rest.dropPrefix ":").toString)
  | _, _ =>
    let (host, port) := Text.cutAt ':' s
    (host, port.getD "")

/-- The host as it is kept; one that seems numeric must be so. -/
def hostOf? (host : String) : Option String :=
  if seemsFourPart host then if isFourPart host then some host else none
  else if host.startsWith "[" && host.endsWith "]" then
    if isEightPart ((host.drop 1).dropEnd 1).toString then some host else none
  else if host.toList.all (·.toNat < 128) then
    some (Text.encodePercent (isSafe "#/:<>?@[]^") host.toLower)
  else some host.toLower

/-- The ports that need not be named. -/
def usualPort? (scheme : String) : Option Int :=
  [("ftp", 21), ("http", 80), ("https", 443), ("ws", 80), ("wss", 443)].lookup scheme

/-- The port as it is kept, where the usual one counts as none. -/
def portOf? (scheme port : String) : Option (Option Int) :=
  if port.isEmpty then some none
  else (Decimal.Whole.ofUserText? port).map fun n =>
    if usualPort? scheme == some n then none else some n

/-! ### Paths -/

/-- The path in which one dot stands for nothing and two for the part before them. -/
def withoutDots (path : String) : String :=
  let kept : List String := (path.splitOn "/").foldl (fun kept part =>
    if part == "." then kept
    else if part == ".." then if kept == [""] then kept else kept.tail
    else part :: kept) []
  "/".intercalate kept.reverse

def hasAuthority (a : Address) : Bool :=
  !a.user.isEmpty || !a.host.isEmpty || a.port.isSome

/-- Whether an address stands for itself, and not for something beside another one. -/
def isRooted (a : Address) : Bool :=
  !a.scheme.isEmpty || a.hasAuthority

/-- What is asked for at an address: the path, and the query if there is one. -/
def target (a : Address) : String :=
  (if a.path.isEmpty then "/" else a.path) ++ ((a.query.map ("?" ++ ·)).getD "")

def withPath (a : Address) (path : String) (query : Option String) : Address :=
  { a with
    path := encodePath (if a.isRooted then withoutDots path else path)
    query := query.map encodeQuery }

/-- The address of a target below this one. -/
def below (a : Address) (target : String) : Address :=
  let start := a.target
  let start := if start.endsWith "/" then start else start ++ "/"
  let (path, query) := Text.cutAt '?' (start ++ (target.dropWhile (· == '/')).toString)
  a.withPath path query

/-! ### Reading and writing -/

/-- Whether a path may follow what comes before it. -/
def allowsPath (a : Address) (path : String) : Bool :=
  if a.hasAuthority then path.isEmpty || path.startsWith "/"
  else !a.scheme.isEmpty || !(path.startsWith "//" || path.startsWith ":")

def lengthLimit : Nat := 65536

def ofText? (s : String) : Option Address := do
  if lengthLimit < Text.length s || s.toList.any isControl then none
  else
    let (front, fragment) := Text.cutAt '#' s
    let (front, query) := Text.cutAt '?' front
    let (scheme, rest) := splitScheme front
    let (authority, path) := splitAuthority rest
    let (user, place) := Text.cutAtLast '@' authority
    let (host, port) := splitPort place
    let a : Address := ⟨scheme.toLower, encodeUser (user.getD ""), ← hostOf? host,
      ← portOf? scheme port, "", none, fragment.map encodeFragment⟩
    if a.allowsPath path then some (a.withPath path query) else none

/-- Where a text leads that is read beside an address. -/
def follow? (a : Address) (s : String) : Option Address :=
  (ofText? s).map fun other =>
    if !other.scheme.isEmpty && !other.host.isEmpty then other else a.below other.target

def authority (a : Address) : String :=
  (if a.user.isEmpty then "" else a.user ++ "@") ++ a.host ++
    ((a.port.map fun n => ":" ++ toString n).getD "")

def plainText (a : Address) : String :=
  (if a.scheme.isEmpty then "" else a.scheme ++ ":") ++
    (if a.authority.isEmpty then "" else "//" ++ a.authority) ++ a.path ++
    ((a.query.map ("?" ++ ·)).getD "")

def text (a : Address) : String :=
  a.plainText ++ ((a.fragment.map ("#" ++ ·)).getD "")

/-- Whether the text of an address begins with a name and a colon. -/
def showsScheme (a : Address) : Bool :=
  let start := (Text.cutAt '/' a.plainText).1
  start.contains ':' && !start.startsWith ":"

/-- The name and the password that an address bears, in the form in which they are sent. -/
def credentials? (a : Address) : Option String :=
  let (name, password) := Text.cutAt ':' a.user
  let name := Text.decodePercent name
  let password := Text.decodePercent (password.getD "")
  if name.isEmpty && password.isEmpty then none
  else some (Bytes.ofText (name ++ ":" ++ password)).base64

end Address

end Fitout
