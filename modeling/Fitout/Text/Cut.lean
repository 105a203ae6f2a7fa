/-!
Texts cut at a character.
-/

namespace Fitout.Text

/-- What stands before the first of a character, and what after it, if it occurs. -/
def cutAt (c : Char) (s : String) : String × Option String :=
  let cs := s.toList
  let before := cs.takeWhile (· != c)
  match cs.drop before.length with
  | [] => (s, none)
  | _ :: rest => (String.ofList before, some (String.ofList rest))

/-- What stands before the last of a character, if it occurs, and what after it. -/
def cutAtLast (c : Char) (s : String) : Option String × String :=
  let cs := s.toList
  let after := (cs.reverse.takeWhile (· != c)).reverse
  if after.length == cs.length then (none, s)
  else (some (String.ofList (cs.take (cs.length - after.length - 1))), String.ofList after)

end Fitout.Text
