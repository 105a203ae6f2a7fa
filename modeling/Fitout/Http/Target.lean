import Fitout.Text.Cut
import Fitout.Text.Percent

/-!
Targets of requests: a path whose parts are percent-encoded, and a query of named values.
-/

namespace Fitout.Http

/-- A part of a query, in which a plus stands for a space. -/
def queryText (s : String) : String :=
  Text.decodePercent (String.ofList (s.toList.map fun c => if c == '+' then ' ' else c))

def queryOf (s : String) : List (String × String) :=
  ((s.splitOn "&").filter (!·.isEmpty)).map fun pair =>
    let (name, value) := Text.cutAt '=' pair
    (queryText name, queryText (value.getD ""))

/-- A target taken apart: the parts of its path, and its query. -/
structure Target where
  segments : List String
  query : List (String × String)

/-- The parts of a path, which follow its slashes. -/
def segmentsOf (path : String) : List String :=
  (path.splitOn "/").drop 1

/-- Take a target apart, leaving out a fragment. -/
def Target.ofText (s : String) : Target :=
  let (path, query) := Text.cutAt '?' (Text.cutAt '#' s).1
  ⟨segmentsOf (Text.decodePercent path), queryOf (query.getD "")⟩

end Fitout.Http
