/-!
Blank characters and what is cut at them. There are two extents: the Unicode property
`White_Space`, and that property together with the four information separators.
-/

namespace Fitout.Text

/-- The Unicode property `White_Space`. -/
def isBlank (c : Char) : Bool :=
  let code := c.toNat
  (9 ≤ code && code ≤ 13) || code == 0x20 || code == 0x85 || code == 0xA0 || code == 0x1680 ||
    (0x2000 ≤ code && code ≤ 0x200A) || code == 0x2028 || code == 0x2029 || code == 0x202F ||
    code == 0x205F || code == 0x3000

/-- White space, or one of the information separators U+001C to U+001F. -/
def isGap (c : Char) : Bool :=
  isBlank c || (0x1C ≤ c.toNat && c.toNat ≤ 0x1F)

/-- Drop the matching characters at both ends. -/
def trimChars (cut : Char → Bool) (cs : List Char) : List Char :=
  ((cs.dropWhile cut).reverse.dropWhile cut).reverse

/-- Drop the matching characters at both ends of a text. -/
def trimWhere (cut : Char → Bool) (s : String) : String :=
  String.ofList (trimChars cut s.toList)

def trim (s : String) : String :=
  trimWhere isBlank s

def trimGaps (s : String) : String :=
  trimWhere isGap s

/-- The maximal runs of characters that are no gaps. -/
def words (s : String) : List String :=
  ((s.toList.splitBy fun a b => isGap a == isGap b).filter fun run => !run.all isGap).map
    String.ofList

end Fitout.Text
