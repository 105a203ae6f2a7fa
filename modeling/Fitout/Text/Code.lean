/-!
The codes of a text: characters, and halves of surrogate pairs. JSON text can name a half without
its partner. It is no character, so a string has to spell it with characters: a mark, and the
stand-in of the half, a private-use character of the last plane. Where a stand-in means itself, the
marks before it are doubled, so that each string spells one list of codes, and each list of codes
has one spelling. All other characters, and marks before them, spell themselves.

Texts that are put together have the codes of both, one after the other, but where one that ends in
marks comes before one that begins with marks or none and a stand-in.
-/

namespace Fitout.Text

/-- A half of a surrogate pair, by the number of halves before it. -/
abbrev Half := Fin 0x800

inductive Code where
  | char (c : Char)
  | half (n : Half)
  deriving DecidableEq, Repr

namespace Code

/-- The number of the first half. -/
def firstHalf : Nat := 0xD800

/-- The number of a code. -/
def value : Code → Nat
  | char c => c.toNat
  | half n => firstHalf + n

/-- The code of a number, which is below `0x110000`. -/
def ofNat (n : Nat) : Code :=
  if h : firstHalf ≤ n ∧ n < firstHalf + 0x800 then half ⟨n - firstHalf, by omega⟩
  else char (Char.ofNat n)

def char? : Code → Option Char
  | char c => some c
  | half _ => none

def isChar : Code → Bool
  | char _ => true
  | half _ => false

end Code

/-- The character that a high and a low half make together. -/
def joined? (high low : Nat) : Option Char :=
  if 0xD800 ≤ high && high < 0xDC00 && 0xDC00 ≤ low && low < 0xE000 then
    some (Char.ofNat (0x10000 + (high - 0xD800) * 0x400 + (low - 0xDC00)))
  else none

/-- The mark before a stand-in that means a half. -/
def mark : Char :=
  Char.ofNat 0x10FFFF

def firstStandIn : Nat := 0x10D800

/-- The stand-in of a half. -/
def standIn (n : Half) : Char :=
  Char.ofNat (firstStandIn + n)

/-- The half that a character is the stand-in of. -/
def half? (c : Char) : Option Half :=
  if h : firstStandIn ≤ c.toNat ∧ c.toNat < firstStandIn + 0x800 then
    some ⟨c.toNat - firstStandIn, by omega⟩
  else none

/-- The codes that characters spell after so many marks. -/
def codesAfter (marks : Nat) : List Char → List Code
  | [] => List.replicate marks (.char mark)
  | c :: rest =>
    if c = mark then codesAfter (marks + 1) rest
    else match half? c with
      | none => List.replicate marks (.char mark) ++ .char c :: codesAfter 0 rest
      | some n =>
        List.replicate (marks / 2) (.char mark) ++
          (if marks % 2 = 0 then .char c else .half n) :: codesAfter 0 rest

/-- The characters that spell codes, with so many marks before them. -/
def spellAfter (marks : Nat) : List Code → List Char
  | [] => List.replicate marks mark
  | .char c :: rest =>
    if c = mark then spellAfter (marks + 1) rest
    else match half? c with
      | none => List.replicate marks mark ++ c :: spellAfter 0 rest
      | some _ => List.replicate (2 * marks) mark ++ c :: spellAfter 0 rest
  | .half n :: rest => List.replicate (2 * marks + 1) mark ++ standIn n :: spellAfter 0 rest

/-- The codes of a text. -/
def codes (s : String) : List Code :=
  codesAfter 0 s.toList

def ofCodes (codes : List Code) : String :=
  String.ofList (spellAfter 0 codes)

/-- The text of characters, which stand for themselves. -/
def ofChars (cs : List Char) : String :=
  ofCodes (cs.map .char)

/-- The characters of a text, without the halves. -/
def chars (s : String) : List Char :=
  (codes s).filterMap Code.char?

/-- How many codes a text has. -/
def length (s : String) : Nat :=
  (codes s).length

/-- The first codes of a text. -/
def take (n : Nat) (s : String) : String :=
  ofCodes ((codes s).take n)

theorem toNat_standIn (n : Half) : (standIn n).toNat = firstStandIn + n := by
  have valid : (firstStandIn + n).isValidChar := by
    right
    simp only [firstStandIn]
    omega
  rw [standIn, Char.ofNat, dif_pos valid]
  rfl

theorem half?_standIn (n : Half) : half? (standIn n) = some n := by
  have range : firstStandIn ≤ (standIn n).toNat ∧ (standIn n).toNat < firstStandIn + 0x800 := by
    rw [toNat_standIn]
    omega
  have same : (standIn n).toNat - firstStandIn = n := by
    rw [toNat_standIn]
    omega
  rw [half?, dif_pos range]
  exact congrArg some (Fin.ext same)

theorem standIn_of_half?_eq_some {c : Char} {n : Half} (meant : half? c = some n) :
    standIn n = c := by
  unfold half? at meant
  split at meant
  · rename_i range
    obtain rfl := Option.some.inj meant
    have same : firstStandIn + (c.toNat - firstStandIn) = c.toNat := by omega
    rw [standIn]
    simp only [same, Char.ofNat_toNat]
  · cases meant

theorem half?_mark : half? mark = none := by
  decide +kernel

theorem standIn_ne_mark (n : Half) : standIn n ≠ mark := by
  intro same
  have meant := half?_standIn n
  rw [same, half?_mark] at meant
  cases meant

theorem codesAfter_marks (marks more : Nat) (cs : List Char) :
    codesAfter marks (List.replicate more mark ++ cs) = codesAfter (marks + more) cs := by
  induction more generalizing marks with
  | zero => rfl
  | succ more inductionHypothesis =>
    rw [List.replicate_succ, List.cons_append, codesAfter, if_pos rfl, inductionHypothesis,
      Nat.add_assoc, Nat.add_comm 1]

theorem spellAfter_marks (marks more : Nat) (codes : List Code) :
    spellAfter marks (List.replicate more (.char mark) ++ codes) =
      spellAfter (marks + more) codes := by
  induction more generalizing marks with
  | zero => rfl
  | succ more inductionHypothesis =>
    rw [List.replicate_succ, List.cons_append, spellAfter, if_pos rfl, inductionHypothesis,
      Nat.add_assoc, Nat.add_comm 1]

theorem codesAfter_spellAfter (marks : Nat) (codes : List Code) :
    codesAfter 0 (spellAfter marks codes) = List.replicate marks (.char mark) ++ codes := by
  induction codes generalizing marks with
  | nil =>
    have all := codesAfter_marks 0 marks []
    rw [List.append_nil, Nat.zero_add] at all
    rw [spellAfter, all, codesAfter, List.append_nil]
  | cons code rest inductionHypothesis =>
    cases code with
    | char c =>
      rw [spellAfter]
      split
      · rename_i marked
        rw [inductionHypothesis, List.replicate_succ', List.append_assoc, marked]
        rfl
      · rename_i unmarked
        split
        · rename_i ordinary
          rw [codesAfter_marks, codesAfter, if_neg unmarked, ordinary, Nat.zero_add]
          simp only [inductionHypothesis, List.replicate_zero, List.nil_append]
        · rename_i n meant
          have even : 2 * marks % 2 = 0 ∧ 2 * marks / 2 = marks := by omega
          rw [codesAfter_marks, codesAfter, if_neg unmarked, meant, Nat.zero_add]
          simp only [inductionHypothesis, even, if_true, List.replicate_zero, List.nil_append]
    | half n =>
      have odd : (2 * marks + 1) % 2 ≠ 0 ∧ (2 * marks + 1) / 2 = marks := by omega
      rw [spellAfter, codesAfter_marks, codesAfter, if_neg (standIn_ne_mark n), half?_standIn,
        Nat.zero_add]
      simp only [inductionHypothesis, odd, if_false, List.replicate_zero, List.nil_append]

theorem spellAfter_codesAfter (marks : Nat) (cs : List Char) :
    spellAfter 0 (codesAfter marks cs) = List.replicate marks mark ++ cs := by
  induction cs generalizing marks with
  | nil =>
    have all := spellAfter_marks 0 marks []
    rw [List.append_nil, Nat.zero_add] at all
    rw [codesAfter, all, spellAfter, List.append_nil]
  | cons c rest inductionHypothesis =>
    rw [codesAfter]
    split
    · rename_i marked
      rw [inductionHypothesis, List.replicate_succ', List.append_assoc, marked]
      rfl
    · rename_i unmarked
      split
      · rename_i ordinary
        rw [spellAfter_marks, spellAfter, if_neg unmarked, ordinary, Nat.zero_add]
        simp only [inductionHypothesis, List.replicate_zero, List.nil_append]
      · rename_i n meant
        rw [spellAfter_marks, Nat.zero_add]
        split
        · rename_i even
          have twice : 2 * (marks / 2) = marks := by omega
          rw [spellAfter, if_neg unmarked, meant]
          simp only [inductionHypothesis, twice, List.replicate_zero, List.nil_append]
        · rename_i odd
          have twice : 2 * (marks / 2) + 1 = marks := by omega
          rw [spellAfter, standIn_of_half?_eq_some meant, twice]
          simp only [inductionHypothesis, List.replicate_zero, List.nil_append]

theorem codes_ofCodes (cs : List Code) : codes (ofCodes cs) = cs := by
  rw [codes, ofCodes, String.toList_ofList, codesAfter_spellAfter]
  rfl

theorem ofCodes_codes (s : String) : ofCodes (codes s) = s := by
  rw [codes, ofCodes, spellAfter_codesAfter, List.replicate_zero, List.nil_append,
    String.ofList_toList]

/-- A text without halves is spelt by its characters. -/
theorem ofChars_chars {s : String} (whole : (codes s).all Code.isChar = true) :
    ofChars (chars s) = s := by
  have each : (chars s).map .char = codes s := by
    rw [chars]
    generalize codes s = cs at whole
    induction cs with
    | nil => rfl
    | cons code rest inductionHypothesis =>
      rw [List.all_cons, Bool.and_eq_true] at whole
      obtain ⟨first, others⟩ := whole
      cases code with
      | char c => exact congrArg (.char c :: ·) (inductionHypothesis others)
      | half n => cases first
  rw [ofChars, each, ofCodes_codes]

end Fitout.Text
