import Mathlib.Data.List.DropRight
import Fitout.Number
import Fitout.Proofs.Text.Codes
import Fitout.Text.Encoding

/-!
# Texts that are tidy

A text is tidy if it holds characters only and has no white space at its ends. Trimming makes a text
tidy and leaves a tidy one alone. What numbers are written with is all visible, so their texts are
tidy.
-/

namespace Fitout

namespace Text

section Trim

variable {cut : Char → Bool} {cs : List Char}

/-- What is cut lies before and after what is kept. -/
theorem exists_eq_append_trimChars (cut : Char → Bool) (cs : List Char) :
    ∃ before after, cs = before ++ (trimChars cut cs ++ after) ∧
      (∀ c ∈ before, cut c = true) ∧ ∀ c ∈ after, cut c = true := by
  let started := cs.dropWhile cut
  have ended : started = trimChars cut cs ++ (started.reverse.takeWhile cut).reverse := by
    have reversed := congrArg List.reverse (started.reverse.takeWhile_append_dropWhile (p := cut))
    rw [List.reverse_append, List.reverse_reverse] at reversed
    exact reversed.symm
  refine ⟨cs.takeWhile cut, (started.reverse.takeWhile cut).reverse, ?_,
    fun c member => List.mem_takeWhile_imp member,
    fun c member => List.mem_takeWhile_imp (List.mem_reverse.mp member)⟩
  rw [← ended]
  exact List.takeWhile_append_dropWhile.symm

/-- The first character that is kept at the start stays the first when the end is cut. -/
theorem trimChars_trimChars (cut : Char → Bool) (cs : List Char) :
    trimChars cut (trimChars cut cs) = trimChars cut cs := by
  let started := cs.dropWhile cut
  have ended : trimChars cut cs = started.rdropWhile cut := rfl
  have start : (started.rdropWhile cut).dropWhile cut = started.rdropWhile cut := by
    apply List.dropWhile_eq_self_iff.mpr
    intro some
    have same := (List.rdropWhile_prefix cut started).getElem some
    rw [same]
    exact List.dropWhile_eq_self_iff.mp (List.dropWhile_idempotent cut cs) _
  calc trimChars cut (trimChars cut cs)
      = ((started.rdropWhile cut).dropWhile cut).rdropWhile cut := by rw [ended]; rfl
    _ = (started.rdropWhile cut).rdropWhile cut := by rw [start]
    _ = started.rdropWhile cut := List.rdropWhile_idempotent cut started

theorem trimChars_eq_self (kept : ∀ c ∈ cs, cut c = false) : trimChars cut cs = cs := by
  have uncut {cs : List Char} (kept : ∀ c ∈ cs, cut c = false) : cs.dropWhile cut = cs := by
    apply List.dropWhile_eq_self_iff.mpr
    intro some
    rw [kept _ (List.getElem_mem some)]
    exact Bool.false_ne_true
  rw [trimChars, uncut kept, uncut, List.reverse_reverse]
  intro c member
  exact kept c (List.mem_reverse.mp member)

end Trim

/-- Whether a text holds characters only and has no white space at its ends. -/
structure IsTidy (s : String) : Prop where
  wellFormed : isWellFormed s = true
  trimmed : trim s = s

theorem lt_firstStandIn_of_isBlank {c : Char} (blank : isBlank c = true) :
    c.toNat < firstStandIn := by
  simp [isBlank] at blank
  simp only [firstStandIn]
  omega

/-- The codes of a text are those of what is kept of it, between white space. -/
theorem codes_trim_sublist (s : String) : (codes (trim s)).Sublist (codes s) := by
  obtain ⟨before, after, parts, cutBefore, cutAfter⟩ := exists_eq_append_trimChars isBlank s.toList
  have whole : codes s = before.map .char ++ (codes (trim s) ++ after.map .char) := by
    rw [codes, parts,
      codesAfter_append_of_low_before fun c member =>
        lt_firstStandIn_of_isBlank (cutBefore c member),
      codesAfter_append_of_low_after fun c member =>
        lt_firstStandIn_of_isBlank (cutAfter c member),
      codes, trim, trimWhere, String.toList_ofList]
  rw [whole]
  exact ((List.sublist_append_left _ _).trans (List.sublist_append_right _ _))

theorem isTidy_trim {s : String} (wellFormed : isWellFormed s = true) : IsTidy (trim s) where
  wellFormed := by
    rw [isWellFormed, List.all_eq_true] at wellFormed ⊢
    exact fun code member => wellFormed code ((codes_trim_sublist s).subset member)
  trimmed := by
    simp only [trim, trimWhere, String.toList_ofList, trimChars_trimChars]

/-- A visible character of ASCII. -/
def isGraphic (c : Char) : Bool :=
  0x21 ≤ c.toNat && c.toNat ≤ 0x7E

/-- Whether all characters of a text are visible ones of ASCII. -/
def IsGraphic (s : String) : Prop :=
  s.toList.all isGraphic = true

theorem isGraphic_iff {s : String} : IsGraphic s ↔ ∀ c ∈ s.toList, isGraphic c = true :=
  List.all_eq_true

theorem isBlank_eq_false {c : Char} (graphic : isGraphic c = true) : isBlank c = false := by
  simp only [isGraphic, Bool.and_eq_true, decide_eq_true_eq] at graphic
  simp [isBlank]
  omega

theorem lt_firstStandIn_of_isGraphic {c : Char} (graphic : isGraphic c = true) :
    c.toNat < firstStandIn := by
  simp only [isGraphic, Bool.and_eq_true, decide_eq_true_eq] at graphic
  simp only [firstStandIn]
  omega

theorem IsGraphic.isTidy {s : String} (graphic : IsGraphic s) : IsTidy s where
  wellFormed := by
    have low : ∀ c ∈ s.toList, c.toNat < firstStandIn := fun c member =>
      lt_firstStandIn_of_isGraphic (isGraphic_iff.mp graphic c member)
    have spelt := codes_ofList_of_low low
    rw [String.ofList_toList] at spelt
    rw [isWellFormed, spelt, List.all_map, List.all_eq_true]
    exact fun c member => rfl
  trimmed := by
    have visible (c : Char) (member : c ∈ s.toList) : isBlank c = false :=
      isBlank_eq_false (isGraphic_iff.mp graphic c member)
    rw [trim, trimWhere, trimChars_eq_self visible]
    exact String.ofList_toList

section Graphic

variable {s t : String} {cs : List Char}

theorem isGraphic_ofList (graphic : ∀ c ∈ cs, isGraphic c = true) :
    IsGraphic (String.ofList cs) := by
  rw [isGraphic_iff, String.toList_ofList]
  exact graphic

theorem IsGraphic.append (first : IsGraphic s) (second : IsGraphic t) : IsGraphic (s ++ t) := by
  rw [isGraphic_iff, String.toList_append, List.forall_mem_append]
  exact ⟨isGraphic_iff.mp first, isGraphic_iff.mp second⟩

theorem isGraphic_of_mem_toDigits {n : Nat} {c : Char} (digit : c ∈ Nat.toDigits 10 n) :
    isGraphic c = true := by
  have range := Nat.isDigit_of_mem_toDigits (by decide) (by decide) digit
  simp only [Char.isDigit, Bool.and_eq_true, decide_eq_true_eq, ge_iff_le,
    UInt32.le_iff_toNat_le] at range
  simp only [isGraphic, Bool.and_eq_true, decide_eq_true_eq]
  exact ⟨Nat.le_trans (by decide) range.1, Nat.le_trans range.2 (by decide)⟩

theorem isGraphic_replicate {c : Char} (graphic : isGraphic c = true) (count : Nat) :
    ∀ d ∈ List.replicate count c, isGraphic d = true := by
  intro d member
  rw [List.eq_of_mem_replicate member]
  exact graphic

theorem isGraphic_int (n : Int) : IsGraphic (toString n) := by
  have whole (m : Nat) : IsGraphic m.repr := by
    rw [Nat.repr_eq_ofList_toDigits]
    exact isGraphic_ofList fun c digit => isGraphic_of_mem_toDigits digit
  cases n with
  | ofNat m => exact whole m
  | negSucc m =>
    have sign : IsGraphic "-" := rfl
    exact sign.append (whole (m + 1))

end Graphic

end Text

namespace Decimal

open Text

section Layout

variable {digits : List Char} (graphic : ∀ c ∈ digits, isGraphic c = true)

include graphic

theorem isGraphic_plainText (lead : Int) : IsGraphic (plainText digits lead) := by
  cases lead with
  | ofNat e =>
    apply isGraphic_ofList
    rw [List.forall_mem_append, List.forall_mem_append, List.forall_mem_cons]
    refine ⟨⟨fun c member => graphic c (List.mem_of_mem_take member),
      isGraphic_replicate (by decide) _⟩, by decide, ?_⟩
    split
    · exact List.forall_mem_singleton.mpr (by decide)
    · exact fun c member => graphic c (List.mem_of_mem_drop member)
  | negSucc e =>
    apply isGraphic_ofList
    rw [List.cons_append, List.cons_append, List.forall_mem_cons, List.forall_mem_cons,
      List.forall_mem_append]
    exact ⟨by decide, by decide, isGraphic_replicate (by decide) e, graphic⟩

theorem isGraphic_exponentForm (width : Nat) (lead : Int) :
    IsGraphic (exponentForm width digits lead) := by
  apply IsGraphic.append
  · split
    · rename_i first second rest
      obtain ⟨first, others⟩ := List.forall_mem_cons.mp graphic
      apply isGraphic_ofList
      rw [List.forall_mem_cons, List.forall_mem_cons]
      exact ⟨first, by decide, others⟩
    · exact isGraphic_ofList graphic
  · apply isGraphic_ofList
    rw [List.cons_append, List.cons_append, List.forall_mem_cons, List.forall_mem_cons,
      List.forall_mem_append]
    refine ⟨by decide, ?_, isGraphic_replicate (by decide) _,
      fun c digit => isGraphic_of_mem_toDigits digit⟩
    split <;> decide

end Layout

theorem Scientific.isGraphic_text (layout : Layout) (s : Scientific) :
    IsGraphic (s.text layout) := by
  have digits : ∀ c ∈ Nat.toDigits 10 s.digits, isGraphic c = true :=
    fun c digit => isGraphic_of_mem_toDigits digit
  have body (plain : Bool) (lead : Int) : IsGraphic (if plain then
      plainText (Nat.toDigits 10 s.digits) lead
      else exponentForm layout.exponentWidth (Nat.toDigits 10 s.digits) lead) := by
    split
    · exact isGraphic_plainText digits lead
    · exact isGraphic_exponentForm digits layout.exponentWidth lead
  unfold text
  dsimp only
  split
  · have sign : IsGraphic "-" := rfl
    exact sign.append (body _ _)
  · exact body _ _

theorem isGraphic_textOf (x : Float) : IsGraphic (textOf .standard x) := by
  unfold textOf
  split
  · exact Scientific.isGraphic_text _ _
  · split
    · rfl
    · split <;> rfl

end Decimal

theorem Number.isTidy_text (n : Number) : Text.IsTidy n.text := by
  apply Text.IsGraphic.isTidy
  cases n with
  | whole n => exact Text.isGraphic_int n
  | real x => exact Decimal.isGraphic_textOf x

end Fitout
