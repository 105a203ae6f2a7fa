import Fitout.Text.Encoding

/-!
# The codes of texts put together

Characters below the stand-ins spell themselves wherever they stand, so a text may be taken apart
before and after them. A text that an encoding does not refuse is covered by it.
-/

namespace Fitout.Text

section Low

variable {c : Char}

theorem half?_of_low (low : c.toNat < firstStandIn) : half? c = none := by
  rw [half?, dif_neg]
  omega

theorem ne_mark_of_low (low : c.toNat < firstStandIn) : c ≠ mark := by
  rintro rfl
  exact absurd low (by decide +kernel)

theorem codesAfter_cons_of_low (low : c.toNat < firstStandIn) (marks : Nat) (cs : List Char) :
    codesAfter marks (c :: cs) =
      List.replicate marks (.char mark) ++ .char c :: codesAfter 0 cs := by
  rw [codesAfter, if_neg (ne_mark_of_low low), half?_of_low low]

end Low

section Append

variable {before cs after : List Char}

theorem codesAfter_append_of_low_before (low : ∀ c ∈ before, c.toNat < firstStandIn) :
    codesAfter 0 (before ++ cs) = before.map .char ++ codesAfter 0 cs := by
  induction before with
  | nil => rfl
  | cons c rest inductionHypothesis =>
    obtain ⟨first, others⟩ := List.forall_mem_cons.mp low
    rw [List.cons_append, codesAfter_cons_of_low first, inductionHypothesis others]
    rfl

/-- The induction carries the marks before the text. -/
theorem codesAfter_append_of_low_after (low : ∀ c ∈ after, c.toNat < firstStandIn) (marks : Nat) :
    codesAfter marks (cs ++ after) = codesAfter marks cs ++ after.map .char := by
  induction cs generalizing marks with
  | nil =>
    cases after with
    | nil => exact (List.append_nil _).symm
    | cons c rest =>
      obtain ⟨first, others⟩ := List.forall_mem_cons.mp low
      have alone : codesAfter 0 rest = rest.map .char := by
        have all := @codesAfter_append_of_low_before rest [] others
        rw [List.append_nil] at all
        exact all.trans (List.append_nil _)
      rw [List.nil_append, codesAfter_cons_of_low first, alone]
      rfl
  | cons c rest inductionHypothesis =>
    rw [List.cons_append, codesAfter, codesAfter]
    split
    · exact inductionHypothesis (marks + 1)
    · split <;> rw [inductionHypothesis 0, List.append_assoc, List.cons_append]

theorem codes_ofList_of_low (low : ∀ c ∈ cs, c.toNat < firstStandIn) :
    codes (String.ofList cs) = cs.map .char := by
  rw [codes, String.toList_ofList]
  exact @codesAfter_append_of_low_after [] cs low 0

theorem ofChars_of_low (low : ∀ c ∈ cs, c.toNat < firstStandIn) :
    ofChars cs = String.ofList cs := by
  rw [ofChars, ← codes_ofList_of_low low, ofCodes_codes]

end Append

theorem takeWhile_drop_takeWhile_eq_nil_iff {α : Type} {p : α → Bool} {as : List α} :
    (as.drop (as.takeWhile p).length).takeWhile (!p ·) = [] ↔ as.all p = true := by
  induction as with
  | nil => exact ⟨fun _ => rfl, fun _ => rfl⟩
  | cons a rest inductionHypothesis =>
    cases holds : p a with
    | true =>
      rw [List.takeWhile_cons_of_pos holds, List.length_cons, List.drop_succ_cons, List.all_cons,
        holds, Bool.true_and]
      exact inductionHypothesis
    | false => simp [holds]

/-- The texts that have bytes are those without halves. -/
theorem refusal?_utf8_eq_none_iff {s : String} :
    Encoding.utf8.refusal? s = none ↔ isWellFormed s = true := by
  have covered : Encoding.utf8.covers = Code.isChar := rfl
  rw [isWellFormed, ← takeWhile_drop_takeWhile_eq_nil_iff]
  simp [Encoding.refusal?, covered]

end Fitout.Text
