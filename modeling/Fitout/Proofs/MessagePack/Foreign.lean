import Mathlib.Data.List.Basic
import Fitout.MessagePack.Decode
import Fitout.Text.Encoding

/-!
# Values that JSON lacks

Where others wrote into a cache, bytes, custom values and keys in bytes are unpacked. As JSON they
are texts and names that are not well formed, unless bytes spell a text. All that is unpacked as a
text is well formed, so neither in the place of a text nor under a name is one taken for the other.
-/

namespace Fitout

namespace Text

theorem isWellFormed_ofCodes (cs : List Code) : isWellFormed (ofCodes cs) = cs.all Code.isChar := by
  rw [isWellFormed, codes_ofCodes]

theorem isWellFormed_ofChars (cs : List Char) : isWellFormed (ofChars cs) = true := by
  rw [ofChars, isWellFormed_ofCodes, List.all_map]
  exact List.all_eq_true.mpr fun _ _ => rfl

end Text

theorem Bytes.isWellFormed_of_text?_eq_some {bytes : Bytes} {s : String}
    (spelt : text? bytes = some s) : Text.isWellFormed s = true := by
  obtain ⟨cs, -, rfl⟩ := Option.map_eq_some_iff.mp spelt
  exact Text.isWellFormed_ofChars _

namespace MessagePack

/-- A text that is unpacked is well formed. -/
theorem isWellFormed_of_toText_eq_ok {bytes : Bytes} {s : String}
    (read : toText bytes = .ok (.text s)) : Text.isWellFormed s = true := by
  unfold toText at read
  split at read
  · rename_i t spelt
    obtain rfl := Value.text.inj (Except.ok.inj read)
    exact Bytes.isWellFormed_of_text?_eq_some spelt
  · cases read

theorem isWellFormed_setApart (shown : String) (data : Bytes) :
    Text.isWellFormed (setApart shown data) = false :=
  Text.isWellFormed_ofCodes _

variable {s name : String}

theorem ne_setApart (wellFormed : Text.isWellFormed s = true) (shown : String) (data : Bytes) :
    s ≠ setApart shown data := by
  rintro rfl
  rw [isWellFormed_setApart] at wellFormed
  cases wellFormed

/-- A well-formed text was unpacked as that text, or as bytes that spell it. -/
theorem toJson_eq_text_iff {v : Value} (wellFormed : Text.isWellFormed s = true) :
    v.toJson = .text s ↔ v = .text s ∨ ∃ bytes, v = .bytes bytes ∧ Bytes.text? bytes = some s := by
  have apart (shown : String) (data : Bytes) : setApart shown data ≠ s :=
    (ne_setApart wellFormed shown data).symm
  cases v with
  | text t => simp [Value.toJson]
  | bytes bytes =>
    cases spelt : Bytes.text? bytes with
    | some t => simp [Value.toJson, shownBytes, spelt]
    | none => simp [Value.toJson, shownBytes, spelt, apart]
  | custom code data => simp [Value.toJson, apart]
  | null | bool _ | whole _ | real _ | list _ | map _ => simp [Value.toJson]

/-- What is found under a well-formed name was unpacked under that name. -/
theorem member?_toJson (wellFormed : Text.isWellFormed name = true)
    (entries : List (Key × Value)) :
    (Value.map entries).toJson.member? name = (entries.lookup (.text name)).map Value.toJson := by
  rw [Value.toJson, Json.member?]
  induction entries with
  | nil => rfl
  | cons entry rest inductionHypothesis =>
    obtain ⟨key, value⟩ := entry
    cases key with
    | text other =>
      rw [Value.entriesToJson]
      by_cases same : name = other
      · rw [same, List.lookup_cons_self, List.lookup_cons_self, Option.map_some]
      · have keys : Key.text name ≠ .text other := fun equal => same (Key.text.inj equal)
        rw [List.lookup_cons, List.lookup_cons, beq_false_of_ne same, beq_false_of_ne keys]
        exact inductionHypothesis
    | bytes data =>
      have apart : name ≠ setApart "" data := ne_setApart wellFormed "" data
      have keys : Key.text name ≠ .bytes data := fun equal => by cases equal
      rw [Value.entriesToJson, List.lookup_cons, List.lookup_cons, beq_false_of_ne apart,
        beq_false_of_ne keys]
      exact inductionHypothesis

end MessagePack

end Fitout
