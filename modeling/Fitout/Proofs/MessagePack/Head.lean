import Mathlib
import Fitout.MessagePack.Decode
import Fitout.MessagePack.Encode
import Fitout.Proofs.Fallible
import Fitout.Proofs.Text.Codes

/-!
# Heads of packed values

The first byte of a packed value tells what follows it: nothing, so many bytes, a count of bytes or
a count of parts. Whatever is packed in one piece is read back as it was, in front of any bytes.
-/

namespace Fitout

namespace Bytes

theorem length_bigEndian (width n : Nat) : (bigEndian width n).length = width := by
  induction width with
  | zero => rfl
  | succ width inductionHypothesis => simp only [bigEndian, List.length_cons, inductionHypothesis]

theorem foldl_bigEndian (width n start : Nat) :
    (bigEndian width n).foldl (fun n b => 256 * n + b.toNat) start =
      256 ^ width * start + n % 256 ^ width := by
  induction width generalizing start with
  | zero => simp [bigEndian, Nat.mod_one]
  | succ width inductionHypothesis =>
    have highest : n % 256 ^ (width + 1) =
        n % 256 ^ width + 256 ^ width * (n / 256 ^ width % 256) :=
      Nat.mod_pow_succ
    rw [bigEndian, List.foldl_cons, inductionHypothesis, UInt8.toNat_ofNat', highest, Nat.mul_add,
      ← Nat.mul_assoc, ← Nat.pow_succ, Nat.add_assoc, Nat.pow_eq, Nat.add_comm (n % _)]

/-- A number that fits the width is read back. -/
theorem ofBigEndian_bigEndian {width n : Nat} (fits : n < 256 ^ width) :
    ofBigEndian (bigEndian width n) = n := by
  rw [ofBigEndian, foldl_bigEndian, Nat.mul_zero, Nat.zero_add, Nat.mod_eq_of_lt fits]

/-- So is a number below zero in two's complement. -/
theorem ofTwosComplement_bigEndian {width m : Nat} (fits : 2 * m + 2 ≤ 256 ^ width) :
    ofTwosComplement (bigEndian width (256 ^ width - 1 - m)) = .negSucc m := by
  have small : 256 ^ width - 1 - m < 256 ^ width := by omega
  simp only [ofTwosComplement, ofBigEndian_bigEndian small, length_bigEndian, Nat.pow_eq]
  have high : ¬ 2 * (256 ^ width - 1 - m) < 256 ^ width := by omega
  rw [if_neg high, Int.negSucc_eq]
  omega

/-- A text without halves of surrogate pairs comes back from its bytes. -/
theorem text?_ofText {s : String} (wellFormed : Text.isWellFormed s = true) :
    text? (ofText s) = some s := by
  let cs := String.ofList (Text.chars s)
  have bytes : (⟨(ofText s).toArray⟩ : ByteArray) = cs.toByteArray := rfl
  have read : String.fromUTF8? cs.toByteArray = some cs := by
    rw [String.fromUTF8?, dif_pos cs.isValidUTF8]
    rfl
  rw [text?, bytes, read, Option.map_some, String.toList_ofList, Text.ofChars_chars wellFormed]

end Bytes

namespace MessagePack

/-- Among so many bytes in all, and inside so many open containers, these bytes are read as this
value, whatever follows them. -/
def Spells (total opened : Nat) (bytes : Bytes) (v : Value) : Prop :=
  ∀ rest, ∃ part, readValue total opened (bytes ++ rest) = .ok part ∧
    part.value = v ∧ part.rest = rest

section Read

variable {total opened : Nat} {first : UInt8}

theorem take_append {body : Bytes} (rest : Bytes) {n : Nat} (size : body.length = n) :
    ∃ run, take n (body ++ rest) = .ok run ∧ run.value = body ∧ run.rest = rest := by
  subst size
  refine ⟨⟨body, rest, by simp⟩, ?_, rfl, rfl⟩
  simp [take]

theorem fixed_append {α : Type} {make : Bytes → Except DecodeError α} {v : α} {body : Bytes}
    (rest : Bytes) {n : Nat} (size : body.length = n) (made : make body = .ok v) :
    ∃ run, fixed n make (body ++ rest) = .ok run ∧ run.value = v ∧ run.rest = rest := by
  obtain ⟨run, taken, value, rest_eq⟩ := take_append rest size
  refine ⟨⟨v, run.rest, run.noLonger⟩, ?_, rfl, rest_eq⟩
  simp only [fixed, taken, bind, Except.bind, value, made]
  rfl

theorem spells_of_done {v : Value} (head : Head.ofByte first = .done v) :
    Spells total opened [first] v := by
  intro rest
  rw [List.singleton_append, readValue, head]
  exact ⟨_, rfl, rfl, rfl⟩

theorem spells_of_scalar {v : Value} {make : Bytes → Except DecodeError Value} {n : Nat}
    {body : Bytes} (head : Head.ofByte first = .scalar n make) (size : body.length = n)
    (made : make body = .ok v) : Spells total opened (first :: body) v := by
  intro rest
  obtain ⟨run, read, value, rest_eq⟩ := fixed_append rest size made
  rw [List.cons_append, readValue, head]
  simp only [read, Except.map]
  exact ⟨_, rfl, value, rest_eq⟩

theorem counted_append {α : Type} {make : Bytes → Except DecodeError α} {v : α} {body : Bytes}
    (rest : Bytes) {width : Nat} (fits : body.length < 256 ^ width) (made : make body = .ok v) :
    ∃ run, counted width 0 make (Bytes.bigEndian width body.length ++ body ++ rest) = .ok run ∧
      run.value = v ∧ run.rest = rest := by
  rw [List.append_assoc]
  obtain ⟨size, taken, value, after⟩ :=
    take_append (body ++ rest) (Bytes.length_bigEndian width body.length)
  obtain ⟨run, read, made, rest_eq⟩ :
      ∃ run, fixed body.length make size.rest = .ok run ∧ run.value = v ∧ run.rest = rest := by
    rw [after]
    exact fixed_append rest rfl made
  refine ⟨⟨run.value, run.rest, Nat.le_trans run.noLonger size.noLonger⟩, ?_, made, rest_eq⟩
  simp only [counted, taken, bind, Except.bind, value, Bytes.ofBigEndian_bigEndian fits,
    Nat.add_zero, read]
  rfl

theorem spells_of_sized {v : Value} {make : Bytes → Except DecodeError Value} {width : Nat}
    {body : Bytes} (head : Head.ofByte first = .sized width 0 make)
    (fits : body.length < 256 ^ width) (made : make body = .ok v) :
    Spells total opened (first :: (Bytes.bigEndian width body.length ++ body)) v := by
  intro rest
  obtain ⟨run, read, value, rest_eq⟩ := counted_append rest fits made
  rw [List.cons_append, readValue, head]
  simp only [read, Except.map]
  exact ⟨_, rfl, value, rest_eq⟩

end Read

section Heads

theorem head_small {m : Nat} (small : m < 0x80) :
    Head.ofByte (UInt8.ofNat m) = .done (.whole m) := by
  have byte : (UInt8.ofNat m).toNat = m := by
    rw [UInt8.toNat_ofNat']
    omega
  simp only [Head.ofByte, byte, small, if_true]

theorem head_mapOf {n : Nat} (few : n < 16) : Head.ofByte (UInt8.ofNat (0x80 + n)) = .mapOf n := by
  have byte : (UInt8.ofNat (0x80 + n)).toNat = 0x80 + n := by
    rw [UInt8.toNat_ofNat']
    omega
  have large : ¬ 0x80 + n < 0x80 := by omega
  have below : 0x80 + n < 0x90 := by omega
  simp only [Head.ofByte, byte, large, below, if_true, if_false, Nat.add_sub_cancel_left]

theorem head_listOf {n : Nat} (few : n < 16) :
    Head.ofByte (UInt8.ofNat (0x90 + n)) = .listOf n := by
  have byte : (UInt8.ofNat (0x90 + n)).toNat = 0x90 + n := by
    rw [UInt8.toNat_ofNat']
    omega
  have large : ¬ 0x90 + n < 0x80 ∧ ¬ 0x90 + n < 0x90 := by omega
  have below : 0x90 + n < 0xA0 := by omega
  simp only [Head.ofByte, byte, large.1, large.2, below, if_true, if_false,
    Nat.add_sub_cancel_left]

theorem head_text {n : Nat} (short : n < 32) :
    Head.ofByte (UInt8.ofNat (0xA0 + n)) = .scalar n toText := by
  have byte : (UInt8.ofNat (0xA0 + n)).toNat = 0xA0 + n := by
    rw [UInt8.toNat_ofNat']
    omega
  have large : ¬ 0xA0 + n < 0x80 ∧ ¬ 0xA0 + n < 0x90 ∧ ¬ 0xA0 + n < 0xA0 := by omega
  have below : 0xA0 + n < 0xC0 := by omega
  simp only [Head.ofByte, byte, large.1, large.2.1, large.2.2, below, if_true, if_false,
    Nat.add_sub_cancel_left]

theorem head_negative {m : Nat} (small : m < 32) :
    Head.ofByte (UInt8.ofNat (255 - m)) = .done (.whole (.negSucc m)) := by
  have byte : (UInt8.ofNat (255 - m)).toNat = 255 - m := by
    rw [UInt8.toNat_ofNat']
    omega
  have large : ¬ 255 - m < 0x80 ∧ ¬ 255 - m < 0x90 ∧ ¬ 255 - m < 0xA0 ∧ ¬ 255 - m < 0xC0 := by
    omega
  have last : 0xE0 ≤ 255 - m := by omega
  have value : ((255 - m : Nat) : Int) - 256 = .negSucc m := by omega
  simp only [Head.ofByte, byte, large.1, large.2.1, large.2.2.1, large.2.2.2, last, if_true,
    if_false, value]

end Heads

section Scalars

variable {total opened : Nat}

theorem spells_ite {c : Prop} [Decidable c] {short long : Bytes} {v : Value}
    (ifShort : c → Spells total opened short v) (ifLong : ¬ c → Spells total opened long v) :
    Spells total opened (if c then short else long) v := by
  by_cases holds : c
  · rw [if_pos holds]
    exact ifShort holds
  · rw [if_neg holds]
    exact ifLong holds

theorem spells_packReal (x : Float) : Spells total opened (packReal x) (.real x) := by
  refine spells_of_scalar rfl (Bytes.length_bigEndian _ _) ?_
  have bits : x.toBits.toNat < 256 ^ 8 := x.toBits.toNat_lt
  rw [Bytes.ofBigEndian_bigEndian bits, UInt64.ofNat_toNat, Float.ofBits_toBits]

theorem toText_ofText {s : String} (wellFormed : Text.isWellFormed s = true) :
    toText (Bytes.ofText s) = .ok (.text s) := by
  rw [toText, Bytes.text?_ofText wellFormed]


theorem sized_eq_ok_iff {n m : Nat} : sized n = .ok m ↔ m = n ∧ n < 2 ^ 32 := by
  unfold sized
  constructor
  · intro held
    split at held
    · rename_i small
      exact ⟨(Except.ok.inj held).symm, small⟩
    · cases held
  · rintro ⟨rfl, small⟩
    exact if_pos small

theorem spells_packText {s : String} {bytes : Bytes} (packed : packText s = .ok bytes) :
    Spells total opened bytes (.text s) := by
  unfold packText at packed
  split at packed
  · cases packed
  · rename_i taken
    have read := toText_ofText (Text.refusal?_utf8_eq_none_iff.mp taken)
    obtain ⟨n, size, done⟩ := of_bind_eq_ok packed
    obtain ⟨rfl, short⟩ := sized_eq_ok_iff.mp size
    obtain rfl := Except.ok.inj done
    unfold textHead
    split
    · rename_i few
      exact spells_of_scalar (head_text few) rfl read
    · split
      · rename_i few
        exact spells_of_sized rfl few read
      · split
        · rename_i few
          exact spells_of_sized rfl few read
        · exact spells_of_sized rfl short read

/-- A number that takes up a fixed count of bytes after its head. -/
theorem spells_unsigned {first : UInt8} {width n : Nat}
    (head : Head.ofByte first = .scalar width fun bytes => .ok (.whole (Bytes.ofBigEndian bytes)))
    (small : n < 256 ^ width) :
    Spells total opened (first :: Bytes.bigEndian width n) (.whole n) :=
  spells_of_scalar head (Bytes.length_bigEndian _ _) (by rw [Bytes.ofBigEndian_bigEndian small])

theorem spells_signed {first : UInt8} {width m : Nat}
    (head : Head.ofByte first =
      .scalar width fun bytes => .ok (.whole (Bytes.ofTwosComplement bytes)))
    (small : 2 * m + 2 ≤ 256 ^ width) :
    Spells total opened (first :: Bytes.bigEndian width (256 ^ width - 1 - m))
      (.whole (.negSucc m)) :=
  spells_of_scalar head (Bytes.length_bigEndian _ _)
    (by rw [Bytes.ofTwosComplement_bigEndian small])

theorem fits_iff (n : Int) : fits n = true ↔ -((2 ^ 63 : Nat) : Int) ≤ n ∧ n < (2 ^ 64 : Nat) := by
  rw [fits, Bool.and_eq_true, decide_eq_true_eq, decide_eq_true_eq]
  rfl

theorem spells_packSmall {n : Int} (small : fits n = true) :
    Spells total opened (packSmall n) (.whole n) := by
  have range := (fits_iff n).mp small
  cases n with
  | ofNat m =>
    have below : m < 2 ^ 64 := Int.ofNat_lt.mp range.2
    refine spells_ite (fun few => spells_of_done (head_small few)) fun _ => ?_
    refine spells_ite (fun few => spells_unsigned rfl few) fun _ => ?_
    refine spells_ite (fun few => spells_unsigned rfl few) fun _ => ?_
    refine spells_ite (fun few => spells_unsigned rfl few) fun _ => ?_
    exact spells_unsigned rfl below
  | negSucc m =>
    have below : m < 2 ^ 63 := by omega
    refine spells_ite (fun few => spells_of_done (head_negative few)) fun _ => ?_
    refine spells_ite (fun few => spells_signed rfl (Nat.mul_le_mul_left 2 few)) fun _ => ?_
    refine spells_ite (fun few => spells_signed rfl (Nat.mul_le_mul_left 2 few)) fun _ => ?_
    refine spells_ite (fun few => spells_signed rfl (Nat.mul_le_mul_left 2 few)) fun _ => ?_
    exact spells_signed rfl (Nat.mul_le_mul_left 2 below)

end Scalars

end MessagePack

end Fitout
