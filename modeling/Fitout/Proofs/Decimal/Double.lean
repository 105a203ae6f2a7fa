import Mathlib
import Fitout.Decimal.Binary

/-!
# The range of doubles

A double is an integer times a power of two, rounded to 53 bits. Rounding carries a number out of
the range exactly if it is at least the middle between the largest double and the next power of
two; a whole number is out of the range from `2 ^ 1024 - 2 ^ 970` on.
-/

namespace Fitout.Decimal.Double

open Float.Model Float.Model.UnpackedFloat

/-- Whether a number is finite and has no larger exponent than this. -/
def UpTo (bound : Int) : UnpackedFloat → Prop
  | .zero _ => True
  | .finite _ _ exponent _ => exponent ≤ bound
  | .infinity _ | .notANumber => False

section Round

variable {m t : Nat} {e : Int}

theorem exact_shiftRight (m t : Nat) :
    (⟨m, false, false⟩ : ExtendedMantissa) >>> (t + 1) =
      ⟨m / 2 ^ (t + 1), m / 2 ^ t % 2 != 0, m % 2 ^ t != 0⟩ := by
  induction t with
  | zero => simp [HShiftRight.hShiftRight, Nat.repeat, ExtendedMantissa.shiftRightOne, Nat.mod_one]
  | succ t inductionHypothesis =>
    change ((⟨m, false, false⟩ : ExtendedMantissa) >>> (t + 1)).shiftRightOne = _
    rw [inductionHypothesis, ExtendedMantissa.shiftRightOne, Nat.div_div_eq_div_mul,
      ← Nat.pow_succ, Nat.mod_pow_succ]
    have positive := Nat.two_pow_pos t
    congr 1
    rw [Bool.eq_iff_iff]
    simp
    omega

/-- Halves round to even numbers, so that an even number is reached from its half below. -/
theorem roundedMantissa_lt_iff (m t : Nat) {c : Nat} (even : c % 2 = 0) :
    ((⟨m, false, false⟩ : ExtendedMantissa) >>> t).roundedMantissa < c ↔
      2 * m < (2 * c - 1) * 2 ^ t := by
  cases t with
  | zero =>
    change m < c ↔ _
    omega
  | succ t =>
    have halves : 2 * m < (2 * c - 1) * 2 ^ (t + 1) ↔ m / 2 ^ t < 2 * c - 1 := by
      rw [Nat.div_lt_iff_lt_mul (Nat.two_pow_pos t), Nat.pow_succ, ← Nat.mul_assoc]
      omega
    have whole : m / 2 ^ (t + 1) = m / 2 ^ t / 2 := by
      rw [Nat.div_div_eq_div_mul, ← Nat.pow_succ]
    rw [halves, exact_shiftRight, whole, ExtendedMantissa.roundedMantissa]
    generalize m / 2 ^ t = half, (m % 2 ^ t != 0) = more
    cases middle : half % 2 != 0 with
    | false =>
      have : half % 2 = 0 := by simpa using middle
      cases more <;> (change half / 2 < c ↔ _; omega)
    | true =>
      have : half % 2 = 1 := by simpa using middle
      cases more with
      | false =>
        change half / 2 + half / 2 % 2 < c ↔ _
        omega
      | true =>
        change half / 2 + 1 < c ↔ _
        omega

theorem mantissa_shiftRight (m t : Nat) :
    ((⟨m, false, false⟩ : ExtendedMantissa) >>> t).mantissa = m / 2 ^ t := by
  cases t with
  | zero => exact (Nat.div_one m).symm
  | succ t => rw [exact_shiftRight]

/-- By how many bits a number is too long, or too fine. -/
def excess (m : Nat) (e : Int) : Nat :=
  (max ((m.log2 : Int) - 52) (-1074 - e)).toNat

theorem shiftToTargetExponent_exact (m : Nat) (e : Int) :
    shiftToTargetExponent .binary64 m e .exact =
      ((⟨m, false, false⟩ : ExtendedMantissa) >>> excess m e, e + excess m e) := by
  have target : Format.binary64.targetExponent (totalExponent m e) =
      max ((m.log2 : Int) + 1 + e - 53) (-1074) := rfl
  have shift : (max ((m.log2 : Int) + 1 + e - 53) (-1074) - e).toNat = excess m e := by
    unfold excess
    omega
  rw [shiftToTargetExponent, target, shiftToExponent, shift]
  rfl

theorem lt_two_pow_of_excess_le (short : excess m e ≤ t) : m < 2 ^ 53 * 2 ^ t := by
  have long : m.log2 + 1 ≤ 53 + t := by
    unfold excess at short
    omega
  rw [← Nat.pow_add]
  exact Nat.lt_log2_self.trans_le (Nat.pow_le_pow_right Nat.two_pos long)

theorem two_pow_le_of_lt_excess (fine : -1074 ≤ e + t) (long : t < excess m e) :
    2 ^ 52 * 2 ^ excess m e ≤ m := by
  have exactly : 52 + excess m e = m.log2 := by
    unfold excess at long ⊢
    omega
  have positive : m ≠ 0 := by
    rintro rfl
    simp at exactly
  rw [← Nat.pow_add, exactly]
  exact Nat.log2_self_le positive

/-- The mantissa that is left of a number that is too long or too fine. -/
def rounded (m : Nat) (e : Int) : Nat :=
  ((⟨m, false, false⟩ : ExtendedMantissa) >>> excess m e).roundedMantissa

theorem rounded_lt_iff (m : Nat) (e : Int) {c : Nat} (even : c % 2 = 0) :
    rounded m e < c ↔ 2 * m < (2 * c - 1) * 2 ^ excess m e :=
  roundedMantissa_lt_iff m (excess m e) even

theorem rounded_lt (m : Nat) (e : Int) : rounded m e < 2 ^ 53 + 2 := by
  have below : m < 2 ^ 53 * 2 ^ excess m e := lt_two_pow_of_excess_le le_rfl
  rw [rounded_lt_iff m e rfl]
  omega

theorem fine_excess (m : Nat) (e : Int) : -1074 ≤ e + excess m e := by
  unfold excess
  omega

/-- Rounding up may make the mantissa longer by one bit. -/
theorem excess_rounded (m : Nat) (e : Int) : excess (rounded m e) (e + excess m e) =
    if rounded m e < 2 ^ 53 then 0 else 1 := by
  have fine := fine_excess m e
  have fits := rounded_lt m e
  generalize rounded m e = r at fits
  rw [excess]
  split
  · next short =>
    have bits : r.log2 ≤ 52 := by
      by_cases none : r = 0
      · simp [none]
      · exact Nat.lt_succ_iff.mp ((Nat.log2_lt none).mpr short)
    omega
  · next long =>
    have positive : r ≠ 0 := by omega
    have least : 53 ≤ r.log2 := (Nat.le_log2 positive).mpr (by omega)
    have most : r.log2 < 54 := (Nat.log2_lt positive).mpr (by omega)
    omega

theorem upTo_roundWithAccuracy_iff_excess (sign : Sign) (m : Nat) (e : Int) (j : Nat) :
    UpTo (e + j) (roundWithAccuracy .binary64 sign m e .exact) ↔
      rounded m e = 0 ∨ excess m e + (if rounded m e < 2 ^ 53 then 0 else 1) ≤ j := by
  have first : ((⟨m, false, false⟩ : ExtendedMantissa) >>> excess m e).roundedMantissa =
      rounded m e := rfl
  rw [roundWithAccuracy, shiftToTargetExponent_exact]
  simp only [first, shiftToTargetExponent_exact, mantissa_shiftRight, excess_rounded]
  by_cases gone : rounded m e / 2 ^ (if rounded m e < 2 ^ 53 then 0 else 1) = 0
  · have none : rounded m e = 0 := by
      split at gone <;> omega
    rw [dif_pos gone]
    exact iff_of_true trivial (.inl none)
  · have positive : rounded m e ≠ 0 := by
      intro none
      simp [none] at gone
    rw [dif_neg gone]
    simp only [UpTo, positive, false_or]
    omega

/-- Rounding keeps the exponent within a bound if the number is below the middle between the
largest number of that exponent and the next power of two. -/
theorem upTo_roundWithAccuracy_iff (sign : Sign) (m : Nat) {e : Int} {j : Nat}
    (fine : -1074 ≤ e + j) :
    UpTo (e + j) (roundWithAccuracy .binary64 sign m e .exact) ↔
      2 * m < (2 ^ 54 - 1) * 2 ^ j := by
  have below : m < 2 ^ 53 * 2 ^ excess m e := lt_two_pow_of_excess_le le_rfl
  have even (c : Nat) := rounded_lt_iff m e (c := 2 * c) (by omega)
  rw [upTo_roundWithAccuracy_iff_excess]
  -- Only where the bound is the exponent before the carry does it matter how the number rounds.
  obtain less | rfl | more := Nat.lt_trichotomy (excess m e) j
  · have twice : 2 ^ (excess m e + 1) ≤ 2 ^ j := Nat.pow_le_pow_right Nat.two_pos less
    rw [Nat.pow_succ] at twice
    refine iff_of_true (.inr ?_) (by omega)
    split <;> omega
  · have middle := even (2 ^ 52)
    split <;> omega
  · have twice : 2 ^ (j + 1) ≤ 2 ^ excess m e := Nat.pow_le_pow_right Nat.two_pos more
    rw [Nat.pow_succ] at twice
    have large : 2 ^ 52 * 2 ^ excess m e ≤ m := two_pow_le_of_lt_excess fine more
    have positive := even 1
    omega

end Round

section Bits

theorem unpack_spec (bits : BitVec Format.binary64.numBits) :
    match UnpackedFloat.unpack .binary64 bits with
    | .infinity _ | .notANumber => unpackExponent bits = -1#11
    | .zero _ => unpackExponent bits = 0#11
    | .finite _ m e _ => unpackExponent bits ≠ -1#11 ∧ m < 2 ^ 53 ∧
        e = max ((unpackExponent bits).toNat : Int) 1 - 1075 := by
  have bias : (Format.binary64.exponentBias : Int) = 1023 := rfl
  unfold UnpackedFloat.unpack
  dsimp only
  by_cases infinite : unpackExponent bits = -1#11
  · rw [if_pos infinite]
    split_ifs <;> exact infinite
  rw [if_neg infinite]
  by_cases subnormal : unpackExponent bits = 0#11
  · rw [if_pos subnormal]
    split_ifs
    · exact subnormal
    · refine ⟨infinite, ?_, ?_⟩
      · exact (unpackMantissa bits).isLt.trans (by decide)
      · simp [subnormal, bias]
  · rw [if_neg subnormal]
    refine ⟨infinite, (1#1 ++ unpackMantissa bits).isLt, ?_⟩
    have normal : (unpackExponent bits).toNat ≠ 0 := fun zero =>
      subnormal (BitVec.eq_of_toNat_eq zero)
    omega

theorem upTo_unpack_iff (bits : BitVec Format.binary64.numBits) {bound : Int}
    (least : -1074 ≤ bound) (most : bound ≤ 971) :
    UpTo bound (UnpackedFloat.unpack .binary64 bits) ↔
      (unpackExponent bits).toNat ≤ bound + 1075 := by
  have spec := unpack_spec bits
  generalize UnpackedFloat.unpack .binary64 bits = x at spec
  cases x with
  | infinity sign | notANumber =>
    rw [spec]
    refine iff_of_false id ?_
    change ¬ (2047 : Int) ≤ _
    omega
  | zero sign =>
    rw [spec]
    refine iff_of_true trivial ?_
    change (0 : Int) ≤ _
    omega
  | finite sign m e positive =>
    obtain ⟨-, -, e_eq⟩ := spec
    change e ≤ bound ↔ _
    omega

theorem isFinite_unpack_iff (bits : BitVec Format.binary64.numBits) :
    (UnpackedFloat.unpack .binary64 bits).isFinite = true ↔
      UpTo 971 (UnpackedFloat.unpack .binary64 bits) := by
  have spec := unpack_spec bits
  cases value : UnpackedFloat.unpack .binary64 bits with
  | infinity sign | notANumber => simp [UnpackedFloat.isFinite, UpTo]
  | zero sign => simp [UnpackedFloat.isFinite, UpTo]
  | finite sign m e positive =>
    rw [value] at spec
    obtain ⟨inRange, -, e_eq⟩ := spec
    have field : (unpackExponent bits).toNat < 2 ^ 11 := (unpackExponent bits).isLt
    have below : (unpackExponent bits).toNat ≠ 2047 := fun infinite =>
      inRange (BitVec.eq_of_toNat_eq infinite)
    have small : e ≤ 971 := by omega
    exact iff_of_true rfl small

theorem unpackExponent_pack (x : UnpackedFloat) :
    unpackExponent (UnpackedFloat.pack .binary64 x) = match x with
      | .infinity _ | .notANumber => -1#11
      | .zero _ => 0#11
      | .finite _ m e _ =>
        if 972 ≤ e then -1#11
        else if m.log2 = 52 then BitVec.ofNat 11 (e + 1075).toNat else 0#11 := by
  cases x with
  | infinity sign => exact unpackExponent_packComponents
  | notANumber => exact unpackExponent_packComponents
  | zero sign => exact unpackExponent_packComponents
  | finite sign m e positive =>
    have biased : (e + Format.binary64.exponentBias + (52 : Nat)).toNat = (e + 1075).toNat := by
      change (e + 1023 + 52).toNat = _
      omega
    have large : 2 ^ 11 ≤ (e + 1075).toNat + 1 ↔ 972 ≤ e := by omega
    have bits : m.log2 + 1 = Format.binary64.mantissaBits ↔ m.log2 = 52 := by
      change m.log2 + 1 = 53 ↔ _
      omega
    unfold UnpackedFloat.pack
    simp only [biased, large, bits]
    split_ifs <;> exact unpackExponent_packComponents

theorem upTo_unpack_pack {x : UnpackedFloat} {bound : Int} (least : -1074 ≤ bound)
    (most : bound ≤ 971) (upTo : UpTo bound x) : UpTo bound (Float.Model.pack x).unpack := by
  refine (upTo_unpack_iff (UnpackedFloat.pack .binary64 x) least most).mpr ?_
  rw [unpackExponent_pack]
  cases x with
  | infinity sign | notANumber => cases upTo
  | zero sign =>
    change (0 : Int) ≤ _
    omega
  | finite sign m e positive =>
    have small : e ≤ bound := upTo
    dsimp only
    rw [if_neg (by omega)]
    split_ifs
    · have := Nat.mod_le (e + 1075).toNat (2 ^ 11)
      rw [BitVec.toNat_ofNat]
      omega
    · change (0 : Int) ≤ _
      omega

/-- A number is finite as a double if its exponent is. -/
theorem isFinite_unpack_pack_iff (x : UnpackedFloat) :
    (Float.Model.pack x).unpack.isFinite = true ↔ UpTo 971 x := by
  refine (isFinite_unpack_iff (UnpackedFloat.pack .binary64 x)).trans
    ⟨?_, upTo_unpack_pack (by decide) le_rfl⟩
  rw [upTo_unpack_iff _ (by decide) le_rfl, unpackExponent_pack]
  intro inRange
  cases x with
  | infinity sign | notANumber =>
    change (2047 : Int) ≤ _ at inRange
    omega
  | zero sign => exact trivial
  | finite sign m e positive =>
    by_contra large
    rw [UpTo] at large
    dsimp only at inRange
    rw [if_pos (by omega)] at inRange
    exact absurd inRange (by decide)

end Bits

section Whole

/-- The whole numbers from here on are too large for doubles: `2 ^ 1024 - 2 ^ 970`. -/
def wholeLimit : Nat :=
  (2 ^ 54 - 1) * 2 ^ 970

theorem upTo_ofNat (n : Nat) (short : n < 2 ^ 53) : UpTo 0 (UnpackedFloat.ofNat .binary64 n) := by
  cases n with
  | zero => exact trivial
  | succ n =>
    have round : UnpackedFloat.ofNat .binary64 (n + 1) =
        UnpackedFloat.round .binary64 .positive (n + 1) 0 := rfl
    rw [round, UnpackedFloat.round, decreaseExponent]
    dsimp only
    generalize (0 - Format.binary64.targetExponent (totalExponent (n + 1) 0)).toNat = k
    have upTo : UpTo (0 - k + k) _ ↔ _ :=
      upTo_roundWithAccuracy_iff .positive ((n + 1) <<< k) (by omega)
    rw [Int.sub_add_cancel] at upTo
    rw [upTo, Nat.shiftLeft_eq, ← Nat.mul_assoc]
    exact Nat.mul_lt_mul_of_pos_right (by omega) (Nat.two_pow_pos k)

theorem isFinite_neg (x : Float) : (-x).isFinite = x.isFinite := by
  change (Float.Model.pack x.toModel.unpack.neg).unpack.isFinite = x.toModel.unpack.isFinite
  rw [Bool.eq_iff_iff, isFinite_unpack_pack_iff]
  refine Iff.trans ?_ (isFinite_unpack_iff _).symm
  change UpTo 971 x.toModel.unpack.neg ↔ UpTo 971 x.toModel.unpack
  cases x.toModel.unpack <;> exact Iff.rfl

theorem unpack_one : (Float.ofBits 0x3FF0000000000000).toModel.unpack =
    .finite .positive (2 ^ 52) (-52) (by decide) := by
  rfl

theorem isFinite_mul_one {x : Float} (small : UpTo 0 x.toModel.unpack) :
    (x * Float.ofBits 0x3FF0000000000000).isFinite = true := by
  change (Float.Model.pack (UnpackedFloat.mul .binary64 x.toModel.unpack
    (Float.ofBits 0x3FF0000000000000).toModel.unpack)).unpack.isFinite = true
  rw [unpack_one, isFinite_unpack_pack_iff]
  have spec := unpack_spec x.toModel.toBits.toBitVec
  have same : UnpackedFloat.unpack .binary64 x.toModel.toBits.toBitVec = x.toModel.unpack := rfl
  rw [same] at spec
  generalize x.toModel.unpack = y at small spec
  cases y with
  | infinity sign | notANumber => cases small
  | zero sign => exact trivial
  | finite sign m e positive =>
    obtain ⟨-, bits, -⟩ := spec
    have small : e ≤ 0 := small
    obtain ⟨j, total⟩ : ∃ j : Nat, e + -52 + j = 971 := ⟨(971 + 52 - e).toNat, by omega⟩
    have room : 2 ^ 52 ≤ 2 ^ j := Nat.pow_le_pow_right Nat.two_pos (by omega)
    rw [UnpackedFloat.mul, ← total, upTo_roundWithAccuracy_iff _ _ (by omega)]
    omega

theorem isFinite_ofNat_of_lt {n : Nat} (short : n < 2 ^ 53) : (Float.ofNat n).isFinite = true := by
  have fast : Float.ofNat n = n.toUInt64.toFloat * Float.ofBits 0x3FF0000000000000 :=
    dif_pos ⟨short, Nat.zero_le 22⟩
  have same : n.toUInt64.toNat = n := Nat.mod_eq_of_lt (short.trans (by decide))
  have upTo : UpTo 0 (UnpackedFloat.ofNat .binary64 n.toUInt64.toNat) :=
    upTo_ofNat n.toUInt64.toNat (same.symm ▸ short)
  rw [fast]
  exact isFinite_mul_one (upTo_unpack_pack (by decide) (by decide) upTo)

theorem isFinite_ofNat_iff_of_le {n : Nat} (long : 2 ^ 53 ≤ n) :
    (Float.ofNat n).isFinite = true ↔ n < wholeLimit := by
  have slow : Float.ofNat n = .ofModel (Float.Model.ofScientific n 0) :=
    dif_neg fun fast => fast.1.not_ge long
  have positive : n ≠ 0 := by omega
  have product : UnpackedFloat.ofScientific .binary64 n 0 =
      roundWithAccuracy .binary64 .positive (n <<< 53) (-53) .exact := by
    have enough : ¬ (0 : Int) < -((2 ^ 11 : Int) + n.log2) := by omega
    rw [UnpackedFloat.ofScientific, dif_neg positive, if_neg (by decide), if_neg enough,
      if_pos le_rfl]
    change roundWithAccuracy .binary64 .positive (n <<< 53 * 1) (-53) .exact = _
    rw [Nat.mul_one]
  have wide : (-53 : Int) + (54 + 970 : Nat) = 971 := rfl
  rw [slow]
  change (Float.Model.pack (UnpackedFloat.ofScientific .binary64 n 0)).unpack.isFinite = true ↔ _
  rw [isFinite_unpack_pack_iff, product, ← wide,
    upTo_roundWithAccuracy_iff _ _ (by decide), Nat.shiftLeft_eq]
  have scaled (k : Nat) : 2 * (n * 2 ^ 53) < (2 ^ 54 - 1) * 2 ^ (54 + k) ↔
      n < (2 ^ 54 - 1) * 2 ^ k := by
    rw [Nat.pow_add]
    omega
  exact scaled 970

theorem isFinite_ofInt_iff (n : Int) : (Float.ofInt n).isFinite = true ↔ n.natAbs < wholeLimit := by
  have natural (n : Nat) : (Float.ofNat n).isFinite = true ↔ n < wholeLimit := by
    by_cases long : 2 ^ 53 ≤ n
    · exact isFinite_ofNat_iff_of_le long
    · have below (k : Nat) : n < (2 ^ 54 - 1) * 2 ^ k := by
        have := Nat.two_pow_pos k
        omega
      exact iff_of_true (isFinite_ofNat_of_lt (by omega)) (below 970)
  cases n with
  | ofNat n => exact natural n
  | negSucc n => exact (congrArg (· = true) (isFinite_neg _)).to_iff.trans (natural (n + 1))

end Whole

section Order

theorem compare_swap (x y : UnpackedFloat) : y.compare x = (x.compare y).map Ordering.swap := by
  have swapped (m n : Nat) (e f : Int) : (compare e f).then (compare m n) =
      ((compare f e).then (compare n m)).swap := by
    rw [Ordering.swap_then, ← Std.OrientedCmp.eq_swap, ← Std.OrientedCmp.eq_swap]
  cases x with
  | notANumber => cases y <;> rfl
  | infinity sign =>
    cases y with
    | infinity sign' => cases sign <;> cases sign' <;> rfl
    | zero _ | finite _ _ _ _ | notANumber => cases sign <;> rfl
  | zero sign =>
    cases y with
    | zero _ | notANumber => rfl
    | infinity sign' | finite sign' n f positive => cases sign' <;> rfl
  | finite sign m e positive =>
    cases y with
    | notANumber => cases sign <;> rfl
    | zero sign' => cases sign <;> rfl
    | infinity sign' => cases sign <;> cases sign' <;> rfl
    | finite sign' n f positive' =>
      cases sign <;> cases sign'
      · exact congrArg some (congrArg Ordering.swap (swapped n m f e))
      · rfl
      · rfl
      · exact congrArg some (swapped n m f e)

theorem exists_compare {x y : UnpackedFloat} (xFinite : x.isFinite = true)
    (yFinite : y.isFinite = true) : ∃ order, x.compare y = some order := by
  cases x with
  | infinity sign | notANumber => cases xFinite
  | zero sign =>
    cases y with
    | infinity sign' | notANumber => cases yFinite
    | zero sign' => exact ⟨_, rfl⟩
    | finite sign' n f positive => cases sign' <;> exact ⟨_, rfl⟩
  | finite sign m e positive =>
    cases y with
    | infinity sign' | notANumber => cases yFinite
    | zero sign' => cases sign <;> exact ⟨_, rfl⟩
    | finite sign' n f positive' => cases sign <;> cases sign' <;> exact ⟨_, rfl⟩

theorem lt_iff_compare (x y : Float) :
    x < y ↔ x.toModel.unpack.compare y.toModel.unpack = some .lt := by
  have less : x < y ↔ (x.toModel.unpack.compare y.toModel.unpack == some .lt) = true :=
    decide_eq_true_iff
  rw [less, beq_iff_eq]

theorem le_iff_compare (x y : Float) :
    x ≤ y ↔ (x.toModel.unpack.compare y.toModel.unpack).any (·.isLE) = true :=
  decide_eq_true_iff

theorem le_of_not_lt {x y : Float} (xFinite : x.isFinite = true) (yFinite : y.isFinite = true)
    (notLess : ¬ x < y) : y ≤ x := by
  obtain ⟨order, forward⟩ := exists_compare xFinite yFinite
  rw [lt_iff_compare, forward, Option.some_inj] at notLess
  rw [le_iff_compare, compare_swap, forward]
  cases order with
  | lt => exact absurd rfl notLess
  | eq | gt => rfl

theorem not_lt_of_le {x y : Float} (least : x ≤ y) : ¬ y < x := by
  rw [le_iff_compare] at least
  rw [lt_iff_compare, compare_swap]
  cases forward : x.toModel.unpack.compare y.toModel.unpack with
  | none => simp
  | some order =>
    rw [forward] at least
    cases order with
    | lt | eq => decide
    | gt => cases least

/-- What compares is a number. -/
theorem isNaN_of_le {x y : Float} (least : x ≤ y) : y.isNaN = false := by
  rw [le_iff_compare] at least
  change y.toModel.unpack.isNaN = false
  cases number : y.toModel.unpack with
  | notANumber =>
    have apart : x.toModel.unpack.compare .notANumber = none := by cases x.toModel.unpack <;> rfl
    rw [number, apart] at least
    cases least
  | infinity _ | zero _ | finite _ _ _ _ => rfl

end Order

section Exact

/-- The largest double is a whole number. -/
def largest : Nat :=
  (2 ^ 53 - 1) * 2 ^ 971

theorem largest_lt_wholeLimit : largest < wholeLimit := by
  decide +kernel

variable {x : Float} {b : Binary}

theorem mantissa_lt (exactly : Binary.ofFloat? x = some b) : b.mantissa < 2 ^ 53 := by
  have fraction : x.toBits.toNat % Nat.pow 2 52 < 2 ^ 52 := Nat.mod_lt _ (Nat.two_pow_pos 52)
  simp only [Binary.ofFloat?] at exactly
  generalize x.toBits.toNat % Nat.pow 2 52 = m at exactly fraction
  split_ifs at exactly
  · obtain rfl := Option.some.inj exactly
    change m < _
    omega
  · obtain rfl := Option.some.inj exactly
    change m + 2 ^ 52 < _
    omega

theorem exponent_le (exactly : Binary.ofFloat? x = some b) : b.exponent ≤ 971 := by
  have field : x.toBits.toNat / Nat.pow 2 52 % Nat.pow 2 11 < 2 ^ 11 :=
    Nat.mod_lt _ (Nat.two_pow_pos 11)
  simp only [Binary.ofFloat?] at exactly
  generalize x.toBits.toNat / Nat.pow 2 52 % Nat.pow 2 11 = e at exactly field
  split_ifs at exactly with infinite subnormal
  · obtain rfl := Option.some.inj exactly
    change (-1074 : Int) ≤ _
    omega
  · obtain rfl := Option.some.inj exactly
    have finite : e ≠ 2047 := by simpa using infinite
    change (e : Int) - 1075 ≤ _
    omega

theorem wholePart_le_of_exponent_le {t : Nat} (short : b.mantissa < 2 ^ 53)
    (near : b.exponent ≤ t) : b.wholePart ≤ (2 ^ 53 - 1) * 2 ^ t := by
  have short : b.mantissa ≤ 2 ^ 53 - 1 := Nat.le_sub_one_of_lt short
  unfold Binary.wholePart
  split
  · next e same =>
    rw [same] at near
    exact Nat.mul_le_mul short (Nat.pow_le_pow_right Nat.two_pos (Int.ofNat_le.mp near))
  · calc b.mantissa / _ ≤ b.mantissa := Nat.div_le_self _ _
      _ ≤ (2 ^ 53 - 1) * 1 := short
      _ ≤ (2 ^ 53 - 1) * 2 ^ t := Nat.mul_le_mul_left _ Nat.one_le_two_pow

theorem wholePart_le (exactly : Binary.ofFloat? x = some b) : b.wholePart ≤ largest :=
  wholePart_le_of_exponent_le (mantissa_lt exactly) (exponent_le exactly)

end Exact

end Fitout.Decimal.Double
