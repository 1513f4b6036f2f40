import LiteratePages.Proofs.Number.Binary

namespace LiteratePages

open Float.Model (Format UnpackedFloat totalExponent)
open Float.Model.UnpackedFloat (Sign decreaseExponent roundWithAccuracy)

namespace Number

variable {n : Nat}

/-- The bits of a whole number, from the first bit of a mantissa on. -/
def leading (n : Nat) : Nat := n * 2 ^ (52 - n.log2)

theorem normal_leading (nonzero : n ≠ 0) (small : n < 2 ^ 53) :
    Normal (leading n) (n.log2 - 52) := by
  have most : n.log2 < 53 := (Nat.log2_lt nonzero).mpr small
  have lower := Nat.mul_le_mul_right (2 ^ (52 - n.log2)) (Nat.log2_self_le nonzero)
  have upper := Nat.mul_lt_mul_of_pos_right (Nat.lt_log2_self (n := n))
    (Nat.two_pow_pos (52 - n.log2))
  rw [← Nat.pow_add] at lower upper
  have full : n.log2 + (52 - n.log2) = 52 := by omega
  have above : n.log2 + 1 + (52 - n.log2) = 53 := by omega
  rw [full] at lower
  rw [above] at upper
  exact ⟨lower, upper, by omega, by omega⟩

/-- A whole number below `2 ^ 53` is taken apart without rounding. -/
theorem round_eq (nonzero : n ≠ 0) (small : n < 2 ^ 53) (sign : Sign) :
    UnpackedFloat.round Format.binary64 sign n 0 =
      .finite sign (leading n) (n.log2 - 52) (normal_leading nonzero small).pos := by
  have most : n.log2 < 53 := (Nat.log2_lt nonzero).mpr small
  have target : Format.binary64.targetExponent (totalExponent n 0) = n.log2 - 52 := by
    have bits : Format.binary64.mantissaBits = 53 := rfl
    have least : Format.binary64.minExponent = -1074 := rfl
    rw [Format.targetExponent, totalExponent, bits, least]
    omega
  have amount : (0 - ((n.log2 : Int) - 52)).toNat = 52 - n.log2 := by omega
  have reached : (0 : Int) - (52 - n.log2 : Nat) = n.log2 - 52 := by omega
  have rounded := (normal_leading nonzero small).round_exact 0 sign
  rw [Nat.pow_zero, Nat.mul_one, Int.natCast_zero, Int.sub_zero] at rounded
  unfold UnpackedFloat.round decreaseExponent
  dsimp only
  rw [target, amount, reached, Nat.shiftLeft_eq]
  exact rounded

theorem unpack_toFloat_toUInt64 (nonzero : n ≠ 0) (small : n < 2 ^ 53) :
    n.toUInt64.toFloat.toModel.unpack =
      .finite .positive (leading n) (n.log2 - 52) (normal_leading nonzero small).pos := by
  have word : n.toUInt64.toNat = n := Nat.mod_eq_of_lt (Nat.lt_trans small (by decide))
  have above : compare (n : Int) 0 = .gt := Int.compare_eq_gt.mpr (by omega)
  change (Float.Model.pack
    (UnpackedFloat.normalize Format.binary64 n.toUInt64.toNat 0 .positive)).unpack = _
  rw [word, UnpackedFloat.normalize, above]
  dsimp only
  rw [Int.toNat_natCast, round_eq nonzero small, (normal_leading nonzero small).unpack_pack]

theorem unpack_ofNat (nonzero : n ≠ 0) (small : n < 2 ^ 53) :
    (Float.ofNat n).toModel.unpack =
      .finite .positive (leading n) (n.log2 - 52) (normal_leading nonzero small).pos := by
  have normal := normal_leading nonzero small
  have one : (Float.ofBits 0x3FF0000000000000).toModel.unpack =
      .finite .positive (2 ^ 52) (-(52 : Nat)) (by decide) := rfl
  have product : Float.ofNat n = n.toUInt64.toFloat * Float.ofBits 0x3FF0000000000000 :=
    dif_pos ⟨small, by decide⟩
  rw [product]
  change (Float.Model.pack (UnpackedFloat.mul Format.binary64 n.toUInt64.toFloat.toModel.unpack
    (Float.ofBits 0x3FF0000000000000).toModel.unpack)).unpack = _
  rw [unpack_toFloat_toUInt64 nonzero small, one]
  change (Float.Model.pack (roundWithAccuracy Format.binary64 .positive (leading n * 2 ^ 52)
    (n.log2 - 52 - (52 : Nat)) .exact)).unpack = _
  rw [normal.round_exact, normal.unpack_pack]

/-- A whole number below `2 ^ 53` in magnitude is held exactly. -/
theorem exact_ofInt {n : Int} (nonzero : n ≠ 0) (small : n.natAbs < 2 ^ 53) :
    Exact.ofFloat (Float.ofInt n) =
      .finite (decide (n < 0)) (leading n.natAbs) (n.natAbs.log2 - 52) := by
  rw [Exact.ofFloat_eq]
  cases n with
  | ofNat n =>
      have positive : n ≠ 0 := by simpa using nonzero
      change Exact.ofUnpacked (Float.ofNat n).toModel.unpack = _
      rw [unpack_ofNat positive small]
      rfl
  | negSucc n =>
      have normal := normal_leading (Nat.succ_ne_zero n) small
      change Exact.ofUnpacked
        (Float.Model.pack (Float.ofNat n.succ).toModel.unpack.neg).unpack = _
      rw [unpack_ofNat (Nat.succ_ne_zero n) small]
      change Exact.ofUnpacked (Float.Model.pack (.finite .negative _ _ normal.pos)).unpack = _
      rw [normal.unpack_pack, decide_eq_true (Int.negSucc_lt_zero n)]
      rfl

theorem exact_ofInt_zero : Exact.ofFloat (Float.ofInt 0) = .finite false 0 (-1074) := by
  decide +kernel

theorem hasNoFraction_leading (n : Nat) : hasNoFraction (leading n) (n.log2 - 52) = true := by
  have places : (-((n.log2 : Int) - 52)).toNat = 52 - n.log2 := by omega
  rw [hasNoFraction, Nat.pow_eq, places, leading, Nat.mul_mod_left]
  simp

theorem wholePart_leading (small : n < 2 ^ 52) : wholePart (leading n) (n.log2 - 52) = n := by
  have most : n.log2 < 52 := by
    rcases Nat.eq_zero_or_pos n with rfl | positive
    · decide
    · exact (Nat.log2_lt (Nat.ne_of_gt positive)).mpr small
  have below : ¬ (0 : Int) ≤ n.log2 - 52 := by omega
  have places : (-((n.log2 : Int) - 52)).toNat = 52 - n.log2 := by omega
  rw [wholePart, if_neg below, Nat.pow_eq, places, leading,
    Nat.mul_div_cancel _ (Nat.two_pow_pos _)]

theorem signed_natAbs (n : Int) : signed (decide (n < 0)) n.natAbs = n := by
  unfold signed
  split
  · rename_i below
    have below : n < 0 := of_decide_eq_true below
    omega
  · rename_i above
    have above : ¬ n < 0 := by simpa using above
    omega

theorem natAbs_signed (negative : Bool) (n : Nat) : (signed negative n).natAbs = n := by
  unfold signed
  split <;> omega

theorem decide_signed_neg (negative : Bool) (nonzero : n ≠ 0) :
    decide (signed negative n < 0) = negative := by
  cases negative with
  | false => simp [signed]
  | true =>
      simp [signed]
      omega

/-- A small whole number is read back as itself. -/
theorem smallInteger?_ofInt {n : Int} (small : n.natAbs < 10 ^ 15) :
    smallInteger? (Float.ofInt n) = some n := by
  by_cases nonzero : n = 0
  · rw [nonzero]
    decide +kernel
  have whole := wholePart_leading (Nat.lt_trans small (show 10 ^ 15 < 2 ^ 52 by decide))
  rw [smallInteger?, exact_ofInt nonzero (Nat.lt_trans small (by decide))]
  dsimp only
  rw [whole, if_pos ⟨hasNoFraction_leading _, small⟩, signed_natAbs]

/-- A normal number without fraction has the bits of its whole part. -/
theorem eq_leading {mantissa : Nat} {exponent : Int} (normal : Normal mantissa exponent)
    (whole : hasNoFraction mantissa exponent = true)
    (small : wholePart mantissa exponent < 2 ^ 52) :
    wholePart mantissa exponent ≠ 0 ∧ leading (wholePart mantissa exponent) = mantissa ∧
      ((wholePart mantissa exponent).log2 : Int) - 52 = exponent := by
  have full := normal.full
  have below : ¬ 0 ≤ exponent := by
    intro above
    rw [wholePart, if_pos above] at small
    have grown := Nat.le_mul_of_pos_right mantissa (Nat.two_pow_pos exponent.toNat)
    exact Nat.lt_irrefl _ (Nat.lt_of_le_of_lt (Nat.le_trans full grown) small)
  have places : exponent = -((-exponent).toNat : Int) := by omega
  rw [wholePart, if_neg below, Nat.pow_eq]
  simp only [hasNoFraction, below, decide_false, Bool.false_or, decide_eq_true_eq, Nat.pow_eq]
    at whole
  generalize (-exponent).toNat = shift at whole places
  have product : mantissa / 2 ^ shift * 2 ^ shift = mantissa :=
    Nat.div_mul_cancel (Nat.dvd_of_mod_eq_zero whole)
  have nonzero : mantissa / 2 ^ shift ≠ 0 := by
    intro zero
    rw [zero, Nat.zero_mul] at product
    omega
  have log : (mantissa / 2 ^ shift).log2 + shift = 52 := by
    rw [← log2_mul_two_pow nonzero, product, normal.log2_eq]
  have rest : 52 - (mantissa / 2 ^ shift).log2 = shift := by omega
  refine ⟨nonzero, ?_, by omega⟩
  rw [leading, rest, product]

/-- Of the numbers all of whose bits stand behind the point only zero is whole. -/
theorem eq_zero_of_fraction {mantissa : Nat} {exponent : Int} (behind : exponent ≤ -52)
    (whole : hasNoFraction mantissa exponent = true) (fits : mantissa < 2 ^ 52) : mantissa = 0 := by
  have below : ¬ 0 ≤ exponent := by omega
  simp only [hasNoFraction, below, decide_false, Bool.false_or, decide_eq_true_eq, Nat.pow_eq]
    at whole
  have more : 2 ^ 52 ≤ 2 ^ (-exponent).toNat := Nat.pow_le_pow_right (by decide) (by omega)
  rwa [Nat.mod_eq_of_lt (Nat.lt_of_lt_of_le fits more)] at whole

theorem wholePart_zero (exponent : Int) : wholePart 0 exponent = 0 := by
  unfold wholePart
  split
  · exact Nat.zero_mul _
  · exact Nat.zero_div _

/-- The whole part of a normal number without fraction is held with the same bits. -/
theorem exact_ofInt_wholePart {mantissa : Nat} {exponent : Int} (normal : Normal mantissa exponent)
    (whole : hasNoFraction mantissa exponent = true)
    (small : wholePart mantissa exponent < 2 ^ 52) (negative : Bool) :
    Exact.ofFloat (Float.ofInt (signed negative (wholePart mantissa exponent))) =
      .finite negative mantissa exponent := by
  obtain ⟨nonzero, bits, place⟩ := eq_leading normal whole small
  have apart : signed negative (wholePart mantissa exponent) ≠ 0 := by
    intro zero
    have magnitude := natAbs_signed negative (wholePart mantissa exponent)
    rw [zero] at magnitude
    exact nonzero magnitude.symm
  have fits : (signed negative (wholePart mantissa exponent)).natAbs < 2 ^ 53 := by
    rw [natAbs_signed]
    exact Nat.lt_trans small (by decide)
  rw [exact_ofInt apart fits, natAbs_signed, decide_signed_neg negative nonzero, bits, place]

/-- What is read as a small whole number is equal to the float of that number. -/
theorem beq_ofInt {x : Float} {n : Int} (read : smallInteger? x = some n) :
    n.natAbs < 10 ^ 15 ∧ (Float.ofInt n == x) = true := by
  unfold smallInteger? at read
  split at read
  · rename_i negative mantissa exponent finite
    split at read
    · rename_i both
      obtain ⟨whole, small⟩ := both
      obtain rfl := Option.some.inj read
      rw [natAbs_signed]
      refine ⟨small, ?_⟩
      rcases normal_or_least finite with normal | ⟨fits, rfl⟩
      · have held := exact_ofInt_wholePart normal whole
          (Nat.lt_trans small (show 10 ^ 15 < 2 ^ 52 by decide)) negative
        exact beq_of_ofFloat_eq held finite
      · obtain rfl := eq_zero_of_fraction (by decide) whole fits
        have zero : signed negative 0 = 0 := by cases negative <;> rfl
        rw [wholePart_zero, zero]
        exact beq_of_zero exact_ofInt_zero finite
    · cases read
  · cases read

end Number

end LiteratePages
