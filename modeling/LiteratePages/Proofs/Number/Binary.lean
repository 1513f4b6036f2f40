import LiteratePages.Number.Exact
import Mathlib

namespace LiteratePages

open Float.Model (Format UnpackedFloat totalExponent)
open Float.Model.UnpackedFloat

/-- What a float that has been taken apart is exactly. -/
def Exact.ofUnpacked : UnpackedFloat → Exact
  | .notANumber => .nan
  | .infinity sign => .infinite (sign == .negative)
  | .zero sign => .finite (sign == .negative) 0 (-1074)
  | .finite sign mantissa exponent _ => .finite (sign == .negative) mantissa exponent

section Fields

variable (bits : BitVec 64)

theorem toNat_unpackMantissa :
    (@unpackMantissa Format.binary64 bits).toNat = bits.toNat % 2 ^ 52 := by
  simp [unpackMantissa]

theorem toNat_unpackExponent :
    (@unpackExponent Format.binary64 bits).toNat = bits.toNat / 2 ^ 52 % 2 ^ 11 := by
  simp [unpackExponent, Nat.shiftRight_eq_div_pow]

theorem toNat_unpackSign :
    (@unpackSign Format.binary64 bits).toNat = bits.toNat / 2 ^ 63 % 2 := by
  simp [unpackSign, Nat.shiftRight_eq_div_pow]

theorem toNat_implicit (mantissa : BitVec 52) :
    (1#1 ++ mantissa).toNat = 2 ^ 52 + mantissa.toNat := by
  rw [BitVec.toNat_append, ← Nat.shiftLeft_add_eq_or_of_lt mantissa.isLt]
  rfl

theorem unpackExponent_eq_ones_iff :
    @unpackExponent Format.binary64 bits = -1#11 ↔
      bits.toNat / 2 ^ 52 % 2 ^ 11 = 2 ^ 11 - 1 := by
  rw [← toNat_unpackExponent, ← BitVec.toNat_inj]
  rfl

theorem unpackExponent_eq_zero_iff :
    @unpackExponent Format.binary64 bits = 0#11 ↔ bits.toNat / 2 ^ 52 % 2 ^ 11 = 0 := by
  rw [← toNat_unpackExponent, ← BitVec.toNat_inj]
  rfl

theorem unpackMantissa_eq_zero_iff :
    @unpackMantissa Format.binary64 bits = 0#52 ↔ bits.toNat % 2 ^ 52 = 0 := by
  rw [← toNat_unpackMantissa, ← BitVec.toNat_inj]
  rfl

theorem sign_unpackSign :
    (Sign.ofBitVec (@unpackSign Format.binary64 bits) == .negative) =
      decide (2 ^ 63 ≤ bits.toNat) := by
  have field := toNat_unpackSign bits
  have fits := bits.isLt
  unfold Sign.ofBitVec
  split
  · rename_i zero
    have low : ¬ 2 ^ 63 ≤ bits.toNat := by
      rw [zero, BitVec.toNat_zero] at field
      omega
    rw [decide_eq_false low]
    rfl
  · rename_i other
    have high : 2 ^ 63 ≤ bits.toNat := by
      have set : bits.toNat / 2 ^ 63 % 2 ≠ 0 := by
        rw [← field]
        exact fun zero => other (BitVec.eq_of_toNat_eq zero)
      omega
    rw [decide_eq_true high]
    rfl

/-- The numbers whose exponent is neither the least nor the greatest have one more bit of mantissa
than is written. -/
theorem unpack_of_exponent (low : @unpackExponent Format.binary64 bits ≠ 0#11)
    (high : @unpackExponent Format.binary64 bits ≠ -1#11) (positive) :
    unpack Format.binary64 bits =
      .finite (Sign.ofBitVec (@unpackSign Format.binary64 bits))
        (2 ^ 52 + (@unpackMantissa Format.binary64 bits).toNat)
        ((@unpackExponent Format.binary64 bits).toNat - 1075) positive := by
  unfold unpack
  dsimp only
  rw [if_neg high, if_neg low]
  congr 1
  exact toNat_implicit _

theorem unpack_packComponents (sign : Sign) {exponent : Nat} (low : 0 < exponent)
    (high : exponent < 2047) (mantissa : Nat) (positive) :
    unpack Format.binary64
        (packComponents Format.binary64 sign (.ofNat 11 exponent) (.ofNat 52 mantissa)) =
      .finite sign (2 ^ 52 + mantissa % 2 ^ 52) (exponent - 1075) positive := by
  have signField : Sign.ofBitVec (unpackSign
      (packComponents Format.binary64 sign (.ofNat 11 exponent) (.ofNat 52 mantissa))) = sign := by
    rw [unpackSign_packComponents, Sign.ofBitVec_toBitVec]
  have exponentField : unpackExponent
      (packComponents Format.binary64 sign (.ofNat 11 exponent) (.ofNat 52 mantissa)) =
        .ofNat 11 exponent := unpackExponent_packComponents
  have mantissaField : unpackMantissa
      (packComponents Format.binary64 sign (.ofNat 11 exponent) (.ofNat 52 mantissa)) =
        .ofNat 52 mantissa := unpackMantissa_packComponents
  generalize packComponents Format.binary64 sign (.ofNat 11 exponent) (.ofNat 52 mantissa) = bits
    at *
  have exponentValue : (@unpackExponent Format.binary64 bits).toNat = exponent := by
    rw [exponentField]
    exact Nat.mod_eq_of_lt (Nat.lt_of_lt_of_le high (by decide))
  have mantissaValue :
      (@unpackMantissa Format.binary64 bits).toNat = mantissa % 2 ^ 52 := by
    rw [mantissaField, BitVec.toNat_ofNat]
  have first : @unpackExponent Format.binary64 bits ≠ 0#11 := by
    intro zero
    rw [zero] at exponentValue
    exact Nat.ne_of_gt low exponentValue.symm
  have last : @unpackExponent Format.binary64 bits ≠ -1#11 := by
    intro ones
    rw [ones] at exponentValue
    exact Nat.ne_of_lt high exponentValue.symm
  rw [unpack_of_exponent bits first last (by omega)]
  congr 1
  · exact congrArg _ mantissaValue
  · exact congrArg (fun field : Nat => (field : Int) - 1075) exponentValue

end Fields

theorem Exact.ofFloat_eq (x : Float) : ofFloat x = ofUnpacked x.toModel.unpack := by
  unfold Float.Model.unpack unpack ofFloat Float.toBits
  have same : x.toModel.toBits.toNat = x.toModel.toBits.toBitVec.toNat := rfl
  rw [same]
  generalize x.toModel.toBits.toBitVec = bits
  have mantissa := toNat_unpackMantissa bits
  have exponent := toNat_unpackExponent bits
  have sign := sign_unpackSign bits
  simp only [Nat.pow_eq]
  by_cases special : bits.toNat / 2 ^ 52 % 2 ^ 11 = 2 ^ 11 - 1
  · rw [if_pos special, if_pos ((unpackExponent_eq_ones_iff bits).mpr special)]
    by_cases whole : bits.toNat % 2 ^ 52 = 0
    · rw [if_pos whole, if_pos ((unpackMantissa_eq_zero_iff bits).mpr whole), ofUnpacked, sign]
    · rw [if_neg whole, if_neg (mt (unpackMantissa_eq_zero_iff bits).mp whole), ofUnpacked]
  rw [if_neg special, if_neg (mt (unpackExponent_eq_ones_iff bits).mp special)]
  by_cases least : bits.toNat / 2 ^ 52 % 2 ^ 11 = 0
  · rw [if_pos least, if_pos ((unpackExponent_eq_zero_iff bits).mpr least)]
    by_cases whole : bits.toNat % 2 ^ 52 = 0
    · rw [dif_pos ((unpackMantissa_eq_zero_iff bits).mpr whole), ofUnpacked, sign, whole]
    · rw [dif_neg (mt (unpackMantissa_eq_zero_iff bits).mp whole), ofUnpacked, sign, mantissa,
        exponent, least]
      rfl
  · rw [if_neg least, if_neg (mt (unpackExponent_eq_zero_iff bits).mp least), ofUnpacked, sign]
    congr 1
    · rw [toNat_implicit, mantissa]
    · rw [exponent]
      rfl

/-- The mantissas and exponents of the numbers that have all bits of a mantissa. -/
structure Normal (mantissa : Nat) (exponent : Int) : Prop where
  full : 2 ^ 52 ≤ mantissa
  fits : mantissa < 2 ^ 53
  low : -1074 ≤ exponent
  high : exponent ≤ 971

theorem log2_mul_two_pow {n : Nat} (nonzero : n ≠ 0) (places : Nat) :
    (n * 2 ^ places).log2 = n.log2 + places := by
  induction places with
  | zero => simp
  | succ places ih =>
      have doubled : n * 2 ^ (places + 1) = 2 * (n * 2 ^ places) := by
        rw [Nat.pow_succ', Nat.mul_left_comm]
      have more : n * 2 ^ places ≠ 0 :=
        Nat.mul_ne_zero nonzero (Nat.ne_of_gt (Nat.two_pow_pos places))
      rw [doubled, Nat.log2_two_mul more, ih, Nat.add_assoc]

theorem shiftRight_exact (mantissa places : Nat) :
    (⟨mantissa * 2 ^ places, false, false⟩ : ExtendedMantissa) >>> places =
      ⟨mantissa, false, false⟩ := by
  change places.repeat ExtendedMantissa.shiftRightOne _ = _
  induction places generalizing mantissa with
  | zero => simp [Nat.repeat]
  | succ places ih =>
      have doubled : mantissa * 2 ^ (places + 1) = mantissa * 2 * 2 ^ places := by
        rw [Nat.pow_succ', Nat.mul_assoc]
      rw [Nat.repeat, doubled, ih]
      simp [ExtendedMantissa.shiftRightOne]

namespace Normal

variable {mantissa : Nat} {exponent : Int} (normal : Normal mantissa exponent)

include normal

theorem pos : 0 < mantissa := Nat.lt_of_lt_of_le (Nat.two_pow_pos 52) normal.full

theorem ne_zero : mantissa ≠ 0 := Nat.ne_of_gt normal.pos

theorem log2_eq : mantissa.log2 = 52 :=
  (Nat.log2_eq_iff normal.ne_zero).mpr ⟨normal.full, normal.fits⟩

theorem shift_exact (places : Nat) :
    shiftToTargetExponent Format.binary64 (mantissa * 2 ^ places) (exponent - places) .exact =
      (⟨mantissa, false, false⟩, exponent) := by
  have target : Format.binary64.targetExponent
      (totalExponent (mantissa * 2 ^ places) (exponent - places)) = exponent := by
    have low := normal.low
    have bits : Format.binary64.mantissaBits = 53 := rfl
    have least : Format.binary64.minExponent = -1074 := rfl
    rw [Format.targetExponent, totalExponent, log2_mul_two_pow normal.ne_zero, normal.log2_eq, bits,
      least]
    omega
  have amount : (exponent - (exponent - places)).toNat = places := by omega
  unfold shiftToTargetExponent shiftToExponent
  dsimp only
  rw [target, amount]
  refine Prod.ext (shiftRight_exact mantissa places) ?_
  dsimp only
  omega

/-- Bits that are all zero are shifted out without rounding. -/
theorem round_exact (places : Nat) (sign : Sign) :
    roundWithAccuracy Format.binary64 sign (mantissa * 2 ^ places) (exponent - places) .exact =
      .finite sign mantissa exponent normal.pos := by
  have again := normal.shift_exact 0
  rw [Nat.pow_zero, Nat.mul_one, Int.natCast_zero, Int.sub_zero] at again
  unfold roundWithAccuracy
  rw [normal.shift_exact places]
  dsimp only [ExtendedMantissa.roundedMantissa, ExtendedMantissa.accuracy,
    Accuracy.roundToNearestEven]
  rw [again]
  exact dif_neg normal.ne_zero

theorem unpack_pack (sign : Sign) :
    (Float.Model.pack (.finite sign mantissa exponent normal.pos)).unpack =
      .finite sign mantissa exponent normal.pos := by
  have low := normal.low
  have high := normal.high
  have full := normal.full
  have fits := normal.fits
  have packed : UnpackedFloat.pack Format.binary64 (.finite sign mantissa exponent normal.pos) =
      packComponents Format.binary64 sign (.ofNat 11 (exponent + 1075).toNat)
        (.ofNat 52 mantissa) := by
    have field : (exponent + Format.binary64.exponentBias +
        (Format.binary64.mantissaBitsWithoutImplicit : Nat)).toNat = (exponent + 1075).toNat :=
      congrArg Int.toNat (Int.add_assoc ..)
    have range : ¬ 2 ^ 11 ≤ (exponent + 1075).toNat + 1 := by omega
    have bits : mantissa.log2 + 1 = Format.binary64.mantissaBits := by
      rw [normal.log2_eq]
      rfl
    rw [UnpackedFloat.pack, field]
    exact (if_neg range).trans (if_pos bits)
  unfold Float.Model.unpack Float.Model.pack
  dsimp only
  rw [packed]
  refine (unpack_packComponents sign ?_ ?_ mantissa ?_).trans ?_
  · omega
  · omega
  · omega
  · congr 1
    · omega
    · omega

end Normal

section Equality

variable {x y : Float} {negative other : Bool} {mantissa : Nat} {exponent least : Int}

theorem beq_eq_unpack (x y : Float) : (x == y) = x.toModel.unpack.beq y.toModel.unpack := rfl

theorem unpack_of_zero (zero : Exact.ofFloat x = .finite negative 0 exponent) :
    ∃ sign, x.toModel.unpack = .zero sign := by
  rw [Exact.ofFloat_eq] at zero
  cases parts : x.toModel.unpack with
  | zero sign => exact ⟨sign, rfl⟩
  | finite sign bits place positive =>
      rw [parts] at zero
      exact absurd (Exact.finite.inj zero).2.1 (Nat.ne_of_gt positive)
  | infinity sign =>
      rw [parts] at zero
      cases zero
  | notANumber =>
      rw [parts] at zero
      cases zero

theorem unpack_of_pos (positive : 0 < mantissa)
    (finite : Exact.ofFloat x = .finite negative mantissa exponent) :
    x.toModel.unpack =
      .finite (if negative then .negative else .positive) mantissa exponent positive := by
  rw [Exact.ofFloat_eq] at finite
  cases parts : x.toModel.unpack with
  | zero sign =>
      rw [parts] at finite
      exact absurd (Exact.finite.inj finite).2.1 (Nat.ne_of_lt positive)
  | finite sign bits place some =>
      rw [parts] at finite
      obtain ⟨rfl, rfl, rfl⟩ := Exact.finite.inj finite
      cases sign <;> rfl
  | infinity sign =>
      rw [parts] at finite
      cases finite
  | notANumber =>
      rw [parts] at finite
      cases finite

/-- Zeros are equal, whatever their signs. -/
theorem beq_of_zero (first : Exact.ofFloat x = .finite negative 0 exponent)
    (second : Exact.ofFloat y = .finite other 0 least) : (x == y) = true := by
  obtain ⟨_, one⟩ := unpack_of_zero first
  obtain ⟨_, two⟩ := unpack_of_zero second
  rw [beq_eq_unpack, one, two]
  rfl

/-- Finite numbers that are exactly the same are equal. -/
theorem beq_of_ofFloat_eq (first : Exact.ofFloat x = .finite negative mantissa exponent)
    (second : Exact.ofFloat y = .finite negative mantissa exponent) : (x == y) = true := by
  rcases Nat.eq_zero_or_pos mantissa with rfl | positive
  · exact beq_of_zero first second
  · rw [beq_eq_unpack, unpack_of_pos positive first, unpack_of_pos positive second]
    exact (beq_iff_ne_notANumber_and_eq _ _).mpr ⟨nofun, nofun, .inl rfl⟩

theorem exists_of_isFinite (finite : x.isFinite = true) :
    ∃ negative mantissa exponent, Exact.ofFloat x = .finite negative mantissa exponent := by
  change x.toModel.unpack.isFinite = true at finite
  rw [Exact.ofFloat_eq]
  cases parts : x.toModel.unpack with
  | zero sign => exact ⟨_, _, _, rfl⟩
  | finite sign bits place positive => exact ⟨_, _, _, rfl⟩
  | infinity sign =>
      rw [parts] at finite
      cases finite
  | notANumber =>
      rw [parts] at finite
      cases finite

theorem beq_self_of_isFinite (finite : x.isFinite = true) : (x == x) = true := by
  obtain ⟨_, _, _, exact⟩ := exists_of_isFinite finite
  exact beq_of_ofFloat_eq exact exact

/-- A finite number has all bits of a mantissa, or the least exponent. -/
theorem normal_or_least (finite : Exact.ofFloat x = .finite negative mantissa exponent) :
    Normal mantissa exponent ∨ (mantissa < 2 ^ 52 ∧ exponent = -1074) := by
  unfold Exact.ofFloat at finite
  simp only [Nat.pow_eq] at finite
  split at finite
  · split at finite <;> cases finite
  split at finite
  · obtain ⟨-, rfl, rfl⟩ := Exact.finite.inj finite
    exact .inr ⟨Nat.mod_lt _ (Nat.two_pow_pos 52), rfl⟩
  · obtain ⟨-, rfl, rfl⟩ := Exact.finite.inj finite
    left
    constructor <;> omega

end Equality

end LiteratePages
