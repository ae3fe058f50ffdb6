import Authorization.Number.Binary
import Mathlib

/-!
# Doubles that are numbers

A double is undefined exactly when its bits say so. Of two doubles that are numbers, either the first is
less or the second is at most the first, while nothing is less than an undefined double or greater. The sum
of a finite double and a number is a number, and so is every double that an integer is rounded to.
-/

namespace Authorization.Number

open Float.Model Float.Model.UnpackedFloat

/-! ## Bits -/

theorem isNaN_unpack {spec : Format} (bits : BitVec spec.numBits) :
    (UnpackedFloat.unpack spec bits).isNaN = isNaNBits bits := by
  unfold isNaNBits UnpackedFloat.unpack
  by_cases isAll : unpackExponent bits = -1#_
  · by_cases isZero : unpackMantissa bits = 0#_
    · simp [isAll, isZero, UnpackedFloat.isNaN]
    · simp [isAll, isZero, UnpackedFloat.isNaN]
  · simp only [isAll, if_false, false_and, decide_false]
    split
    · split <;> rfl
    · rfl

theorem isNaN_eq (x : Float) : x.isNaN = @isNaNBits Format.binary64 x.toBits.toBitVec :=
  isNaN_unpack _

/-- Bits are no number when all bits of the exponent are set and some bit of the fraction is. -/
theorem isNaNBits_iff (bits : BitVec 64) : @isNaNBits Format.binary64 bits = true ↔
    bits.toNat / Nat.pow 2 52 % Nat.pow 2 11 = 2047 ∧ bits.toNat % Nat.pow 2 52 ≠ 0 := by
  have exponent : @unpackExponent Format.binary64 bits = -1#11 ↔
      bits.toNat / Nat.pow 2 52 % Nat.pow 2 11 = 2047 := by
    rw [unpackExponent_def, ← BitVec.toNat_inj, BitVec.extractLsb'_toNat, Nat.shiftRight_eq_div_pow]
    rfl
  have mantissa : @unpackMantissa Format.binary64 bits = 0#52 ↔
      bits.toNat % Nat.pow 2 52 = 0 := by
    rw [unpackMantissa_def, ← BitVec.toNat_inj, BitVec.extractLsb'_toNat, Nat.shiftRight_zero]
    rfl
  rw [isNaNBits, decide_eq_true_iff, exponent, ne_eq, mantissa]

/-- A double is undefined exactly when it is no number. -/
theorem Binary.ofFloat_eq_undefined_iff {x : Float} :
    Binary.ofFloat x = .undefined ↔ x.isNaN = true := by
  have same : x.toBits.toBitVec.toNat = x.toBits.toNat := rfl
  rw [isNaN_eq, isNaNBits_iff, same]
  unfold Binary.ofFloat
  dsimp only
  split
  · rename_i isAll
    split
    · rename_i isZero
      exact iff_of_false nofun fun both => both.2 isZero
    · rename_i notZero
      exact iff_of_true rfl ⟨isAll, notZero⟩
  · rename_i notAll
    split <;> exact iff_of_false nofun fun both => notAll both.1

/-! ## Packing -/

theorem isNaNBits_packComponents {spec : Format} (sign : Sign) (exponent : BitVec spec.exponentBits)
    (mantissa : BitVec spec.mantissaBitsWithoutImplicit) :
    isNaNBits (packComponents spec sign exponent mantissa) =
      decide (exponent = -1#_ ∧ mantissa ≠ 0#_) := by
  rw [isNaNBits, unpackExponent_packComponents, unpackMantissa_packComponents]

/-- A number is packed as one. -/
theorem isNaNBits_pack {value : UnpackedFloat} (isNumber : value ≠ notANumber) :
    isNaNBits (value.pack Format.binary64) = false := by
  fun_cases UnpackedFloat.pack Format.binary64 value with
  | case1 => exact absurd rfl isNumber
  | case2 sign =>
      rw [packedInfinity, isNaNBits_packComponents]
      exact decide_eq_false fun both => both.2 rfl
  | case3 sign =>
      rw [packedZero, isNaNBits_packComponents]
      exact decide_eq_false fun both => absurd both.1 (by decide)
  | case4 =>
      rw [packedInfinity, isNaNBits_packComponents]
      exact decide_eq_false fun both => both.2 rfl
  | case5 sign mantissa exponent isPositive digits biased inRange isNormal =>
      rw [isNaNBits_packComponents]
      refine decide_eq_false fun both => ?_
      have same : biased % 2 ^ 11 = 2047 := congrArg BitVec.toNat both.1
      have bound : ¬2 ^ 11 ≤ biased + 1 := inRange
      omega
  | case6 =>
      rw [isNaNBits_packComponents]
      exact decide_eq_false fun both => absurd both.1 (by decide)

theorem isNaN_pack {value : UnpackedFloat} (isNumber : value ≠ notANumber) :
    (Float.ofModel (Float.Model.pack value)).isNaN = false :=
  (isNaN_eq _).trans (isNaNBits_pack isNumber)

/-- The double that is unpacked is a number. -/
theorem unpack_ne_of_isNumber {x : Float} (isNumber : x.isNaN = false) :
    x.toModel.unpack ≠ notANumber := by
  intro same
  have isNaN : x.toModel.unpack.isNaN = true := isNaN_iff.2 same
  exact absurd (isNumber.symm.trans isNaN) Bool.false_ne_true

/-! ## Comparing -/

theorem compare_swap (a b : UnpackedFloat) : b.compare a = (a.compare b).map Ordering.swap := by
  have places (m n : Nat) (e f : Int) :
      (compare f e).then (compare n m) = ((compare e f).then (compare m n)).swap := by
    rw [Ordering.swap_then, ← Std.OrientedOrd.eq_swap, ← Std.OrientedOrd.eq_swap]
  fun_cases UnpackedFloat.compare a b
  case case1 => cases b <;> rfl
  case case3 first second => cases first <;> cases second <;> rfl
  case case13 => rw [UnpackedFloat.compare, places, Option.map_some]
  case case16 => rw [UnpackedFloat.compare, places, Option.map_some]
  all_goals simp_all [UnpackedFloat.compare]

theorem compare_eq_none_iff {a b : UnpackedFloat} :
    a.compare b = none ↔ a = notANumber ∨ b = notANumber := by
  fun_cases UnpackedFloat.compare a b <;> simp_all

/-- Of two numbers, either the first is less or the second is at most the first. -/
theorem lt_eq_not_le {a b : UnpackedFloat} (isNumber : a ≠ notANumber)
    (otherIsNumber : b ≠ notANumber) : a.lt b = !b.le a := by
  have comparable : a.compare b ≠ none := by
    rw [ne_eq, compare_eq_none_iff, not_or]
    exact ⟨isNumber, otherIsNumber⟩
  rw [UnpackedFloat.lt, UnpackedFloat.le, compare_swap a b]
  cases comparison : a.compare b with
  | none => exact absurd comparison comparable
  | some outcome => cases outcome <;> rfl

theorem lt_iff (x y : Float) : x < y ↔ x.toModel.unpack.lt y.toModel.unpack = true :=
  (decide_eq_true_iff (p := x.toModel < y.toModel)).trans Iff.rfl

theorem le_iff (x y : Float) : x ≤ y ↔ x.toModel.unpack.le y.toModel.unpack = true :=
  (decide_eq_true_iff (p := x.toModel ≤ y.toModel)).trans Iff.rfl

theorem not_lt_iff_le {x y : Float} (isNumber : x.isNaN = false) (otherIsNumber : y.isNaN = false) :
    ¬x < y ↔ y ≤ x := by
  rw [lt_iff, le_iff, lt_eq_not_le (unpack_ne_of_isNumber isNumber)
    (unpack_ne_of_isNumber otherIsNumber)]
  simp

/-- Nothing is greater than an undefined double. -/
theorem not_lt_of_isNaN {x : Float} (isNaN : x.isNaN = true) (y : Float) : ¬x < y := by
  have undefined : x.toModel.unpack = notANumber := isNaN_iff.1 isNaN
  rw [lt_iff, undefined, UnpackedFloat.lt, compare_eq_none_iff.2 (.inl rfl)]
  exact Bool.false_ne_true

/-- Nothing is at most an undefined double. -/
theorem not_le_of_isNaN {x : Float} (isNaN : x.isNaN = true) (y : Float) : ¬y ≤ x := by
  have undefined : x.toModel.unpack = notANumber := isNaN_iff.1 isNaN
  rw [le_iff, undefined, UnpackedFloat.le, compare_eq_none_iff.2 (.inr rfl)]
  exact Bool.false_ne_true

/-! ## Adding and rounding -/

theorem round_ne_notANumber (spec : Format) (sign : Sign) (mantissa : Nat) (exponent : Int) :
    UnpackedFloat.round spec sign mantissa exponent ≠ notANumber := by
  unfold UnpackedFloat.round roundWithAccuracy
  dsimp only
  split <;> exact nofun

theorem normalize_ne_notANumber (spec : Format) (mantissa exponent : Int) (sign : Sign) :
    UnpackedFloat.normalize spec mantissa exponent sign ≠ notANumber := by
  unfold UnpackedFloat.normalize
  split
  · exact round_ne_notANumber _ _ _ _
  · exact nofun
  · exact round_ne_notANumber _ _ _ _

theorem add_ne_notANumber (spec : Format) {a b : UnpackedFloat} (isFinite : a.isFinite = true)
    (isNumber : b ≠ notANumber) : a.add spec b ≠ notANumber := by
  fun_cases UnpackedFloat.add spec a b <;>
    simp_all [UnpackedFloat.isFinite, normalize_ne_notANumber]

theorem isNaN_of_isFinite {x : Float} (isFinite : x.isFinite = true) : x.isNaN = false := by
  have finite : x.toModel.unpack.isFinite = true := isFinite
  have unfolded : x.isNaN = x.toModel.unpack.isNaN := rfl
  rw [unfolded]
  cases unpacked : x.toModel.unpack with
  | notANumber =>
      rw [unpacked] at finite
      cases finite
  | infinity sign => rfl
  | zero sign => rfl
  | finite sign mantissa exponent => rfl

/-- The sum of a finite double and a number is a number. -/
theorem isNaN_add {x y : Float} (isFinite : x.isFinite = true) (isNumber : y.isNaN = false) :
    (x + y).isNaN = false :=
  isNaN_pack (add_ne_notANumber _ isFinite (unpack_ne_of_isNumber isNumber))

theorem add_notANumber (spec : Format) (a : UnpackedFloat) : a.add spec notANumber = notANumber := by
  cases a <;> rfl

/-- A sum with what is no number is none. -/
theorem isNaN_add_of_isNaN (x : Float) {y : Float} (isNaN : y.isNaN = true) :
    (x + y).isNaN = true := by
  have undefined : y.toModel.unpack = notANumber := isNaN_iff.1 isNaN
  have sum : x + y = Float.ofModel (Float.Model.pack
      (x.toModel.unpack.add Format.binary64 y.toModel.unpack)) := rfl
  rw [sum, undefined, add_notANumber, isNaN_eq]
  exact isNaNBits_packedNaN

theorem isNaN_signed {negative : Bool} {bits : Nat} (bound : bits < 2047 * Nat.pow 2 52) :
    (signed negative bits).isNaN = false := by
  have numeric : @isNaNBits Format.binary64
      (UInt64.ofNat (if negative then bits + Nat.pow 2 63 else bits)).toBitVec = false := by
    rw [Bool.eq_false_iff, ne_eq, isNaNBits_iff, UInt64.toNat_toBitVec, UInt64.toNat_ofNat']
    have sign : Nat.pow 2 63 = 9223372036854775808 := rfl
    have fraction : Nat.pow 2 52 = 4503599627370496 := rfl
    have exponent : Nat.pow 2 11 = 2048 := rfl
    rw [fraction] at bound
    rw [sign, fraction, exponent]
    cases negative with
    | false =>
        rw [if_neg Bool.false_ne_true]
        omega
    | true =>
        rw [if_pos rfl]
        omega
  refine isNaN_pack fun same => ?_
  rw [← isNaN_iff, isNaN_unpack, numeric] at same
  cases same

/-- An integer is rounded to a number. -/
theorem isNaN_of_roundInt {n : Int} {x : Float} (rounded : roundInt n = some x) :
    x.isNaN = false := by
  unfold roundInt roundRatio at rounded
  dsimp only at rounded
  split at rounded
  · exact Option.some.inj rounded ▸ isNaN_signed (by decide)
  · split at rounded
    · cases rounded
    · rename_i notGreat
      exact Option.some.inj rounded ▸ isNaN_signed (Nat.lt_of_not_le notGreat)

end Authorization.Number
