import Authorization.Number.Binary
import Authorization.Number.Decimal
import Mathlib.Algebra.Ring.Parity
import Mathlib.Tactic.IntervalCases

/-!
# Numbers and their texts

Natural numbers are written with their decimal digits, so that different numbers have different texts. No
number is written with a letter other than the mark of an exponent.
-/

namespace Authorization.Number

theorem ofNat_digit {c : Char} (isDigit : c.isDigit = true) : Char.ofNat (48 + (c.toNat - 48)) = c := by
  have lower : 48 ≤ c.toNat := (Char.isDigit_iff_toNat.1 isDigit).1
  rw [Nat.add_sub_cancel' lower, Char.ofNat_toNat]

theorem intText_natCast (n : Nat) : intText n = String.ofList (Nat.toDigits 10 n) := by
  have notNegative : ¬(n : Int) < 0 := Int.not_lt.2 (Int.natCast_nonneg n)
  rw [intText, if_neg notNegative, Int.natAbs_natCast, digitText, digitsOf, List.map_map]
  refine congrArg String.ofList ((List.map_congr_left fun c member => ?_).trans (List.map_id _))
  exact ofNat_digit (Nat.isDigit_of_mem_toDigits (by decide) (Nat.le_refl 10) member)

theorem intText_natCast_injective {n m : Nat} (same : intText n = intText m) : n = m := by
  rw [intText_natCast, intText_natCast] at same
  rw [← Nat.ofDigitChars_ten_toDigits (n := n), String.ofList_injective same,
    Nat.ofDigitChars_ten_toDigits]

/-! ## The characters of numbers -/

/-- A character that numbers are written with. -/
def isMark (c : Char) : Bool :=
  c.isDigit || ['.', 'e', '+', '-'].contains c

/-- A text that is written like a number. -/
def IsNumeral (text : String) : Prop :=
  text.toList.all isMark = true

instance (text : String) : Decidable (IsNumeral text) :=
  inferInstanceAs (Decidable (text.toList.all isMark = true))

theorem IsNumeral.append {first second : String} (isFirst : IsNumeral first)
    (isSecond : IsNumeral second) : IsNumeral (first ++ second) := by
  rw [IsNumeral, String.toList_append, List.all_append, Bool.and_eq_true]
  exact ⟨isFirst, isSecond⟩

theorem isNumeral_digitText {digits : List Nat} (areDigits : ∀ d ∈ digits, d < 10) :
    IsNumeral (digitText digits) := by
  rw [IsNumeral, List.all_eq_true, digitText, String.toList_ofList]
  intro c member
  obtain ⟨d, isDigit, rfl⟩ := List.mem_map.1 member
  have small := areDigits d isDigit
  interval_cases d <;> rfl

theorem lt_of_mem_digitsOf {n d : Nat} (member : d ∈ digitsOf n) : d < 10 := by
  obtain ⟨c, isDigit, rfl⟩ := List.mem_map.1 member
  have upper := (Char.isDigit_iff_toNat.1
    (Nat.isDigit_of_mem_toDigits (by decide) (Nat.le_refl 10) isDigit)).2
  have nine : '9'.toNat = 57 := rfl
  omega

theorem isNumeral_intText (n : Int) : IsNumeral (intText n) := by
  have magnitude : IsNumeral (digitText (digitsOf n.natAbs)) :=
    isNumeral_digitText fun _ member => lt_of_mem_digitsOf member
  unfold intText
  dsimp only
  split
  · exact IsNumeral.append (by decide) magnitude
  · exact magnitude

theorem isNumeral_exponentText (exponent : Int) : IsNumeral (exponentText exponent) := by
  have magnitude : IsNumeral (digitText (digitsOf exponent.natAbs)) :=
    isNumeral_digitText fun _ member => lt_of_mem_digitsOf member
  have sign : IsNumeral (if exponent < 0 then "-" else "+") := by
    split
    · decide
    · decide
  unfold exponentText
  dsimp only
  refine (IsNumeral.append (by decide) sign).append ?_
  split
  · exact IsNumeral.append (by decide) magnitude
  · exact magnitude

/-- The digits of the shortest decimal are digits. -/
theorem lt_of_mem_shortestDecimal {mantissa d : Nat} {exponent : Int}
    (member : d ∈ (shortestDecimal mantissa exponent).digits) : d < 10 := by
  unfold shortestDecimal at member
  dsimp only at member
  rcases found : (List.range 17).findSome? (fun n => decimalWith? mantissa exponent
      (decimalPoint (mantissa * Nat.pow 2 exponent.toNat) (Nat.pow 2 (-exponent).toNat)) (n + 1)) with
    _ | decimal
  · rw [found] at member
    exact lt_of_mem_digitsOf member
  · rw [found] at member
    obtain ⟨n, _, made⟩ := List.exists_of_findSome?_eq_some found
    obtain ⟨chosen, _, rfl⟩ := Option.map_eq_some_iff.1 made
    exact lt_of_mem_digitsOf member

theorem mem_of_mem_dropTrailingZeros {digits : List Nat} {d : Nat}
    (member : d ∈ dropTrailingZeros digits) : d ∈ digits := by
  rw [dropTrailingZeros, List.mem_reverse] at member
  exact List.mem_reverse.1 ((List.dropWhile_sublist _).subset member)

theorem lt_of_mem_significant {decimal : Decimal} (areDigits : ∀ d ∈ decimal.digits, d < 10) :
    ∀ d ∈ decimal.significant, d < 10 := by
  intro d member
  unfold Decimal.significant at member
  split at member
  · rw [List.mem_singleton.1 member]
    decide
  · exact areDigits d (mem_of_mem_dropTrailingZeros member)

theorem isNumeral_decimalText {decimal : Decimal} (areDigits : ∀ d ∈ decimal.digits, d < 10) :
    IsNumeral decimal.text := by
  have point : IsNumeral "." := by decide
  have zeros (count : Nat) : IsNumeral (digitText (List.replicate count 0)) := by
    refine isNumeral_digitText fun d member => ?_
    rw [List.eq_of_mem_replicate member]
    decide
  have areSignificant := lt_of_mem_significant areDigits
  have written := isNumeral_digitText areSignificant
  unfold Decimal.text
  dsimp only
  split
  · split
    · exact (IsNumeral.append (by decide) (zeros _)).append written
    · split
      · exact (written.append (zeros _)).append (by decide)
      · refine (IsNumeral.append ?_ point).append ?_
        · exact isNumeral_digitText fun d member => areSignificant d (List.mem_of_mem_take member)
        · exact isNumeral_digitText fun d member => areSignificant d (List.mem_of_mem_drop member)
  · split
    · decide
    · rename_i first single
      rw [single] at written
      exact written.append (isNumeral_exponentText _)
    · rename_i first rest _ several
      rw [several] at areSignificant
      obtain ⟨isDigit, others⟩ := List.forall_mem_cons.1 areSignificant
      have begins : IsNumeral (digitText [first]) :=
        isNumeral_digitText (List.forall_mem_singleton.2 isDigit)
      exact ((begins.append point).append (isNumeral_digitText others)).append
        (isNumeral_exponentText _)

theorem isNumeral_floatText {number : Float} {negative : Bool} {mantissa : Nat} {exponent : Int}
    (isFinite : Binary.ofFloat number = .finite negative mantissa exponent) :
    IsNumeral (floatText number) := by
  have magnitude : IsNumeral
      (if mantissa = 0 then "0.0" else (shortestDecimal mantissa exponent).text) := by
    split
    · decide
    · exact isNumeral_decimalText fun _ member => lt_of_mem_shortestDecimal member
  unfold floatText
  rw [isFinite]
  dsimp only
  split
  · exact IsNumeral.append (by decide) magnitude
  · exact magnitude

/-! ## The bits of integers -/

theorem bitLength_le_iff {n : Int} {bits : Nat} : bitLength n ≤ bits ↔ n.natAbs < 2 ^ bits := by
  unfold bitLength
  by_cases isZero : n = 0
  · rw [if_pos isZero, isZero]
    simp
  · have positive : n.natAbs ≠ 0 := Int.natAbs_ne_zero.2 isZero
    rw [if_neg isZero, Nat.add_one_le_iff, Nat.log2_lt positive]

theorem intPower_eq (base : Int) (exponent : Nat) : intPower base exponent = base ^ exponent := by
  unfold intPower
  split
  case isTrue isZero =>
    rw [isZero]
    by_cases none : exponent = 0
    · simp [none]
    · simp [none]
  case isFalse =>
    split
    · simp_all
    · split
      case isTrue isMinusOne =>
        rw [isMinusOne]
        obtain isEven | isOdd := Nat.mod_two_eq_zero_or_one exponent
        · rw [if_pos isEven, (Nat.even_iff.2 isEven).neg_one_pow]
        · rw [if_neg (by omega), (Nat.odd_iff.2 isOdd).neg_one_pow]
      case isFalse => rfl

/-- A power has no more bits than its base has as often as the exponent says. -/
theorem bitLength_intPower_le (base : Int) {exponent : Nat} (positive : 0 < exponent) :
    bitLength (intPower base exponent) ≤ bitLength base * exponent := by
  have bounded : base.natAbs < 2 ^ bitLength base := bitLength_le_iff.1 (Nat.le_refl _)
  rw [bitLength_le_iff, intPower_eq, Int.natAbs_pow, Nat.pow_mul 2]
  exact Nat.pow_lt_pow_left bounded (Nat.pos_iff_ne_zero.1 positive)

end Authorization.Number
