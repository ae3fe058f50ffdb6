import Authorization.Proofs.Number
import Authorization.Proofs.Result
import Authorization.Proofs.Script.Run

/-!
# What the checks before an operator keep out

A sum, a product or a power is computed only after its operands have been checked, and texts are joined
only after their lengths have been added. What an operator makes of operands is told first: it is a
number, a time, or of a length that the operands determine. The checks look at the same lengths.
-/

namespace Authorization

namespace Value

/-- A number that is no integer. -/
inductive IsInexact : Value → Prop
  | float (x : Float) : IsInexact (.float x)
  | complex (re im : Float) : IsInexact (.complex re im)

/-- A number of one of the kinds that arithmetic has. -/
inductive IsNumber : Value → Prop
  | int (n : Int) : IsNumber (.int n)
  | inexact {value : Value} (isInexact : IsInexact value) : IsNumber value

/-- A time or a span of time. -/
inductive IsTime : Value → Prop
  | instant (time : Time.Instant) : IsTime (.instant time)
  | duration (span : Time.Duration) : IsTime (.duration span)

theorem isTime_of_spanOf {micros : Int} {value : Value} (made : spanOf micros = .ok value) :
    IsTime value := by
  unfold spanOf at made
  split at made
  · cases made
    exact .duration _
  · cases made

theorem isTime_of_movedBy {time : Time.Instant} {micros : Int} {value : Value}
    (made : movedBy time micros = .ok value) : IsTime value := by
  unfold movedBy at made
  split at made
  · cases made
    exact .instant _
  · cases made

theorem isTime_of_roundedSpan {numerator denominator : Int} {value : Value}
    (made : roundedSpan numerator denominator = .ok value) : IsTime value := by
  unfold roundedSpan at made
  split at made
  · cases made
  · exact isTime_of_spanOf made

theorem isTime_of_addTimes? {left right value : Value}
    (made : addTimes? left right = some (.ok value)) : IsTime value := by
  unfold addTimes? at made
  split at made
  · exact isTime_of_movedBy (Option.some.inj made)
  · exact isTime_of_movedBy (Option.some.inj made)
  · exact isTime_of_spanOf (Option.some.inj made)
  · cases made

theorem isTime_of_multipleOf {span : Time.Duration} {factor value : Value}
    (made : multipleOf span factor = some (.ok value)) : IsTime value := by
  unfold multipleOf at made
  split at made
  · obtain ⟨ratio, -, rounded⟩ := Except.bind_eq_ok_iff.1 (Option.some.inj made)
    exact isTime_of_roundedSpan rounded
  · obtain ⟨n, -, multiple⟩ := Option.map_eq_some_iff.1 made
    exact isTime_of_spanOf multiple

theorem isTime_of_multiplyTimes? {left right value : Value}
    (made : multiplyTimes? left right = some (.ok value)) : IsTime value := by
  unfold multiplyTimes? at made
  split at made
  · exact isTime_of_multipleOf made
  · exact isTime_of_multipleOf made
  · cases made

theorem isInexact_ofComplex (z : Number.Complex) : IsInexact (ofComplex z) :=
  .complex _ _

/-! ## Results of operators -/

theorem ok_of_getD_noOperation {operator : String} {a b value : Value}
    {found? : Option (Except Error Value)}
    (made : found?.getD (noOperation operator a b) = .ok value) : found? = some (.ok value) := by
  cases found? with
  | none => cases made
  | some found => exact congrArg some made

/-- What a sum is: two of a kind, one after the other, a number or a time. -/
theorem add_cases {left right value : Value} (made : left.add right = .ok value) :
    (∃ a b, left = .str a ∧ right = .str b ∧ value = .str (a ++ b)) ∨
    (∃ a b, left = .bytes a ∧ right = .bytes b ∧ value = .bytes (a ++ b)) ∨
    (∃ a b, left = .list a ∧ right = .list b ∧ value = .list (a ++ b)) ∨
    (∃ a b, left = .tuple a ∧ right = .tuple b ∧ value = .tuple (a ++ b)) ∨
    IsNumber value ∨ addTimes? left right = some (.ok value) := by
  unfold add at made
  split at made
  case h_1 a b => exact .inl ⟨a, b, rfl, rfl, (Except.ok.inj made).symm⟩
  case h_2 a b => exact .inr (.inl ⟨a, b, rfl, rfl, (Except.ok.inj made).symm⟩)
  case h_3 a b => exact .inr (.inr (.inl ⟨a, b, rfl, rfl, (Except.ok.inj made).symm⟩))
  case h_4 a b => exact .inr (.inr (.inr (.inl ⟨a, b, rfl, rfl, (Except.ok.inj made).symm⟩)))
  case h_5 =>
    refine .inr (.inr (.inr (.inr ?_)))
    split at made
    · exact .inr (ok_of_getD_noOperation made)
    · obtain ⟨pair, -, sum⟩ := Except.bind_eq_ok_iff.1 made
      refine .inl ?_
      cases pair with
      | whole n m =>
          cases sum
          exact .int _
      | real x y =>
          cases sum
          exact .inexact (.float _)
      | complex z w =>
          cases sum
          exact .inexact (isInexact_ofComplex _)

theorem length_of_repeated {α : Type} {items result : List α} {count : Int}
    (made : repeated items count = .ok result) : result.length = items.length * count.toNat := by
  unfold repeated at made
  split at made
  · cases made
  · split at made
    case isTrue nothing =>
      cases made
      obtain none | notPositive := nothing
      · rw [List.isEmpty_iff.1 none]
        simp
      · rw [Int.toNat_of_nonpos notPositive]
        rfl
    case isFalse =>
      split at made
      · cases made
      · split at made
        · cases made
        · cases made
          simp [Nat.mul_comm]

/-- What a product is: a sequence several times, a number or a time. -/
theorem multiply_cases {left right value : Value} (made : left.multiply right = .ok value) :
    (∃ n, right.asInt? = some n ∧ repeatedValue? left n = some (.ok value)) ∨
    (∃ n, right.asInt? = none ∧ left.asInt? = some n ∧ repeatedValue? right n = some (.ok value)) ∨
    IsNumber value ∨ multiplyTimes? left right = some (.ok value) := by
  unfold multiply at made
  split at made
  · obtain ⟨pair, -, product⟩ := Except.bind_eq_ok_iff.1 made
    refine .inr (.inr (.inl ?_))
    cases pair with
    | whole n m =>
        cases product
        exact .int _
    | real x y =>
        cases product
        exact .inexact (.float _)
    | complex z w =>
        cases product
        exact .inexact (isInexact_ofComplex _)
  · have found := ok_of_getD_noOperation made
    obtain several | ⟨-, times⟩ := (Option.orElse_eq_some _ _ _).1 found
    · split at several
      case h_1 count isCount => exact .inl ⟨count, isCount, several⟩
      case h_2 isNone =>
        obtain ⟨count, isCount, repeats⟩ := Option.bind_eq_some_iff.1 several
        exact .inr (.inl ⟨count, isNone, isCount, repeats⟩)
    · exact .inr (.inr (.inr times))

theorem isInexact_of_complexPower {z w : Number.Complex} {value : Value}
    (made : complexPower z w = .ok value) : IsInexact value := by
  unfold complexPower at made
  split at made
  · cases made
    exact isInexact_ofComplex _
  · cases made
  · cases made

theorem isInexact_of_realPower {x y : Float} {value : Value} (made : realPower x y = .ok value) :
    IsInexact value := by
  unfold realPower at made
  split at made
  · cases made
    exact .float _
  · cases made
  · cases made
  · exact isInexact_of_complexPower made

theorem numeric?_of_asInt? {value : Value} {n : Int} (isWhole : value.asInt? = some n) :
    numeric? value = some (.whole n) := by
  cases value with
  | int number =>
      cases isWhole
      rfl
  | bool flag =>
      cases isWhole
      rfl
  | _ => cases isWhole

theorem eq_whole_of_paired {first second : Numeric} {n m : Int}
    (isPair : paired first second = .ok (.whole n m)) : first = .whole n ∧ second = .whole m := by
  cases first with
  | whole a =>
      cases second with
      | whole b =>
          cases isPair
          exact ⟨rfl, rfl⟩
      | real y =>
          obtain ⟨x, -, isReal⟩ := Except.bind_eq_ok_iff.1 isPair
          cases isReal
      | complex w =>
          obtain ⟨z, -, isComplex⟩ := Except.map_eq_ok_iff.1 isPair
          cases isComplex
  | real x =>
      cases second with
      | whole b =>
          obtain ⟨y, -, isReal⟩ := Except.bind_eq_ok_iff.1 isPair
          obtain ⟨z, -, isReal⟩ := Except.bind_eq_ok_iff.1 isReal
          cases isReal
      | real y => cases isPair
      | complex w => cases isPair
  | complex z =>
      have made : (toComplex second).map (NumberPair.complex z) = .ok (.whole n m) := by
        cases second <;> exact isPair
      obtain ⟨w, -, isComplex⟩ := Except.map_eq_ok_iff.1 made
      cases isComplex

theorem eq_whole_of_numbers? {left right : Value} {pair : Except Error NumberPair} {n m : Int}
    (arePaired : numbers? left right = some pair) (areWhole : pair = .ok (.whole n m)) :
    numeric? left = some (.whole n) ∧ numeric? right = some (.whole m) := by
  unfold numbers? at arePaired
  split at arePaired
  case h_1 x y isFirst isSecond =>
    cases arePaired
    obtain ⟨rfl, rfl⟩ := eq_whole_of_paired areWhole
    exact ⟨isFirst, isSecond⟩
  case h_2 => cases arePaired

/-- What a power is: an integer, when it is one of two whole numbers and the exponent is not negative,
or else a number that is no integer. -/
theorem power_cases {left right value : Value} (made : left.power right = .ok value) :
    (∃ base exponent, numeric? left = some (.whole base) ∧ numeric? right = some (.whole exponent) ∧
      exponent ≥ 0 ∧ value = .int (Number.intPower base exponent.toNat)) ∨
    IsInexact value := by
  unfold power at made
  split at made
  · cases made
  · rename_i pair? isPair
    obtain ⟨pair, paired, power⟩ := Except.bind_eq_ok_iff.1 made
    cases pair with
    | whole base exponent =>
        obtain ⟨isBase, isExponent⟩ := eq_whole_of_numbers? isPair paired
        dsimp only at power
        split at power
        case isTrue notNegative =>
          exact .inl ⟨base, exponent, isBase, isExponent, notNegative, (Except.ok.inj power).symm⟩
        case isFalse =>
          obtain ⟨x, -, rest⟩ := Except.bind_eq_ok_iff.1 power
          obtain ⟨y, -, real⟩ := Except.bind_eq_ok_iff.1 rest
          exact .inr (isInexact_of_realPower real)
    | real x y => exact .inr (isInexact_of_realPower power)
    | complex z w => exact .inr (isInexact_of_complexPower power)

end Value

namespace Script

open Eval

variable {budget : Budget} {run after : Run}

/-! ## Lengths of results -/

theorem sequenceLength?_of_isNumber {value : Value} (isNumber : value.IsNumber) :
    sequenceLength? value = none := by
  obtain n | isInexact := isNumber
  · rfl
  · cases isInexact with
    | float x => rfl
    | complex re im => rfl

theorem sequenceLength?_of_isTime {value : Value} (isTime : value.IsTime) :
    sequenceLength? value = none := by
  cases isTime with
  | instant time => rfl
  | duration span => rfl

/-- The length of a sum is that of its operands together. -/
theorem sequenceLength?_add {left right value : Value} {length : Nat}
    (made : left.add right = .ok value) (isLong : sequenceLength? value = some length) :
    ∃ first second, sequenceLength? left = some first ∧ sequenceLength? right = some second ∧
      length = first + second := by
  obtain ⟨a, b, rfl, rfl, rfl⟩ | ⟨a, b, rfl, rfl, rfl⟩ | ⟨a, b, rfl, rfl, rfl⟩ |
    ⟨a, b, rfl, rfl, rfl⟩ | isNumber | times := Value.add_cases made
  · refine ⟨_, _, rfl, rfl, ?_⟩
    rw [← String.length_append]
    exact (Option.some.inj isLong).symm
  · cases isLong
  · refine ⟨_, _, rfl, rfl, ?_⟩
    rw [← List.length_append]
    exact (Option.some.inj isLong).symm
  · refine ⟨_, _, rfl, rfl, ?_⟩
    rw [← List.length_append]
    exact (Option.some.inj isLong).symm
  · rw [sequenceLength?_of_isNumber isNumber] at isLong
    cases isLong
  · rw [sequenceLength?_of_isTime (Value.isTime_of_addTimes? times)] at isLong
    cases isLong

theorem sequenceLength?_repeatedValue {sequence value : Value} {count : Int} {length : Nat}
    (made : Value.repeatedValue? sequence count = some (.ok value))
    (isLong : sequenceLength? value = some length) :
    ∃ once, sequenceLength? sequence = some once ∧ length = once * count.toNat := by
  unfold Value.repeatedValue? at made
  split at made
  case h_1 content count =>
    obtain ⟨chars, repeats, rfl⟩ := Except.map_eq_ok_iff.1 (Option.some.inj made)
    refine ⟨_, rfl, ?_⟩
    have same : (String.ofList chars).length = length := Option.some.inj isLong
    rw [← same, String.length_ofList, Value.length_of_repeated repeats, String.length_toList]
  case h_2 octets count =>
    obtain ⟨several, -, rfl⟩ := Except.map_eq_ok_iff.1 (Option.some.inj made)
    cases isLong
  case h_3 items count =>
    obtain ⟨several, repeats, rfl⟩ := Except.map_eq_ok_iff.1 (Option.some.inj made)
    have same : several.length = length := Option.some.inj isLong
    exact ⟨_, rfl, by rw [← same, Value.length_of_repeated repeats]⟩
  case h_4 items count =>
    obtain ⟨several, repeats, rfl⟩ := Except.map_eq_ok_iff.1 (Option.some.inj made)
    have same : several.length = length := Option.some.inj isLong
    exact ⟨_, rfl, by rw [← same, Value.length_of_repeated repeats]⟩
  case h_5 => cases made

/-! ## What the checks let pass -/

theorem not_of_perform_guard {α : Type} {condition : Prop} [Decidable condition] {found : Breach}
    {value result : α}
    (accepted : perform (if condition then breach found else pure value) run = (.ok result, after)) :
    ¬condition := by
  intro holds
  rw [if_pos holds] at accepted
  have failed := congrArg Prod.fst accepted
  cases failed

theorem add_le_of_checkSum {left right : Value} {first second : Nat}
    (accepted : perform (checkSum budget left right) run = (.ok (), after))
    (isFirst : sequenceLength? left = some first) (isSecond : sequenceLength? right = some second) :
    first + second ≤ budget.limits.maxSequenceLength := by
  unfold checkSum at accepted
  rw [isFirst, isSecond] at accepted
  exact Nat.le_of_not_gt (not_of_perform_guard accepted)

theorem mul_le_of_checkProduct {left right sequence count : Value} {once : Nat} {n : Int}
    (accepted : perform (checkProduct budget left right) run = (.ok (), after))
    (chosen : (if right.asInt?.isSome then (left, right) else (right, left)) = (sequence, count))
    (isLong : sequenceLength? sequence = some once) (isCount : count.asInt? = some n) :
    once * n.toNat ≤ budget.limits.maxSequenceLength := by
  unfold checkProduct at accepted
  rw [chosen] at accepted
  dsimp only at accepted
  rw [isLong, isCount] at accepted
  have bounded : (once : Int) * n ≤ budget.limits.maxSequenceLength :=
    Int.not_lt.1 (not_of_perform_guard accepted)
  by_cases notNegative : 0 ≤ n
  · rw [← Int.toNat_of_nonneg notNegative] at bounded
    exact_mod_cast bounded
  · have none : n.toNat = 0 := by omega
    rw [none, Nat.mul_zero]
    exact Nat.zero_le _

theorem bits_le_of_checkPower {left right : Value} {base exponent : Int}
    (accepted : perform (checkPower budget left right) run = (.ok (), after))
    (isBase : left.asInt? = some base) (isExponent : right.asInt? = some exponent)
    (positive : 0 < exponent) : Number.bitLength base * exponent ≤ maxIntBits := by
  unfold checkPower at accepted
  split at accepted
  · split at accepted
    · have failed := congrArg Prod.fst accepted
      cases failed
    · have failed := congrArg Prod.fst accepted
      cases failed
  · rw [isBase, isExponent] at accepted
    have bounded := not_of_perform_guard accepted
    exact Int.not_lt.1 fun above => bounded ⟨positive, above⟩

/-! ## Joined texts -/

/-- A joined text holds its parts, and a separator between neighbours. -/
theorem length_join (separator : String) (texts : List String) :
    (Text.join separator texts).length =
      (texts.map String.length).sum + (texts.length - 1) * separator.length := by
  unfold Text.join
  induction texts with
  | nil => simp
  | cons first rest inductionHypothesis =>
      cases rest with
      | nil => simp
      | cons second others =>
          rw [String.intercalate_cons_cons, String.length_append, String.length_append,
            inductionHypothesis]
          simp only [List.map_cons, List.sum_cons, List.length_cons, Nat.add_sub_cancel]
          rw [Nat.add_mul, Nat.one_mul]
          omega

/-- The lengths of all texts are added up, where all parts are texts. -/
theorem foldl_textLength {parts : List Value} {texts : List String}
    (areTexts : Method.textParts parts = .ok texts) (length : Nat) :
    parts.foldl (fun length part => length + textLength part) length =
      length + (texts.map String.length).sum := by
  induction parts generalizing texts length with
  | nil =>
      cases areTexts
      rfl
  | cons part rest inductionHypothesis =>
      cases part with
      | str content =>
          obtain ⟨others, areOthers, rfl⟩ := Except.map_eq_ok_iff.1 areTexts
          rw [List.foldl_cons, inductionHypothesis areOthers, List.map_cons, List.sum_cons,
            ← Nat.add_assoc]
          rfl
      | _ => cases areTexts

theorem sum_le_of_joinable {source joined : Value}
    (accepted : perform (joinable budget source) run = (.ok joined, after)) :
    ∃ parts, joined = .list parts ∧ ∀ texts, Method.textParts parts = .ok texts →
      (texts.map String.length).sum ≤ budget.limits.maxSequenceLength := by
  obtain ⟨parts, drawn, -, rest⟩ := exists_of_perform_bind accepted
  obtain ⟨-, checked, -, rest⟩ := exists_of_perform_bind rest
  dsimp only at rest
  split at rest
  · obtain ⟨_, _, failed, -⟩ := exists_of_perform_bind rest
    have never := congrArg Prod.fst failed
    cases never
  case isFalse within =>
    have same : joined = .list parts := (Except.ok.inj (congrArg Prod.fst rest)).symm
    refine ⟨parts, same, fun texts areTexts => ?_⟩
    rw [foldl_textLength areTexts, Nat.zero_add] at within
    exact Nat.le_of_not_gt within

/-! ## Results within the limits -/

/-- The operands pass their check, and the operator makes the value of them. -/
def Yields (budget : Budget) (operator : BinaryOperator) (left right value : Value) : Prop :=
  ∃ run after ended, perform (checkOperands budget operator left right) run = (.ok (), after) ∧
    perform (combine operator left right) after = (.ok value, ended)

/-- The texts are what some value holds that may be joined. -/
def MayJoin (budget : Budget) (texts : List String) : Prop :=
  ∃ source parts run after, perform (joinable budget source) run = (.ok (.list parts), after) ∧
    Method.textParts parts = .ok texts

theorem eq_ok_of_perform_ofExcept {α : Type} {result : Except Error α} {value : α}
    (succeeds : perform (ofExcept result) run = (.ok value, after)) : result = .ok value := by
  rw [perform_ofExcept] at succeeds
  have same := congrArg Prod.fst succeeds
  cases result with
  | error error => cases same
  | ok found =>
      cases same
      rfl

theorem length_le_of_yields_add {left right value : Value} {length : Nat}
    (yields : Yields budget .add left right value)
    (isLong : sequenceLength? value = some length) :
    length ≤ budget.limits.maxSequenceLength := by
  obtain ⟨run, after, ended, accepted, combined⟩ := yields
  obtain ⟨first, second, isFirst, isSecond, rfl⟩ :=
    sequenceLength?_add (eq_ok_of_perform_ofExcept combined) isLong
  exact add_le_of_checkSum accepted isFirst isSecond

theorem length_le_of_yields_multiply {left right value : Value} {length : Nat}
    (yields : Yields budget .multiply left right value)
    (isLong : sequenceLength? value = some length) :
    length ≤ budget.limits.maxSequenceLength := by
  obtain ⟨run, after, ended, accepted, combined⟩ := yields
  obtain ⟨n, isCount, repeats⟩ | ⟨n, isNone, isCount, repeats⟩ | isNumber | times :=
    Value.multiply_cases (eq_ok_of_perform_ofExcept combined)
  · obtain ⟨once, isOnce, rfl⟩ := sequenceLength?_repeatedValue repeats isLong
    exact mul_le_of_checkProduct accepted (by rw [isCount]; rfl) isOnce isCount
  · obtain ⟨once, isOnce, rfl⟩ := sequenceLength?_repeatedValue repeats isLong
    exact mul_le_of_checkProduct accepted (by rw [isNone]; rfl) isOnce isCount
  · rw [sequenceLength?_of_isNumber isNumber] at isLong
    cases isLong
  · rw [sequenceLength?_of_isTime (Value.isTime_of_multiplyTimes? times)] at isLong
    cases isLong

theorem sequenceLength?_of_yields_power {left right value : Value}
    (yields : Yields budget .power left right value) : sequenceLength? value = none := by
  obtain ⟨run, after, ended, -, combined⟩ := yields
  obtain ⟨base, exponent, -, -, -, rfl⟩ | isInexact :=
    Value.power_cases (eq_ok_of_perform_ofExcept combined)
  · rfl
  · exact sequenceLength?_of_isNumber (.inexact isInexact)

theorem bits_le_of_yields_power {left right : Value} {base exponent n : Int}
    (yields : Yields budget .power left right (.int n))
    (isBase : left.asInt? = some base) (isExponent : right.asInt? = some exponent) :
    Number.bitLength n ≤ maxIntBits := by
  obtain ⟨run, after, ended, accepted, combined⟩ := yields
  obtain ⟨first, second, isFirst, isSecond, notNegative, same⟩ | isInexact :=
    Value.power_cases (eq_ok_of_perform_ofExcept combined)
  · cases isFirst.symm.trans (Value.numeric?_of_asInt? isBase)
    cases isSecond.symm.trans (Value.numeric?_of_asInt? isExponent)
    cases same
    by_cases positive : 0 < exponent
    · have bounded := bits_le_of_checkPower accepted isBase isExponent positive
      have shorter := Number.bitLength_intPower_le base (Int.pos_iff_toNat_pos.1 positive)
      rw [← Int.toNat_of_nonneg notNegative] at bounded
      exact shorter.trans (by exact_mod_cast bounded)
    · have zero : exponent = 0 := by omega
      rw [zero, Number.intPower_eq, Int.toNat_zero, pow_zero]
      decide
  · cases isInexact

/-- What the checks let pass stays within the limits: sums, products and powers that are texts, lists or
tuples are not too long, powers of integers are not too great, and texts to be joined are together
not too long, without the separators. -/
theorem checked_results_are_bounded (budget : Budget) :
    (∀ operator ∈ [BinaryOperator.add, .multiply, .power], ∀ left right value,
      Yields budget operator left right value →
      (∀ length, sequenceLength? value = some length → length ≤ budget.limits.maxSequenceLength) ∧
      (operator = .power → left.asInt?.isSome → right.asInt?.isSome →
        ∀ n, value = .int n → Number.bitLength n ≤ maxIntBits)) ∧
    (∀ texts, MayJoin budget texts →
      (texts.map String.length).sum ≤ budget.limits.maxSequenceLength ∧
      ∀ separator, separator = "" ∨ texts.length ≤ 1 →
        (Text.join separator texts).length ≤ budget.limits.maxSequenceLength) := by
  refine ⟨fun operator isChecked left right value yields => ⟨fun length isLong => ?_, ?_⟩,
    fun texts mayJoin => ?_⟩
  · obtain rfl | rfl | rfl : operator = .add ∨ operator = .multiply ∨ operator = .power := by
      simpa using isChecked
    · exact length_le_of_yields_add yields isLong
    · exact length_le_of_yields_multiply yields isLong
    · rw [sequenceLength?_of_yields_power yields] at isLong
      cases isLong
  · rintro rfl isBase isExponent n rfl
    obtain ⟨base, isBase⟩ := Option.isSome_iff_exists.1 isBase
    obtain ⟨exponent, isExponent⟩ := Option.isSome_iff_exists.1 isExponent
    exact bits_le_of_yields_power yields isBase isExponent
  · obtain ⟨source, parts, run, after, accepted, areTexts⟩ := mayJoin
    obtain ⟨found, same, bounded⟩ := sum_le_of_joinable accepted
    cases same
    refine ⟨bounded texts areTexts, fun separator isShort => ?_⟩
    have noSeparators : (texts.length - 1) * separator.length = 0 := by
      obtain rfl | isShort := isShort
      · exact Nat.mul_zero _
      · rw [Nat.sub_eq_zero_of_le isShort, Nat.zero_mul]
    rw [length_join, noSeparators]
    exact bounded texts areTexts

/-- A limit of five characters or items. -/
def fiveAtMost : Budget :=
  { usualLimits with limits := { maxSequenceLength := 5 } }

theorem checked_results_are_bounded_by_five :
    Yields fiveAtMost .multiply (.int 2) (.str "ab") (.str "abab") ∧ "abab".length ≤ 5 ∧
      Yields fiveAtMost .power (.int 3) (.int 4) (.int 81) ∧ Number.bitLength 81 ≤ maxIntBits ∧
      MayJoin fiveAtMost ["ab", "c"] ∧ (Text.join "" ["ab", "c"]).length ≤ 5 := by
  have product : Yields fiveAtMost .multiply (.int 2) (.str "ab") (.str "abab") :=
    ⟨{}, {}, {}, rfl, rfl⟩
  have power : Yields fiveAtMost .power (.int 3) (.int 4) (.int 81) := ⟨{}, {}, {}, rfl, rfl⟩
  have joined : MayJoin fiveAtMost ["ab", "c"] :=
    ⟨.list [.str "ab", .str "c"], [.str "ab", .str "c"], {}, {}, rfl, rfl⟩
  have bounded := checked_results_are_bounded fiveAtMost
  refine ⟨product, ?_, power, ?_, joined, ?_⟩
  · exact (bounded.1 _ (by simp) _ _ _ product).1 4 rfl
  · exact (bounded.1 _ (by simp) _ _ _ power).2 rfl rfl rfl 81 rfl
  · exact (bounded.2 _ joined).2 "" (.inl rfl)

/-- The checks have no eye for octets, which may become as long as they like, and none for the
separators of joined texts. -/
theorem checked_results_exceed_five :
    Yields fiveAtMost .multiply (.bytes [97]) (.int 6) (.bytes (List.replicate 6 97)) ∧
      fiveAtMost.limits.maxSequenceLength < (List.replicate 6 (97 : UInt8)).length ∧
      MayJoin fiveAtMost ["a", "b", "c"] ∧
      fiveAtMost.limits.maxSequenceLength < (Text.join "--" ["a", "b", "c"]).length := by
  refine ⟨⟨{}, {}, {}, rfl, rfl⟩, by decide, ?_, by decide⟩
  exact ⟨.list [.str "a", .str "b", .str "c"], [.str "a", .str "b", .str "c"], {}, {}, rfl, rfl⟩

end Script

end Authorization
