import Authorization.Proofs.Disclosure.Iteration
import Authorization.Proofs.Disclosure.Written
import Authorization.Value.Arithmetic

/-!
# Arithmetic on what values disclose

Numbers and times conceal nothing, and sequences and sets are put together of their members: the result
of an operation on what two values disclose is what its result on the values discloses.
-/

namespace Authorization.Value

/-! ## Times -/

theorem map_spanOf (micros : Int) : (spanOf micros).map disclosed = spanOf micros := by
  unfold spanOf
  split <;> rfl

theorem map_movedBy (time : Time.Instant) (micros : Int) :
    (movedBy time micros).map disclosed = movedBy time micros := by
  unfold movedBy
  split <;> rfl

theorem map_roundedSpan (numerator denominator : Int) :
    (roundedSpan numerator denominator).map disclosed = roundedSpan numerator denominator := by
  unfold roundedSpan
  split
  · rfl
  · exact map_spanOf _

theorem addTimes?_disclosed (a b : Value) :
    addTimes? a.disclosed b.disclosed = (addTimes? a b).map (Except.map disclosed) := by
  cases a with
  | instant time =>
      cases b with
      | duration span => exact congrArg some (map_movedBy time span.micros).symm
      | _ => rfl
  | duration span =>
      cases b with
      | instant time => exact congrArg some (map_movedBy time span.micros).symm
      | duration other => exact congrArg some (map_spanOf _).symm
      | _ => rfl
  | _ => rfl

theorem subtractTimes?_disclosed (a b : Value) :
    subtractTimes? a.disclosed b.disclosed = (subtractTimes? a b).map (Except.map disclosed) := by
  cases a with
  | instant time =>
      cases b with
      | instant other =>
          simp only [disclosed, subtractTimes?]
          cases time.since? other <;> rfl
      | duration span => exact congrArg some (map_movedBy time (-span.micros)).symm
      | _ => rfl
  | duration span =>
      cases b with
      | duration other => exact congrArg some (map_spanOf _).symm
      | _ => rfl
  | _ => rfl

theorem multipleOf_disclosed (span : Time.Duration) (factor : Value) :
    multipleOf span factor.disclosed = (multipleOf span factor).map (Except.map disclosed) := by
  cases factor with
  | float x =>
      simp only [disclosed, multipleOf]
      cases ratioOf x with
      | error error => rfl
      | ok ratio => exact congrArg some (map_roundedSpan _ _).symm
  | int n => exact congrArg some (map_spanOf _).symm
  | bool flag => exact congrArg some (map_spanOf _).symm
  | _ => rfl

theorem multiplyTimes?_disclosed (a b : Value) :
    multiplyTimes? a.disclosed b.disclosed = (multiplyTimes? a b).map (Except.map disclosed) := by
  have scaled (span : Time.Duration) := multipleOf_disclosed span a
  cases a with
  | duration span => exact multipleOf_disclosed span b
  | _ =>
      cases b with
      | duration span => exact scaled span
      | _ => rfl

theorem divideTimes?_disclosed (a b : Value) :
    divideTimes? a.disclosed b.disclosed = (divideTimes? a b).map (Except.map disclosed) := by
  cases a with
  | duration span =>
      cases b with
      | duration other =>
          simp only [disclosed, divideTimes?]
          split
          · rfl
          · split <;> rfl
      | float x =>
          simp only [disclosed, divideTimes?]
          cases ratioOf x with
          | error error => rfl
          | ok ratio => exact congrArg some (map_roundedSpan _ _).symm
      | int n => exact congrArg some (map_roundedSpan _ _).symm
      | bool flag => exact congrArg some (map_roundedSpan _ _).symm
      | _ => rfl
  | _ => rfl

theorem floorDivideTimes?_disclosed (a b : Value) :
    floorDivideTimes? a.disclosed b.disclosed =
      (floorDivideTimes? a b).map (Except.map disclosed) := by
  have divided (span : Time.Duration) (n : Int) :
      (if n = 0 then noDivisor else spanOf (span.micros.fdiv n)) =
        (if n = 0 then noDivisor else spanOf (span.micros.fdiv n) : Except Error Value).map disclosed := by
    split
    · rfl
    · exact (map_spanOf _).symm
  cases a with
  | duration span =>
      cases b with
      | duration other =>
          simp only [disclosed, floorDivideTimes?]
          split <;> rfl
      | int n => exact congrArg some (divided span n)
      | bool flag => exact congrArg some (divided span _)
      | _ => rfl
  | _ => rfl

theorem moduloTimes?_disclosed (a b : Value) :
    moduloTimes? a.disclosed b.disclosed = (moduloTimes? a b).map (Except.map disclosed) := by
  cases a with
  | duration span =>
      cases b with
      | duration other =>
          simp only [disclosed, moduloTimes?]
          split
          · rfl
          · exact congrArg some (map_spanOf _).symm
      | _ => rfl
  | _ => rfl

theorem negateTime?_disclosed (value : Value) :
    negateTime? value.disclosed = (negateTime? value).map (Except.map disclosed) := by
  cases value with
  | duration span => exact congrArg some (map_spanOf _).symm
  | _ => rfl

theorem magnitudeOfTime?_disclosed (value : Value) :
    magnitudeOfTime? value.disclosed = (magnitudeOfTime? value).map (Except.map disclosed) := by
  cases value with
  | duration span => exact congrArg some (map_spanOf _).symm
  | _ => rfl

/-! ## Numbers -/

theorem numeric?_disclosed (value : Value) : numeric? value.disclosed = numeric? value := by
  cases value <;> rfl

theorem numbers?_disclosed (a b : Value) : numbers? a.disclosed b.disclosed = numbers? a b := by
  simp only [numbers?, numeric?_disclosed]

theorem noOperation_disclosed (operator : String) (a b : Value) :
    (noOperation operator a.disclosed b.disclosed : Except Error Value) = noOperation operator a b := by
  simp only [noOperation, kindName_disclosed]

theorem getD_disclosed (found? : Option (Except Error Value)) (operator : String) (a b : Value) :
    (found?.map (Except.map disclosed)).getD (noOperation operator a.disclosed b.disclosed) =
      (found?.getD (noOperation operator a b)).map disclosed := by
  rw [noOperation_disclosed]
  cases found? <;> rfl

/-- The sum of two values that are not both texts, lists or tuples. -/
def addNumbers (a b : Value) : Except Error Value :=
  match numbers? a b with
  | none => (addTimes? a b).getD (noOperation "+" a b)
  | some pair => do
    match ← pair with
    | .whole n m => return .int (n + m)
    | .real x y => return .float (x + y)
    | .complex z w => return ofComplex (z.add w)

theorem addNumbers_disclosed (a b : Value) :
    addNumbers a.disclosed b.disclosed = (addNumbers a b).map disclosed := by
  unfold addNumbers
  rw [numbers?_disclosed, addTimes?_disclosed, getD_disclosed]
  rcases numbers? a b with _ | ⟨_ | ⟨_ | _ | _⟩⟩ <;> rfl

theorem add_disclosed (a b : Value) : a.disclosed.add b.disclosed = (a.add b).map disclosed := by
  have others := addNumbers_disclosed a b
  cases a with
  | str content =>
      cases b with
      | str more => rfl
      | _ => exact others
  | bytes octets =>
      cases b with
      | bytes more => rfl
      | _ => exact others
  | list items =>
      cases b with
      | list more => simp [add, Except.map]
      | _ => exact others
  | tuple items =>
      cases b with
      | tuple more => simp [add, Except.map]
      | _ => exact others
  | _ => exact others

theorem filter_disclosed (members others : List Value) :
    (members.map disclosed).filter (fun member => !(others.map disclosed).any (equal member)) =
      (members.filter fun member => !others.any (equal member)).map disclosed := by
  rw [List.filter_map]
  simp only [Function.comp_def, any_equal_disclosed]

theorem subtractPlain_disclosed (a b : Value) :
    subtractPlain a.disclosed b.disclosed = (subtractPlain a b).map disclosed := by
  have times : (subtractTimes? a.disclosed b.disclosed).getD
        (noOperation "-" a.disclosed b.disclosed) =
      ((subtractTimes? a b).getD (noOperation "-" a b)).map disclosed := by
    rw [subtractTimes?_disclosed, getD_disclosed]
  unfold subtractPlain
  rw [numbers?_disclosed]
  rcases numbers? a b with _ | ⟨_ | ⟨_ | _ | _⟩⟩
  · cases a with
    | set frozen members =>
        cases b with
        | set other others =>
            simp only [disclosed_set, filter_disclosed]
            rw [Except.map, disclosed_set]
        | _ => exact times
    | _ => exact times
  all_goals rfl

theorem isSetView_disclosed (value : Value) : isSetView value.disclosed = isSetView value := by
  cases value with
  | view kind entries => cases kind <;> rfl
  | _ => rfl

theorem subtract_disclosed (a b : Value) :
    a.disclosed.subtract b.disclosed = disclosed <$> a.subtract b := by
  unfold subtract
  simp only [isSetView_disclosed, takeMembers_disclosed, subtractPlain_disclosed]
  split
  · simp only [bind_map_left, map_bind, map_pure, distinct_disclosed, filter_disclosed, disclosed_set]
  · cases subtractPlain a b <;> rfl

theorem repeated_map {α β : Type} (write : α → β) (items : List α) (count : Int) :
    repeated (items.map write) count = (repeated items count).map (List.map write) := by
  simp only [repeated, List.isEmpty_map, List.length_map]
  split
  · rfl
  · split
    · rfl
    · split
      · rfl
      · split
        · rfl
        · simp [Except.map]

theorem repeatedValue?_disclosed (value : Value) (count : Int) :
    repeatedValue? value.disclosed count = (repeatedValue? value count).map (Except.map disclosed) := by
  cases value with
  | str content =>
      simp only [disclosed, repeatedValue?]
      cases repeated content.toList count <;> rfl
  | bytes octets =>
      simp only [disclosed, repeatedValue?]
      cases repeated octets count <;> rfl
  | list elements =>
      simp only [disclosed_list, repeatedValue?, repeated_map]
      cases repeated elements count <;> simp [Except.map]
  | tuple elements =>
      simp only [disclosed_tuple, repeatedValue?, repeated_map]
      cases repeated elements count <;> simp [Except.map]
  | _ => rfl

theorem multiply_disclosed (a b : Value) :
    a.disclosed.multiply b.disclosed = (a.multiply b).map disclosed := by
  have either (first? second? : Option (Except Error Value)) :
      (first?.map (Except.map disclosed) <|> second?.map (Except.map disclosed)) =
        (first? <|> second?).map (Except.map disclosed) := by
    cases first? <;> rfl
  unfold multiply
  rw [numbers?_disclosed, asInt?_disclosed, asInt?_disclosed, multiplyTimes?_disclosed]
  rcases numbers? a b with _ | ⟨_ | ⟨_ | _ | _⟩⟩
  · cases b.asInt? with
    | some count =>
        dsimp only
        rw [repeatedValue?_disclosed, either, getD_disclosed]
    | none =>
        cases a.asInt? with
        | none => exact getD_disclosed (multiplyTimes? a b) "*" a b
        | some count =>
            dsimp only [Option.bind_some]
            rw [repeatedValue?_disclosed, either, getD_disclosed]
  all_goals rfl

theorem divide_disclosed (a b : Value) :
    a.disclosed.divide b.disclosed = (a.divide b).map disclosed := by
  unfold divide
  rw [numbers?_disclosed, divideTimes?_disclosed, getD_disclosed]
  rcases numbers? a b with _ | ⟨_ | ⟨⟨n, m⟩ | ⟨x, y⟩ | ⟨z, w⟩⟩⟩
  · rfl
  · rfl
  · simp only [bind, Except.bind]
    split
    · rfl
    · cases Number.divideInts n m <;> rfl
  · simp only [bind, Except.bind]
    split <;> rfl
  · simp only [bind, Except.bind]
    split <;> rfl

theorem floorDivide_disclosed (a b : Value) :
    a.disclosed.floorDivide b.disclosed = (a.floorDivide b).map disclosed := by
  unfold floorDivide
  rw [numbers?_disclosed, floorDivideTimes?_disclosed, getD_disclosed, noOperation_disclosed]
  rcases numbers? a b with _ | ⟨_ | ⟨⟨n, m⟩ | ⟨x, y⟩ | _⟩⟩
  · rfl
  · rfl
  · simp only [bind, Except.bind]
    split <;> rfl
  · simp only [bind, Except.bind]
    split <;> rfl
  · rfl

theorem modulo_disclosed (a b : Value) :
    a.disclosed.modulo b.disclosed = (a.modulo b).map disclosed := by
  have times : (moduloTimes? a.disclosed b.disclosed).getD
        (noOperation "%" a.disclosed b.disclosed) =
      ((moduloTimes? a b).getD (noOperation "%" a b)).map disclosed := by
    rw [moduloTimes?_disclosed, getD_disclosed]
  unfold modulo
  rw [numbers?_disclosed]
  rcases numbers? a b with _ | ⟨_ | ⟨⟨n, m⟩ | ⟨x, y⟩ | _⟩⟩
  · cases a with
    | bytes format =>
        simp only [disclosed, formatted_disclosed]
        cases formatted format b <;> rfl
    | _ => exact times
  · rfl
  · simp only [bind, Except.bind]
    split <;> rfl
  · simp only [bind, Except.bind]
    split <;> rfl
  · exact (noOperation_disclosed "%" a b).trans rfl

theorem map_complexPower (z w : Number.Complex) :
    (complexPower z w).map disclosed = complexPower z w := by
  unfold complexPower
  split <;> rfl

theorem map_realPower (x y : Float) : (realPower x y).map disclosed = realPower x y := by
  unfold realPower
  split
  · rfl
  · rfl
  · rfl
  · exact map_complexPower _ _

theorem power_disclosed (a b : Value) :
    a.disclosed.power b.disclosed = (a.power b).map disclosed := by
  unfold power
  rw [numbers?_disclosed, noOperation_disclosed]
  rcases numbers? a b with _ | ⟨_ | ⟨⟨n, m⟩ | ⟨x, y⟩ | ⟨z, w⟩⟩⟩
  · rfl
  · rfl
  · simp only [bind, Except.bind]
    split
    · rfl
    · cases doubleOf n with
      | error error => rfl
      | ok x =>
          cases doubleOf m with
          | error error => rfl
          | ok y => exact (map_realPower x y).symm
  · exact (map_realPower x y).symm
  · exact (map_complexPower z w).symm

theorem negate_disclosed (value : Value) :
    value.disclosed.negate = value.negate.map disclosed := by
  unfold negate
  rw [numeric?_disclosed, negateTime?_disclosed, kindName_disclosed]
  rcases numeric? value with _ | _ | _ | _
  · cases negateTime? value <;> rfl
  all_goals rfl

theorem affirm_disclosed (value : Value) :
    value.disclosed.affirm = value.affirm.map disclosed := by
  cases value with
  | view kind entries => cases kind <;> rfl
  | _ => rfl

theorem magnitude_disclosed (value : Value) :
    value.disclosed.magnitude = value.magnitude.map disclosed := by
  unfold magnitude
  rw [numeric?_disclosed, magnitudeOfTime?_disclosed, kindName_disclosed]
  rcases numeric? value with _ | _ | _ | z
  · cases magnitudeOfTime? value <;> rfl
  · rfl
  · rfl
  · dsimp only
    split <;> rfl

end Authorization.Value
