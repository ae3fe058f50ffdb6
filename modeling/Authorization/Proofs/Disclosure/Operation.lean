import Authorization.Proofs.Disclosure.Element
import Authorization.Proofs.Disclosure.Method
import Authorization.Proofs.Script.Simulation

/-!
# Operations of scripts on what values disclose

Applied to what values disclose, an operation of the evaluator gives what its result on the values
discloses, or fails with the same error. The checks before and after it go by kinds, lengths and
numbers, which values disclose.
-/

namespace Authorization.Script

open Value Eval

variable {α β : Type} (budget : Budget)

theorem Eval.ofExcept_eq_map {write : α → β} {result : Except Error α} {other : Except Error β}
    (same : other = result.map write) : ofExcept other = write <$> ofExcept result := by
  rw [same]
  cases result <;> rfl

theorem Eval.ofDraw_eq_map {write : α → β} {draw : Draw α} {other : Draw β}
    (same : other = write <$> draw) : ofDraw other = write <$> ofDraw draw := by
  rw [same, ← bind_pure_comp, ofDraw_bind, ← bind_pure_comp]
  rfl

/-! ## Sizes -/

theorem limitedLength?_disclosed (value : Value) :
    Budget.limitedLength? value.disclosed = Budget.limitedLength? value := by
  cases value <;> simp [Budget.limitedLength?, disclosed, disclosedItems_eq, disclosedEntries_eq]

theorem isUncountable_disclosed (value : Value) :
    Budget.isUncountable value.disclosed = Budget.isUncountable value := by
  cases value <;> simp [Budget.isUncountable, disclosed]

theorem checkSize_disclosed (value : Value) :
    budget.checkSize value.disclosed = disclosed <$> budget.checkSize value := by
  have limited :
      budget.checkLength value.disclosed = disclosed <$> budget.checkLength value := by
    unfold Budget.checkLength
    rw [limitedLength?_disclosed, isUncountable_disclosed]
    cases Budget.limitedLength? value with
    | none => rfl
    | some length =>
        dsimp only
        split
        · rfl
        · split <;> rfl
  cases value with
  | int n =>
      simp only [disclosed_int, Budget.checkSize]
      split <;> rfl
  | _ => exact limited

/-! ## Operators -/

theorem sequenceLength?_disclosed (value : Value) :
    sequenceLength? value.disclosed = sequenceLength? value := by
  cases value <;> simp [sequenceLength?, disclosed, disclosedItems_eq]

theorem isAbove_disclosed (value : Value) (bound : Nat) :
    isAbove value.disclosed bound = isAbove value bound := by
  have compared (n : Int) : compareNumbers? value.disclosed (.int n) =
      compareNumbers? value (.int n) :=
    compareNumbers?_disclosed value (.int n)
  simp only [isAbove, compared]

theorem checkPower_disclosed (left right : Value) :
    checkPower budget left.disclosed right.disclosed = checkPower budget left right := by
  simp only [checkPower, isReal_disclosed, isAbove_disclosed, text?_disclosed, asInt?_disclosed]

theorem checkProduct_disclosed (left right : Value) :
    checkProduct budget left.disclosed right.disclosed = checkProduct budget left right := by
  unfold checkProduct
  rw [asInt?_disclosed]
  cases right.asInt?.isSome with
  | true => simp only [if_true, sequenceLength?_disclosed, asInt?_disclosed]
  | false => simp only [Bool.false_eq_true, if_false, sequenceLength?_disclosed, asInt?_disclosed]

theorem checkSum_disclosed (left right : Value) :
    checkSum budget left.disclosed right.disclosed = checkSum budget left right := by
  simp only [checkSum, sequenceLength?_disclosed]

theorem checkOperands_disclosed (operator : BinaryOperator) (left right : Value) :
    checkOperands budget operator left.disclosed right.disclosed =
      checkOperands budget operator left right := by
  cases operator with
  | power => exact checkPower_disclosed budget left right
  | modulo => cases left <;> rfl
  | multiply => exact checkProduct_disclosed budget left right
  | add => exact checkSum_disclosed budget left right
  | _ => rfl

theorem combine_disclosed {operator : BinaryOperator} (offered : operator.isOffered = true)
    (left right : Value) :
    combine operator left.disclosed right.disclosed = disclosed <$> combine operator left right := by
  cases operator with
  | add => exact ofExcept_eq_map (add_disclosed left right)
  | subtract => exact ofDraw_eq_map (subtract_disclosed left right)
  | multiply => exact ofExcept_eq_map (multiply_disclosed left right)
  | divide => exact ofExcept_eq_map (divide_disclosed left right)
  | floorDivide => exact ofExcept_eq_map (floorDivide_disclosed left right)
  | modulo => exact ofExcept_eq_map (modulo_disclosed left right)
  | power => exact ofExcept_eq_map (power_disclosed left right)
  | matrixMultiply | leftShift | rightShift | bitOr | bitXor | bitAnd => cases offered

theorem operate_disclosed {operator : BinaryOperator} (offered : operator.isOffered = true)
    (left right : Value) :
    operate budget operator left.disclosed right.disclosed =
      disclosed <$> operate budget operator left right := by
  unfold operate
  rw [checkOperands_disclosed, combine_disclosed offered]
  exact map_bind_same fun _ => map_bind_map fun found => checkSize_disclosed budget found

theorem applyUnary_disclosed {operator : UnaryOperator} (offered : operator ≠ .invert)
    (operand : Value) :
    applyUnary operator operand.disclosed = disclosed <$> applyUnary operator operand := by
  cases operator with
  | negation =>
      simp only [applyUnary, truthy_disclosed]
      rfl
  | minus => exact ofExcept_eq_map (negate_disclosed operand)
  | plus => exact ofExcept_eq_map (affirm_disclosed operand)
  | invert => exact absurd rfl offered

theorem ordered_disclosed (relation : Relation) (left right : Value) :
    ordered relation left.disclosed right.disclosed = ordered relation left right := by
  simp only [ordered, related?_disclosed, kindName_disclosed]

theorem compareValues_disclosed (isOne : Bool) (operator : Comparison) (left right : Value) :
    compareValues isOne operator left.disclosed right.disclosed =
      compareValues isOne operator left right := by
  cases operator <;>
    simp only [compareValues, equalOrShare?_disclosed, ordered_disclosed, identical_disclosed,
      isMemberOrShares_disclosed]

/-! ## Attributes, methods and functions -/

theorem isPlainData_disclosed (value : Value) :
    isPlainData value.disclosed = isPlainData value := by
  cases value <;> rfl

theorem hasElements_disclosed (value : Value) :
    hasElements value.disclosed = hasElements value := by
  cases value <;> rfl

theorem publicAttribute_disclosed (base : Value) {name : String}
    (isPublic : isPrivate name = false) :
    publicAttribute base.disclosed name = disclosed <$> publicAttribute base name := by
  have pass (value : Value) :
      (if value.disclosed.isCallable then refuse (.callableAttribute name)
        else return value.disclosed : Eval Value) =
        disclosed <$> (if value.isCallable then refuse (.callableAttribute name)
          else return value) := by
    rw [isCallable_disclosed]
    split <;> rfl
  have orNull (value? : Option Value) :
      (value?.map disclosed).getD .null = (value?.getD .null).disclosed := by
    cases value? <;> rfl
  unfold publicAttribute
  simp only [entries?_disclosed, isPlainData_disclosed, kindName_disclosed,
    attribute?_disclosed base (isConcealed_of_isHidden isPublic), orNull]
  cases base.entries? with
  | some entries =>
      simp only [Option.map_some, lookupText?_disclosed, orNull]
      exact pass _
  | none =>
      simp only [Option.map_none]
      split
      · rfl
      · exact pass _

def Callee.disclosed : Callee → Callee
  | .function f => .function f
  | .method base name => .method base.disclosed name

theorem listedMethod_disclosed (base : Value) (name : String) :
    listedMethod base.disclosed name = Callee.disclosed <$> listedMethod base name := by
  unfold listedMethod
  rw [Method.listed_disclosed, kindName_disclosed]
  split <;> rfl

theorem functionOf_disclosed (value : Value) :
    functionOf value.disclosed = Callee.disclosed <$> functionOf value := by
  cases value <;> rfl

/-! ## Calls -/

theorem checkArgument_disclosed (value : Value) :
    checkArgument value.disclosed = checkArgument value := by
  cases value <;> rfl

/-- Whether a value can be gone through and whether it has a length is not concealed. -/
theorem isUnsized_disclosed (value : Value) : isUnsized value.disclosed = isUnsized value := by
  cases value with
  | object tag attributes =>
      have iter : isConcealed "__iter__" = false := by decide
      have len : isConcealed "__len__" = false := by decide
      simp [isUnsized, lookup_disclosedAttributes attributes iter,
        lookup_disclosedAttributes attributes len]
  | _ => rfl

theorem checkSized_disclosed (arguments : List Value) :
    checkSized budget (arguments.map disclosed) = checkSized budget arguments := by
  induction arguments with
  | nil => rfl
  | cons value rest inductionHypothesis =>
      simp only [List.map_cons, checkSized, isUnsized_disclosed, checkSize_disclosed,
        bind_map_left, inductionHypothesis]

theorem textLength_disclosed (value : Value) : textLength value.disclosed = textLength value := by
  cases value <;> rfl

theorem joinable_disclosed (value : Value) :
    joinable budget value.disclosed = disclosed <$> joinable budget value := by
  unfold joinable
  rw [ofDraw_eq_map (items_disclosed value)]
  refine map_bind_map fun parts => ?_
  rw [← disclosed_list, checkSize_disclosed]
  refine map_bind_map fun _ => ?_
  have total : (parts.map disclosed).foldl (fun length part => length + textLength part) 0 =
      parts.foldl (fun length part => length + textLength part) 0 := by
    rw [List.foldl_map]
    simp only [textLength_disclosed]
  rw [total]
  dsimp only
  split
  · rfl
  · simp

theorem forM_map_same {write : α → α} {action : α → Eval PUnit}
    (same : ∀ item, action (write item) = action item) (items : List α) :
    (items.map write).forM action = items.forM action := by
  induction items with
  | nil => rfl
  | cons item rest inductionHypothesis =>
      simp only [List.map_cons, List.forM, same, inductionHypothesis]

/-- A call on what values disclose is checked in the same way. -/
theorem prepare_disclosed (callee : Callee) (arguments : List Value)
    (named : List (String × Value)) :
    prepare budget callee.disclosed (arguments.map disclosed) (named.map disclosedField) =
      List.map disclosed <$> prepare budget callee arguments named := by
  unfold prepare
  rw [forM_map_same checkArgument_disclosed,
    forM_map_same fun argument : String × Value => checkArgument_disclosed argument.2]
  refine map_bind_same fun _ => map_bind_same fun _ => ?_
  cases callee with
  | function f =>
      simp only [Callee.disclosed, checkSized_disclosed]
      split
      · exact map_bind_same fun _ => rfl
      · rfl
  | method base name =>
      simp only [Callee.disclosed]
      by_cases isJoin : name = "join"
      · subst isJoin
        cases arguments with
        | nil => rfl
        | cons parts rest =>
            simp only [List.map_cons, joinable_disclosed]
            exact map_bind_map fun joined => rfl
      · simp [isJoin]

/-- A call on what values disclose is carried out and its result checked in the same way. -/
theorem carryOut_disclosed (callee : Callee) (arguments : List Value)
    (named : List (String × Value)) :
    carryOut budget callee.disclosed (arguments.map disclosed) (named.map disclosedField) =
      disclosed <$> carryOut budget callee arguments named := by
  have applied {draw other : Draw Value} (same : other = disclosed <$> draw) :
      (do budget.checkSize (← ofDraw other)) =
        disclosed <$> (do budget.checkSize (← ofDraw draw)) := by
    rw [ofDraw_eq_map same]
    exact map_bind_map fun found => checkSize_disclosed budget found
  cases callee with
  | function f => exact applied (f.apply_disclosed arguments named)
  | method base name => exact applied (Method.apply_disclosed base name arguments named)

/-! ## Sinks -/

def Sink.disclosed : Sink → Sink
  | .list reversed => .list (reversed.map Value.disclosed)
  | .set members => .set (members.map Value.disclosed)
  | .dict entries => .dict (entries.map disclosedEntry)

theorem Sink.length_disclosed (sink : Sink) : sink.disclosed.length = sink.length := by
  cases sink <;> simp [Sink.disclosed, Sink.length]

theorem Sink.insert_disclosed (sink : Sink) (item : Value) :
    sink.disclosed.insert item.disclosed = (sink.insert item).map Sink.disclosed := by
  cases sink with
  | list reversed => rfl
  | set members =>
      simp only [Sink.disclosed, Sink.insert, hashable_disclosed, unhashable_disclosed,
        any_equal_disclosed]
      split
      · rfl
      · split <;> rfl
  | dict entries => rfl

theorem Sink.store_disclosed (sink : Sink) (key item : Value) :
    sink.disclosed.store key.disclosed item.disclosed =
      (sink.store key item).map Sink.disclosed := by
  cases sink with
  | dict entries =>
      simp only [Sink.disclosed, Sink.store, hashable_disclosed, unhashable_disclosed,
        Value.store_disclosed]
      split <;> rfl
  | _ => rfl

theorem checkSink_disclosed (sink : Sink) :
    checkSink budget sink.disclosed = Sink.disclosed <$> checkSink budget sink := by
  unfold checkSink
  rw [Sink.length_disclosed]
  split <;> rfl

end Authorization.Script
