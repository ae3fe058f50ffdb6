import Authorization.Script.Evaluation
import Mathlib.Tactic.Choose

/-!
# Carrying out the parts of a run

What a part of a run comes to when it is carried out: its result and the run after it. A part is plain
when it only computes on values, so that the run after it differs from the one before in the items taken
from one-shot sequences at most; all operations of the evaluator on values are plain.
-/

namespace Authorization.Script

/-! ## Names -/

namespace Scope

theorem lookup_bind_self (scope : Scope) (name : String) (value : Value) :
    (scope.bind name value).lookup name = some value := by
  rw [bind, List.lookup_cons, beq_self_eq_true]

theorem lookup_bind_of_ne (scope : Scope) {name other : String} (differs : other ≠ name)
    (value : Value) : (scope.bind name value).lookup other = scope.lookup other := by
  rw [bind, List.lookup_cons, beq_false_of_ne differs]
  dsimp only
  induction scope with
  | nil => rfl
  | cons bound rest inductionHypothesis =>
      obtain ⟨key, content⟩ := bound
      rw [List.filter_cons, List.lookup_cons]
      by_cases isName : key = name
      · have skipped : (other == key) = false := beq_false_of_ne (isName ▸ differs)
        rw [skipped, isName]
        simpa using inductionHypothesis
      · have kept : (key != name) = true := bne_iff_ne.2 isName
        rw [if_pos kept, List.lookup_cons, inductionHypothesis]

end Scope

namespace Eval

variable {α β : Type}

/-- What a part of a run comes to, and the run after it. -/
def perform (part : Eval α) (run : Run) : Except Stop α × Run :=
  Id.run (part.run.run run)

theorem perform_pure (value : α) (run : Run) :
    perform (pure value : Eval α) run = (.ok value, run) :=
  rfl

theorem perform_bind (part : Eval α) (next : α → Eval β) (run : Run) :
    perform (part >>= next) run =
      match perform part run with
      | (.ok value, after) => perform (next value) after
      | (.error stop, after) => (.error stop, after) := by
  have shape : perform (part >>= next) run =
      Id.run (StateT.run (ExceptT.bindCont next (perform part run).1) (perform part run).2) := rfl
  rw [shape]
  rcases perform part run with ⟨_ | value, after⟩ <;> rfl

theorem perform_bind_of_ok {part : Eval α} {next : α → Eval β} {value : α} {run after : Run}
    (succeeds : perform part run = (.ok value, after)) :
    perform (part >>= next) run = perform (next value) after := by
  rw [perform_bind, succeeds]

theorem perform_bind_of_error {part : Eval α} {next : α → Eval β} {stop : Stop} {run after : Run}
    (fails : perform part run = (.error stop, after)) :
    perform (part >>= next) run = (.error stop, after) := by
  rw [perform_bind, fails]

/-- Where two parts end normally one after the other, both do. -/
theorem exists_of_perform_bind {part : Eval α} {next : α → Eval β} {final : β} {run after : Run}
    (succeeds : perform (part >>= next) run = (.ok final, after)) :
    ∃ value between, perform part run = (.ok value, between) ∧
      perform (next value) between = (.ok final, after) := by
  rw [perform_bind] at succeeds
  rcases shape : perform part run with ⟨stop | value, between⟩
  · rw [shape] at succeeds
    have failed := congrArg Prod.fst succeeds
    cases failed
  · rw [shape] at succeeds
    exact ⟨value, between, rfl, succeeds⟩

/-- What a part ends with, if only something of its result is known. -/
theorem exists_perform_of_map {part : Eval α} {run : Run} {write : α → β} {known : β}
    (ended : ((perform part run).1.map write).toOption = some known) :
    ∃ value after, perform part run = (.ok value, after) ∧ write value = known := by
  generalize perform part run = ending at ended
  obtain ⟨_ | value, after⟩ := ending
  · cases ended
  · exact ⟨value, after, rfl, Option.some.inj ended⟩

theorem perform_record (access : Access) (run : Run) :
    perform (record access) run =
      (.ok (), { run with accesses := access :: run.accesses }) :=
  rfl

theorem perform_handle (value : Value) (run : Run) :
    perform (handle value) run = (.ok (), { run with handled := value :: run.handled }) :=
  rfl

theorem perform_bindName (name : String) (value : Value) (run : Run) :
    perform (bindName name value) run =
      (.ok (), { run with
        scope := run.scope.bind name value
        accesses := .binding name :: run.accesses
        handled := value :: run.handled }) :=
  rfl

theorem perform_ofExcept (result : Except Error α) (run : Run) :
    perform (ofExcept result) run = (result.mapError .failed, run) := by
  cases result <;> rfl

theorem perform_ofDraw (draw : Draw α) (run : Run) :
    perform (ofDraw draw) run =
      ((Id.run (draw.run.run run.cursors)).1.mapError .failed,
        { run with cursors := (Id.run (draw.run.run run.cursors)).2 }) := by
  have shape : perform (ofDraw draw) run =
      perform (ofExcept (Id.run (draw.run.run run.cursors)).1)
        { run with cursors := (Id.run (draw.run.run run.cursors)).2 } := rfl
  rw [shape, perform_ofExcept]

/-- What is bound within an action is forgotten after it. -/
theorem perform_within (action : Eval α) (run : Run) :
    perform (within action) run =
      match perform action run with
      | (.ok value, after) => (.ok value, { after with scope := run.scope })
      | (.error stop, after) => (.error stop, after) := by
  have shape : perform (within action) run = perform (do
      let value ← action
      modify fun after : Run => { after with scope := run.scope }
      return value) run := rfl
  rw [shape, perform_bind]
  rcases perform action run with ⟨_ | value, after⟩ <;> rfl

theorem perform_lookup (name : String) (run : Run) :
    perform (lookup name) run =
      perform
        (match run.scope.lookup name with
          | some value => pure value
          | none =>
            match knownValue? name with
            | some value => pure value
            | none => refuse (.unbound name))
        { run with accesses := .lookup name :: run.accesses } :=
  rfl

theorem perform_tick (budget : Budget) (run : Run) :
    perform budget.tick run =
      (if run.steps + 1 > budget.limits.maxSteps then
          .error (.failed (.limit (.steps budget.limits.maxSteps)))
        else if budget.isLate (run.steps + 1) then
          .error (.failed (.limit (.seconds budget.limits.maxSeconds.text)))
        else .ok (),
        { run with steps := run.steps + 1 }) := by
  have shape : perform budget.tick run = perform
      (if run.steps + 1 > budget.limits.maxSteps then breach (.steps budget.limits.maxSteps)
        else if budget.isLate (run.steps + 1) then
          breach (.seconds budget.limits.maxSeconds.text)
        else pure ())
      { run with steps := run.steps + 1 } := rfl
  rw [shape]
  split
  · rfl
  · split <;> rfl

/-! ## Walks -/

/-- Takes the next item of a walk. -/
def advance (walk : Iteration) : Eval (Option (Value × Iteration)) := do
  let run ← get
  let (item?, cursors) := walk.next? run.cursors
  set { run with cursors }
  return item?

/-- One round of a walk: takes an item and does something with it. -/
def visit (body : Value → α → Eval (ForInStep α)) (place : Iteration × α) :
    Eval (ForInStep (Iteration × α)) := do
  match ← advance place.1 with
  | none => return .done place
  | some (item, rest) =>
    handle item
    match ← body item place.2 with
    | .done state => return .done (rest, state)
    | .yield state => return .yield (rest, state)

theorem perform_advance (walk : Iteration) (run : Run) :
    perform (advance walk) run =
      (.ok (walk.next? run.cursors).1, { run with cursors := (walk.next? run.cursors).2 }) :=
  rfl

theorem forEach_eq (budget : Budget) (source : Value) (state : α)
    (body : Value → α → Eval (ForInStep α)) :
    budget.forEach source state body = (do
      handle source
      let first ← ofExcept source.iteration
      return (← loop (visit body) budget.rounds (first, state)).2) :=
  rfl

/-! ## Plain parts -/

theorem ext {part other : Eval α} (same : ∀ run, perform part run = perform other run) :
    part = other :=
  funext same

theorem ofDraw_bind (draw : Draw α) (next : α → Draw β) :
    ofDraw (draw >>= next) = ofDraw draw >>= fun value => ofDraw (next value) := by
  refine ext fun run => ?_
  have shape : Id.run ((draw >>= next).run.run run.cursors) =
      Id.run (StateT.run (ExceptT.bindCont next (Id.run (draw.run.run run.cursors)).1)
        (Id.run (draw.run.run run.cursors)).2) := rfl
  rw [perform_bind, perform_ofDraw, perform_ofDraw, shape]
  rcases Id.run (draw.run.run run.cursors) with ⟨error | value, cursors⟩
  · rfl
  · exact (perform_ofDraw (next value) { run with cursors }).symm

/-- A part of a run that only computes on values and may take items from one-shot sequences. -/
def Plain (part : Eval α) : Prop :=
  ∃ draw : Draw α, part = ofDraw draw

theorem Plain.exists_perform {part : Eval α} (plain : Plain part) (run : Run) :
    ∃ (result : Except Error α) (cursors : Cursors),
      perform part run = (result.mapError .failed, { run with cursors }) := by
  obtain ⟨draw, rfl⟩ := plain
  exact ⟨_, _, perform_ofDraw draw run⟩

theorem plain_ofDraw (draw : Draw α) : Plain (ofDraw draw) :=
  ⟨draw, rfl⟩

theorem plain_pure (value : α) : Plain (pure value : Eval α) :=
  ⟨pure value, rfl⟩

theorem plain_fail (error : Error) : Plain (fail error : Eval α) :=
  ⟨throw error, rfl⟩

theorem plain_refuse (refusal : Refusal) : Plain (refuse refusal : Eval α) :=
  plain_fail _

theorem plain_breach (found : Breach) : Plain (breach found : Eval α) :=
  plain_fail _

theorem plain_ofExcept (result : Except Error α) : Plain (ofExcept result) := by
  cases result with
  | ok value => exact plain_pure value
  | error error => exact plain_fail error

theorem Plain.bind {part : Eval α} {next : α → Eval β} (plain : Plain part)
    (rest : ∀ value, Plain (next value)) : Plain (part >>= next) := by
  obtain ⟨draw, rfl⟩ := plain
  choose others isOther using rest
  refine ⟨draw >>= others, ?_⟩
  rw [ofDraw_bind, funext isOther]

theorem Plain.ite {condition : Prop} [Decidable condition] {part other : Eval α}
    (plain : Plain part) (plainOther : Plain other) : Plain (if condition then part else other) := by
  split
  · exact plain
  · exact plainOther

theorem plain_advance (walk : Iteration) : Plain (advance walk) :=
  ⟨modifyGet walk.next?, rfl⟩

/-- Looking up a name only computes on what it is bound to. -/
theorem exists_plain_lookup (name : String) (bound? : Option Value) :
    ∃ part : Eval Value, Plain part ∧ ∀ run : Run, run.scope.lookup name = bound? →
      perform (lookup name) run =
        perform part { run with accesses := .lookup name :: run.accesses } := by
  cases bound? with
  | some value =>
      refine ⟨pure value, plain_pure value, fun run isBound => ?_⟩
      rw [perform_lookup, isBound]
  | none =>
      cases known : knownValue? name with
      | some value =>
          refine ⟨pure value, plain_pure value, fun run isBound => ?_⟩
          rw [perform_lookup, isBound, known]
      | none =>
          refine ⟨refuse (.unbound name), plain_refuse _, fun run isBound => ?_⟩
          rw [perform_lookup, isBound, known]

theorem plain_forM {action : α → Eval PUnit} (each : ∀ item, Plain (action item)) :
    (items : List α) → Plain (items.forM action)
  | [] => plain_pure _
  | item :: rest => (each item).bind fun _ => plain_forM each rest

end Eval

open Eval

/-! ## Operations on values -/

/-- The check of a value that is no whole number: how long it is. -/
def Budget.checkLength (budget : Budget) (value : Value) : Eval Value :=
  match limitedLength? value with
  | none => return value
  | some (length : Nat) =>
    if isUncountable value then
      ofExcept (fault .overflow "the length is too great to be counted")
    else if length > budget.limits.maxSequenceLength then breach (.length length)
    else return value

theorem Budget.checkSize_eq_checkLength (value : Value) :
    (∃ n, value = .int n) ∨ ∀ budget : Budget, budget.checkSize value = budget.checkLength value := by
  cases value with
  | int n => exact .inl ⟨n, rfl⟩
  | _ => exact .inr fun _ => rfl

theorem Budget.plain_checkSize (budget : Budget) (value : Value) :
    Plain (budget.checkSize value) := by
  unfold Budget.checkSize
  split
  · exact .ite (plain_breach _) (plain_pure _)
  · split
    · exact plain_pure _
    · exact .ite (plain_ofExcept _) (.ite (plain_breach _) (plain_pure _))

theorem plain_checkPower (budget : Budget) (left right : Value) :
    Plain (checkPower budget left right) := by
  unfold checkPower
  split
  · split
    · exact plain_breach _
    · exact plain_ofExcept _
  · split
    · exact .ite (plain_breach _) (plain_pure _)
    · exact plain_pure _

theorem plain_checkOperands (budget : Budget) (operator : BinaryOperator) (left right : Value) :
    Plain (checkOperands budget operator left right) := by
  unfold checkOperands
  split
  · exact plain_checkPower budget left right
  · split
    · exact plain_refuse _
    · exact plain_pure _
  · unfold checkProduct
    dsimp only
    split
    · exact .ite (plain_breach _) (plain_pure _)
    · exact plain_pure _
  · unfold checkSum
    split
    · exact .ite (plain_breach _) (plain_pure _)
    · exact plain_pure _
  · exact plain_pure _

theorem plain_combine {operator : BinaryOperator} (offered : operator.isOffered = true)
    (left right : Value) : Plain (combine operator left right) := by
  cases operator with
  | subtract => exact plain_ofDraw _
  | add | multiply | divide | floorDivide | modulo | power => exact plain_ofExcept _
  | matrixMultiply | leftShift | rightShift | bitOr | bitXor | bitAnd => cases offered

theorem plain_operate (budget : Budget) {operator : BinaryOperator}
    (offered : operator.isOffered = true) (left right : Value) :
    Plain (operate budget operator left right) :=
  (plain_checkOperands budget operator left right).bind fun _ =>
    (plain_combine offered left right).bind fun value => budget.plain_checkSize value

theorem plain_applyUnary {operator : UnaryOperator} (offered : operator ≠ .invert)
    (operand : Value) : Plain (applyUnary operator operand) := by
  cases operator with
  | negation => exact plain_pure _
  | minus => exact plain_ofExcept _
  | plus => exact plain_ofExcept _
  | invert => exact absurd rfl offered

theorem plain_ordered (relation : Value.Relation) (left right : Value) :
    Plain (ordered relation left right) := by
  unfold ordered
  split
  · exact plain_pure _
  · exact plain_ofExcept _

theorem plain_compareValues (isOne : Bool) (operator : Comparison) (left right : Value) :
    Plain (compareValues isOne operator left right) := by
  have looks : Plain (ofDraw (Value.isMemberOrShares isOne left right)) := plain_ofDraw _
  cases operator with
  | equal => exact plain_ofExcept _
  | notEqual => exact (plain_ofExcept _).bind fun _ => plain_pure _
  | less | lessOrEqual | greater | greaterOrEqual => exact plain_ordered _ left right
  | identical | notIdentical => exact plain_pure _
  | member => exact looks
  | notMember => exact looks.bind fun _ => plain_pure _

/-- What a script gets for a public attribute. -/
def publicAttribute (base : Value) (name : String) : Eval Value :=
  let pass (value : Value) : Eval Value :=
    if value.isCallable then refuse (.callableAttribute name) else return value
  match base.entries? with
  | some entries => pass ((Value.lookupText? entries name).getD .null)
  | none =>
    if isPlainData base then refuse (.attributeOfData base.kindName)
    else pass ((base.attribute? name).getD .null)

theorem readAttribute_eq (base : Value) {name : String} (isPublic : isPrivate name = false) :
    readAttribute base name = (do record (.attribute name); publicAttribute base name) := by
  unfold readAttribute
  rw [isPublic]
  rfl

theorem plain_publicAttribute (base : Value) (name : String) :
    Plain (publicAttribute base name) := by
  have pass (value : Value) : Plain
      (if value.isCallable then refuse (.callableAttribute name) else pure value) :=
    .ite (plain_refuse _) (plain_pure _)
  unfold publicAttribute
  dsimp only
  split
  · exact pass _
  · exact .ite (plain_refuse _) (pass _)

/-- A method that is listed for a value. -/
def listedMethod (base : Value) (name : String) : Eval Callee :=
  if (Method.listed base).contains name then return .method base name
  else refuse (.unlistedMethod name base.kindName)

theorem methodOf_eq (base : Value) (name : String) :
    methodOf base name = (do record (.attribute name); listedMethod base name) :=
  rfl

theorem plain_listedMethod (base : Value) (name : String) : Plain (listedMethod base name) :=
  .ite (plain_pure _) (plain_refuse _)

theorem plain_functionOf (value : Value) : Plain (functionOf value) := by
  unfold functionOf
  split
  · exact plain_pure _
  · exact plain_refuse _

theorem plain_checkArgument (value : Value) : Plain (checkArgument value) := by
  unfold checkArgument
  split
  · exact plain_pure _
  · split
    · exact plain_refuse _
    · exact plain_pure _

theorem plain_checkSized (budget : Budget) :
    (arguments : List Value) → Plain (checkSized budget arguments)
  | [] => plain_pure _
  | value :: rest => by
      have others : Plain (do
          let _ ← budget.checkSize value
          checkSized budget rest) :=
        (budget.plain_checkSize value).bind fun _ => plain_checkSized budget rest
      unfold checkSized
      split
      · exact (plain_refuse _).bind fun _ => others
      · exact others

theorem plain_joinable (budget : Budget) (value : Value) : Plain (joinable budget value) := by
  refine (plain_ofDraw _).bind fun parts => (budget.plain_checkSize _).bind fun _ => ?_
  dsimp only
  split
  · exact (plain_breach _).bind fun _ => plain_pure _
  · exact plain_pure _

theorem plain_prepare (budget : Budget) (callee : Callee) (arguments : List Value)
    (named : List (String × Value)) : Plain (prepare budget callee arguments named) := by
  refine (plain_forM plain_checkArgument arguments).bind fun _ =>
    (plain_forM (fun argument => plain_checkArgument argument.2) named).bind fun _ => ?_
  dsimp only
  split
  · split
    · exact (plain_checkSized budget arguments).bind fun _ => plain_pure _
    · exact plain_pure _
  · exact (plain_joinable budget _).bind fun _ => plain_pure _
  · exact plain_pure _

theorem plain_carryOut (budget : Budget) (callee : Callee) (arguments : List Value)
    (named : List (String × Value)) : Plain (carryOut budget callee arguments named) := by
  cases callee with
  | function f => exact (plain_ofDraw _).bind fun value => budget.plain_checkSize value
  | method base name => exact (plain_ofDraw _).bind fun value => budget.plain_checkSize value

theorem plain_checkSink (budget : Budget) (sink : Sink) : Plain (checkSink budget sink) :=
  .ite (plain_breach _) (plain_pure _)

/-! ## Obstacles -/

/-- There is no deadline only where the limit of seconds is too great for a double. -/
theorem Budget.eq_overflow_of_deadline {budget : Budget} {error : Error}
    (overflows : budget.deadline = .error error) :
    error = .operation .overflow "int too large to convert to float" := by
  unfold deadline secondsOf at overflows
  split at overflows
  · cases overflows
  · split at overflows
    · cases overflows
    · cases overflows
      rfl

theorem Budget.isLate_of_error {budget : Budget} {error : Error}
    (overflows : budget.deadline = .error error) (n : Nat) : budget.isLate n = true := by
  rw [isLate, overflows]

theorem Budget.exists_deadline {budget : Budget} {n : Nat} (inTime : budget.isLate n = false) :
    ∃ deadline, budget.deadline = .ok deadline := by
  cases found : budget.deadline with
  | ok deadline => exact ⟨deadline, rfl⟩
  | error error =>
      rw [Budget.isLate_of_error found] at inTime
      cases inTime

/-- A script is not run on names that it may not see. -/
theorem obstacle?_of_unexpected {names : Scope} (unknown : unexpected names ≠ []) (budget : Budget) :
    obstacle? budget names = some (.refused (.unexpectedNames (unexpected names))) := by
  have isSome : (unexpected names).isEmpty = false :=
    Bool.eq_false_iff.2 (mt List.isEmpty_iff.1 unknown)
  rw [obstacle?, isSome]
  rfl

/-- On known names a script is run as soon as there is a deadline. -/
theorem obstacle?_of_expected {names : Scope} (known : unexpected names = []) (budget : Budget) :
    obstacle? budget names = match budget.deadline with
      | .ok _ => none
      | .error error => some error := by
  rw [obstacle?, known]
  rfl

/-! ## Outcomes -/

/-- The limits that hold where none are set, no time that passes, and values of which none need be one
object. -/
def usualLimits : Budget :=
  ⟨{}, fun _ => 0, fun _ _ => false⟩

/-- The run of a script from names and cursors. -/
def finish (script : Script) (budget : Budget) (names : Scope) (cursors : Cursors) :
    Except Stop Value × Run :=
  perform (script.tree.eval budget) { scope := names, cursors }

theorem outcome_eq (script : Script) (budget : Budget) (names : Scope) (cursors : Cursors) :
    script.outcome budget names cursors =
      ⟨(finish script budget names cursors).1, (finish script budget names cursors).2.steps,
        (finish script budget names cursors).2.cursors,
        (finish script budget names cursors).2.accesses,
        (finish script budget names cursors).2.handled⟩ :=
  rfl

end Authorization.Script
