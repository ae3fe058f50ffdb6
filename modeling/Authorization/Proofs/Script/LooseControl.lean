import Authorization.Proofs.Script.Faults
import Authorization.Proofs.Script.Jumps
import Authorization.Proofs.Script.Progress

/-!
# Errors of grammar in runs

What a text must be to be a script is checked before it runs, but for one thing: no check asks whether a
loop is around a break or continue. A run that such a jump leads out of ends with an error of grammar. No
other run does.
-/

namespace Authorization

theorem FaultKind.label_eq_syntaxError_iff {kind : FaultKind} :
    kind.label = "SyntaxError" ↔ kind = .grammar := by
  cases kind <;> decide

theorem Refusal.kind_eq_grammar_iff {refusal : Refusal} :
    refusal.kind = .grammar ↔ refusal = .looseLoopControl := by
  cases refusal <;> simp [Refusal.kind]

theorem Refusal.label_kind_ne {refusal : Refusal} (other : refusal ≠ .looseLoopControl) :
    refusal.kind.label ≠ "SyntaxError" :=
  fun same => other (kind_eq_grammar_iff.1 (FaultKind.label_eq_syntaxError_iff.1 same))

theorem Error.IsFault.label_ne {error : Error} (isFault : error.IsFault) :
    error.label ≠ "SyntaxError" := by
  obtain ⟨kind, detail, rfl, ordinary⟩ := isFault
  exact fun same => ordinary (FaultKind.label_eq_syntaxError_iff.1 same)

namespace Script

open Eval

variable {α β : Type}

/-! ## Ordinary parts of runs -/

/-- A run is stopped by something else than an error of grammar. -/
def Stop.IsOrdinary : Stop → Prop
  | .failed error => error.label ≠ "SyntaxError"
  | .unsupported refusal => refusal ≠ .looseLoopControl
  | .unfinished => True

theorem Stop.IsOrdinary.label_ne {stop : Stop} (ordinary : stop.IsOrdinary) (budget : Budget) :
    (stop.error budget).label ≠ "SyntaxError" := by
  cases stop with
  | failed error => exact ordinary
  | unsupported refusal => exact Refusal.label_kind_ne ordinary
  | unfinished => exact (by decide : "SandboxLimitExceeded" ≠ "SyntaxError")

/-- A part of a run is not stopped by an error of grammar. -/
abbrev Ordinary (part : Eval α) : Prop :=
  Ends Stop.IsOrdinary (fun _ => True) part

theorem Ordinary.bind {part : Eval α} {next : α → Eval β} (ordinary : Ordinary part)
    (rest : ∀ value, Ordinary (next value)) : Ordinary (part >>= next) :=
  Ends.bind ordinary fun value _ => rest value

theorem Ordinary.related {related : α → α → Prop} {part : Eval α} (ordinary : Ordinary part)
    (reflexive : ∀ value, related value value) :
    Ends Stop.IsOrdinary (fun value => ∃ other, related value other) part :=
  ordinary.mono fun value _ => ⟨value, reflexive value⟩

theorem ordinary_pure (value : α) : Ordinary (pure value : Eval α) :=
  ends_pure trivial

theorem ends_refuse {sort : α → Prop} {refusal : Refusal} (other : refusal ≠ .looseLoopControl) :
    Ends Stop.IsOrdinary sort (refuse refusal) :=
  fun _ => Refusal.label_kind_ne other

theorem ordinary_breach (found : Breach) : Ordinary (breach found : Eval α) :=
  fun _ => (by decide : "SandboxLimitExceeded" ≠ "SyntaxError")

theorem ordinary_ofExcept {result : Except Error α} (fails : result.FailsWith Error.IsFault) :
    Ordinary (ofExcept result) := by
  cases result with
  | ok value => exact ordinary_pure value
  | error error => exact fun _ => Error.IsFault.label_ne fails

/-- A missing key is no error of grammar, whether it can be written or not. -/
theorem ordinary_element (base index : Value) : Ordinary (ofExcept (base.element index)) := by
  have missing : index.missingKey.label ≠ "SyntaxError" := by
    rw [Value.label_missingKey]
    decide
  have fails := Value.failsWith_element base index
  generalize base.element index = result at fails
  cases result with
  | ok value => exact ordinary_pure value
  | error error =>
      rcases fails with isFault | rfl
      · exact fun _ => isFault.label_ne
      · exact fun _ => missing

theorem ordinary_ofDraw {draw : Draw α} (fails : draw.FailsWith Error.IsFault) :
    Ordinary (ofDraw draw) := by
  intro run
  have here := fails run.cursors
  rw [perform_ofDraw]
  generalize (Id.run (draw.run.run run.cursors)).1 = result at here
  cases result with
  | ok value => trivial
  | error error => exact Error.IsFault.label_ne here

theorem ordinary_forM {action : α → Eval PUnit} (each : ∀ item, Ordinary (action item)) :
    (items : List α) → Ordinary (items.forM action)
  | [] => ordinary_pure _
  | item :: rest => (each item).bind fun _ => ordinary_forM each rest

theorem ordinary_lookup (name : String) : Ordinary (lookup name) := by
  intro run
  rw [perform_lookup]
  cases run.scope.lookup name with
  | some value => trivial
  | none =>
      cases knownValue? name with
      | some value => trivial
      | none =>
          have other : Refusal.unbound name ≠ .looseLoopControl := by simp
          exact Refusal.label_kind_ne other

/-! ### Operations on values -/

section Operations

variable (budget : Budget)

theorem ordinary_tick : Ordinary budget.tick := by
  intro run
  rw [perform_tick]
  dsimp only
  by_cases beyond : run.steps + 1 > budget.limits.maxSteps
  · rw [if_pos beyond]
    exact (by decide : "SandboxLimitExceeded" ≠ "SyntaxError")
  · rw [if_neg beyond]
    cases budget.isLate (run.steps + 1) with
    | true => exact (by decide : "SandboxLimitExceeded" ≠ "SyntaxError")
    | false => trivial

theorem ordinary_checkSize (value : Value) : Ordinary (budget.checkSize value) := by
  unfold Budget.checkSize
  split
  · exact .ite (ordinary_breach _) (ordinary_pure _)
  · split
    · exact ordinary_pure _
    · refine .ite (ordinary_ofExcept (by simp)) ?_
      exact .ite (ordinary_breach _) (ordinary_pure _)

theorem ordinary_checkPower (left right : Value) : Ordinary (checkPower budget left right) := by
  unfold checkPower
  refine .ite ?_ ?_
  · split
    · exact ordinary_breach _
    · exact ordinary_ofExcept (by simp)
  · split
    · exact .ite (ordinary_breach _) (ordinary_pure _)
    · exact ordinary_pure _

theorem ordinary_checkOperands (operator : BinaryOperator) (left right : Value) :
    Ordinary (checkOperands budget operator left right) := by
  unfold checkOperands
  split
  · exact ordinary_checkPower budget left right
  · split
    · exact ends_refuse (by simp)
    · exact ordinary_pure _
  · unfold checkProduct
    dsimp only
    split
    · exact .ite (ordinary_breach _) (ordinary_pure _)
    · exact ordinary_pure _
  · unfold checkSum
    split
    · exact .ite (ordinary_breach _) (ordinary_pure _)
    · exact ordinary_pure _
  · exact ordinary_pure _

theorem ordinary_combine {operator : BinaryOperator} (offered : operator.isOffered = true)
    (left right : Value) : Ordinary (combine operator left right) := by
  cases operator with
  | add => exact ordinary_ofExcept (Value.failsWith_add left right)
  | subtract => exact ordinary_ofDraw (Value.failsWith_subtract left right)
  | multiply => exact ordinary_ofExcept (Value.failsWith_multiply left right)
  | divide => exact ordinary_ofExcept (Value.failsWith_divide left right)
  | floorDivide => exact ordinary_ofExcept (Value.failsWith_floorDivide left right)
  | modulo => exact ordinary_ofExcept (Value.failsWith_modulo left right)
  | power => exact ordinary_ofExcept (Value.failsWith_power left right)
  | matrixMultiply | leftShift | rightShift | bitOr | bitXor | bitAnd => cases offered

theorem ordinary_operate {operator : BinaryOperator} (offered : operator.isOffered = true)
    (left right : Value) : Ordinary (operate budget operator left right) :=
  (ordinary_checkOperands budget operator left right).bind fun _ =>
    (ordinary_combine offered left right).bind fun value => ordinary_checkSize budget value

theorem ordinary_applyUnary {operator : UnaryOperator} (offered : operator ≠ .invert)
    (operand : Value) : Ordinary (applyUnary operator operand) := by
  cases operator with
  | negation => exact ordinary_pure _
  | minus => exact ordinary_ofExcept (Value.failsWith_negate operand)
  | plus => exact ordinary_ofExcept (Value.failsWith_affirm operand)
  | invert => exact absurd rfl offered

theorem ordinary_ordered (relation : Value.Relation) (left right : Value) :
    Ordinary (ordered relation left right) := by
  unfold ordered
  split
  · exact ordinary_pure _
  · exact ordinary_ofExcept (by simp)

theorem ordinary_compareValues (isOne : Bool) (operator : Comparison) (left right : Value) :
    Ordinary (compareValues isOne operator left right) := by
  have equal : Ordinary (ofExcept (Value.compared (Value.equalOrShare? isOne left right))) :=
    ordinary_ofExcept (Value.failsWith_compared _)
  have member : Ordinary (ofDraw (Value.isMemberOrShares isOne left right)) :=
    ordinary_ofDraw ((Value.failsWith_isMember left right).bind fun _ => Draw.failsWith_pure _)
  cases operator with
  | equal => exact equal
  | notEqual => exact equal.bind fun _ => ordinary_pure _
  | less | lessOrEqual | greater | greaterOrEqual => exact ordinary_ordered _ left right
  | identical | notIdentical => exact ordinary_pure _
  | member => exact member
  | notMember => exact member.bind fun _ => ordinary_pure _

theorem ordinary_record (access : Access) : Ordinary (record access) :=
  fun _ => trivial

theorem ordinary_readAttribute (base : Value) {name : String} (isPublic : isPrivate name = false) :
    Ordinary (readAttribute base name) := by
  have pass (value : Value) : Ordinary
      (if value.isCallable then refuse (.callableAttribute name) else pure value) :=
    .ite (ends_refuse (by simp)) (ordinary_pure _)
  rw [readAttribute_eq base isPublic]
  refine (ordinary_record _).bind fun _ => ?_
  unfold publicAttribute
  dsimp only
  split
  · exact pass _
  · exact .ite (ends_refuse (by simp)) (pass _)

theorem ordinary_methodOf (base : Value) (name : String) : Ordinary (methodOf base name) :=
  (ordinary_record _).bind fun _ => .ite (ordinary_pure _) (ends_refuse (by simp))

theorem ordinary_functionOf (value : Value) : Ordinary (functionOf value) := by
  unfold functionOf
  split
  · exact ordinary_pure _
  · exact ends_refuse (by simp)

theorem ordinary_checkArgument (value : Value) : Ordinary (checkArgument value) := by
  unfold checkArgument
  split
  · exact ordinary_pure _
  · split
    · exact ends_refuse (by simp)
    · exact ordinary_pure _

theorem ordinary_checkSized : (arguments : List Value) → Ordinary (checkSized budget arguments)
  | [] => ordinary_pure _
  | value :: rest => by
      have others : Ordinary (do
          let _ ← budget.checkSize value
          checkSized budget rest) :=
        (ordinary_checkSize budget value).bind fun _ => ordinary_checkSized rest
      unfold checkSized
      split
      · exact Ordinary.bind (ends_refuse (by simp)) fun _ => others
      · exact others

theorem ordinary_joinable (value : Value) : Ordinary (joinable budget value) := by
  refine (ordinary_ofDraw (Value.failsWith_items value)).bind fun parts => ?_
  refine (ordinary_checkSize budget _).bind fun _ => ?_
  dsimp only
  split
  · exact (ordinary_breach _).bind fun _ => ordinary_pure _
  · exact ordinary_pure _

theorem ordinary_prepare (callee : Callee) (arguments : List Value)
    (named : List (String × Value)) : Ordinary (prepare budget callee arguments named) := by
  refine (ordinary_forM ordinary_checkArgument arguments).bind fun _ => ?_
  refine (ordinary_forM (fun argument => ordinary_checkArgument argument.2) named).bind fun _ => ?_
  dsimp only
  split
  · split
    · exact (ordinary_checkSized budget arguments).bind fun _ => ordinary_pure _
    · exact ordinary_pure _
  · exact (ordinary_joinable budget _).bind fun _ => ordinary_pure _
  · exact ordinary_pure _

theorem ordinary_carryOut (callee : Callee) (arguments : List Value)
    (named : List (String × Value)) : Ordinary (carryOut budget callee arguments named) := by
  cases callee with
  | function f =>
      exact (ordinary_ofDraw (f.failsWith_apply arguments named)).bind (ordinary_checkSize budget)
  | method base name =>
      exact (ordinary_ofDraw (Method.failsWith_apply base name arguments named)).bind
        (ordinary_checkSize budget)

theorem ordinary_insert (sink : Sink) (item : Value) : Ordinary (ofExcept (sink.insert item)) := by
  refine ordinary_ofExcept ?_
  cases sink with
  | list reversed => exact Except.failsWith_ok _
  | set members =>
      exact .ite (failsWith_unhashable item) (.ite (Except.failsWith_ok _) (Except.failsWith_ok _))
  | dict entries => exact Except.failsWith_ok _

theorem ordinary_store (sink : Sink) (key item : Value) :
    Ordinary (ofExcept (sink.store key item)) := by
  refine ordinary_ofExcept ?_
  cases sink with
  | dict entries => exact .ite (Except.failsWith_ok _) (failsWith_unhashable key)
  | list | set => exact Except.failsWith_ok _

theorem ordinary_checkSink (sink : Sink) : Ordinary (checkSink budget sink) :=
  .ite (ordinary_breach _) (ordinary_pure _)

end Operations

/-! ### Loops -/

section Loops

variable {sort : α → Prop}

theorem ends_loop {step : α → Eval (ForInStep α)}
    (each : ∀ state, sort state → Ends Stop.IsOrdinary (RoundPost sort) (step state)) (rounds : Nat)
    {state : α} (start : sort state) : Ends Stop.IsOrdinary sort (loop step rounds state) := by
  induction rounds generalizing state with
  | zero => exact fun _ => trivial
  | succ rounds inductionHypothesis =>
      refine (each state start).bind fun round isRound => ?_
      cases round with
      | done last => exact ends_pure isRound
      | yield next => exact inductionHypothesis isRound

theorem ends_forEach {body : Value → α → Eval (ForInStep α)}
    (each : ∀ item state, sort state → Ends Stop.IsOrdinary (RoundPost sort) (body item state))
    (budget : Budget) (source : Value) {state : α} (start : sort state) :
    Ends Stop.IsOrdinary sort (budget.forEach source state body) := by
  have visited (place : Iteration × α) (holds : sort place.2) :
      Ends Stop.IsOrdinary (RoundPost fun place => sort place.2) (visit body place) := by
    have advanced : Ordinary (advance place.1) := fun _ => trivial
    refine Ends.bind advanced fun item? _ => ?_
    cases item? with
    | none => exact ends_pure holds
    | some found =>
        have handled : Ordinary (handle found.1) := fun _ => trivial
        refine Ends.bind handled fun _ _ => (each found.1 place.2 holds).bind fun round isRound => ?_
        cases round with
        | done state => exact ends_pure isRound
        | yield state => exact ends_pure isRound
  have handled : Ordinary (handle source) := fun _ => trivial
  rw [forEach_eq]
  refine Ends.bind handled fun _ _ => ?_
  refine Ends.bind (ordinary_ofExcept (Value.failsWith_iteration source)) fun first _ => ?_
  exact (ends_loop visited budget.rounds start).bind fun last isLast => ends_pure isLast

end Loops

/-! ## Runs of scripts -/

/-- No part of a run is stopped by an error of grammar. -/
def ordinary (budget : Budget) : Simulation budget budget where
  alike := Eq
  likeness := likeness_eq
  admits _ := True
  literal := @likeness_literal_eq
  Together related part _ := Ends Stop.IsOrdinary (fun value => ∃ other, related value other) part
  Paying related part _ := Ends Stop.IsOrdinary (fun value => ∃ other, related value other) part
  together paying := paying
  pure related := ends_pure ⟨_, related⟩
  bind first rest := first.bind fun value ⟨other, related⟩ => rest value other related
  payingBind first rest := first.bind fun value ⟨other, related⟩ => rest value other related
  tick := (ordinary_tick budget).related fun _ => rfl
  within action := action.within
  loop {α related step other a b} each start := by
    refine ends_loop (fun state ⟨other, isRelated⟩ => ?_) _ ⟨b, start⟩
    refine (each state other isRelated).mono fun round ⟨_, rounds⟩ => ?_
    cases rounds with
    | done states => exact ⟨_, states⟩
    | yield states => exact ⟨_, states⟩
  forEach {α related body other source source' a b} _ start each := by
    refine ends_forEach (fun item state ⟨other, isRelated⟩ => ?_) budget source ⟨b, start⟩
    refine (each item item rfl state other isRelated).mono fun round ⟨_, rounds⟩ => ?_
    cases rounds with
    | done states => exact ⟨_, states⟩
    | yield states => exact ⟨_, states⟩
  lookup _ := (ordinary_lookup _).related fun _ => rfl
  bindName _ _ := Ordinary.related (fun _ => trivial) fun _ => rfl
  handle _ := Ordinary.related (fun _ => trivial) fun _ => rfl
  argument _ := (ordinary_record _).related fun _ => rfl
  refuse _ other := ends_refuse other
  items _ := (ordinary_ofDraw (Value.failsWith_items _)).related List.forall₂_refl
  checkSize _ := (ordinary_checkSize budget _).related fun _ => rfl
  applyUnary offered _ := (ordinary_applyUnary offered _).related fun _ => rfl
  operate offered _ _ := (ordinary_operate budget offered _ _).related fun _ => rfl
  compareValues _ _ operator _ _ _ _ _ _ :=
    (ordinary_compareValues _ operator _ _).related fun _ => rfl
  readAttribute isPublic _ := (ordinary_readAttribute _ isPublic).related fun _ => rfl
  element _ _ := (ordinary_element _ _).related fun _ => rfl
  methodOf _ _ := (ordinary_methodOf _ _).related Callee.alike_refl
  functionOf _ := (ordinary_functionOf _).related Callee.alike_refl
  prepare _ _ _ := (ordinary_prepare budget _ _ _).related List.forall₂_refl
  carryOut _ _ _ := (ordinary_carryOut budget _ _ _).related fun _ => rfl
  insert _ _ := (ordinary_insert _ _).related Sink.alike_refl
  store _ _ _ := (ordinary_store _ _ _).related Sink.alike_refl
  checkSink _ := (ordinary_checkSink budget _).related Sink.alike_refl

/-- The statements of a script end by a break or continue that no loop is around. -/
def Tree.Escapes (budget : Budget) (run : Run) : Tree → Prop
  | .expression _ => False
  | .block body => ∃ completion after,
    perform (execBlock budget body) run = (.ok completion, after) ∧ completion.isJump = true

/-- A jump that leaves a script is one of its loose ones. -/
theorem Tree.Escapes.holdsLooseJump {budget : Budget} {run : Run} {tree : Tree}
    (escapes : tree.Escapes budget run) : tree.holdsLooseJump = true := by
  cases tree with
  | expression body => cases escapes
  | block body =>
      obtain ⟨completion, after, performed, isJump⟩ := escapes
      cases bound : holdLooseJump body with
      | true => exact bound
      | false =>
          have noJump := (ends_execBlock budget body bound).ok performed
          exact absurd (isJump.symm.trans noJump) (by decide)

/-- A script is stopped by an error of grammar exactly when a jump leaves it. -/
theorem stops_in_grammar_iff (script : Script) (budget : Budget) (run : Run) :
    (∃ stop after, perform (script.tree.eval budget) run = (.error stop, after) ∧
        (stop.error budget).label = "SyntaxError") ↔
      script.tree.Escapes budget run := by
  obtain ⟨tree, isAccepted⟩ := script
  have accepted := Tree.accepted_of_fault? isAccepted fun _ _ => (trivial : (ordinary budget).admits _)
  cases tree with
  | expression body =>
      have ends := (ordinary budget).eval body (accepted.child (List.mem_singleton_self _))
      refine iff_of_false (fun ⟨stop, after, performed, label⟩ => ?_) id
      exact (ends.stop performed).label_ne budget label
  | block body =>
      have ends := (ordinary budget).execBlock body fun s member =>
        accepted.child (List.mem_map_of_mem member)
      rw [Tree.eval_block, Tree.Escapes]
      rcases performed : perform (execBlock budget body) run with ⟨stop | completion, after⟩
      · rw [perform_bind_of_error performed]
        refine iff_of_false ?_ fun ⟨_, _, same, _⟩ => nomatch same
        rintro ⟨stop, after, ⟨⟩, label⟩
        exact (ends.stop performed).label_ne budget label
      · rw [perform_bind_of_ok performed]
        cases completion with
        | normal | returned =>
            refine iff_of_false (fun ⟨_, _, same, _⟩ => nomatch same) ?_
            rintro ⟨_, _, ⟨⟩, ⟨⟩⟩
        | broke | continued =>
            exact iff_of_true ⟨_, _, rfl, rfl⟩ ⟨_, _, rfl, rfl⟩

theorem run_eq (script : Script) (budget : Budget) (names : Scope) (cursors : Cursors) :
    Id.run ((script.run budget names).run.run cursors) =
      match obstacle? budget names with
      | none => ((finish script budget names cursors).1.mapError (Stop.error budget),
          (finish script budget names cursors).2.cursors)
      | some error => (.error error, cursors) := by
  unfold Script.run
  cases obstacle? budget names with
  | none =>
      have looked : Id.run ((get : Draw Cursors).run.run cursors) = (.ok cursors, cursors) := rfl
      have moved (after : Cursors) :
          Id.run ((set after : Draw PUnit).run.run cursors) = (.ok ⟨⟩, after) := rfl
      dsimp only
      rw [Draw.run_bind, looked]
      dsimp only
      rw [Draw.run_bind, moved, outcome_eq]
      dsimp only
      cases (finish script budget names cursors).1 <;> rfl
  | some error => rfl

/-- Every statement takes a step before anything else. -/
theorem exec_eq_tick_bind (budget : Budget) (statement : Statement) :
    ∃ rest : Unit → Eval Completion, exec budget statement = budget.tick >>= rest := by
  cases statement <;> exact ⟨_, rfl⟩

/-- Where there is no time at all, nothing gets as far as a jump. -/
theorem Tree.not_escapes_of_late {budget : Budget} (late : ∀ n, budget.isLate n = true) (run : Run)
    (tree : Tree) : ¬ tree.Escapes budget run := by
  cases tree with
  | expression body => exact id
  | block body =>
      rintro ⟨completion, after, performed, isJump⟩
      cases body with
      | nil =>
          cases performed
          cases isJump
      | cons statement rest =>
          obtain ⟨stop, stopped⟩ : ∃ stop, (perform budget.tick run).1 = .error stop := by
            rw [perform_tick, late]
            dsimp only
            split
            · exact ⟨_, rfl⟩
            · exact ⟨_, rfl⟩
          obtain ⟨others, isTick⟩ := exec_eq_tick_bind budget statement
          have ended : perform budget.tick run = (.error stop, (perform budget.tick run).2) :=
            Prod.ext stopped rfl
          have here : perform (exec budget statement) run =
              (.error stop, (perform budget.tick run).2) := by
            rw [isTick]
            exact perform_bind_of_error ended
          have whole : perform (execBlock budget (statement :: rest)) run =
              (.error stop, (perform budget.tick run).2) :=
            perform_bind_of_error here
          cases whole.symm.trans performed

/-- A run raises an error of grammar exactly when it is given no names but exposed ones and a break or
continue leaves the whole script, which takes one that no loop is around. All jumps act where they lead:
break and continue on the innermost loop around them, a return on the whole run. -/
theorem syntax_errors_come_from_loose_jumps (script : Script) (budget : Budget) (names : Scope)
    (cursors : Cursors) :
    ((∃ error after, Id.run ((script.run budget names).run.run cursors) = (.error error, after) ∧
        error.label = "SyntaxError") ↔
      unexpected names = [] ∧ script.tree.Escapes budget { scope := names, cursors }) ∧
    (script.tree.holdsLooseJump = false → ¬ script.tree.Escapes budget { scope := names, cursors }) ∧
    script.tree.eval budget = script.tree.follow budget := by
  refine ⟨?_, fun bound escapes => ?_, (script.tree.follow_eq budget).symm⟩
  · rw [run_eq]
    by_cases known : unexpected names = []
    · rw [obstacle?_of_expected known]
      cases deadline : budget.deadline with
      | ok deadline =>
          have finished : finish script budget names cursors =
              perform (script.tree.eval budget) { scope := names, cursors } := rfl
          rw [finished, ← stops_in_grammar_iff]
          rcases perform (script.tree.eval budget) { scope := names, cursors } with
            ⟨stop | value, after⟩
          · constructor
            · rintro ⟨error, last, ⟨⟩, label⟩
              exact ⟨known, stop, after, rfl, label⟩
            · rintro ⟨-, found, last, ⟨⟩, label⟩
              exact ⟨_, _, rfl, label⟩
          · exact iff_of_false (fun ⟨_, _, same, _⟩ => nomatch same) fun ⟨_, _, _, same, _⟩ =>
              nomatch same
      | error overflow =>
          have late := Budget.isLate_of_error deadline
          refine iff_of_false ?_ fun ⟨_, escapes⟩ => Tree.not_escapes_of_late late _ _ escapes
          rintro ⟨error, after, ⟨⟩, label⟩
          rw [Budget.eq_overflow_of_deadline deadline] at label
          exact absurd label (by decide : FaultKind.overflow.label ≠ "SyntaxError")
    · rw [obstacle?_of_unexpected known]
      refine iff_of_false ?_ fun ⟨same, _⟩ => known same
      rintro ⟨error, after, ⟨⟩, label⟩
      exact absurd label (by decide : FaultKind.value.label ≠ "SyntaxError")
  · exact absurd (escapes.holdsLooseJump.symm.trans bound) (by decide)

/-- The script `break`. -/
def loneBreak : Script :=
  ⟨.block [.breakLoop 1], by decide⟩

/-- The script that asks for the first item above one: `for item in [1, 2]:` with
`if item > 1: return item` and `continue` in it. -/
def firstAboveOne : Script :=
  ⟨.block [.forLoop 1 (.name 1 "item" .store)
    (.list 1 [.constant 1 (.int 1), .constant 1 (.int 2)] .load)
    [.branch 2 (.compare 2 (.name 2 "item" .load) [.greater] [.constant 2 (.int 1)])
      [.returnValue 3 (some (.name 3 "item" .load))] [], .continueLoop 4] []], by decide⟩

theorem syntax_errors_come_from_loose_jumps_break :
    (∃ error after, Id.run ((loneBreak.run usualLimits []).run.run {}) = (.error error, after) ∧
        error.label = "SyntaxError") ∧
      firstAboveOne.tree.holdsLooseJump = false ∧
      ¬ firstAboveOne.tree.Escapes usualLimits { scope := [], cursors := {} } := by
  have bound : firstAboveOne.tree.holdsLooseJump = false := by decide
  have escapes : loneBreak.tree.Escapes usualLimits { scope := [], cursors := {} } :=
    ⟨.broke, _, rfl, rfl⟩
  have none : unexpected [] = [] := by simp [unexpected]
  obtain ⟨raised, -, -⟩ := syntax_errors_come_from_loose_jumps loneBreak usualLimits [] {}
  obtain ⟨-, stays, -⟩ := syntax_errors_come_from_loose_jumps firstAboveOne usualLimits [] {}
  exact ⟨raised.2 ⟨none, escapes⟩, bound, stays bound⟩

end Script

end Authorization
