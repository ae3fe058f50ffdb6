import Authorization.Proofs.Script.Run

/-!
# The names that scripts use

An expression mentions the names that stand in it; a statement mentions them, and assigns those that are
targets of an assignment or of a loop in it. A discretion says of parts of runs that they look up no hidden
name and bind only names that they may bind, in whatever sense goes with how parts are put together. In
that sense every expression then looks up only names that it mentions and binds none, whatever its
comprehensions bind for themselves, and every statement binds only names that it assigns.
-/

namespace Authorization.Script

open Eval

/-! ## Names -/

mutual

/-- The names that an expression mentions. -/
def Expression.names : Expression → List String
  | .boolean _ _ operands => namesOfList operands
  | .binary _ left _ right => left.names ++ right.names
  | .unary _ _ operand => operand.names
  | .conditional _ test body orElse => test.names ++ (body.names ++ orElse.names)
  | .dict _ entries => namesOfEntries entries
  | .set _ elements | .list _ elements _ | .tuple _ elements _ => namesOfList elements
  | .comprehension _ _ element clauses => element.names ++ namesOfClauses clauses
  | .dictComprehension _ key value clauses => key.names ++ (value.names ++ namesOfClauses clauses)
  | .compare _ left _ operands => left.names ++ namesOfList operands
  | .call _ function arguments keywords =>
    function.names ++ (namesOfList arguments ++ namesOfKeywords keywords)
  | .constant .. | .foreign .. => []
  | .attribute _ base _ _ => base.names
  | .subscript _ base index _ => base.names ++ index.names
  | .slice _ lower upper step =>
    namesOfOption lower ++ (namesOfOption upper ++ namesOfOption step)
  | .name _ identifier _ => [identifier]
  | .starred _ operand => operand.names

def namesOfList : List Expression → List String
  | [] => []
  | e :: rest => e.names ++ namesOfList rest

def namesOfOption : Option Expression → List String
  | none => []
  | some e => e.names

def namesOfEntries : List Entry → List String
  | [] => []
  | .mk key value :: rest => namesOfOption key ++ (value.names ++ namesOfEntries rest)

def namesOfClauses : List Clause → List String
  | [] => []
  | .mk target source conditions _ :: rest =>
    target.names ++ (source.names ++ (namesOfList conditions ++ namesOfClauses rest))

def namesOfKeywords : List Keyword → List String
  | [] => []
  | .mk _ _ value :: rest => value.names ++ namesOfKeywords rest

end

mutual

/-- The names that a statement mentions. -/
def Statement.names : Statement → List String
  | .expression _ value => value.names
  | .assign _ targets value => namesOfList targets ++ value.names
  | .augmentedAssign _ target _ value => target.names ++ value.names
  | .branch _ test body orElse => test.names ++ (namesOfBlock body ++ namesOfBlock orElse)
  | .forLoop _ target source body orElse =>
    target.names ++ (source.names ++ (namesOfBlock body ++ namesOfBlock orElse))
  | .whileLoop _ test body orElse => test.names ++ (namesOfBlock body ++ namesOfBlock orElse)
  | .returnValue _ value => namesOfOption value
  | .breakLoop _ | .continueLoop _ | .pass _ | .foreign .. => []

def namesOfBlock : List Statement → List String
  | [] => []
  | statement :: rest => statement.names ++ namesOfBlock rest

end

/-- The names that a script mentions. -/
def Tree.names : Tree → List String
  | .expression body => body.names
  | .block body => namesOfBlock body

mutual

/-- The names that a statement assigns: the targets of the assignments and of the loops in it. -/
def Statement.assigned : Statement → List String
  | .assign _ targets _ => namesOfList targets
  | .augmentedAssign _ target _ _ => target.names
  | .branch _ _ body orElse => assignedIn body ++ assignedIn orElse
  | .forLoop _ target _ body orElse => target.names ++ (assignedIn body ++ assignedIn orElse)
  | .whileLoop _ _ body orElse => assignedIn body ++ assignedIn orElse
  | .expression .. | .returnValue .. => []
  | .breakLoop _ | .continueLoop _ | .pass _ | .foreign .. => []

def assignedIn : List Statement → List String
  | [] => []
  | statement :: rest => statement.assigned ++ assignedIn rest

end

theorem mem_namesOfList {e : Expression} {es : List Expression} {name : String} (member : e ∈ es)
    (mentioned : name ∈ e.names) : name ∈ namesOfList es := by
  induction member with
  | head => exact List.mem_append_left _ mentioned
  | tail _ _ inductionHypothesis => exact List.mem_append_right _ inductionHypothesis

/-- No name of a list is hidden. -/
def Shown (hidden : String → Prop) (names : List String) : Prop :=
  ∀ name ∈ names, ¬ hidden name

theorem shown_append {hidden : String → Prop} {names more : List String} :
    Shown hidden (names ++ more) ↔ Shown hidden names ∧ Shown hidden more :=
  List.forall_mem_append

/-! ## Discretion -/

/-- A sense in which parts of runs look up no hidden name and bind only names that they may bind. What is
bound within an action is forgotten after it, so that there it may be any name. -/
structure Discretion (budget : Budget) (hidden : String → Prop) where
  Discreet : {α : Type} → (may : String → Prop) → Eval α → Prop
  plain {α : Type} {may : String → Prop} {part : Eval α} : Plain part → Discreet may part
  stop {α : Type} {may : String → Prop} (stop : Stop) : Discreet may (throw stop : Eval α)
  bind {α β : Type} {may : String → Prop} {part : Eval α} {next : α → Eval β} :
    Discreet may part → (∀ value, Discreet may (next value)) → Discreet may (part >>= next)
  tick {may : String → Prop} : Discreet may budget.tick
  handle {may : String → Prop} (value : Value) : Discreet may (Eval.handle value)
  record {may : String → Prop} (access : Access) : Discreet may (Eval.record access)
  lookup {may : String → Prop} {name : String} : ¬ hidden name → Discreet may (Script.lookup name)
  bindName {may : String → Prop} {name : String} (value : Value) : may name →
    Discreet may (Eval.bindName name value)
  within {α : Type} {may any : String → Prop} {part : Eval α} :
    Discreet any part → Discreet may (Eval.within part)

namespace Discretion

variable {α β : Type} {budget : Budget} {hidden may : String → Prop}
  (discretion : Discretion budget hidden)

/-! ### Parts put together -/

theorem pure (value : α) : discretion.Discreet may (Pure.pure value) :=
  discretion.plain (plain_pure value)

theorem unsupported (refusal : Refusal) :
    discretion.Discreet may (Eval.unsupported refusal : Eval α) :=
  discretion.stop (.unsupported refusal)

theorem afterTick {part : Eval α} (rest : discretion.Discreet may part) :
    discretion.Discreet may (do budget.tick; part) :=
  discretion.bind discretion.tick fun _ => rest

theorem ite {condition : Prop} [Decidable condition] {part other : Eval α}
    (whenTrue : discretion.Discreet may part) (whenFalse : discretion.Discreet may other) :
    discretion.Discreet may (if condition then part else other) := by
  split
  · exact whenTrue
  · exact whenFalse

theorem forM {action : α → Eval PUnit} {items : List α}
    (each : ∀ item ∈ items, discretion.Discreet may (action item)) :
    discretion.Discreet may (items.forM action) := by
  induction items with
  | nil => exact discretion.pure _
  | cons item rest inductionHypothesis =>
      have here := each item List.mem_cons_self
      have others := inductionHypothesis fun other member => each other (List.mem_cons_of_mem _ member)
      exact discretion.bind here fun _ => others

theorem loop {step : α → Eval (ForInStep α)}
    (each : ∀ state, discretion.Discreet may (step state)) (rounds : Nat) (state : α) :
    discretion.Discreet may (Eval.loop step rounds state) := by
  induction rounds generalizing state with
  | zero => exact discretion.stop .unfinished
  | succ rounds inductionHypothesis =>
      apply discretion.bind (each state)
      intro round
      cases round with
      | done last => exact discretion.pure last
      | yield next => exact inductionHypothesis next

theorem forEach {body : Value → α → Eval (ForInStep α)}
    (each : ∀ item state, discretion.Discreet may (body item state)) (source : Value) (state : α) :
    discretion.Discreet may (budget.forEach source state body) := by
  have visited (place : Iteration × α) : discretion.Discreet may (visit body place) := by
    apply discretion.bind (discretion.plain (plain_advance place.1))
    intro found?
    cases found? with
    | none => exact discretion.pure _
    | some found =>
        have treated := each found.1 place.2
        refine discretion.bind (discretion.handle found.1) fun _ => discretion.bind treated ?_
        intro round
        cases round <;> exact discretion.pure _
  have started : discretion.Discreet may (ofExcept source.iteration) :=
    discretion.plain (plain_ofExcept _)
  rw [forEach_eq]
  apply discretion.bind (discretion.handle source)
  intro _
  apply discretion.bind started
  intro first
  exact discretion.bind (discretion.loop visited budget.rounds (first, state)) fun _ =>
    discretion.pure _

/-! ### Targets -/

theorem bindAll {targets : List Expression} (allowed : ∀ name ∈ namesOfList targets, may name)
    (values : List Value) : discretion.Discreet may (Script.bindAll targets values) := by
  induction targets generalizing values with
  | nil => exact discretion.pure _
  | cons target rest inductionHypothesis =>
      have restAllowed : ∀ name ∈ namesOfList rest, may name := fun name member =>
        allowed name (List.mem_append_right _ member)
      cases values with
      | nil => cases target <;> exact discretion.pure _
      | cons value values =>
          cases target with
          | name line identifier use =>
              have here : may identifier :=
                allowed identifier (List.mem_append_left _ (List.mem_singleton_self _))
              exact discretion.bind (discretion.bindName value here) fun _ =>
                inductionHypothesis restAllowed values
          | _ => exact discretion.unsupported _

theorem assign {target : Expression} (allowed : ∀ name ∈ target.names, may name) (value : Value) :
    discretion.Discreet may (Script.assign target value) := by
  cases target with
  | name line identifier use =>
      exact discretion.bindName value (allowed identifier (List.mem_singleton_self _))
  | tuple line elements use =>
      apply discretion.bind (discretion.handle value)
      intro _
      apply discretion.bind (discretion.plain (plain_ofDraw value.items))
      intro values
      exact discretion.ite (discretion.bindAll allowed values) (discretion.plain (plain_refuse _))
  | _ => exact discretion.unsupported _

/-! ### Operations -/

theorem operate (operator : BinaryOperator) (left right : Value) :
    discretion.Discreet may (Script.operate budget operator left right) := by
  have combined : discretion.Discreet may (combine operator left right) := by
    cases operator with
    | matrixMultiply | leftShift | rightShift | bitOr | bitXor | bitAnd =>
        exact discretion.unsupported _
    | _ => exact discretion.plain (plain_combine rfl left right)
  have checked : discretion.Discreet may (checkOperands budget operator left right) :=
    discretion.plain (plain_checkOperands budget operator left right)
  exact discretion.bind checked fun _ => discretion.bind combined fun value =>
    discretion.plain (budget.plain_checkSize value)

theorem applyUnary (operator : UnaryOperator) (operand : Value) :
    discretion.Discreet may (Script.applyUnary operator operand) := by
  cases operator with
  | invert => exact discretion.unsupported _
  | negation | minus | plus => exact discretion.plain (plain_applyUnary (by decide) operand)

theorem readAttribute (base : Value) (name : String) :
    discretion.Discreet may (Script.readAttribute base name) := by
  cases isKept : isPrivate name with
  | false =>
      rw [readAttribute_eq base isKept]
      exact discretion.bind (discretion.record _) fun _ =>
        discretion.plain (plain_publicAttribute base name)
  | true =>
      apply discretion.bind (discretion.record _)
      intro _
      rw [if_pos isKept]
      exact discretion.unsupported _

theorem methodOf (base : Value) (name : String) :
    discretion.Discreet may (Script.methodOf base name) := by
  rw [methodOf_eq]
  exact discretion.bind (discretion.record _) fun _ =>
    discretion.plain (plain_listedMethod base name)

theorem call (callee : Callee) (arguments : List Value) (named : List (String × Value)) :
    discretion.Discreet may (Script.call budget callee arguments named) := by
  have handled (values : List Value) : discretion.Discreet may (values.forM Eval.handle) :=
    discretion.forM fun value _ => discretion.handle value
  have prepared : discretion.Discreet may (prepare budget callee arguments named) :=
    discretion.plain (plain_prepare budget callee arguments named)
  apply discretion.bind (handled _)
  intro _
  apply discretion.bind prepared
  intro passed
  exact discretion.bind (handled passed) fun _ =>
    discretion.plain (plain_carryOut budget callee passed named)

theorem checkSize (value : Value) : discretion.Discreet may (budget.checkSize value) :=
  discretion.plain (budget.plain_checkSize value)

/-- What has been built is checked. -/
theorem grown (made : Except Error Sink) :
    discretion.Discreet may (do checkSink budget (← Eval.ofExcept made)) :=
  discretion.bind (discretion.plain (plain_ofExcept made)) fun sink =>
    discretion.plain (plain_checkSink budget sink)

end Discretion

/-! ## Expressions -/

mutual

/-- An expression looks up only names that it mentions, and binds none. -/
theorem Discretion.eval {budget : Budget} {hidden may : String → Prop}
    (discretion : Discretion budget hidden) :
    (e : Expression) → Shown hidden e.names → discretion.Discreet may (eval budget e)
  | .constant line literal, _ => discretion.afterTick (discretion.pure _)
  | .name line identifier use, shown =>
      have here : ¬ hidden identifier := shown identifier (List.mem_singleton_self _)
      discretion.afterTick (discretion.lookup here)
  | .boolean line operator operands, shown =>
      discretion.afterTick (discretion.evalBoolean operator operands shown)
  | .unary line operator operand, shown =>
      discretion.afterTick <| discretion.bind (discretion.eval operand shown) fun value =>
        discretion.applyUnary operator value
  | .binary line first operator second, shown =>
      have ⟨firstShown, secondShown⟩ := shown_append.1 shown
      discretion.afterTick <| discretion.bind (discretion.eval first firstShown) fun a =>
        discretion.bind (discretion.eval second secondShown) fun b =>
          discretion.operate operator a b
  | .compare line first operators operands, shown =>
      have ⟨firstShown, othersShown⟩ := shown_append.1 shown
      discretion.afterTick <| discretion.bind (discretion.eval first firstShown) fun value =>
        discretion.bind (discretion.evalChain first value operators operands othersShown) fun _ =>
          discretion.pure _
  | .conditional line test body orElse, shown =>
      have ⟨testShown, branchesShown⟩ := shown_append.1 shown
      have ⟨bodyShown, elseShown⟩ := shown_append.1 branchesShown
      discretion.afterTick <| discretion.bind (discretion.eval test testShown) fun _ =>
        discretion.ite (discretion.eval body bodyShown) (discretion.eval orElse elseShown)
  | .list line elements use, shown | .tuple line elements use, shown =>
      discretion.afterTick <| discretion.bind (discretion.evalAll elements shown) fun _ =>
        discretion.checkSize _
  | .set line elements, shown =>
      discretion.afterTick <| discretion.bind (discretion.evalMembers _ elements shown) fun _ =>
        discretion.checkSize _
  | .dict line entries, shown =>
      discretion.afterTick <| discretion.bind (discretion.evalEntries _ entries shown) fun _ =>
        discretion.checkSize _
  | .attribute line base name use, shown =>
      discretion.afterTick <| discretion.bind (discretion.eval base shown) fun value =>
        discretion.readAttribute value name
  | .subscript line base index use, shown =>
      have ⟨baseShown, indexShown⟩ := shown_append.1 shown
      discretion.afterTick <| discretion.bind (discretion.eval base baseShown) fun container =>
        discretion.ite (discretion.plain (plain_refuse _)) <|
          discretion.bind (discretion.eval index indexShown) fun place =>
            discretion.bind (discretion.plain (plain_ofExcept _)) fun _ => discretion.checkSize _
  | .slice line lower upper step, shown =>
      have ⟨lowerShown, othersShown⟩ := shown_append.1 shown
      have ⟨upperShown, stepShown⟩ := shown_append.1 othersShown
      discretion.afterTick <| discretion.bind (discretion.evalOption lower lowerShown) fun _ =>
        discretion.bind (discretion.evalOption upper upperShown) fun _ =>
          discretion.bind (discretion.evalOption step stepShown) fun _ => discretion.pure _
  | .call line function arguments keywords, shown => by
      obtain ⟨functionShown, othersShown⟩ := shown_append.1 shown
      obtain ⟨argumentsShown, keywordsShown⟩ := shown_append.1 othersShown
      have called (callee : Callee) : discretion.Discreet may (do
          let values ← Script.evalAll budget arguments
          Script.call budget callee values (← Script.evalKeywords budget [] keywords)) :=
        discretion.bind (discretion.evalAll arguments argumentsShown) fun values =>
          discretion.bind (discretion.evalKeywords [] keywords keywordsShown) fun named =>
            discretion.call callee values named
      cases function with
      | «attribute» line base name use =>
          exact discretion.afterTick <| discretion.bind (discretion.eval base functionShown)
            fun value => discretion.bind (discretion.methodOf value name) called
      | _ =>
          exact discretion.afterTick <| discretion.bind (discretion.eval _ functionShown)
            fun value => discretion.bind (discretion.plain (plain_functionOf value)) called
  | .comprehension line collector element clauses, shown => by
      obtain ⟨elementShown, clausesShown⟩ := shown_append.1 shown
      have emits (bound : String → Prop) (sink : Sink) : discretion.Discreet bound (do
          let item ← Script.eval budget element
          checkSink budget (← Eval.ofExcept (sink.insert item))) :=
        discretion.bind (discretion.eval element elementShown) fun _ => discretion.grown _
      exact discretion.afterTick <| discretion.bind
        (discretion.comprehend clauses clausesShown emits _) fun _ => discretion.pure _
  | .dictComprehension line key value clauses, shown => by
      obtain ⟨keyShown, othersShown⟩ := shown_append.1 shown
      obtain ⟨valueShown, clausesShown⟩ := shown_append.1 othersShown
      have emits (bound : String → Prop) (sink : Sink) : discretion.Discreet bound (do
          let k ← Script.eval budget key
          let item ← Script.eval budget value
          checkSink budget (← Eval.ofExcept (sink.store k item))) :=
        discretion.bind (discretion.eval key keyShown) fun _ =>
          discretion.bind (discretion.eval value valueShown) fun _ => discretion.grown _
      exact discretion.afterTick <| discretion.bind
        (discretion.comprehend clauses clausesShown emits _) fun _ => discretion.pure _
  | .starred line operand, _ => discretion.afterTick (discretion.unsupported _)
  | .foreign line construct, _ => discretion.afterTick (discretion.unsupported _)

theorem Discretion.evalAll {budget : Budget} {hidden may : String → Prop}
    (discretion : Discretion budget hidden) :
    (es : List Expression) → Shown hidden (namesOfList es) →
      discretion.Discreet may (evalAll budget es)
  | [], _ => discretion.pure _
  | e :: rest, shown =>
      have ⟨here, others⟩ := shown_append.1 shown
      discretion.bind (discretion.eval e here) fun _ =>
        discretion.bind (discretion.evalAll rest others) fun _ => discretion.pure _

theorem Discretion.evalOption {budget : Budget} {hidden may : String → Prop}
    (discretion : Discretion budget hidden) :
    (e? : Option Expression) → Shown hidden (namesOfOption e?) →
      discretion.Discreet may (evalOption budget e?)
  | none, _ => discretion.pure _
  | some e, shown => discretion.eval e shown

theorem Discretion.evalMembers {budget : Budget} {hidden may : String → Prop}
    (discretion : Discretion budget hidden) (sink : Sink) :
    (es : List Expression) → Shown hidden (namesOfList es) →
      discretion.Discreet may (evalMembers budget sink es)
  | [], _ => discretion.pure _
  | e :: rest, shown =>
      have ⟨here, others⟩ := shown_append.1 shown
      discretion.bind (discretion.eval e here) fun _ =>
        discretion.bind (discretion.plain (plain_ofExcept _)) fun grown =>
          discretion.evalMembers grown rest others

theorem Discretion.evalEntries {budget : Budget} {hidden may : String → Prop}
    (discretion : Discretion budget hidden) (sink : Sink) :
    (entries : List Entry) → Shown hidden (namesOfEntries entries) →
      discretion.Discreet may (evalEntries budget sink entries)
  | [], _ => discretion.pure _
  | .mk key value :: rest, shown =>
      have ⟨keyShown, more⟩ := shown_append.1 shown
      have ⟨valueShown, others⟩ := shown_append.1 more
      discretion.bind (discretion.evalOption key keyShown) fun _ =>
        discretion.bind (discretion.eval value valueShown) fun _ =>
          discretion.bind (discretion.plain (plain_ofExcept _)) fun grown =>
            discretion.evalEntries grown rest others

theorem Discretion.evalKeywords {budget : Budget} {hidden may : String → Prop}
    (discretion : Discretion budget hidden) (named : List (String × Value)) :
    (keywords : List Keyword) → Shown hidden (namesOfKeywords keywords) →
      discretion.Discreet may (evalKeywords budget named keywords)
  | [], _ => discretion.pure _
  | .mk _ none e :: _, shown =>
      have ⟨here, _⟩ := shown_append.1 shown
      discretion.bind (discretion.eval e here) fun _ => discretion.unsupported _
  | .mk _ (some _) e :: rest, shown =>
      have ⟨here, others⟩ := shown_append.1 shown
      discretion.bind (discretion.eval e here) fun _ =>
        discretion.bind (discretion.record _) fun _ => discretion.evalKeywords _ rest others

theorem Discretion.evalBoolean {budget : Budget} {hidden may : String → Prop}
    (discretion : Discretion budget hidden) (operator : BoolOperator) :
    (es : List Expression) → Shown hidden (namesOfList es) →
      discretion.Discreet may (evalBoolean budget operator es)
  | [], _ => discretion.pure _
  | [last], shown => discretion.eval last (shown_append.1 shown).1
  | e :: next :: rest, shown =>
      have ⟨here, others⟩ := shown_append.1 shown
      discretion.bind (discretion.eval e here) fun _ =>
        discretion.ite (discretion.evalBoolean operator (next :: rest) others) (discretion.pure _)

theorem Discretion.evalChain {budget : Budget} {hidden may : String → Prop}
    (discretion : Discretion budget hidden) (operand : Expression) (value : Value) :
    (operators : List Comparison) → (es : List Expression) → Shown hidden (namesOfList es) →
      discretion.Discreet may (evalChain budget operand value operators es)
  | [], [], _ => discretion.pure _
  | [], _ :: _, _ => discretion.pure _
  | _ :: _, [], _ => discretion.pure _
  | operator :: operators, e :: rest, shown =>
      have ⟨here, others⟩ := shown_append.1 shown
      discretion.bind (discretion.eval e here) fun next =>
        discretion.bind (discretion.plain (plain_compareValues _ operator value next)) fun _ =>
          discretion.ite (discretion.evalChain e next operators rest others) (discretion.pure _)

theorem Discretion.evalConditions {budget : Budget} {hidden may : String → Prop}
    (discretion : Discretion budget hidden) :
    (es : List Expression) → Shown hidden (namesOfList es) →
      discretion.Discreet may (evalConditions budget es)
  | [], _ => discretion.pure _
  | e :: rest, shown =>
      have ⟨here, others⟩ := shown_append.1 shown
      discretion.bind (discretion.eval e here) fun _ =>
        discretion.ite (discretion.evalConditions rest others) (discretion.pure _)

theorem Discretion.comprehend {budget : Budget} {hidden may : String → Prop}
    (discretion : Discretion budget hidden) :
    (clauses : List Clause) → Shown hidden (namesOfClauses clauses) → {emit : Sink → Eval Sink} →
      (∀ bound sink, discretion.Discreet bound (emit sink)) →
      (sink : Sink) → discretion.Discreet may (comprehend budget clauses emit sink)
  | [], _, _, emits, sink => emits may sink
  | .mk target source conditions isAsync :: rest, shown, _, emits, sink => by
      obtain ⟨_, more⟩ := shown_append.1 shown
      obtain ⟨sourceShown, more⟩ := shown_append.1 more
      obtain ⟨conditionsShown, others⟩ := shown_append.1 more
      -- For itself, a comprehension may bind any name.
      let any : String → Prop := fun _ => True
      have assigned (item : Value) : discretion.Discreet any (Script.assign target item) :=
        discretion.assign (fun _ _ => trivial) item
      have goesOn (sink : Sink) : discretion.Discreet any (do
          return ForInStep.yield (← Script.comprehend budget rest _ sink)) :=
        discretion.bind (discretion.comprehend rest others emits sink) fun _ => discretion.pure _
      have tested : discretion.Discreet any (Script.evalConditions budget conditions) :=
        discretion.evalConditions conditions conditionsShown
      refine discretion.bind (discretion.eval source sourceShown) fun items => ?_
      refine discretion.forEach (fun item sink => discretion.afterTick ?_) items sink
      exact discretion.within <| discretion.bind (assigned item) fun _ =>
        discretion.bind tested fun _ => discretion.ite (goesOn sink) (discretion.pure _)

end

/-! ## Statements -/

mutual

/-- A statement looks up only names that it mentions, and binds only names that it assigns. -/
theorem Discretion.exec {budget : Budget} {hidden may : String → Prop}
    (discretion : Discretion budget hidden) :
    (s : Statement) → Shown hidden s.names → (∀ name ∈ s.assigned, may name) →
      discretion.Discreet may (exec budget s)
  | .expression line value, shown, _ =>
      discretion.afterTick <| discretion.bind (discretion.eval value shown) fun _ =>
        discretion.pure _
  | .assign line targets value, shown, allowed => by
      obtain ⟨_, valueShown⟩ := shown_append.1 shown
      have assigned (result : Value) : discretion.Discreet may
          (targets.forM fun target => Script.assign target result) := by
        apply discretion.forM
        intro target member
        exact discretion.assign (fun name isTarget => allowed name (mem_namesOfList member isTarget))
          result
      exact discretion.afterTick <| discretion.bind (discretion.eval value valueShown)
        fun result => discretion.bind (assigned result) fun _ => discretion.pure _
  | .augmentedAssign line target operator value, shown, allowed => by
      obtain ⟨targetShown, valueShown⟩ := shown_append.1 shown
      cases target with
      | name targetLine identifier use =>
          have here := List.mem_singleton_self identifier
          have current : discretion.Discreet may (Script.lookup identifier) :=
            discretion.lookup (targetShown identifier here)
          have bound (result : Value) := discretion.bindName result (allowed identifier here)
          exact discretion.afterTick <| discretion.bind current fun _ =>
            discretion.bind (discretion.eval value valueShown) fun _ =>
              discretion.bind (discretion.operate operator _ _) fun result =>
                discretion.bind (bound result) fun _ => discretion.pure _
      | _ => exact discretion.afterTick (discretion.unsupported _)
  | .branch line test body orElse, shown, allowed =>
      have ⟨testShown, branchesShown⟩ := shown_append.1 shown
      have ⟨bodyShown, elseShown⟩ := shown_append.1 branchesShown
      have ⟨bodyAllowed, elseAllowed⟩ := List.forall_mem_append.1 allowed
      discretion.afterTick <| discretion.bind (discretion.eval test testShown) fun _ =>
        discretion.ite (discretion.execBlock body bodyShown bodyAllowed)
          (discretion.execBlock orElse elseShown elseAllowed)
  | .forLoop line target source body orElse, shown, allowed => by
      obtain ⟨_, more⟩ := shown_append.1 shown
      obtain ⟨sourceShown, blocksShown⟩ := shown_append.1 more
      obtain ⟨bodyShown, _⟩ := shown_append.1 blocksShown
      obtain ⟨targetAllowed, blocksAllowed⟩ := List.forall_mem_append.1 allowed
      obtain ⟨bodyAllowed, _⟩ := List.forall_mem_append.1 blocksAllowed
      refine discretion.afterTick <| discretion.bind (discretion.eval source sourceShown)
        fun items => discretion.forEach (fun item _ => discretion.afterTick ?_) items _
      exact discretion.bind (discretion.assign targetAllowed item) fun _ =>
        discretion.bind (discretion.execBlock body bodyShown bodyAllowed) fun _ =>
          discretion.pure _
  | .whileLoop line test body orElse, shown, allowed => by
      obtain ⟨testShown, blocksShown⟩ := shown_append.1 shown
      obtain ⟨bodyShown, _⟩ := shown_append.1 blocksShown
      obtain ⟨bodyAllowed, _⟩ := List.forall_mem_append.1 allowed
      refine discretion.afterTick (discretion.loop (fun _ => ?_) _ _)
      refine discretion.bind (discretion.eval test testShown) fun _ => ?_
      refine discretion.ite ?_ (discretion.pure _)
      exact discretion.bind (discretion.execBlock body bodyShown bodyAllowed) fun _ =>
        discretion.pure _
  | .breakLoop line, _, _ | .continueLoop line, _, _ | .pass line, _, _ =>
      discretion.afterTick (discretion.pure _)
  | .returnValue line value, shown, _ =>
      discretion.afterTick <| discretion.bind (discretion.evalOption value shown) fun _ =>
        discretion.pure _
  | .foreign line construct, _, _ => discretion.afterTick (discretion.unsupported _)

theorem Discretion.execBlock {budget : Budget} {hidden may : String → Prop}
    (discretion : Discretion budget hidden) :
    (block : List Statement) → Shown hidden (namesOfBlock block) →
      (∀ name ∈ assignedIn block, may name) → discretion.Discreet may (execBlock budget block)
  | [], _, _ => discretion.pure _
  | s :: rest, shown, allowed => by
      obtain ⟨here, othersShown⟩ := shown_append.1 shown
      obtain ⟨hereAllowed, othersAllowed⟩ := List.forall_mem_append.1 allowed
      apply discretion.bind (discretion.exec s here hereAllowed)
      intro completion
      cases completion with
      | normal => exact discretion.execBlock rest othersShown othersAllowed
      | broke | continued | returned value => exact discretion.pure _

end

/-- A script looks up only names that it mentions. -/
theorem Discretion.tree {budget : Budget} {hidden may : String → Prop}
    (discretion : Discretion budget hidden) {tree : Tree} (shown : Shown hidden tree.names)
    (any : ∀ name, may name) : discretion.Discreet may (tree.eval budget) := by
  cases tree with
  | expression body => exact discretion.eval body shown
  | block body =>
      apply discretion.bind (discretion.execBlock body shown fun name _ => any name)
      intro completion
      cases completion with
      | normal | returned value => exact discretion.pure _
      | broke | continued => exact discretion.plain (plain_refuse _)

end Authorization.Script
