import Authorization.Proofs.Script.Acceptance
import Authorization.Proofs.Script.Run
import Mathlib.Data.List.Forall2

/-!
# Simulations

Two runs of one script are compared part by part. A simulation says when two values count as alike and
when two parts of runs stay together, and it keeps a rule for every operation of the evaluator. That is
all there is to show: the runs of every accepted script, with whatever loops and nested constructs, then
stay together. A property of single runs is a simulation of each run by itself.

Parts that are paying take a step whenever they end normally. Every round of a loop pays.
-/

namespace Authorization.Script

/-! ## Alike results -/

/-- Two named arguments, or two bindings, of one name and of alike values. -/
def NamedAlike (alike : Value → Value → Prop) (a b : String × Value) : Prop :=
  a.1 = b.1 ∧ alike a.2 b.2

/-- Two entries of mappings with alike keys and alike values. -/
def EntryAlike (alike : Value → Value → Prop) (a b : Value × Value) : Prop :=
  alike a.1 b.1 ∧ alike a.2 b.2

inductive Sink.Alike (alike : Value → Value → Prop) : Sink → Sink → Prop
  | list {a b : List Value} (items : List.Forall₂ alike a b) : Sink.Alike alike (.list a) (.list b)
  | set {a b : List Value} (members : List.Forall₂ alike a b) : Sink.Alike alike (.set a) (.set b)
  | dict {a b : List (Value × Value)} (entries : List.Forall₂ (EntryAlike alike) a b) :
      Sink.Alike alike (.dict a) (.dict b)

inductive Callee.Alike (alike : Value → Value → Prop) : Callee → Callee → Prop
  | function (f : Builtin) : Callee.Alike alike (.function f) (.function f)
  | method {a b : Value} (bases : alike a b) (name : String) :
      Callee.Alike alike (.method a name) (.method b name)

inductive Completion.Alike (alike : Value → Value → Prop) : Completion → Completion → Prop
  | normal : Completion.Alike alike .normal .normal
  | broke : Completion.Alike alike .broke .broke
  | continued : Completion.Alike alike .continued .continued
  | returned {a b : Value} (values : alike a b) :
      Completion.Alike alike (.returned a) (.returned b)

/-- Two rounds of loops that both end the loop, or both go on. -/
inductive RoundAlike {α : Type} (related : α → α → Prop) : ForInStep α → ForInStep α → Prop
  | done {a b : α} (states : related a b) : RoundAlike related (.done a) (.done b)
  | yield {a b : α} (states : related a b) : RoundAlike related (.yield a) (.yield b)

/-- A likeness of values that goes with how values are put together, and that a script cannot get
behind by a test. -/
structure Likeness (alike : Value → Value → Prop) : Prop where
  null : alike .null .null
  bool (flag : Bool) : alike (.bool flag) (.bool flag)
  list {a b : List Value} (items : List.Forall₂ alike a b) : alike (.list a) (.list b)
  tuple {a b : List Value} (items : List.Forall₂ alike a b) : alike (.tuple a) (.tuple b)
  set {a b : List Value} (members : List.Forall₂ alike a b) : alike (.set false a) (.set false b)
  dict {a b : List (Value × Value)} (entries : List.Forall₂ (EntryAlike alike) a b) :
    alike (.dict a) (.dict b)
  slice {a b c a' b' c' : Value} (lower : alike a a') (upper : alike b b') (step : alike c c') :
    alike (.slice a b c) (.slice a' b' c')
  truthy {a b : Value} (values : alike a b) : a.truthy = b.truthy
  hasElements {a b : Value} (values : alike a b) : hasElements a = hasElements b
  kindName {a b : Value} (values : alike a b) : a.kindName = b.kindName

theorem Likeness.sink {alike : Value → Value → Prop} (likeness : Likeness alike) {a b : Sink}
    (sinks : Sink.Alike alike a b) : alike a.value b.value := by
  cases sinks with
  | list items => exact likeness.list (List.rel_reverse items)
  | set members => exact likeness.set members
  | dict entries => exact likeness.dict entries

theorem eq_of_forall₂_eq {α : Type} {a b : List α} (related : List.Forall₂ Eq a b) : a = b := by
  rwa [List.forall₂_eq_eq_eq] at related

theorem eq_of_forall₂_namedAlike {named others : List (String × Value)}
    (related : List.Forall₂ (NamedAlike Eq) named others) : named = others :=
  eq_of_forall₂_eq (related.imp fun _ _ pair => Prod.ext pair.1 pair.2)

theorem Sink.eq_of_alike {a b : Sink} (sinks : Sink.Alike Eq a b) : a = b := by
  cases sinks with
  | list items => rw [eq_of_forall₂_eq items]
  | set members => rw [eq_of_forall₂_eq members]
  | dict entries => rw [eq_of_forall₂_eq (entries.imp fun _ _ pair => Prod.ext pair.1 pair.2)]

theorem Callee.eq_of_alike {a b : Callee} (callees : Callee.Alike Eq a b) : a = b := by
  cases callees with
  | function f => rfl
  | method bases name => rw [bases]

theorem Sink.alike_refl (sink : Sink) : Sink.Alike Eq sink sink := by
  cases sink with
  | list items => exact .list (List.forall₂_refl _)
  | set members => exact .set (List.forall₂_refl _)
  | dict entries => exact .dict (List.forall₂_same.2 fun entry _ => ⟨rfl, rfl⟩)

theorem Callee.alike_refl (callee : Callee) : Callee.Alike Eq callee callee := by
  cases callee with
  | function f => exact .function f
  | method base name => exact .method rfl name

/-- Equality is a likeness. -/
theorem likeness_eq : Likeness Eq where
  null := rfl
  bool _ := rfl
  list items := by rw [eq_of_forall₂_eq items]
  tuple items := by rw [eq_of_forall₂_eq items]
  set members := by rw [eq_of_forall₂_eq members]
  dict entries := by rw [eq_of_forall₂_eq (entries.imp fun _ _ pair => Prod.ext pair.1 pair.2)]
  slice lower upper step := by rw [lower, upper, step]
  truthy values := by rw [values]
  hasElements values := by rw [values]
  kindName values := by rw [values]

/-- Under equality every literal may be spelled out. -/
theorem likeness_literal_eq {literal : Literal} (_ : True) : literal.toValue = literal.toValue :=
  rfl

/-! ## Simulations -/

/-- A way in which two runs, each within a budget, stay together. -/
structure Simulation (left right : Budget) where
  alike : Value → Value → Prop
  likeness : Likeness alike
  /-- The literals that the script may spell out. -/
  admits : Literal → Prop
  literal {literal : Literal} : admits literal → alike literal.toValue literal.toValue
  /-- Two parts of runs end alike; on success their results are related. -/
  Together : {α : Type} → (related : α → α → Prop) → Eval α → Eval α → Prop
  /-- Two parts of runs are together, and each takes a step. -/
  Paying : {α : Type} → (related : α → α → Prop) → Eval α → Eval α → Prop
  together {α : Type} {related : α → α → Prop} {a b : Eval α} :
    Paying related a b → Together related a b
  pure {α : Type} {related : α → α → Prop} {a b : α} :
    related a b → Together related (pure a) (pure b)
  bind {α β : Type} {related : α → α → Prop} {final : β → β → Prop} {a b : Eval α}
    {next other : α → Eval β} : Together related a b →
    (∀ x y, related x y → Together final (next x) (other y)) →
    Together final (a >>= next) (b >>= other)
  payingBind {α β : Type} {related : α → α → Prop} {final : β → β → Prop} {a b : Eval α}
    {next other : α → Eval β} : Paying related a b →
    (∀ x y, related x y → Together final (next x) (other y)) →
    Paying final (a >>= next) (b >>= other)
  tick : Paying Eq left.tick right.tick
  within {α : Type} {related : α → α → Prop} {a b : Eval α} :
    Together related a b → Together related (Eval.within a) (Eval.within b)
  loop {α : Type} {related : α → α → Prop} {step other : α → Eval (ForInStep α)} {a b : α} :
    (∀ x y, related x y → Paying (RoundAlike related) (step x) (other y)) → related a b →
    Together related (Eval.loop step left.rounds a) (Eval.loop other right.rounds b)
  forEach {α : Type} {related : α → α → Prop} {body other : Value → α → Eval (ForInStep α)}
    {source source' : Value} {a b : α} : alike source source' → related a b →
    (∀ v w, alike v w → ∀ x y, related x y →
      Paying (RoundAlike related) (body v x) (other w y)) →
    Together related (left.forEach source a body) (right.forEach source' b other)
  lookup {name : String} : isPrivate name = false → Together alike (lookup name) (lookup name)
  bindName {name : String} {a b : Value} : isPrivate name = false → alike a b →
    Together Eq (Eval.bindName name a) (Eval.bindName name b)
  handle {a b : Value} : alike a b → Together Eq (Eval.handle a) (Eval.handle b)
  argument {name : String} : isPrivate name = false →
    Together Eq (Eval.record (.argument name)) (Eval.record (.argument name))
  /-- What a part asks for in vain. Loop control that is left over is refused outside all parts. -/
  refuse {α : Type} {related : α → α → Prop} (refusal : Refusal) : refusal ≠ .looseLoopControl →
    Together related (Eval.refuse refusal) (Eval.refuse refusal)
  items {a b : Value} : alike a b →
    Together (List.Forall₂ alike) (Eval.ofDraw a.items) (Eval.ofDraw b.items)
  checkSize {a b : Value} : alike a b → Together alike (left.checkSize a) (right.checkSize b)
  applyUnary {operator : UnaryOperator} {a b : Value} : operator ≠ .invert → alike a b →
    Together alike (applyUnary operator a) (applyUnary operator b)
  operate {operator : BinaryOperator} {a b a' b' : Value} : operator.isOffered = true →
    alike a a' → alike b b' →
    Together alike (operate left operator a b) (operate right operator a' b')
  /-- What is left open by the values of two operands is settled alike. -/
  compareValues (e e' : Expression) (operator : Comparison) {a b a' b' : Value} :
    alike a a' → alike b b' →
    Together Eq (compareValues (left.isOne e e') operator a b)
      (compareValues (right.isOne e e') operator a' b')
  readAttribute {name : String} {a b : Value} : isPrivate name = false → alike a b →
    Together alike (readAttribute a name) (readAttribute b name)
  element {a b a' b' : Value} : alike a a' → alike b b' →
    Together alike (Eval.ofExcept (a.element b)) (Eval.ofExcept (a'.element b'))
  methodOf {name : String} {a b : Value} : isPrivate name = false → alike a b →
    Together (Callee.Alike alike) (methodOf a name) (methodOf b name)
  functionOf {a b : Value} : alike a b →
    Together (Callee.Alike alike) (functionOf a) (functionOf b)
  prepare {a b : Callee} {values others : List Value} {named otherNamed : List (String × Value)} :
    Callee.Alike alike a b → List.Forall₂ alike values others →
    List.Forall₂ (NamedAlike alike) named otherNamed →
    Together (List.Forall₂ alike) (prepare left a values named) (prepare right b others otherNamed)
  carryOut {a b : Callee} {values others : List Value} {named otherNamed : List (String × Value)} :
    Callee.Alike alike a b → List.Forall₂ alike values others →
    List.Forall₂ (NamedAlike alike) named otherNamed →
    Together alike (carryOut left a values named) (carryOut right b others otherNamed)
  insert {a b : Sink} {v w : Value} : Sink.Alike alike a b → alike v w →
    Together (Sink.Alike alike) (Eval.ofExcept (a.insert v)) (Eval.ofExcept (b.insert w))
  store {a b : Sink} {key key' v w : Value} : Sink.Alike alike a b → alike key key' →
    alike v w →
    Together (Sink.Alike alike) (Eval.ofExcept (a.store key v)) (Eval.ofExcept (b.store key' w))
  checkSink {a b : Sink} : Sink.Alike alike a b →
    Together (Sink.Alike alike) (checkSink left a) (checkSink right b)

namespace Simulation

variable {left right : Budget} (sim : Simulation left right)

/-- Steps that follow a first one. -/
theorem afterTick {α : Type} {related : α → α → Prop} {a b : Eval α}
    (rest : sim.Together related a b) :
    sim.Paying related (do left.tick; a) (do right.tick; b) :=
  sim.payingBind sim.tick fun _ _ _ => rest

/-- A choice by a value goes the same way on both sides. -/
theorem choice {α : Type} {related : α → α → Prop} {a b c d : Eval α} {first second : Bool}
    (same : first = second) (whenTrue : sim.Together related a b)
    (whenFalse : sim.Together related c d) :
    sim.Together related (if first then a else c) (if second then b else d) := by
  subst same
  cases first with
  | true => exact whenTrue
  | false => exact whenFalse

/-! ## Targets -/

theorem bindAll {targets : List Expression} (names : targets.all Expression.isName = true)
    (accepted : ∀ target ∈ targets, target.Accepted sim.admits) {values others : List Value}
    (related : List.Forall₂ sim.alike values others) :
    sim.Together Eq (bindAll targets values) (bindAll targets others) := by
  induction related generalizing targets with
  | nil =>
      cases targets with
      | nil => exact sim.pure rfl
      | cons target rest => cases target <;> exact sim.pure rfl
  | cons value _ inductionHypothesis =>
      cases targets with
      | nil => exact sim.pure rfl
      | cons target rest =>
          obtain ⟨isName, names⟩ := Bool.and_eq_true_iff.1 names
          obtain ⟨first, others⟩ := List.forall_mem_cons.1 accepted
          cases target with
          | name line identifier use =>
              exact sim.bind (sim.bindName first.isPrivate_name value) fun _ _ _ =>
                inductionHypothesis names others
          | _ => cases isName

/-- A target binds a value or its items to names that scripts may use. -/
theorem assign {target : Expression} (isTarget : target.isTarget = true)
    (accepted : target.Accepted sim.admits) {a b : Value} (values : sim.alike a b) :
    sim.Together Eq (assign target a) (assign target b) := by
  cases target with
  | name line identifier use => exact sim.bindName accepted.isPrivate_name values
  | tuple line elements use =>
      refine sim.bind (sim.handle values) fun _ _ _ => ?_
      refine sim.bind (sim.items values) fun items others related => ?_
      rw [related.length_eq]
      split
      · refine sim.bindAll isTarget (fun element member => accepted.part ?_) related
        exact List.mem_append_left _ (List.mem_map_of_mem member)
      · exact sim.refuse _ nofun
  | _ => cases isTarget

theorem assignAll {targets : List Expression}
    (areTargets : ∀ target ∈ targets, target.isTarget = true)
    (accepted : ∀ target ∈ targets, target.Accepted sim.admits) {a b : Value} (values : sim.alike a b) :
    sim.Together Eq (targets.forM fun target => Script.assign target a)
      (targets.forM fun target => Script.assign target b) := by
  induction targets with
  | nil => exact sim.pure rfl
  | cons target rest inductionHypothesis =>
      obtain ⟨isTarget, areTargets⟩ := List.forall_mem_cons.1 areTargets
      obtain ⟨first, accepted⟩ := List.forall_mem_cons.1 accepted
      exact sim.bind (sim.assign isTarget first values) fun _ _ _ =>
        inductionHypothesis areTargets accepted

/-! ## Named arguments -/

theorem named_lookup {named others : List (String × Value)} (name : String)
    (related : List.Forall₂ (NamedAlike sim.alike) named others) :
    (named.lookup name).isSome = (others.lookup name).isSome := by
  induction related with
  | nil => rfl
  | @cons first second _ _ here _ inductionHypothesis =>
      obtain ⟨key, value⟩ := first
      obtain ⟨key', value'⟩ := second
      obtain ⟨rfl, _⟩ := here
      rw [List.lookup_cons, List.lookup_cons]
      cases name == key with
      | true => rfl
      | false => exact inductionHypothesis

/-- A further named argument takes the place of an earlier one, or comes last. -/
theorem named_add {named others : List (String × Value)} (name : String) {a b : Value}
    (related : List.Forall₂ (NamedAlike sim.alike) named others) (values : sim.alike a b) :
    List.Forall₂ (NamedAlike sim.alike)
      (if (named.lookup name).isSome then
          named.map fun argument => if argument.1 == name then (name, a) else argument
        else named ++ [(name, a)])
      (if (others.lookup name).isSome then
          others.map fun argument => if argument.1 == name then (name, b) else argument
        else others ++ [(name, b)]) := by
  rw [sim.named_lookup name related]
  split
  · rw [List.forall₂_map_left_iff, List.forall₂_map_right_iff]
    refine related.imp fun first second here => ?_
    rw [here.1]
    split
    · exact ⟨rfl, values⟩
    · exact here
  · exact List.rel_append related (.cons ⟨rfl, values⟩ .nil)

/-! ## Calls -/

theorem handleAll {values others : List Value} (related : List.Forall₂ sim.alike values others) :
    sim.Together Eq (values.forM Eval.handle) (others.forM Eval.handle) := by
  induction related with
  | nil => exact sim.pure rfl
  | cons first _ inductionHypothesis => exact sim.bind (sim.handle first) fun _ _ _ => inductionHypothesis

theorem bases {a b : Callee} (callees : Callee.Alike sim.alike a b) :
    List.Forall₂ sim.alike a.bases b.bases := by
  cases callees with
  | function f => exact .nil
  | method bases name => exact .cons bases .nil

theorem call {a b : Callee} {values others : List Value} {named otherNamed : List (String × Value)}
    (callees : Callee.Alike sim.alike a b) (positional : List.Forall₂ sim.alike values others)
    (given : List.Forall₂ (NamedAlike sim.alike) named otherNamed) :
    sim.Together sim.alike (call left a values named) (call right b others otherNamed) := by
  have namedValues : List.Forall₂ sim.alike (named.map Prod.snd) (otherNamed.map Prod.snd) := by
    rw [List.forall₂_map_left_iff, List.forall₂_map_right_iff]
    exact given.imp fun _ _ pair => pair.2
  have all := List.rel_append (List.rel_append (sim.bases callees) positional) namedValues
  refine sim.bind (sim.handleAll all) fun _ _ _ => ?_
  refine sim.bind (sim.prepare callees positional given) fun _ _ passed => ?_
  exact sim.bind (sim.handleAll passed) fun _ _ _ => sim.carryOut callees passed given

end Simulation

/-! ## Expressions -/

mutual

/-- The values of an accepted expression in two runs that stay together. -/
theorem Simulation.eval {left right : Budget} (sim : Simulation left right) :
    (e : Expression) → e.Accepted sim.admits → sim.Paying sim.alike (eval left e) (eval right e)
  | .constant line literal, accepted =>
      sim.afterTick (sim.pure (sim.literal (accepted.spelled line literal rfl)))
  | .name line identifier use, accepted => sim.afterTick (sim.lookup accepted.isPrivate_name)
  | .boolean line operator operands, accepted =>
      sim.afterTick <| sim.evalBoolean operator operands fun operand member =>
        accepted.part (List.mem_cons_of_mem _ (List.mem_map_of_mem member))
  | .unary line operator operand, accepted =>
      have part : operand.Accepted sim.admits := accepted.part (by simp [Node.belowExpression])
      sim.afterTick <| sim.bind (sim.together (sim.eval operand part)) fun _ _ values =>
        sim.applyUnary accepted.operator_ne_invert values
  | .binary line first operator second, accepted =>
      have firstPart : first.Accepted sim.admits := accepted.part (by simp [Node.belowExpression])
      have secondPart : second.Accepted sim.admits := accepted.part (by simp [Node.belowExpression])
      sim.afterTick <| sim.bind (sim.together (sim.eval first firstPart)) fun _ _ values =>
        sim.bind (sim.together (sim.eval second secondPart)) fun _ _ others =>
          sim.operate accepted.isOffered values others
  | .compare line first operators operands, accepted => by
      have firstPart : first.Accepted sim.admits := accepted.part (by simp [Node.belowExpression])
      have parts : ∀ operand ∈ operands, operand.Accepted sim.admits := fun operand member =>
        accepted.part (by simp [Node.belowExpression, member])
      refine sim.afterTick ?_
      refine sim.bind (sim.together (sim.eval first firstPart)) fun _ _ values => ?_
      refine sim.bind (sim.evalChain first values operators operands parts) fun found other same => ?_
      subst same
      exact sim.pure (sim.likeness.bool _)
  | .conditional line test body orElse, accepted =>
      have testPart : test.Accepted sim.admits := accepted.part (by simp [Node.belowExpression])
      have bodyPart : body.Accepted sim.admits := accepted.part (by simp [Node.belowExpression])
      have elsePart : orElse.Accepted sim.admits := accepted.part (by simp [Node.belowExpression])
      sim.afterTick <| sim.bind (sim.together (sim.eval test testPart)) fun _ _ values =>
        sim.choice (sim.likeness.truthy values) (sim.together (sim.eval body bodyPart))
          (sim.together (sim.eval orElse elsePart))
  | .list line elements use, accepted =>
      have parts : ∀ element ∈ elements, element.Accepted sim.admits := fun element member =>
        accepted.part (List.mem_append_left _ (List.mem_map_of_mem member))
      sim.afterTick <| sim.bind (sim.evalAll elements parts) fun _ _ items =>
        sim.checkSize (sim.likeness.list items)
  | .tuple line elements use, accepted =>
      have parts : ∀ element ∈ elements, element.Accepted sim.admits := fun element member =>
        accepted.part (List.mem_append_left _ (List.mem_map_of_mem member))
      sim.afterTick <| sim.bind (sim.evalAll elements parts) fun _ _ items =>
        sim.checkSize (sim.likeness.tuple items)
  | .set line elements, accepted =>
      have parts : ∀ element ∈ elements, element.Accepted sim.admits := fun element member =>
        accepted.part (List.mem_map_of_mem member)
      sim.afterTick <| sim.bind (sim.evalMembers (.set .nil) elements parts) fun _ _ sinks =>
        sim.checkSize (sim.likeness.sink sinks)
  | .dict line entries, accepted =>
      sim.afterTick <|
        sim.bind (sim.evalEntries (.dict .nil) entries fun _ member => accepted.entry member)
          fun _ _ sinks => sim.checkSize (sim.likeness.sink sinks)
  | .attribute line base field use, accepted =>
      have part : base.Accepted sim.admits := accepted.part (by simp [Node.belowExpression])
      sim.afterTick <| sim.bind (sim.together (sim.eval base part)) fun _ _ values =>
        sim.readAttribute accepted.isPrivate_attribute values
  | .subscript line base index use, accepted => by
      have basePart : base.Accepted sim.admits := accepted.part (by simp [Node.belowExpression])
      have indexPart : index.Accepted sim.admits := accepted.part (by simp [Node.belowExpression])
      refine sim.afterTick ?_
      refine sim.bind (sim.together (sim.eval base basePart)) fun first second values => ?_
      refine sim.choice (by rw [sim.likeness.hasElements values]) ?_ ?_
      · rw [sim.likeness.kindName values]
        exact sim.refuse _ nofun
      · refine sim.bind (sim.together (sim.eval index indexPart)) fun _ _ places => ?_
        exact sim.bind (sim.element values places) fun _ _ found => sim.checkSize found
  | .slice line lower upper step, accepted => by
      have lowerPart : ∀ e ∈ lower, e.Accepted sim.admits := Expression.Accepted.ofOption fun _ member =>
        accepted.part (List.mem_append_left _ (List.mem_append_left _ member))
      have upperPart : ∀ e ∈ upper, e.Accepted sim.admits := Expression.Accepted.ofOption fun _ member =>
        accepted.part (List.mem_append_left _ (List.mem_append_right _ member))
      have stepPart : ∀ e ∈ step, e.Accepted sim.admits := Expression.Accepted.ofOption fun _ member =>
        accepted.part (List.mem_append_right _ member)
      refine sim.afterTick ?_
      refine sim.bind (sim.evalOption lower lowerPart) fun _ _ first => ?_
      refine sim.bind (sim.evalOption upper upperPart) fun _ _ last => ?_
      exact sim.bind (sim.evalOption step stepPart) fun _ _ stride =>
        sim.pure (sim.likeness.slice first last stride)
  | .call line function arguments keywords, accepted => by
      have functionPart : function.Accepted sim.admits := accepted.part (by simp [Node.belowExpression])
      have argumentParts : ∀ e ∈ arguments, e.Accepted sim.admits := fun e member =>
        accepted.part (by simp [Node.belowExpression, member])
      have keywordParts : ∀ k ∈ keywords, (Node.keyword k).Accepted sim.admits := fun k member =>
        accepted.part (by simp [Node.belowExpression, member])
      have called {a b : Eval Callee} (callees : sim.Together (Callee.Alike sim.alike) a b) :
          sim.Together sim.alike
            (do
              let callee ← a
              let values ← Script.evalAll left arguments
              Script.call left callee values (← Script.evalKeywords left [] keywords))
            (do
              let callee ← b
              let values ← Script.evalAll right arguments
              Script.call right callee values (← Script.evalKeywords right [] keywords)) :=
        sim.bind callees fun _ _ callees =>
          sim.bind (sim.evalAll arguments argumentParts) fun _ _ values =>
            sim.bind (sim.evalKeywords .nil keywords keywordParts) fun _ _ named =>
              sim.call callees values named
      cases function with
      | «attribute» line base name use =>
          have part : base.Accepted sim.admits := functionPart.part (by simp [Node.belowExpression])
          have callees := sim.bind (sim.together (sim.eval base part)) fun _ _ values =>
            sim.methodOf functionPart.isPrivate_attribute values
          refine sim.afterTick ?_
          simpa only [bind_assoc] using called callees
      | _ =>
          have callees := sim.bind (sim.together (sim.eval _ functionPart)) fun _ _ values =>
            sim.functionOf values
          refine sim.afterTick ?_
          simpa only [bind_assoc] using called callees
  | .comprehension line collector element clauses, accepted => by
      have part : element.Accepted sim.admits := accepted.part (by simp [Node.belowExpression])
      have clauseParts : ∀ c ∈ clauses, (Node.clause c).Accepted sim.admits := fun c member =>
        accepted.part (by simp [Node.belowExpression, member])
      have start : Sink.Alike sim.alike (Sink.empty collector) (Sink.empty collector) := by
        cases collector with
        | list => exact .list .nil
        | set => exact .set .nil
        | generator => exact .list .nil
      refine sim.afterTick ?_
      refine sim.bind (sim.comprehend clauses clauseParts (fun _ _ sinks => ?_) start)
        fun _ _ sinks => sim.pure (sim.likeness.sink sinks)
      refine sim.bind (sim.together (sim.eval element part)) fun _ _ items => ?_
      exact sim.bind (sim.insert sinks items) fun _ _ grown => sim.checkSink grown
  | .dictComprehension line key value clauses, accepted => by
      have keyPart : key.Accepted sim.admits := accepted.part (by simp [Node.belowExpression])
      have valuePart : value.Accepted sim.admits := accepted.part (by simp [Node.belowExpression])
      have clauseParts : ∀ c ∈ clauses, (Node.clause c).Accepted sim.admits := fun c member =>
        accepted.part (by simp [Node.belowExpression, member])
      refine sim.afterTick ?_
      refine sim.bind (sim.comprehend clauses clauseParts (fun _ _ sinks => ?_) (.dict .nil))
        fun _ _ sinks => sim.pure (sim.likeness.sink sinks)
      refine sim.bind (sim.together (sim.eval key keyPart)) fun _ _ keys => ?_
      refine sim.bind (sim.together (sim.eval value valuePart)) fun _ _ items => ?_
      exact sim.bind (sim.store sinks keys items) fun _ _ grown => sim.checkSink grown
  | .starred line operand, accepted => absurd accepted (Expression.not_accepted_starred _ _)
  | .foreign line construct, accepted => absurd accepted (Expression.not_accepted_foreign _ _)

theorem Simulation.evalAll {left right : Budget} (sim : Simulation left right) :
    (es : List Expression) → (∀ e ∈ es, e.Accepted sim.admits) →
      sim.Together (List.Forall₂ sim.alike) (evalAll left es) (evalAll right es)
  | [], _ => sim.pure .nil
  | e :: rest, accepted =>
      sim.bind (sim.together (sim.eval e (accepted e (List.mem_cons_self ..)))) fun _ _ first =>
        sim.bind (sim.evalAll rest fun e member => accepted e (List.mem_cons_of_mem _ member))
          fun _ _ others => sim.pure (.cons first others)

theorem Simulation.evalOption {left right : Budget} (sim : Simulation left right) :
    (e? : Option Expression) → (∀ e ∈ e?, e.Accepted sim.admits) →
      sim.Together sim.alike (evalOption left e?) (evalOption right e?)
  | none, _ => sim.pure sim.likeness.null
  | some e, accepted => sim.together (sim.eval e (accepted e rfl))

theorem Simulation.evalMembers {left right : Budget} (sim : Simulation left right) {a b : Sink}
    (sinks : Sink.Alike sim.alike a b) :
    (es : List Expression) → (∀ e ∈ es, e.Accepted sim.admits) →
      sim.Together (Sink.Alike sim.alike) (evalMembers left a es) (evalMembers right b es)
  | [], _ => sim.pure sinks
  | e :: rest, accepted =>
      sim.bind (sim.together (sim.eval e (accepted e (List.mem_cons_self ..)))) fun _ _ member =>
        sim.bind (sim.insert sinks member) fun _ _ grown =>
          sim.evalMembers grown rest fun e member => accepted e (List.mem_cons_of_mem _ member)

theorem Simulation.evalEntries {left right : Budget} (sim : Simulation left right) {a b : Sink}
    (sinks : Sink.Alike sim.alike a b) :
    (entries : List Entry) →
      (∀ entry ∈ entries, ∃ key,
        entry.key = some key ∧ key.Accepted sim.admits ∧ entry.value.Accepted sim.admits) →
      sim.Together (Sink.Alike sim.alike) (evalEntries left a entries)
        (evalEntries right b entries)
  | [], _ => sim.pure sinks
  | .mk key value :: rest, accepted => by
      obtain ⟨found, isFound, keyPart, valuePart⟩ := accepted _ (List.mem_cons_self ..)
      have keyParts : ∀ e ∈ key, e.Accepted sim.admits := fun e member =>
        Option.some.inj (isFound.symm.trans member) ▸ keyPart
      refine sim.bind (sim.evalOption key keyParts) fun _ _ keys => ?_
      refine sim.bind (sim.together (sim.eval value valuePart)) fun _ _ items => ?_
      exact sim.bind (sim.store sinks keys items) fun _ _ grown =>
        sim.evalEntries grown rest fun entry member => accepted entry (List.mem_cons_of_mem _ member)

theorem Simulation.evalKeywords {left right : Budget} (sim : Simulation left right)
    {named others : List (String × Value)}
    (related : List.Forall₂ (NamedAlike sim.alike) named others) :
    (keywords : List Keyword) → (∀ k ∈ keywords, (Node.keyword k).Accepted sim.admits) →
      sim.Together (List.Forall₂ (NamedAlike sim.alike)) (evalKeywords left named keywords)
        (evalKeywords right others keywords)
  | [], _ => sim.pure related
  | .mk line name e :: rest, accepted => by
      obtain ⟨found, isFound, isPublic, part⟩ :=
        Keyword.exists_name_of_accepted (accepted _ (List.mem_cons_self ..))
      cases isFound
      refine sim.bind (sim.together (sim.eval e part)) fun _ _ values => ?_
      refine sim.bind (sim.argument isPublic) fun _ _ _ => ?_
      exact sim.evalKeywords (sim.named_add found related values) rest fun k member =>
        accepted k (List.mem_cons_of_mem _ member)

theorem Simulation.evalBoolean {left right : Budget} (sim : Simulation left right)
    (operator : BoolOperator) :
    (es : List Expression) → (∀ e ∈ es, e.Accepted sim.admits) →
      sim.Together sim.alike (evalBoolean left operator es) (evalBoolean right operator es)
  | [], _ => sim.pure (sim.likeness.bool _)
  | [last], accepted => sim.together (sim.eval last (accepted last (List.mem_cons_self ..)))
  | e :: next :: rest, accepted =>
      sim.bind (sim.together (sim.eval e (accepted e (List.mem_cons_self ..)))) fun _ _ values =>
        sim.choice (by rw [sim.likeness.truthy values])
          (sim.evalBoolean operator (next :: rest) fun e member =>
            accepted e (List.mem_cons_of_mem _ member))
          (sim.pure values)

theorem Simulation.evalChain {left right : Budget} (sim : Simulation left right)
    (operand : Expression) {a b : Value} (values : sim.alike a b) :
    (operators : List Comparison) → (es : List Expression) → (∀ e ∈ es, e.Accepted sim.admits) →
      sim.Together Eq (evalChain left operand a operators es)
        (evalChain right operand b operators es)
  | [], [], _ => sim.pure rfl
  | [], _ :: _, _ => sim.pure rfl
  | _ :: _, [], _ => sim.pure rfl
  | operator :: operators, e :: rest, accepted =>
      sim.bind (sim.together (sim.eval e (accepted e (List.mem_cons_self ..)))) fun _ _ others =>
        sim.bind (sim.compareValues operand e operator values others) fun _ _ same =>
          sim.choice same
            (sim.evalChain e others operators rest fun e member =>
              accepted e (List.mem_cons_of_mem _ member))
            (sim.pure rfl)

theorem Simulation.evalConditions {left right : Budget} (sim : Simulation left right) :
    (es : List Expression) → (∀ e ∈ es, e.Accepted sim.admits) →
      sim.Together Eq (evalConditions left es) (evalConditions right es)
  | [], _ => sim.pure rfl
  | e :: rest, accepted =>
      sim.bind (sim.together (sim.eval e (accepted e (List.mem_cons_self ..)))) fun _ _ values =>
        sim.choice (sim.likeness.truthy values)
          (sim.evalConditions rest fun e member => accepted e (List.mem_cons_of_mem _ member))
          (sim.pure rfl)

/-- Two walks through the clauses of a comprehension emit alike. -/
theorem Simulation.comprehend {left right : Budget} (sim : Simulation left right) :
    (clauses : List Clause) → (∀ c ∈ clauses, (Node.clause c).Accepted sim.admits) →
      {emit other : Sink → Eval Sink} →
      (∀ a b, Sink.Alike sim.alike a b → sim.Together (Sink.Alike sim.alike) (emit a) (other b)) →
      {a b : Sink} → Sink.Alike sim.alike a b →
      sim.Together (Sink.Alike sim.alike) (comprehend left clauses emit a)
        (comprehend right clauses other b)
  | [], _, _, _, emits, _, _, sinks => emits _ _ sinks
  | .mk target source conditions isAsync :: rest, accepted, _, _, emits, _, _, sinks => by
      have here := accepted _ (List.mem_cons_self ..)
      have isTarget := Clause.isTarget_of_accepted here
      have targetPart : target.Accepted sim.admits := here.child (by simp [Node.children, Clause.target])
      have sourcePart : source.Accepted sim.admits := here.child (by simp [Node.children, Clause.source])
      have conditionParts : ∀ e ∈ conditions, e.Accepted sim.admits := fun e member =>
        here.child (by simp [Node.children, Clause.conditions, member])
      have others : ∀ c ∈ rest, (Node.clause c).Accepted sim.admits := fun c member =>
        accepted c (List.mem_cons_of_mem _ member)
      refine sim.bind (sim.together (sim.eval source sourcePart)) fun _ _ sources => ?_
      refine sim.forEach sources sinks fun _ _ items _ _ sinks => ?_
      refine sim.afterTick (sim.within ?_)
      refine sim.bind (sim.assign isTarget targetPart items) fun _ _ _ => ?_
      refine sim.bind (sim.evalConditions conditions conditionParts) fun _ _ same => ?_
      refine sim.choice same ?_ (sim.pure (.yield sinks))
      exact sim.bind (sim.comprehend rest others emits sinks) fun _ _ grown =>
        sim.pure (.yield grown)

end

/-! ## Statements -/

theorem roundAlike_afterRound {alike : Value → Value → Prop} {a b : Completion}
    (completions : Completion.Alike alike a b) :
    RoundAlike (Completion.Alike alike) (afterRound a) (afterRound b) := by
  cases completions with
  | normal => exact .yield .normal
  | continued => exact .yield .normal
  | broke => exact .done .normal
  | returned values => exact .done (.returned values)

mutual

/-- An accepted statement ends alike in two runs that stay together. -/
theorem Simulation.exec {left right : Budget} (sim : Simulation left right) :
    (s : Statement) → s.Accepted sim.admits →
      sim.Paying (Completion.Alike sim.alike) (exec left s) (exec right s)
  | .expression line value, accepted =>
      have part : value.Accepted sim.admits := accepted.part (by simp [Node.belowStatement])
      sim.afterTick <| sim.bind (sim.together (sim.eval value part)) fun _ _ _ => sim.pure .normal
  | .assign line targets value, accepted => by
      have part : value.Accepted sim.admits := accepted.part (by simp [Node.belowStatement])
      have targetParts : ∀ target ∈ targets, target.Accepted sim.admits := fun target member =>
        accepted.part (by simp [Node.belowStatement, member])
      refine sim.afterTick ?_
      refine sim.bind (sim.together (sim.eval value part)) fun _ _ values => ?_
      exact sim.bind (sim.assignAll (fun _ member => accepted.isTarget member) targetParts values)
        fun _ _ _ => sim.pure .normal
  | .augmentedAssign line target operator value, accepted => by
      have isName := accepted.isName
      have targetPart : target.Accepted sim.admits := accepted.part (by simp [Node.belowStatement])
      have part : value.Accepted sim.admits := accepted.part (by simp [Node.belowStatement])
      cases target with
      | name targetLine identifier use =>
          refine sim.afterTick ?_
          refine sim.bind (sim.lookup targetPart.isPrivate_name) fun _ _ current => ?_
          refine sim.bind (sim.together (sim.eval value part)) fun _ _ operands => ?_
          refine sim.bind (sim.operate accepted.isOffered current operands) fun _ _ results => ?_
          exact sim.bind (sim.bindName targetPart.isPrivate_name results) fun _ _ _ =>
            sim.pure .normal
      | _ => cases isName
  | .branch line test body orElse, accepted =>
      have testPart : test.Accepted sim.admits := accepted.part (by simp [Node.belowStatement])
      have bodyParts : ∀ s ∈ body, s.Accepted sim.admits := fun s member =>
        accepted.part (by simp [Node.belowStatement, member])
      have elseParts : ∀ s ∈ orElse, s.Accepted sim.admits := fun s member =>
        accepted.part (by simp [Node.belowStatement, member])
      sim.afterTick <| sim.bind (sim.together (sim.eval test testPart)) fun _ _ values =>
        sim.choice (sim.likeness.truthy values) (sim.execBlock body bodyParts)
          (sim.execBlock orElse elseParts)
  | .forLoop line target source body orElse, accepted => by
      have targetPart : target.Accepted sim.admits := accepted.part (by simp [Node.belowStatement])
      have sourcePart : source.Accepted sim.admits := accepted.part (by simp [Node.belowStatement])
      have bodyParts : ∀ s ∈ body, s.Accepted sim.admits := fun s member =>
        accepted.part (by simp [Node.belowStatement, member])
      refine sim.afterTick ?_
      refine sim.bind (sim.together (sim.eval source sourcePart)) fun _ _ sources => ?_
      refine sim.forEach sources .normal fun _ _ items _ _ _ => sim.afterTick ?_
      refine sim.bind (sim.assign accepted.isTarget_forLoop targetPart items) fun _ _ _ => ?_
      exact sim.bind (sim.execBlock body bodyParts) fun _ _ completions =>
        sim.pure (roundAlike_afterRound completions)
  | .whileLoop line test body orElse, accepted => by
      have testPart : test.Accepted sim.admits := accepted.part (by simp [Node.belowStatement])
      have bodyParts : ∀ s ∈ body, s.Accepted sim.admits := fun s member =>
        accepted.part (by simp [Node.belowStatement, member])
      refine sim.afterTick (sim.loop (fun _ _ _ => ?_) .normal)
      -- The test takes the step that pays for the round.
      refine sim.payingBind (sim.eval test testPart) fun _ _ values => ?_
      refine sim.choice (sim.likeness.truthy values) ?_ (sim.pure (.done .normal))
      exact sim.bind (sim.execBlock body bodyParts) fun _ _ completions =>
        sim.pure (roundAlike_afterRound completions)
  | .breakLoop line, _ => sim.afterTick (sim.pure .broke)
  | .continueLoop line, _ => sim.afterTick (sim.pure .continued)
  | .pass line, _ => sim.afterTick (sim.pure .normal)
  | .returnValue line value, accepted =>
      have parts : ∀ e ∈ value, e.Accepted sim.admits := Expression.Accepted.ofOption fun _ member =>
        accepted.part member
      sim.afterTick <| sim.bind (sim.evalOption value parts) fun _ _ values =>
        sim.pure (.returned values)
  | .foreign line construct, accepted => absurd accepted (Statement.not_accepted_foreign _ _)

theorem Simulation.execBlock {left right : Budget} (sim : Simulation left right) :
    (block : List Statement) → (∀ s ∈ block, s.Accepted sim.admits) →
      sim.Together (Completion.Alike sim.alike) (execBlock left block) (execBlock right block)
  | [], _ => sim.pure .normal
  | s :: rest, accepted => by
      have first := accepted s (List.mem_cons_self ..)
      have others : ∀ s ∈ rest, s.Accepted sim.admits := fun s member =>
        accepted s (List.mem_cons_of_mem _ member)
      refine sim.bind (sim.together (sim.exec s first)) fun _ _ completions => ?_
      cases completions with
      | normal => exact sim.execBlock rest others
      | broke => exact sim.pure .broke
      | continued => exact sim.pure .continued
      | returned values => exact sim.pure (.returned values)

end

/-- The runs of a script stay together, if it spells out only what may be spelled out, also where they
end because loop control is left over. -/
theorem Simulation.script {left right : Budget} (sim : Simulation left right) (script : Script)
    (admitted : ∀ literal, (Node.root script.tree).Holds literal → sim.admits literal)
    (leftOver : sim.Together sim.alike (Eval.refuse .looseLoopControl)
      (Eval.refuse .looseLoopControl)) :
    sim.Together sim.alike (script.tree.eval left) (script.tree.eval right) := by
  obtain ⟨tree, isAccepted⟩ := script
  have accepted := Tree.accepted_of_fault? isAccepted admitted
  cases tree with
  | expression body => exact sim.together (sim.eval body (accepted.child (List.mem_singleton_self _)))
  | block body =>
      have parts : ∀ s ∈ body, s.Accepted sim.admits := fun s member =>
        accepted.child (List.mem_map_of_mem member)
      refine sim.bind (sim.execBlock body parts) fun _ _ completions => ?_
      cases completions with
      | normal => exact sim.pure sim.likeness.null
      | broke => exact leftOver
      | continued => exact leftOver
      | returned values => exact sim.pure values

end Authorization.Script
