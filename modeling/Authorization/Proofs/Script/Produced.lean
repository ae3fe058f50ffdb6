import Authorization.Proofs.Script.Progress

/-!
# How long the values of expressions are

Every expression that builds a value checks how long it is before the value gets into anything else. A
comprehension checks after each item that it gathers. As an item makes what is gathered longer by one at
most, the comprehension stops as soon as it holds one item more than allowed: up to then it does the same
as one that checks nothing.
-/

namespace Authorization.Script

open Eval

variable {α β : Type} {budget : Budget}

/-! ## Results of parts -/

/-- A part of a run ends normally only with a result that satisfies a condition. -/
def Returns (post : α → Prop) (part : Eval α) : Prop :=
  ∀ run value, (perform part run).1 = .ok value → post value

theorem returns_pure {post : α → Prop} {value : α} (holds : post value) :
    Returns post (pure value : Eval α) := by
  rintro _ _ ⟨⟩
  exact holds

theorem returns_fail {post : α → Prop} (error : Error) : Returns post (fail error : Eval α) :=
  nofun

theorem returns_ofExcept {post : α → Prop} {result : Except Error α}
    (holds : ∀ value, result = .ok value → post value) : Returns post (ofExcept result) := by
  cases result with
  | ok value => exact returns_pure (holds value rfl)
  | error error => exact returns_fail error

/-- The last part decides on the result. -/
theorem Returns.bind {mid : α → Prop} {post : β → Prop} {part : Eval α} {next : α → Eval β}
    (first : Returns mid part) (rest : ∀ value, mid value → Returns post (next value)) :
    Returns post (part >>= next) := by
  intro run result ended
  obtain ⟨value, between, performed, ended⟩ := exists_of_perform_bind (Prod.ext ended rfl)
  have holds := first run value (congrArg Prod.fst performed)
  exact rest value holds between result (congrArg Prod.fst ended)

theorem Returns.last {post : β → Prop} {part : Eval α} {next : α → Eval β}
    (rest : ∀ value, Returns post (next value)) : Returns post (part >>= next) := by
  have anything : Returns (fun _ => True) part := fun _ _ _ => trivial
  exact anything.bind fun value _ => rest value

theorem Returns.ite {post : α → Prop} {condition : Prop} [Decidable condition] {part other : Eval α}
    (whenTrue : condition → Returns post part) (whenFalse : ¬ condition → Returns post other) :
    Returns post (if condition then part else other) := by
  split
  · exact whenTrue ‹_›
  · exact whenFalse ‹_›

/-! ## Lengths -/

/-- A text, a container or a range is no longer than the limits allow. -/
def Budget.Allows (budget : Budget) (value : Value) : Prop :=
  ∀ length, limitedLength? value = some length → length ≤ budget.limits.maxSequenceLength

theorem returns_checkSize (value : Value) : Returns budget.Allows (budget.checkSize value) := by
  obtain ⟨n, rfl⟩ | shape := Budget.checkSize_eq_checkLength value
  · exact .ite (fun _ => returns_fail _) fun _ => returns_pure nofun
  · rw [shape, Budget.checkLength]
    cases known : Budget.limitedLength? value with
    | none =>
        refine returns_pure fun length isLength => ?_
        rw [known] at isLength
        cases isLength
    | some length =>
        refine .ite (fun _ => returns_ofExcept nofun) fun _ => ?_
        refine .ite (fun _ => returns_fail _) fun inSize => returns_pure fun other isLength => ?_
        rw [known] at isLength
        cases isLength
        exact Nat.le_of_not_lt inSize

theorem returns_operate (operator : BinaryOperator) (left right : Value) :
    Returns budget.Allows (operate budget operator left right) :=
  .last fun _ => .last returns_checkSize

theorem returns_call (callee : Callee) (arguments : List Value) (named : List (String × Value)) :
    Returns budget.Allows (call budget callee arguments named) := by
  refine .last fun _ => .last fun passed => .last fun _ => ?_
  cases callee with
  | function f => exact .last returns_checkSize
  | method base name => exact .last returns_checkSize

/-! ## Parts that do the same until one is cut off -/

/-- One part of a run does what another does, unless it is cut off, and ends normally only with a result
that satisfies a condition. -/
def Parallels (cut : Stop → Prop) (post : α → Prop) (part other : Eval α) : Prop :=
  ∀ run, (∃ stop, cut stop ∧ (perform part run).1 = .error stop) ∨
    perform part run = perform other run ∧ ∀ value, (perform part run).1 = .ok value → post value

section Parallels

variable {cut : Stop → Prop} {post : α → Prop}

theorem Returns.parallels {part : Eval α} (returns : Returns post part) :
    Parallels cut post part part :=
  fun run => .inr ⟨rfl, returns run⟩

theorem parallels_pure {value : α} (holds : post value) :
    Parallels cut post (pure value) (pure value) :=
  (returns_pure holds).parallels

theorem Parallels.returns {part other : Eval α} (parallels : Parallels cut post part other) :
    Returns post part := by
  intro run value ended
  obtain ⟨stop, _, stopped⟩ | ⟨_, holds⟩ := parallels run
  · rw [ended] at stopped
    cases stopped
  · exact holds value ended

theorem Parallels.bind {final : β → Prop} {part other : Eval α} {next otherNext : α → Eval β}
    (first : Parallels cut post part other)
    (rest : ∀ value, post value → Parallels cut final (next value) (otherNext value)) :
    Parallels cut final (part >>= next) (other >>= otherNext) := by
  intro run
  obtain ⟨stop, isCut, stopped⟩ | ⟨same, holds⟩ := first run
  · refine .inl ⟨stop, isCut, ?_⟩
    rw [perform_bind_of_error (Prod.ext stopped rfl)]
  · rcases performed : perform part run with ⟨stop | value, after⟩
    · rw [performed] at same
      rw [perform_bind_of_error performed, perform_bind_of_error same.symm]
      exact .inr ⟨rfl, nofun⟩
    · rw [performed] at same holds
      rw [perform_bind_of_ok performed, perform_bind_of_ok same.symm]
      exact rest value (holds value rfl) after

theorem Parallels.within {part other : Eval α} (parallels : Parallels cut post part other) :
    Parallels cut post (Eval.within part) (Eval.within other) := by
  intro run
  rw [perform_within, perform_within]
  obtain ⟨stop, isCut, stopped⟩ | ⟨same, holds⟩ := parallels run
  · refine .inl ⟨stop, isCut, ?_⟩
    rw [show perform part run = (.error stop, (perform part run).2) from Prod.ext stopped rfl]
  · refine .inr ⟨by rw [same], fun value ended => holds value ?_⟩
    rcases performed : perform part run with ⟨stop | found, after⟩
    · rw [performed] at ended
      cases ended
    · rw [performed] at ended
      exact ended

theorem parallels_loop {step other : α → Eval (ForInStep α)}
    (each : ∀ state, post state → Parallels cut (RoundPost post) (step state) (other state))
    (rounds : Nat) {state : α} (holds : post state) :
    Parallels cut post (loop step rounds state) (loop other rounds state) := by
  induction rounds generalizing state with
  | zero => exact fun run => .inr ⟨rfl, nofun⟩
  | succ rounds inductionHypothesis =>
      refine (each state holds).bind fun round isLeft => ?_
      cases round with
      | done last => exact parallels_pure isLeft
      | yield next => exact inductionHypothesis isLeft

theorem parallels_forEach {body other : Value → α → Eval (ForInStep α)}
    (each : ∀ item state, post state →
      Parallels cut (RoundPost post) (body item state) (other item state))
    (source : Value) {state : α} (holds : post state) :
    Parallels cut post (budget.forEach source state body) (budget.forEach source state other) := by
  have same {γ : Type} (part : Eval γ) : Parallels cut (fun _ => True) part part :=
    Returns.parallels fun _ _ _ => trivial
  have visited (place : Iteration × α) (holds : post place.2) :
      Parallels cut (RoundPost fun place => post place.2) (visit body place) (visit other place) := by
    refine (same (advance place.1)).bind fun item? _ => ?_
    cases item? with
    | none => exact parallels_pure holds
    | some found =>
        refine (same (handle found.1)).bind fun _ _ => ?_
        refine (each found.1 place.2 holds).bind fun round isLeft => ?_
        cases round with
        | done state => exact parallels_pure isLeft
        | yield state => exact parallels_pure isLeft
  rw [forEach_eq, forEach_eq]
  refine (same (handle source)).bind fun _ _ => ?_
  refine (same (ofExcept source.iteration)).bind fun walk _ => ?_
  exact (parallels_loop visited budget.rounds holds).bind fun last isLast =>
    parallels_pure isLast

/-- Walks through the clauses of a comprehension do the same where what they emit does. -/
theorem parallels_comprehend {post : Sink → Prop} {emit other : Sink → Eval Sink}
    (emits : ∀ sink, post sink → Parallels cut post (emit sink) (other sink)) (clauses : List Clause)
    {sink : Sink} (holds : post sink) :
    Parallels cut post (comprehend budget clauses emit sink)
      (comprehend budget clauses other sink) := by
  have same {γ : Type} (part : Eval γ) : Parallels cut (fun _ => True) part part :=
    Returns.parallels fun _ _ _ => trivial
  induction clauses generalizing sink with
  | nil => exact emits sink holds
  | cons clause rest inductionHypothesis =>
      obtain ⟨target, source, conditions, isAsync⟩ := clause
      refine (same (eval budget source)).bind fun items _ => ?_
      refine parallels_forEach (fun item sink holds => ?_) items holds
      refine (same budget.tick).bind fun _ _ => Parallels.within ?_
      refine (same (assign target item)).bind fun _ _ => ?_
      refine (same (evalConditions budget conditions)).bind fun isMet _ => ?_
      cases isMet with
      | false => exact parallels_pure holds
      | true => exact (inductionHypothesis holds).bind fun grown isGrown => parallels_pure isGrown

end Parallels

/-! ## Comprehensions -/

/-- Gathers the items or the entries of a comprehension, with a check of what is gathered after each. -/
def gather (budget : Budget) (check : Sink → Eval Sink) : Expression → Eval Sink
  | .comprehension _ collector element clauses => do
    budget.tick
    let emit (sink : Sink) : Eval Sink := do
      let item ← eval budget element
      check (← ofExcept (sink.insert item))
    comprehend budget clauses emit (Sink.empty collector)
  | .dictComprehension _ key value clauses => do
    budget.tick
    let emit (sink : Sink) : Eval Sink := do
      let k ← eval budget key
      let item ← eval budget value
      check (← ofExcept (sink.store k item))
    comprehend budget clauses emit (.dict [])
  | e => unsupported (.expression e.construct)

def Expression.IsComprehension : Expression → Prop
  | .comprehension .. | .dictComprehension .. => True
  | _ => False

/-- Stops a comprehension that has gathered so many items. -/
def haltAt (length : Nat) (sink : Sink) : Eval Sink :=
  if sink.length = length then breach (.length length) else return sink

/-- What has been gathered is no longer than the limits allow. -/
def Budget.AllowsSink (budget : Budget) (sink : Sink) : Prop :=
  sink.length ≤ budget.limits.maxSequenceLength

theorem Budget.AllowsSink.value {sink : Sink} (allowed : budget.AllowsSink sink) :
    budget.Allows sink.value := by
  intro length isLength
  cases sink with
  | list reversed =>
      cases isLength
      rw [List.length_reverse]
      exact allowed
  | set members =>
      cases isLength
      exact allowed
  | dict entries =>
      cases isLength
      exact allowed

theorem Sink.length_insert_le {sink grown : Sink} {item : Value}
    (made : sink.insert item = .ok grown) : grown.length ≤ sink.length + 1 := by
  cases sink with
  | list reversed =>
      cases made
      exact Nat.le_refl _
  | set members =>
      unfold insert at made
      dsimp only at made
      split at made
      · cases made
      · split at made
        · cases made
          exact Nat.le_succ _
        · cases made
          exact Nat.le_refl _
  | dict entries =>
      cases made
      exact Nat.le_succ _

theorem length_store_le (key item : Value) (entries : List (Value × Value)) :
    (Value.store key item entries).length ≤ entries.length + 1 := by
  induction entries with
  | nil => exact Nat.le_refl _
  | cons entry rest inductionHypothesis =>
      unfold Value.store
      split
      · exact Nat.le_succ _
      · exact Nat.succ_le_succ inductionHypothesis

theorem Sink.length_store_le {sink grown : Sink} {key item : Value}
    (made : sink.store key item = .ok grown) : grown.length ≤ sink.length + 1 := by
  cases sink with
  | dict entries =>
      unfold store at made
      dsimp only at made
      split at made
      · cases made
        exact Script.length_store_le key item entries
      · cases made
  | list reversed =>
      cases made
      exact Nat.le_succ _
  | set members =>
      cases made
      exact Nat.le_succ _

/-- A comprehension does what one with another check does, where the checks do the same for what is longer
than allowed by one item at most. -/
theorem parallels_gather {cut : Stop → Prop} {check : Sink → Eval Sink}
    (agree : ∀ sink : Sink, sink.length ≤ budget.limits.maxSequenceLength + 1 →
      Parallels cut budget.AllowsSink (checkSink budget sink) (check sink))
    {e : Expression} (isComprehension : e.IsComprehension) :
    Parallels cut budget.AllowsSink (gather budget (checkSink budget) e) (gather budget check e) := by
  have same {α : Type} (part : Eval α) : Parallels cut (fun _ => True) part part :=
    Returns.parallels fun _ _ _ => trivial
  have added {sink : Sink} (allowed : budget.AllowsSink sink) {result : Except Error Sink}
      (grows : ∀ grown, result = .ok grown → grown.length ≤ sink.length + 1) :
      Parallels cut budget.AllowsSink (do checkSink budget (← ofExcept result))
        (do check (← ofExcept result)) := by
    have grown : Returns (fun grown : Sink => grown.length ≤ budget.limits.maxSequenceLength + 1)
        (ofExcept result) :=
      returns_ofExcept fun grown made =>
        Nat.le_trans (grows grown made) (Nat.succ_le_succ allowed)
    exact grown.parallels.bind agree
  cases e with
  | comprehension line collector element clauses =>
      have start : budget.AllowsSink (Sink.empty collector) := by
        cases collector <;> exact Nat.zero_le _
      refine (same budget.tick).bind fun _ _ => ?_
      refine parallels_comprehend (fun sink allowed => ?_) clauses start
      refine (same (eval budget element)).bind fun item _ => ?_
      exact added allowed fun _ => Sink.length_insert_le
  | dictComprehension line key value clauses =>
      refine (same budget.tick).bind fun _ _ => ?_
      refine parallels_comprehend (fun sink allowed => ?_) clauses (Nat.zero_le _)
      refine (same (eval budget key)).bind fun k _ => (same (eval budget value)).bind fun item _ => ?_
      exact added allowed fun _ => Sink.length_store_le
  | _ => cases isComprehension

/-- The check of a comprehension stops it as soon as it holds one item more than allowed. -/
theorem checkSink_eq_haltAt {sink : Sink}
    (inReach : sink.length ≤ budget.limits.maxSequenceLength + 1) :
    checkSink budget sink = haltAt (budget.limits.maxSequenceLength + 1) sink := by
  unfold checkSink haltAt
  by_cases isOver : sink.length > budget.limits.maxSequenceLength
  · have exactly : sink.length = budget.limits.maxSequenceLength + 1 := by omega
    rw [if_pos isOver, if_pos exactly, exactly]
  · rw [if_neg isOver, if_neg (by omega)]

theorem returns_checkSink (sink : Sink) : Returns budget.AllowsSink (checkSink budget sink) :=
  .ite (fun _ => returns_fail _) fun inSize => returns_pure (Nat.le_of_not_lt inSize)

theorem eval_eq_gather {e : Expression} (isComprehension : e.IsComprehension) :
    eval budget e = do return (← gather budget (checkSink budget) e).value := by
  cases e with
  | comprehension line collector element clauses =>
      rw [eval, gather, bind_assoc]
  | dictComprehension line key value clauses =>
      rw [eval, gather, bind_assoc]
  | _ => cases isComprehension

/-- A comprehension goes on until it holds one item more than allowed. -/
theorem gather_eq_halting {e : Expression} (isComprehension : e.IsComprehension) :
    gather budget (checkSink budget) e =
      gather budget (haltAt (budget.limits.maxSequenceLength + 1)) e := by
  have never : Parallels (fun _ => False) budget.AllowsSink (gather budget (checkSink budget) e)
      (gather budget (haltAt (budget.limits.maxSequenceLength + 1)) e) := by
    refine parallels_gather (fun sink inReach => ?_) isComprehension
    rw [← checkSink_eq_haltAt inReach]
    exact (returns_checkSink sink).parallels
  refine ext fun run => ?_
  obtain ⟨_, impossible, _⟩ | ⟨same, _⟩ := never run
  · exact impossible.elim
  · exact same

/-- Where a comprehension without a check gathers more than allowed, the one with the check is stopped. -/
theorem stopped_of_gather {e : Expression} (isComprehension : e.IsComprehension) {run after : Run}
    {sink : Sink} (gathered : perform (gather budget pure e) run = (.ok sink, after))
    (isOver : budget.limits.maxSequenceLength < sink.length) :
    (perform (eval budget e) run).1 =
      .error (.failed (.limit (.length (budget.limits.maxSequenceLength + 1)))) := by
  have follows : Parallels
      (· = .failed (.limit (.length (budget.limits.maxSequenceLength + 1)))) budget.AllowsSink
      (gather budget (checkSink budget) e) (gather budget pure e) := by
    refine parallels_gather (fun sink inReach run => ?_) isComprehension
    rw [checkSink_eq_haltAt inReach, haltAt]
    by_cases exactly : sink.length = budget.limits.maxSequenceLength + 1
    · rw [if_pos exactly]
      exact .inl ⟨_, rfl, rfl⟩
    · rw [if_neg exactly]
      refine .inr ⟨rfl, fun value ended => ?_⟩
      cases ended
      exact Nat.le_of_lt_succ (Nat.lt_of_le_of_ne inReach exactly)
  rw [eval_eq_gather isComprehension]
  obtain ⟨stop, rfl, stopped⟩ | ⟨same, allowed⟩ := follows run
  · rw [perform_bind_of_error (Prod.ext stopped rfl)]
  · rw [gathered] at same
    have short := allowed sink (congrArg Prod.fst same)
    exact absurd short (Nat.not_le_of_lt isOver)

/-! ## Expressions that build values -/

/-- An expression that builds a value: an operator, a display, a comprehension, an element or a call. -/
def Expression.IsBuilding : Expression → Prop
  | .binary .. | .list .. | .tuple .. | .set .. | .dict .. | .comprehension ..
  | .dictComprehension .. | .subscript .. | .call .. => True
  | _ => False

theorem returns_eval {e : Expression} (isBuilding : e.IsBuilding) :
    Returns budget.Allows (eval budget e) := by
  have comprehended (isComprehension : e.IsComprehension) : Returns budget.Allows (eval budget e) := by
    rw [eval_eq_gather isComprehension]
    have itself : Parallels (fun _ => False) budget.AllowsSink (gather budget (checkSink budget) e)
        (gather budget (checkSink budget) e) :=
      parallels_gather (fun sink _ => (returns_checkSink sink).parallels) isComprehension
    exact itself.returns.bind fun sink allowed => returns_pure allowed.value
  cases e with
  | binary line left operator right =>
      rw [eval]
      exact .last fun _ => .last fun a => .last fun b => returns_operate operator a b
  | list | tuple | set | dict =>
      rw [eval]
      exact .last fun _ => .last fun _ => returns_checkSize _
  | comprehension | dictComprehension => exact comprehended trivial
  | subscript line base index use =>
      rw [eval]
      refine .last fun _ => .last fun container => .ite (fun _ => returns_fail _) fun _ => ?_
      exact .last fun place => .last returns_checkSize
  | call line function arguments keywords =>
      have called (callee : Callee) : Returns budget.Allows (do
          let values ← evalAll budget arguments
          call budget callee values (← evalKeywords budget [] keywords)) :=
        .last fun values => .last fun named => returns_call callee values named
      cases function with
      | «attribute» line base name use =>
          rw [eval]
          exact .last fun _ => .last fun _ => .last called
      | _ =>
          rw [eval]
          · exact .last fun _ => .last fun _ => .last called
          · nofun
  | _ => cases isBuilding

/-- What an augmented assignment binds is no longer than the limits allow. -/
theorem lookup_of_augmentedAssign {line targetLine : Nat} {name : String} {use : Context}
    {operator : BinaryOperator} {operand : Expression} {run after : Run} {completion : Completion}
    (assigned : perform (exec budget
      (.augmentedAssign line (.name targetLine name use) operator operand)) run =
        (.ok completion, after)) :
    ∃ value, after.scope.lookup name = some value ∧ budget.Allows value := by
  rw [exec] at assigned
  obtain ⟨_, _, _, assigned⟩ := exists_of_perform_bind assigned
  obtain ⟨current, _, _, assigned⟩ := exists_of_perform_bind assigned
  obtain ⟨value, _, _, assigned⟩ := exists_of_perform_bind assigned
  obtain ⟨result, between, operated, assigned⟩ := exists_of_perform_bind assigned
  have allowed := returns_operate operator current value _ result (congrArg Prod.fst operated)
  cases assigned
  exact ⟨result, Scope.lookup_bind_self _ _ _, allowed⟩

/-- Whenever an operator, a display, a comprehension, an element or a call gives a text, a container or a
range, that is no longer than the limits allow, and so is what an augmented assignment binds. A
comprehension does what one without a limit does and stops as soon as it holds one item more than
allowed, which the other one's holding more at its end implies. -/
theorem produced_values_are_bounded (budget : Budget) :
    (∀ e : Expression, e.IsBuilding → ∀ run value after,
      perform (eval budget e) run = (.ok value, after) → budget.Allows value) ∧
    (∀ line targetLine name use operator operand run completion after,
      perform (exec budget (.augmentedAssign line (.name targetLine name use) operator operand)) run =
        (.ok completion, after) →
      ∃ value, after.scope.lookup name = some value ∧ budget.Allows value) ∧
    ∀ e : Expression, e.IsComprehension →
      (eval budget e = do
        return (← gather budget (haltAt (budget.limits.maxSequenceLength + 1)) e).value) ∧
      ∀ run sink after, perform (gather budget pure e) run = (.ok sink, after) →
        budget.limits.maxSequenceLength < sink.length →
        (perform (eval budget e) run).1 =
          .error (.failed (.limit (.length (budget.limits.maxSequenceLength + 1)))) := by
  refine ⟨fun e isBuilding run value after evaluated => ?_, fun _ _ _ _ _ _ _ _ _ assigned => ?_,
    fun e isComprehension => ⟨?_, fun run sink after gathered isOver => ?_⟩⟩
  · exact returns_eval isBuilding run value (congrArg Prod.fst evaluated)
  · exact lookup_of_augmentedAssign assigned
  · rw [← gather_eq_halting isComprehension]
    exact eval_eq_gather isComprehension
  · exact stopped_of_gather isComprehension gathered isOver

/-- A limit of two characters or items. -/
def twoAtMost : Budget :=
  { usualLimits with limits := { maxSequenceLength := 2 } }

/-- The expression `[x for x in xs]`. -/
def copyOfItems : Expression :=
  .comprehension 1 .list (.name 1 "x" .load)
    [.mk (.name 1 "x" .store) (.name 1 "xs" .load) [] false]

/-- A run that has been given three items and a number. -/
def threeItems : Run :=
  { scope := [("xs", .list [.int 1, .int 2, .int 3]), ("n", .int 1)] }

theorem produced_values_are_bounded_by_two :
    (∃ value after, perform (eval twoAtMost (.list 1 [.name 1 "n" .load, .name 1 "n" .load] .load))
        threeItems = (.ok value, after) ∧
      Budget.limitedLength? value = some 2 ∧ twoAtMost.Allows value) ∧
    (∃ completion after, perform (exec twoAtMost
        (.augmentedAssign 1 (.name 1 "n" .store) .add (.name 1 "n" .load))) threeItems =
          (.ok completion, after) ∧
      ∃ value, after.scope.lookup "n" = some value ∧ twoAtMost.Allows value) ∧
    (∃ sink after, perform (gather twoAtMost pure copyOfItems) threeItems = (.ok sink, after) ∧
      sink.length = 3) ∧
    (perform (eval twoAtMost copyOfItems) threeItems).1 = .error (.failed (.limit (.length 3))) := by
  obtain ⟨built, assigned, comprehended⟩ := produced_values_are_bounded twoAtMost
  obtain ⟨pair, afterPair, evaluated, isPair⟩ := @exists_perform_of_map _ _
    (eval twoAtMost (.list 1 [.name 1 "n" .load, .name 1 "n" .load] .load)) threeItems
    Budget.limitedLength? (some 2) (by decide +kernel)
  obtain ⟨completion, afterSum, executed, -⟩ := @exists_perform_of_map _ _
    (exec twoAtMost (.augmentedAssign 1 (.name 1 "n" .store) .add (.name 1 "n" .load))) threeItems
    (fun _ => ()) () (by decide +kernel)
  obtain ⟨sink, afterItems, gathered, isLong⟩ := @exists_perform_of_map _ _
    (gather twoAtMost pure copyOfItems) threeItems Sink.length 3 (by decide +kernel)
  have isOver : twoAtMost.limits.maxSequenceLength < sink.length := isLong ▸ Nat.lt_succ_self 2
  have isBuilding : (Expression.list 1 [.name 1 "n" .load, .name 1 "n" .load] .load).IsBuilding :=
    trivial
  exact ⟨⟨pair, afterPair, evaluated, isPair, built _ isBuilding _ _ _ evaluated⟩,
    ⟨completion, afterSum, executed, assigned _ _ _ _ _ _ _ _ _ executed⟩,
    ⟨sink, afterItems, gathered, isLong⟩,
    (comprehended copyOfItems trivial).2 threeItems sink afterItems gathered isOver⟩

end Authorization.Script
