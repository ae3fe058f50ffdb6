import Authorization.Proofs.Script.Locality

/-!
# Comprehensions as nested loops

A comprehension that gathers a list does what nested loops do that add each item to a list under a name of
its own: one loop for each clause, with the conditions of the clause around what comes next. The names
that the loops bind stay bound, while a comprehension forgets them after each item. This makes no
difference where no later source mentions a name that its own or a later clause binds and no condition
one that a later clause binds.
-/

namespace Authorization.Script

open Eval

/-! ## Loops for clauses -/

/-- Adds the value of an expression to the list under a name. -/
def appendTo (line : Nat) (result : String) (element : Expression) : Statement :=
  .augmentedAssign line (.name line result .store) .add (.list line [element] .load)

/-- A statement under conditions, the first outermost. -/
def guarded (line : Nat) (conditions : List Expression) (inner : Statement) : Statement :=
  conditions.foldr (fun condition statement => .branch line condition [statement] []) inner

/-- The loops for some clauses, the first outermost, around the addition of an element. -/
def nested (line : Nat) (result : String) (element : Expression) : List Clause → Statement
  | [] => appendTo line result element
  | .mk target source conditions _ :: rest =>
    .forLoop line target source [guarded line conditions (nested line result element rest)] []

/-- A block that gathers the items of a comprehension in a list under a name, and returns it. -/
def unrolled (line : Nat) (result : String) (element : Expression) (clauses : List Clause) :
    List Statement :=
  [.assign line [.name line result .store] (.list line [] .load), nested line result element clauses,
    .returnValue line (some (.name line result .load))]

/-- The names that some clauses bind. -/
def boundBy (clauses : List Clause) : List String :=
  clauses.flatMap fun clause => clause.target.names

/-- No condition of a clause mentions a name that a later clause binds. -/
def Clause.TestsBack (clause : Clause) (later : List Clause) : Prop :=
  ∀ name ∈ namesOfList clause.conditions, name ∉ boundBy later

/-- No source mentions a name that its own or a later clause binds, and no condition one that a later clause
binds. -/
def LookBack : List Clause → Prop
  | [] => True
  | clause :: later =>
    (∀ name ∈ clause.source.names, name ∉ boundBy (clause :: later)) ∧ clause.TestsBack later ∧
      LookBack later

/-- All sources but the first, and all conditions, look back only. -/
def Unrollable : List Clause → Prop
  | [] => True
  | first :: later => first.TestsBack later ∧ LookBack later

instance (clause : Clause) (later : List Clause) : Decidable (clause.TestsBack later) :=
  inferInstanceAs (Decidable (∀ name ∈ namesOfList clause.conditions, name ∉ boundBy later))

instance decidableLookBack : (clauses : List Clause) → Decidable (LookBack clauses)
  | [] => inferInstanceAs (Decidable True)
  | clause :: later =>
    have := decidableLookBack later
    inferInstanceAs (Decidable ((∀ name ∈ clause.source.names, name ∉ boundBy (clause :: later)) ∧
      clause.TestsBack later ∧ LookBack later))

instance : (clauses : List Clause) → Decidable (Unrollable clauses)
  | [] => inferInstanceAs (Decidable True)
  | first :: later => inferInstanceAs (Decidable (first.TestsBack later ∧ LookBack later))

/-! ## One item more -/

variable {budget : Budget} {line : Nat} {result : String} {element : Expression} {left right : Scope}

/-- What a comprehension does at its innermost. -/
def emitted (budget : Budget) (element : Expression) (sink : Sink) : Eval Sink := do
  let item ← eval budget element
  checkSink budget (← ofExcept (sink.insert item))

/-- A comprehension has gathered what is in the list under a name, and the names agree but for the hidden
ones. On the left they are as before. -/
inductive Gathers (result : String) (hidden : String → Prop) (left : Scope) :
    Sink → Completion → Scope → Scope → Prop
  | intro {gathered : List Value} {right : Scope} (agree : AgreeOff hidden left right)
      (isBound : right.lookup result = some (.list gathered.reverse)) :
      Gathers result hidden left (.list gathered) .normal left right

theorem Gathers.mono {hidden more : String → Prop} {sink : Sink} {completion : Completion} {l r : Scope}
    (gathers : Gathers result hidden left sink completion l r)
    (implies : ∀ name, hidden name → more name) : Gathers result more left sink completion l r := by
  obtain ⟨agree, isBound⟩ := gathers
  exact ⟨agree.mono implies, isBound⟩

theorem settles_addition (items more : List Value) :
    Settles budget right (operate budget .add (.list items) (.list more)) (.list (items ++ more))
      right := by
  have checked : Settles budget right (checkOperands budget .add (.list items) (.list more)) () right :=
    .guard _ fun _ => .pure
  have combined : Settles budget right (combine .add (.list items) (.list more))
      (.list (items ++ more)) right := .pure
  exact checked.bind (combined.bind (.checkSize_list _))

theorem matches_addition {gathered : List Value} (item : Value)
    (agree : AgreeOff (· = result) left right) :
    Matches budget left right (Gathers result (· = result) left)
      (do checkSink budget (← ofExcept ((Sink.list gathered).insert item)))
      (do
        let operand ← budget.checkSize (.list [item])
        bindName result (← operate budget .add (.list gathered.reverse) operand)
        return .normal) := by
  have inserted : (do checkSink budget (← ofExcept ((Sink.list gathered).insert item))) =
      checkSink budget (.list (item :: gathered)) := rfl
  rw [inserted, checkSink]
  split
  · exact fun run otherRun _ _ _ => .left (isLimit_breach _)
  · have settles : Settles budget right (do
        let operand ← budget.checkSize (.list [item])
        bindName result (← operate budget .add (.list gathered.reverse) operand)
        return Completion.normal) .normal
        (right.bind result (.list (gathered.reverse ++ [item]))) :=
      (Settles.checkSize_list [item]).bind <|
        (settles_addition gathered.reverse [item]).bind <| (Settles.bindName result _).bind .pure
    refine settles.meetsPure ⟨?_, ?_⟩
    · intro name isOther
      rw [Scope.lookup_bind_of_ne _ isOther]
      exact agree name isOther
    · rw [Scope.lookup_bind_self, List.reverse_cons]

theorem matches_appendTo (elementShown : Shown (· = result) element.names) {gathered : List Value}
    (agree : AgreeOff (· = result) left right)
    (isBound : right.lookup result = some (.list gathered.reverse)) :
    Matches budget left right (Gathers result (· = result) left)
      (emitted budget element (.list gathered)) (exec budget (appendTo line result element)) := by
  have shape : exec budget (appendTo line result element) = (do
      budget.tick
      let current ← lookup result
      budget.tick
      let item ← eval budget element
      let operand ← budget.checkSize (.list [item])
      bindName result (← operate budget .add current operand)
      return .normal) := by
    simp only [appendTo, exec, eval, evalAll, bind_assoc, pure_bind]
  rw [shape]
  refine Settles.tick.precedes ((Settles.lookup isBound).precedes (Settles.tick.precedes ?_))
  refine (looks_eval element elementShown left right agree).bind fun item _ l r same => ?_
  obtain ⟨rfl, rfl, rfl⟩ := same
  exact matches_addition item agree

/-! ## Conditions -/

theorem execBlock_singleton (statement : Statement) :
    execBlock budget [statement] = exec budget statement := by
  rw [execBlock]
  refine (bind_congr fun completion => ?_).trans (bind_pure _)
  cases completion <;> rfl

/-- To do something where all conditions count as true is to do it under the conditions. -/
theorem matches_guarded {α : Type} {hidden : String → Prop} {conditions : List Expression}
    (shown : Shown hidden (namesOfList conditions)) {inner : Statement} {met unmet : Eval α}
    {post : α → Completion → Scope → Scope → Prop} (agree : AgreeOff hidden left right)
    (whenMet : Matches budget left right post met (exec budget inner))
    (whenUnmet : Matches budget left right post unmet (pure .normal)) :
    Matches budget left right post
      (do if ← evalConditions budget conditions then met else unmet)
      (exec budget (guarded line conditions inner)) := by
  induction conditions with
  | nil => exact whenMet
  | cons condition rest inductionHypothesis =>
      obtain ⟨here, others⟩ := shown_append.1 shown
      have shape : exec budget (guarded line (condition :: rest) inner) = (do
          budget.tick
          let value ← eval budget condition
          if value.truthy then exec budget (guarded line rest inner) else pure .normal) := by
        rw [guarded, List.foldr_cons, exec, execBlock_singleton, execBlock]
        rfl
      rw [shape, evalConditions, bind_assoc]
      refine Settles.tick.precedes ?_
      refine (looks_eval condition here left right agree).bind fun value _ l r same => ?_
      obtain ⟨rfl, rfl, rfl⟩ := same
      split
      · exact inductionHypothesis others
      · exact whenUnmet

/-! ## Clauses -/

/-- The names on which the two sides may differ while some clauses are gone through. -/
def Pending (result : String) (clauses : List Clause) (name : String) : Prop :=
  name = result ∨ name ∈ boundBy clauses

theorem shown_pending {clauses : List Clause} {names : List String} (fresh : result ∉ names)
    (unbound : ∀ name ∈ names, name ∉ boundBy clauses) : Shown (Pending result clauses) names := by
  rintro name member (rfl | isBound)
  · exact fresh member
  · exact unbound name member isBound

/-- What is done inside some clauses matches what is done inside their loops. -/
def InnerMatches (budget : Budget) (line : Nat) (result : String) (element : Expression)
    (clauses : List Clause) : Prop :=
  ∀ {left right : Scope} {gathered : List Value}, AgreeOff (Pending result clauses) left right →
    right.lookup result = some (.list gathered.reverse) →
    Matches budget left right (Gathers result (Pending result clauses) left)
      (comprehend budget clauses (emitted budget element) (.list gathered))
      (exec budget (nested line result element clauses))

section Clause

variable {target source : Expression} {conditions : List Expression} {isAsync : Bool}
  {later : List Clause}

theorem pending_of_not_mem_target {name : String}
    (isPending : Pending result (.mk target source conditions isAsync :: later) name)
    (isOther : name ∉ target.names) : Pending result later name := by
  obtain rfl | isBound := isPending
  · exact .inl rfl
  · obtain here | there := List.mem_append.1 isBound
    · exact absurd here isOther
    · exact .inr there

/-- Each item is treated alike by a clause and by its loop. -/
theorem matches_round (isFresh : result ∉ target.names)
    (conditionsShown : Shown (Pending result later) (namesOfList conditions))
    (inner : InnerMatches budget line result element later) (item : Value) {gathered : List Value}
    (agree : AgreeOff (Pending result (.mk target source conditions isAsync :: later)) left right)
    (isBound : right.lookup result = some (.list gathered.reverse)) :
    Matches budget left right
      (Matches.Round
        (Gathers result (Pending result (.mk target source conditions isAsync :: later)) left))
      (do
        budget.tick
        within do
          assign target item
          if ← evalConditions budget conditions then
            return .yield (← comprehend budget later (emitted budget element) (.list gathered))
          else return .yield (.list gathered))
      (do
        budget.tick
        assign target item
        return afterRound
          (← execBlock budget [guarded line conditions (nested line result element later)])) := by
  have ticked : Matches budget left right (fun _ _ l r => l = left ∧ r = right) budget.tick
      budget.tick := .tick ⟨rfl, rfl⟩
  refine ticked.bind fun _ _ l₀ r₀ same => ?_
  obtain ⟨isLeft, isRight⟩ := same
  rw [isLeft, isRight]
  refine Matches.withinLeft ?_
  refine (matches_assign target item agree).bind fun _ _ l r ends => ?_
  obtain ⟨agreeStill, keepsLeft, keepsRight⟩ := ends
  have agreeLater : AgreeOff (Pending result later) l r :=
    agreeStill.mono fun name ⟨isPending, isOther⟩ => pending_of_not_mem_target isPending isOther
  have isBoundLater : r.lookup result = some (.list gathered.reverse) :=
    (keepsRight result isFresh).trans isBound
  -- The left side forgets what the target has bound, which is still hidden on the right.
  have restored {last : Scope} (agreeLast : AgreeOff (Pending result later) l last) :
      AgreeOff (Pending result (.mk target source conditions isAsync :: later)) left last :=
    (keepsLeft.symm.mono fun _ isTarget => .inr (List.mem_append_left _ isTarget)).trans
      (agreeLast.mono fun _ => Or.imp_right (List.mem_append_right _))
  rw [execBlock_singleton]
  have tested : Matches budget l r
      (fun round completion _ last => ∃ sink, round = ForInStep.yield sink ∧
        Gathers result (Pending result (.mk target source conditions isAsync :: later)) left sink
          completion left last)
      (do
        if ← evalConditions budget conditions then
          return ForInStep.yield (← comprehend budget later (emitted budget element) (.list gathered))
        else return ForInStep.yield (.list gathered))
      (exec budget (guarded line conditions (nested line result element later))) := by
    refine matches_guarded conditionsShown agreeLater ?whenMet ?whenUnmet
    case whenMet =>
      refine (inner agreeLater isBoundLater).thenLeft fun sink completion l' last gathers => ?_
      obtain ⟨agreeLast, isBoundLast⟩ := gathers
      exact .pure ⟨_, rfl, restored agreeLast, isBoundLast⟩
    case whenUnmet => exact .pure ⟨_, rfl, restored agreeLater, isBoundLater⟩
  refine tested.thenRight ?_
  rintro _ _ _ last ⟨sink, rfl, gathers⟩
  obtain ⟨agreeLast, isBoundLast⟩ := gathers
  exact .pure (.yield ⟨agreeLast, isBoundLast⟩)

/-- A clause matches its loop, if what is done inside it matches. -/
theorem matches_clause {outer : String → Prop} (isFresh : result ∉ target.names)
    (sourceShown : Shown outer source.names)
    (included : ∀ name, outer name → Pending result (.mk target source conditions isAsync :: later) name)
    (conditionsShown : Shown (Pending result later) (namesOfList conditions))
    (inner : InnerMatches budget line result element later) {gathered : List Value}
    (agree : AgreeOff outer left right)
    (isBound : right.lookup result = some (.list gathered.reverse)) :
    Matches budget left right
      (Gathers result (Pending result (.mk target source conditions isAsync :: later)) left)
      (comprehend budget (.mk target source conditions isAsync :: later) (emitted budget element)
        (.list gathered))
      (exec budget (nested line result element (.mk target source conditions isAsync :: later))) := by
  have shape : exec budget (nested line result element (.mk target source conditions isAsync :: later)) =
      (do
        budget.tick
        let items ← eval budget source
        budget.forEach items .normal fun item _ => do
          budget.tick
          assign target item
          return afterRound
            (← execBlock budget [guarded line conditions (nested line result element later)])) := by
    rw [nested, exec]
  rw [shape, comprehend]
  refine Settles.tick.precedes ?_
  refine (looks_eval source sourceShown left right agree).bind fun items _ l r same => ?_
  obtain ⟨rfl, rfl, rfl⟩ := same
  refine Matches.forEach (fun item sink completion l r gathers => ?_) items
    ⟨agree.mono included, isBound⟩
  obtain ⟨agree, isBound⟩ := gathers
  exact matches_round isFresh conditionsShown inner item agree isBound

end Clause

theorem matches_element (fresh : result ∉ element.names) {gathered : List Value}
    (agree : AgreeOff (· = result) left right)
    (isBound : right.lookup result = some (.list gathered.reverse)) :
    Matches budget left right (Gathers result (Pending result []) left)
      (comprehend budget [] (emitted budget element) (.list gathered))
      (exec budget (nested line result element [])) := by
  have shown : Shown (· = result) element.names := fun name member isResult => fresh (isResult ▸ member)
  refine (matches_appendTo shown agree isBound).mono fun _ _ _ _ gathers => ?_
  exact gathers.mono fun _ => Or.inl

theorem innerMatches_of_lookBack (elementFresh : result ∉ element.names) {clauses : List Clause}
    (clausesFresh : result ∉ namesOfClauses clauses) (lookBack : LookBack clauses) :
    InnerMatches budget line result element clauses := by
  induction clauses with
  | nil =>
      intro left right gathered agree isBound
      exact matches_element elementFresh (agree.mono fun _ => Or.rec id (absurd · List.not_mem_nil)) isBound
  | cons clause later inductionHypothesis =>
      obtain ⟨target, source, conditions, isAsync⟩ := clause
      obtain ⟨sourceLooksBack, testsBack, laterLookBack⟩ := lookBack
      simp only [namesOfClauses, List.mem_append, not_or] at clausesFresh
      obtain ⟨targetFresh, sourceFresh, conditionsFresh, laterFresh⟩ := clausesFresh
      intro left right gathered agree isBound
      exact matches_clause targetFresh (shown_pending sourceFresh sourceLooksBack) (fun _ => id)
        (shown_pending conditionsFresh testsBack) (inductionHypothesis laterFresh laterLookBack) agree
        isBound

/-- Before the first clause, only the name for the list is hidden. -/
theorem matches_unrollable (elementFresh : result ∉ element.names) {clauses : List Clause}
    (clausesFresh : result ∉ namesOfClauses clauses) (isUnrollable : Unrollable clauses)
    {gathered : List Value} (agree : AgreeOff (· = result) left right)
    (isBound : right.lookup result = some (.list gathered.reverse)) :
    Matches budget left right (Gathers result (Pending result clauses) left)
      (comprehend budget clauses (emitted budget element) (.list gathered))
      (exec budget (nested line result element clauses)) := by
  cases clauses with
  | nil => exact matches_element elementFresh agree isBound
  | cons first later =>
      obtain ⟨target, source, conditions, isAsync⟩ := first
      obtain ⟨testsBack, laterLookBack⟩ := isUnrollable
      simp only [namesOfClauses, List.mem_append, not_or] at clausesFresh
      obtain ⟨targetFresh, sourceFresh, conditionsFresh, laterFresh⟩ := clausesFresh
      have sourceShown : Shown (· = result) source.names := fun name member isResult =>
        sourceFresh (isResult ▸ member)
      exact matches_clause targetFresh sourceShown (fun _ => Or.inl)
        (shown_pending conditionsFresh testsBack)
        (innerMatches_of_lookBack elementFresh laterFresh laterLookBack) agree isBound

/-! ## Whole comprehensions -/

theorem settles_start (scope : Scope) :
    Settles budget scope (exec budget (.assign line [.name line result .store] (.list line [] .load)))
      .normal (scope.bind result (.list [])) := by
  have assigned : Settles budget scope
      ([Expression.name line result .store].forM fun target => assign target (.list [])) ()
      (scope.bind result (.list [])) := (Settles.bindName result _).bind .pure
  simp only [exec, eval, evalAll, bind_assoc, pure_bind]
  exact Settles.tick.bind <| Settles.tick.bind <| (Settles.checkSize_list []).bind <|
    assigned.bind .pure

theorem settles_return {scope : Scope} {value : Value} (isBound : scope.lookup result = some value) :
    Settles budget scope (execBlock budget [.returnValue line (some (.name line result .load))])
      (.returned value) scope := by
  simp only [execBlock_singleton, exec, evalOption, eval, bind_assoc]
  exact Settles.tick.bind <| Settles.tick.bind <| (Settles.lookup isBound).bind .pure

theorem matches_unrolled {collector : Collector} {clauses : List Clause}
    (gathersList : collector ≠ .set)
    (fresh : result ∉ (Expression.comprehension line collector element clauses).names)
    (isUnrollable : Unrollable clauses) (scope : Scope) :
    Matches budget scope scope (fun value returned _ _ => value = returned)
      (eval budget (.comprehension line collector element clauses))
      ((Tree.block (unrolled line result element clauses)).eval budget) := by
  have empty : Sink.empty collector = .list [] := by
    cases collector with
    | list | generator => rfl
    | set => exact absurd rfl gathersList
  obtain ⟨elementFresh, clausesFresh⟩ := not_or.1 (mt List.mem_append.2 fresh)
  rw [eval, empty, Tree.eval, unrolled, execBlock, bind_assoc]
  refine Settles.tick.precedesLeft ((settles_start scope).precedes ?_)
  rw [execBlock, bind_assoc]
  have agree : AgreeOff (· = result) scope (scope.bind result (.list [])) :=
    (AgreeOff.bindLeft scope result _).symm
  refine (matches_unrollable elementFresh clausesFresh isUnrollable agree
    (Scope.lookup_bind_self _ _ _)).bind fun sink completion l r gathers => ?_
  obtain ⟨_, isBound⟩ := gathers
  exact Settles.meetsPure ((settles_return isBound).bind .pure) rfl

/-- Where no source after the first mentions a name that its own or a later clause binds and no condition one
that a later clause binds, a comprehension that gathers a list ends as nested loops do that add each item
to a list under a name of its own: with the same list, or with the same error, if neither goes beyond a
limit. A comprehension leaves the names around it as they were. -/
theorem comprehension_means_nested_loops (budget : Budget) {line : Nat} {collector : Collector}
    {element : Expression} {clauses : List Clause} {result : String} (gathersList : collector ≠ .set)
    (fresh : result ∉ (Expression.comprehension line collector element clauses).names)
    (isUnrollable : Unrollable clauses) (run : Run) :
    (¬ Exceeds budget (eval budget (.comprehension line collector element clauses)) run →
      ¬ Exceeds budget ((Tree.block (unrolled line result element clauses)).eval budget) run →
      (perform (eval budget (.comprehension line collector element clauses)) run).1 =
        (perform ((Tree.block (unrolled line result element clauses)).eval budget) run).1) ∧
    ∀ value after,
      perform (eval budget (.comprehension line collector element clauses)) run = (.ok value, after) →
      after.scope = run.scope := by
  refine ⟨fun within otherWithin => ?_, fun value after evaluated => scope_of_eval evaluated⟩
  exact (matches_unrolled gathersList fresh isUnrollable run.scope).ending_eq
    (fun _ _ _ _ same => same) within otherWithin

/-- The clauses of `for row in rows if row for x in row if x`. -/
def nonzeroItems : List Clause :=
  [.mk (.name 1 "row" .store) (.name 1 "rows" .load) [.name 1 "row" .load] false,
    .mk (.name 1 "x" .store) (.name 1 "row" .load) [.name 1 "x" .load] false]

/-- A run that has been given three rows of numbers, and another value for the name of a clause. -/
def threeRows : Run :=
  { scope := [("rows", .list [.list [.int 4, .int 0], .list [], .list [.int 5]]), ("x", .str "kept")] }

theorem comprehension_means_nested_loops_two_clauses :
    ∃ value after,
      perform (eval usualLimits (.comprehension 1 .list (.name 1 "x" .load) nonzeroItems)) threeRows =
        (.ok value, after) ∧
      Budget.limitedLength? value = some 2 ∧
      (perform ((Tree.block (unrolled 1 "gathered" (.name 1 "x" .load) nonzeroItems)).eval usualLimits)
        threeRows).1 = .ok value ∧
      after.scope = threeRows.scope := by
  obtain ⟨value, after, evaluated, isPair⟩ := @exists_perform_of_map _ _
    (eval usualLimits (.comprehension 1 .list (.name 1 "x" .load) nonzeroItems)) threeRows
    Budget.limitedLength? (some 2) (by decide +kernel)
  obtain ⟨returned, otherAfter, looped, -⟩ := @exists_perform_of_map _ _
    ((Tree.block (unrolled 1 "gathered" (.name 1 "x" .load) nonzeroItems)).eval usualLimits) threeRows
    Budget.limitedLength? (some 2) (by decide +kernel)
  obtain ⟨alike, keepsNames⟩ := @comprehension_means_nested_loops usualLimits 1 .list
    (.name 1 "x" .load) nonzeroItems "gathered" (by decide) (by decide) (by decide) threeRows
  refine ⟨value, after, evaluated, isPair, ?_, keepsNames value after evaluated⟩
  rw [← alike (not_exceeds_of_ok evaluated) (not_exceeds_of_ok looped), evaluated]

end Authorization.Script
