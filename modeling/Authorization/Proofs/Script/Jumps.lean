import Authorization.Proofs.Script.Run

/-!
# Where break, continue and return lead

The execution of a statement tells how it has ended, and whoever executes it goes on accordingly. Told the
other way round, a statement is given the ways out of it, and a jump takes one of them: a loop hands its
body ways out of its own for break and continue, and passes on the way that a return takes. Both tell the
same of every script, so that break and continue act on the innermost loop around them and a return on the
whole run.

A break or continue that no loop is around is loose: it leads out of the script.
-/

namespace Authorization.Script

open Eval

variable {α β : Type}

/-! ## Loops with their states in another form -/

/-- A round of a loop, its state in another form. -/
def mapRound (write : α → β) : ForInStep α → ForInStep β
  | .done state => .done (write state)
  | .yield state => .yield (write state)

theorem loop_map {write : α → β} {step : α → Eval (ForInStep α)} {other : β → Eval (ForInStep β)}
    (same : ∀ state, other (write state) = mapRound write <$> step state) (rounds : Nat) (state : α) :
    loop other rounds (write state) = write <$> loop step rounds state := by
  induction rounds generalizing state with
  | zero => rfl
  | succ rounds inductionHypothesis =>
      unfold loop
      rw [same, bind_map_left, map_bind]
      refine congrArg (step state >>= ·) (funext fun round => ?_)
      cases round with
      | done last => exact (map_pure write last).symm
      | yield next => exact inductionHypothesis next

theorem forEach_map {write : α → β} {body : Value → α → Eval (ForInStep α)}
    {other : Value → β → Eval (ForInStep β)}
    (same : ∀ item state, other item (write state) = mapRound write <$> body item state)
    (budget : Budget) (source : Value) (state : α) :
    budget.forEach source (write state) other = write <$> budget.forEach source state body := by
  let writePlace (place : Iteration × α) : Iteration × β := (place.1, write place.2)
  have visited (place : Iteration × α) :
      visit other (writePlace place) = mapRound writePlace <$> visit body place := by
    unfold visit
    rw [map_bind]
    refine congrArg (advance place.1 >>= ·) (funext fun item? => ?_)
    cases item? with
    | none => exact (map_pure _ _).symm
    | some found =>
        simp only [writePlace, same, map_bind, bind_map_left]
        refine congrArg (handle found.1 >>= ·) (funext fun _ => ?_)
        refine congrArg (body found.1 place.2 >>= ·) (funext fun round => ?_)
        cases round <;> exact (map_pure _ _).symm
  have looped (first : Iteration) :
      loop (visit other) budget.rounds (first, write state) =
        writePlace <$> loop (visit body) budget.rounds (first, state) :=
    loop_map visited budget.rounds (first, state)
  simp only [forEach_eq, looped, map_bind, bind_map_left, map_pure, writePlace]

/-! ## Ways out -/

/-- The ways out of a statement: where it leads when it ends normally, and where the jumps lead that leave
it. -/
structure Exits (α : Type) where
  next : Eval α
  broken : Eval α
  continued : Eval α
  returned : Value → Eval α

namespace Exits

/-- The way out that goes with an end of a statement. -/
def after (exits : Exits α) : Completion → Eval α
  | .normal => exits.next
  | .broke => exits.broken
  | .continued => exits.continued
  | .returned value => exits.returned value

/-- The ways out of the body of a loop: a break ends the loop, a continue the round, and a return ends the
loop with a value that still has to be returned. -/
def ofRound : Exits (ForInStep (Option Value)) where
  next := return .yield none
  broken := return .done none
  continued := return .yield none
  returned value := return .done (some value)

/-- The way out after a loop, which a return in it has ended or nothing has. -/
def afterLoop (exits : Exits α) : Option Value → Eval α
  | none => exits.next
  | some value => exits.returned value

/-- The ways out of a whole script. -/
def ofScript : Exits Value where
  next := return .null
  broken := refuse .looseLoopControl
  continued := refuse .looseLoopControl
  returned value := return value

end Exits

mutual

/-- Executes a statement and takes one of its ways out. -/
def follow {α : Type} (budget : Budget) (exits : Exits α) : Statement → Eval α
  | .breakLoop _ => do
    budget.tick
    exits.broken
  | .continueLoop _ => do
    budget.tick
    exits.continued
  | .returnValue _ value => do
    budget.tick
    exits.returned (← evalOption budget value)
  | .branch _ test body orElse => do
    budget.tick
    if (← eval budget test).truthy then followBlock budget exits body
    else followBlock budget exits orElse
  | .forLoop _ target source body _ => do
    budget.tick
    let items ← eval budget source
    exits.afterLoop (← budget.forEach items none fun item _ => do
      budget.tick
      assign target item
      followBlock budget .ofRound body)
  | .whileLoop _ test body _ => do
    budget.tick
    exits.afterLoop (← Eval.loop (fun _ => do
      if (← eval budget test).truthy then followBlock budget .ofRound body
      else return .done none) budget.rounds none)
  | statement => do
    let _ ← exec budget statement
    exits.next

/-- Executes statements, the way out of each one being the rest of them, and takes one of the ways out of
the last. -/
def followBlock {α : Type} (budget : Budget) (exits : Exits α) : List Statement → Eval α
  | [] => exits.next
  | statement :: rest => follow budget { exits with next := followBlock budget exits rest } statement

end

/-- The value of a tree, all jumps of its block followed. -/
def Tree.follow (budget : Budget) : Tree → Eval Value
  | .expression body => Script.eval budget body
  | .block body => followBlock budget .ofScript body

/-! ## Following jumps is executing statements -/

/-- How a loop ends that a return has ended or nothing has. -/
def Completion.ofLoop : Option Value → Completion
  | none => .normal
  | some value => .returned value

theorem Exits.after_ofLoop (exits : Exits α) (ended : Option Value) :
    exits.after (.ofLoop ended) = exits.afterLoop ended := by
  cases ended <;> rfl

/-- A loop that ends with a value to return or without one goes on where its jumps lead. -/
theorem Exits.after_loop (exits : Exits α) (part : Eval (Option Value)) :
    (Completion.ofLoop <$> part) >>= exits.after = part >>= exits.afterLoop := by
  rw [bind_map_left]
  simp only [after_ofLoop]

/-- The end of a round, taken as a way out of the body of its loop. -/
theorem Exits.map_ofRound_after (completion : Completion) :
    mapRound Completion.ofLoop <$> Exits.ofRound.after completion =
      (pure (afterRound completion) : Eval (ForInStep Completion)) := by
  cases completion <;> exact map_pure _ _

section Statements

variable (budget : Budget)

/-- A statement for a loop, what its rounds leave told by the value to return. -/
theorem exec_forLoop (line : Nat) (target source : Expression) (body orElse : List Statement) :
    exec budget (.forLoop line target source body orElse) = (do
      budget.tick
      let items ← eval budget source
      Completion.ofLoop <$> budget.forEach items none fun item _ => do
        budget.tick
        assign target item
        execBlock budget body >>= Exits.ofRound.after) := by
  have round (item : Value) (_ : Option Value) :
      (do
        budget.tick
        assign target item
        return afterRound (← execBlock budget body)) =
      mapRound Completion.ofLoop <$> (do
        budget.tick
        assign target item
        execBlock budget body >>= Exits.ofRound.after) := by
    simp only [map_bind, Exits.map_ofRound_after]
  refine congrArg (budget.tick >>= ·) (funext fun _ => ?_)
  refine congrArg (eval budget source >>= ·) (funext fun items => ?_)
  exact @forEach_map _ _ Completion.ofLoop _ _ round budget items none

theorem exec_whileLoop (line : Nat) (test : Expression) (body orElse : List Statement) :
    exec budget (.whileLoop line test body orElse) = (do
      budget.tick
      Completion.ofLoop <$> Eval.loop (fun _ => do
        if (← eval budget test).truthy then execBlock budget body >>= Exits.ofRound.after
        else return .done none) budget.rounds none) := by
  have round (_ : Option Value) :
      (do
        if (← eval budget test).truthy then return afterRound (← execBlock budget body)
        else return .done .normal) =
      mapRound Completion.ofLoop <$> (do
        if (← eval budget test).truthy then execBlock budget body >>= Exits.ofRound.after
        else return .done none) := by
    rw [map_bind]
    refine congrArg (eval budget test >>= ·) (funext fun value => ?_)
    split
    · simp only [map_bind, Exits.map_ofRound_after]
    · exact (map_pure _ _).symm
  refine congrArg (budget.tick >>= ·) (funext fun _ => ?_)
  exact @loop_map _ _ Completion.ofLoop _ _ round budget.rounds none

/-- A statement without statements in it that is no jump. -/
def Statement.isSimple : Statement → Bool
  | .expression .. | .assign .. | .augmentedAssign .. | .pass _ | .foreign .. => true
  | _ => false

/-- A simple statement can only end normally. -/
theorem exists_exec_simple {statement : Statement} (isSimple : statement.isSimple = true) :
    ∃ part : Eval Unit, exec budget statement = part >>= fun _ => return .normal := by
  have stopped (refusal : Refusal) : (do budget.tick; Eval.unsupported refusal) =
      (do budget.tick; Eval.unsupported refusal : Eval Unit) >>= fun _ =>
        (return .normal : Eval Completion) := by
    rw [bind_assoc]
    rfl
  cases statement with
  | expression line value =>
      exact ⟨do budget.tick; let _ ← eval budget value, by simp [exec]⟩
  | assign line targets value =>
      refine ⟨do budget.tick; let result ← eval budget value; targets.forM (assign · result), ?_⟩
      simp [exec]
  | augmentedAssign line target operator value =>
      cases target with
      | name targetLine identifier use =>
          refine ⟨do
            budget.tick
            let current ← lookup identifier
            let operand ← eval budget value
            Eval.bindName identifier (← operate budget operator current operand), ?_⟩
          simp [exec]
      | _ => exact ⟨_, stopped _⟩
  | pass line => exact ⟨budget.tick, rfl⟩
  | foreign line construct => exact ⟨_, stopped _⟩
  | _ => cases isSimple

theorem follow_simple {statement : Statement} (isSimple : statement.isSimple = true)
    (exits : Exits α) : follow budget exits statement = exec budget statement >>= exits.after := by
  have followed : follow budget exits statement = exec budget statement >>= fun _ => exits.next := by
    cases statement <;> first | rfl | cases isSimple
  obtain ⟨part, same⟩ := exists_exec_simple budget isSimple
  rw [followed, same]
  simp only [bind_assoc, pure_bind]
  rfl

mutual

/-- A statement leads where it goes on according to how it has ended. -/
theorem follow_eq {α : Type} (exits : Exits α) :
    (statement : Statement) → follow budget exits statement = exec budget statement >>= exits.after
  | .breakLoop _ | .continueLoop _ => by simp [follow, exec, Exits.after]
  | .returnValue _ value => by simp [follow, exec, Exits.after]
  | .branch _ test body orElse => by
      simp only [follow, exec, bind_assoc, followBlock_eq exits body, followBlock_eq exits orElse]
      refine congrArg (budget.tick >>= ·) (funext fun _ => ?_)
      refine congrArg (eval budget test >>= ·) (funext fun value => ?_)
      split <;> rfl
  | .forLoop line target source body orElse => by
      simp only [follow, exec_forLoop, bind_assoc, Exits.after_loop, followBlock_eq .ofRound body]
  | .whileLoop line test body orElse => by
      simp only [follow, exec_whileLoop, bind_assoc, Exits.after_loop, followBlock_eq .ofRound body]
  | .expression .. | .assign .. | .augmentedAssign .. | .pass _ | .foreign .. =>
      follow_simple budget rfl exits

theorem followBlock_eq {α : Type} (exits : Exits α) :
    (block : List Statement) →
      followBlock budget exits block = execBlock budget block >>= exits.after
  | [] => (pure_bind _ _).symm
  | statement :: rest => by
      rw [followBlock, follow_eq _ statement, execBlock, bind_assoc]
      refine congrArg (exec budget statement >>= ·) (funext fun completion => ?_)
      cases completion with
      | normal => exact followBlock_eq exits rest
      | _ => exact (pure_bind _ _).symm

end

end Statements

theorem Tree.eval_block (budget : Budget) (body : List Statement) :
    Tree.eval budget (.block body) = execBlock budget body >>= Exits.ofScript.after := by
  refine congrArg (execBlock budget body >>= ·) (funext fun completion => ?_)
  cases completion <;> rfl

/-- The value of a tree is what its jumps lead to. -/
theorem Tree.follow_eq (budget : Budget) (tree : Tree) : tree.follow budget = tree.eval budget := by
  cases tree with
  | expression body => rfl
  | block body => exact (followBlock_eq budget .ofScript body).trans (eval_block budget body).symm

/-! ## Loose jumps -/

/-- A statement has ended by a break or continue that is still to act on a loop. -/
def Completion.isJump : Completion → Bool
  | .broke | .continued => true
  | _ => false

mutual

/-- There is a break or continue in a statement that no loop in it is around. -/
def Statement.holdsLooseJump : Statement → Bool
  | .breakLoop _ | .continueLoop _ => true
  | .branch _ _ body orElse => holdLooseJump body || holdLooseJump orElse
  | _ => false

/-- There is a break or continue in a block that no loop in it is around. -/
def holdLooseJump : List Statement → Bool
  | [] => false
  | statement :: rest => statement.holdsLooseJump || holdLooseJump rest

end

/-- There is a break or continue in a script that no loop is around. -/
def Tree.holdsLooseJump : Tree → Bool
  | .expression _ => false
  | .block body => holdLooseJump body

/-- A part of a run ends in a result of a certain sort or is stopped in certain ways. -/
def Ends (stops : Stop → Prop) (sort : α → Prop) (part : Eval α) : Prop :=
  ∀ run, match (perform part run).1 with
    | .ok value => sort value
    | .error stop => stops stop

section Ends

variable {stops : Stop → Prop} {sort : α → Prop} {final : β → Prop}

theorem Ends.ok {part : Eval α} (ends : Ends stops sort part) {run after : Run} {value : α}
    (performed : perform part run = (.ok value, after)) : sort value := by
  have here := ends run
  rwa [performed] at here

theorem Ends.stop {part : Eval α} (ends : Ends stops sort part) {run after : Run} {stop : Stop}
    (performed : perform part run = (.error stop, after)) : stops stop := by
  have here := ends run
  rwa [performed] at here

theorem ends_any (part : Eval α) : Ends (fun _ => True) (fun _ => True) part := by
  intro run
  split <;> trivial

theorem ends_pure {value : α} (holds : sort value) : Ends stops sort (pure value) :=
  fun _ => holds

theorem Ends.bind {part : Eval α} {next : α → Eval β} (ends : Ends stops sort part)
    (rest : ∀ value, sort value → Ends stops final (next value)) :
    Ends stops final (part >>= next) := by
  intro run
  rw [perform_bind]
  have here := ends run
  generalize perform part run = ending at here
  obtain ⟨stop | value, after⟩ := ending
  · exact here
  · exact rest value here after

theorem Ends.map {part : Eval α} (ends : Ends stops sort part) {write : α → β}
    (each : ∀ value, sort value → final (write value)) : Ends stops final (write <$> part) := by
  rw [map_eq_pure_bind]
  exact ends.bind fun value holds => ends_pure (each value holds)

theorem Ends.mono {weaker : α → Prop} {part : Eval α} (ends : Ends stops sort part)
    (implies : ∀ value, sort value → weaker value) : Ends stops weaker part := by
  intro run
  have here := ends run
  generalize (perform part run).1 = result at here
  cases result with
  | ok value => exact implies value here
  | error stop => exact here

theorem Ends.ite {condition : Prop} [Decidable condition] {part other : Eval α}
    (ends : Ends stops sort part) (endsOther : Ends stops sort other) :
    Ends stops sort (if condition then part else other) := by
  split
  · exact ends
  · exact endsOther

theorem Ends.within {action : Eval α} (ends : Ends stops sort action) :
    Ends stops sort (Eval.within action) := by
  intro run
  have here := ends run
  rw [perform_within]
  generalize perform action run = ending at here
  obtain ⟨stop | value, after⟩ := ending
  · exact here
  · exact here

end Ends

theorem ends_exec_simple (budget : Budget) {statement : Statement}
    (isSimple : statement.isSimple = true) :
    Ends (fun _ => True) (fun completion => completion.isJump = false) (exec budget statement) := by
  obtain ⟨part, same⟩ := exists_exec_simple budget isSimple
  rw [same]
  exact (ends_any part).bind fun _ _ => ends_pure rfl

mutual

/-- Without a loose jump in it a statement does not end by a jump: a loop takes all that are in it. -/
theorem ends_exec (budget : Budget) :
    (statement : Statement) → statement.holdsLooseJump = false →
      Ends (fun _ => True) (fun completion => completion.isJump = false) (exec budget statement)
  | .breakLoop _, bound | .continueLoop _, bound => nomatch bound
  | .returnValue _ value, _ =>
      (ends_any _).bind fun _ _ => (ends_any _).bind fun _ _ => ends_pure rfl
  | .branch _ test body orElse, bound => by
      obtain ⟨bodyBound, elseBound⟩ := Bool.or_eq_false_iff.1 bound
      refine (ends_any _).bind fun _ _ => (ends_any _).bind fun value _ => ?_
      split
      · exact ends_execBlock budget body bodyBound
      · exact ends_execBlock budget orElse elseBound
  | .forLoop line target source body orElse, _ => by
      rw [exec_forLoop]
      refine (ends_any _).bind fun _ _ => (ends_any _).bind fun items _ => ?_
      exact (ends_any _).map fun ended _ => by cases ended <;> rfl
  | .whileLoop line test body orElse, _ => by
      rw [exec_whileLoop]
      refine (ends_any _).bind fun _ _ => ?_
      exact (ends_any _).map fun ended _ => by cases ended <;> rfl
  | .expression .., _ | .assign .., _ | .augmentedAssign .., _ | .pass _, _ | .foreign .., _ =>
      ends_exec_simple budget rfl

theorem ends_execBlock (budget : Budget) :
    (block : List Statement) → holdLooseJump block = false →
      Ends (fun _ => True) (fun completion => completion.isJump = false) (execBlock budget block)
  | [], _ => ends_pure rfl
  | statement :: rest, bound => by
      obtain ⟨here, others⟩ := Bool.or_eq_false_iff.1 bound
      refine (ends_exec budget statement here).bind fun completion noJump => ?_
      cases completion with
      | normal => exact ends_execBlock budget rest others
      | _ => exact ends_pure noJump

end

end Authorization.Script
