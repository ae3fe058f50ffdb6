import Authorization.Proofs.Script.Simulation

/-!
# Runs of scripts make progress and end

What one part of a run does with steps and names: it uses no private name, never comes to what no
accepted script holds, and takes no more steps than there are, with one step more only to be stopped for
it. Every operation of the evaluator is such a part, and so is then every run of a script. Since each
round of a loop takes a step, no loop runs out of rounds before the steps are used up.
-/

namespace Authorization.Script

open Eval

variable {α β : Type} {budget : Budget}

/-- A run has used public names only. -/
def Run.IsPublic (run : Run) : Prop :=
  ∀ access ∈ run.accesses, isPrivate access.name = false

/-- How a part of a run may end that begins after some steps: in a value, which has a cost in steps, or
with an error, within the limit of steps, or one step beyond it and because of that. -/
inductive Ended (budget : Budget) (cost : α → Nat) (post : α → Prop) (before : Nat) :
    Except Stop α × Run → Prop
  | ok {value : α} {after : Run} (isPost : post value) (paid : before + cost value ≤ after.steps)
      (inLimit : after.steps ≤ budget.limits.maxSteps) (isPublic : after.IsPublic) :
      Ended budget cost post before (.ok value, after)
  | failed (error : Error) {after : Run} (inLimit : after.steps ≤ budget.limits.maxSteps)
      (isPublic : after.IsPublic) : Ended budget cost post before (.error (.failed error), after)
  | exhausted {after : Run} (isNext : after.steps = budget.limits.maxSteps + 1)
      (isPublic : after.IsPublic) :
      Ended budget cost post before
        (.error (.failed (.limit (.steps budget.limits.maxSteps))), after)

/-- A part of a run is regular when it ends in one of these ways. -/
def Regular (budget : Budget) (cost : α → Nat) (post : α → Prop) (part : Eval α) : Prop :=
  ∀ run : Run, run.steps ≤ budget.limits.maxSteps → run.IsPublic →
    Ended budget cost post run.steps (perform part run)

/-! ## Parts put together -/

theorem Ended.mono {cost less : α → Nat} {post weaker : α → Prop} {before earlier : Nat}
    {final : Except Stop α × Run} (ended : Ended budget cost post before final)
    (cheaper : ∀ value, earlier + less value ≤ before + cost value)
    (implies : ∀ value, post value → weaker value) : Ended budget less weaker earlier final := by
  cases ended with
  | ok isPost paid inLimit isPublic =>
      exact .ok (implies _ isPost) (Nat.le_trans (cheaper _) paid) inLimit isPublic
  | failed error inLimit isPublic => exact .failed error inLimit isPublic
  | exhausted isNext isPublic => exact .exhausted isNext isPublic

theorem Regular.mono {cost less : α → Nat} {post weaker : α → Prop} {part : Eval α}
    (regular : Regular budget cost post part) (cheaper : ∀ value, less value ≤ cost value)
    (implies : ∀ value, post value → weaker value) : Regular budget less weaker part := by
  intro run inSteps clean
  exact (regular run inSteps clean).mono (fun value => Nat.add_le_add_left (cheaper value) _) implies

/-- A part that always succeeds, and takes no step. -/
theorem regular_of_perform {post : α → Prop} {part : Eval α} {value : Run → α} {after : Run → Run}
    (performed : ∀ run, perform part run = (.ok (value run), after run))
    (isPost : ∀ run, post (value run)) (steps : ∀ run, (after run).steps = run.steps)
    (isPublic : ∀ run : Run, run.IsPublic → (after run).IsPublic) :
    Regular budget (fun _ => 0) post part := by
  intro run inSteps clean
  rw [performed]
  have same := steps run
  exact .ok (isPost run) (by omega) (by omega) (isPublic run clean)

theorem regular_pure {post : α → Prop} {value : α} (isPost : post value) :
    Regular budget (fun _ => 0) post (pure value) :=
  regular_of_perform (perform_pure value) (fun _ => isPost) (fun _ => rfl) fun _ clean => clean

/-- What follows a regular part begins on a run that is still within the limit of steps. -/
theorem Regular.bind {cost : α → Nat} {finalCost : β → Nat} {post : α → Prop}
    {final : β → Prop} {part : Eval α} {next : α → Eval β} (regular : Regular budget cost post part)
    (restCost : β → Nat)
    (rest : ∀ value, post value → Regular budget restCost final (next value))
    (covered : ∀ value last, finalCost last ≤ cost value + restCost last) :
    Regular budget finalCost final (part >>= next) := by
  intro run inSteps clean
  have ended := regular run inSteps clean
  generalize performed : perform part run = ending at ended
  cases ended with
  | @ok value after isPost paid inLimit isPublic =>
      rw [perform_bind_of_ok performed]
      refine (rest value isPost after inLimit isPublic).mono (fun last => ?_) fun _ holds => holds
      have := covered value last
      omega
  | failed error inLimit isPublic =>
      rw [perform_bind_of_error performed]
      exact .failed error inLimit isPublic
  | exhausted isNext isPublic =>
      rw [perform_bind_of_error performed]
      exact .exhausted isNext isPublic

/-- Parts that follow each other at no known cost. -/
theorem Regular.andThen {post : α → Prop} {final : β → Prop} {part : Eval α} {next : α → Eval β}
    (regular : Regular budget (fun _ => 0) post part)
    (rest : ∀ value, post value → Regular budget (fun _ => 0) final (next value)) :
    Regular budget (fun _ => 0) final (part >>= next) :=
  regular.bind _ rest fun _ _ => Nat.le_refl _

theorem Eval.Plain.regular {part : Eval α} (plain : Plain part) :
    Regular budget (fun _ => 0) (fun _ => True) part := by
  intro run inSteps clean
  obtain ⟨result, cursors, performed⟩ := plain.exists_perform run
  rw [performed]
  cases result with
  | ok value => exact .ok trivial (Nat.le_refl _) inSteps clean
  | error error => exact .failed error inSteps clean

theorem regular_refuse {cost : α → Nat} {post : α → Prop} (refusal : Refusal) :
    Regular budget cost post (refuse refusal) :=
  fun _ inSteps clean => .failed _ inSteps clean

theorem regular_tick : Regular budget (fun _ => 1) (fun _ => True) budget.tick := by
  intro run inSteps clean
  rw [perform_tick]
  by_cases beyond : run.steps + 1 > budget.limits.maxSteps
  · rw [if_pos beyond]
    have isNext : run.steps + 1 = budget.limits.maxSteps + 1 := by omega
    exact .exhausted isNext clean
  · rw [if_neg beyond]
    have inLimit : run.steps + 1 ≤ budget.limits.maxSteps := by omega
    split
    · exact .failed _ inLimit clean
    · exact .ok trivial (Nat.le_refl _) inLimit clean

theorem regular_record (access : Access) (isPublic : isPrivate access.name = false) :
    Regular budget (fun _ => 0) (fun _ => True) (record access) :=
  regular_of_perform (perform_record access) (fun _ => trivial) (fun _ => rfl)
    fun _ clean => List.forall_mem_cons.2 ⟨isPublic, clean⟩

theorem regular_handle (value : Value) :
    Regular budget (fun _ => 0) (fun _ => True) (handle value) :=
  regular_of_perform (perform_handle value) (fun _ => trivial) (fun _ => rfl) fun _ clean => clean

theorem regular_bindName {name : String} (isPublic : isPrivate name = false) (value : Value) :
    Regular budget (fun _ => 0) (fun _ => True) (bindName name value) :=
  regular_of_perform (perform_bindName name value) (fun _ => trivial) (fun _ => rfl)
    fun _ clean => List.forall_mem_cons.2 ⟨isPublic, clean⟩

theorem regular_lookup {name : String} (isPublic : isPrivate name = false) :
    Regular budget (fun _ => 0) (fun _ => True) (lookup name) := by
  intro run inSteps clean
  rw [perform_lookup]
  have noted : Run.IsPublic { run with accesses := .lookup name :: run.accesses } :=
    List.forall_mem_cons.2 ⟨isPublic, clean⟩
  split
  · exact .ok trivial (Nat.le_refl _) inSteps noted
  · split
    · exact .ok trivial (Nat.le_refl _) inSteps noted
    · exact .failed _ inSteps noted

theorem regular_readAttribute (base : Value) {name : String} (isPublic : isPrivate name = false) :
    Regular budget (fun _ => 0) (fun _ => True) (readAttribute base name) := by
  rw [readAttribute_eq base isPublic]
  exact (regular_record (.attribute name) isPublic).andThen fun _ _ =>
    (plain_publicAttribute base name).regular

theorem regular_methodOf (base : Value) {name : String} (isPublic : isPrivate name = false) :
    Regular budget (fun _ => 0) (fun _ => True) (methodOf base name) := by
  rw [methodOf_eq]
  exact (regular_record (.attribute name) isPublic).andThen fun _ _ =>
    (plain_listedMethod base name).regular

theorem Regular.within {post : α → Prop} {action : Eval α}
    (regular : Regular budget (fun _ => 0) post action) :
    Regular budget (fun _ => 0) post (Eval.within action) := by
  intro run inSteps clean
  have ended := regular run inSteps clean
  rw [perform_within]
  generalize perform action run = ending at ended
  cases ended with
  | ok isPost paid inLimit isPublic => exact .ok isPost paid inLimit isPublic
  | failed error inLimit isPublic => exact .failed error inLimit isPublic
  | exhausted isNext isPublic => exact .exhausted isNext isPublic

/-! ## Loops -/

/-- A round after which a loop goes on costs a step. -/
def roundCost : ForInStep α → Nat
  | .done _ => 0
  | .yield _ => 1

/-- The state in which a round leaves a loop satisfies a condition. -/
def RoundPost (post : α → Prop) : ForInStep α → Prop
  | .done state | .yield state => post state

/-- With more rounds than there are steps left, a loop whose rounds take steps ends. -/
theorem ended_loop {post : α → Prop} {step : α → Eval (ForInStep α)}
    (each : ∀ state, post state → Regular budget roundCost (RoundPost post) (step state))
    {rounds : Nat} {state : α} (isPost : post state) (run : Run)
    (inSteps : run.steps ≤ budget.limits.maxSteps) (clean : run.IsPublic)
    (enough : budget.limits.maxSteps < run.steps + rounds) :
    Ended budget (fun _ => 0) post run.steps (perform (loop step rounds state) run) := by
  -- A round that goes on has taken a step, so that one round less is enough for the steps left.
  induction rounds generalizing state run with
  | zero => omega
  | succ rounds inductionHypothesis =>
      have ended := each state isPost run inSteps clean
      have shape : loop step (rounds + 1) state = (do
          match ← step state with
          | .done result => return result
          | .yield next => loop step rounds next) := rfl
      rw [shape]
      generalize performed : perform (step state) run = ending at ended
      cases ended with
      | failed error inLimit isPublic =>
          rw [perform_bind_of_error performed]
          exact .failed error inLimit isPublic
      | exhausted isNext isPublic =>
          rw [perform_bind_of_error performed]
          exact .exhausted isNext isPublic
      | @ok round after isRound paid inLimit isPublic =>
          rw [perform_bind_of_ok performed]
          cases round with
          | done last => exact .ok isRound paid inLimit isPublic
          | yield next =>
              have paid : run.steps + 1 ≤ after.steps := paid
              have left : budget.limits.maxSteps < after.steps + rounds := by omega
              refine (inductionHypothesis isRound after inLimit isPublic left).mono
                (fun last => ?_) fun _ holds => holds
              omega

theorem regular_loop {post : α → Prop} {step : α → Eval (ForInStep α)}
    (each : ∀ state, post state → Regular budget roundCost (RoundPost post) (step state))
    {state : α} (isPost : post state) :
    Regular budget (fun _ => 0) post (loop step budget.rounds state) := by
  intro run inSteps clean
  refine ended_loop each isPost run inSteps clean ?_
  have : budget.rounds = budget.limits.maxSteps + 2 := rfl
  omega

/-- A walk ends when its body takes a step for every item. -/
theorem regular_forEach {post : α → Prop} {body : Value → α → Eval (ForInStep α)}
    (each : ∀ item state, post state → Regular budget (fun _ => 1) (RoundPost post) (body item state))
    (source : Value) {state : α} (isPost : post state) :
    Regular budget (fun _ => 0) post (budget.forEach source state body) := by
  have visited (place : Iteration × α) (isPost : post place.2) :
      Regular budget roundCost (RoundPost fun place => post place.2) (visit body place) := by
    have advanced : Regular budget (fun _ => 0) (fun _ => True) (advance place.1) :=
      regular_of_perform (perform_advance place.1) (fun _ => trivial) (fun _ => rfl)
        fun _ clean => clean
    refine advanced.bind roundCost (fun item? _ => ?_) fun _ _ => by omega
    cases item? with
    | none =>
        intro run inSteps clean
        exact .ok isPost (Nat.le_refl _) inSteps clean
    | some found =>
        refine (regular_handle found.1).bind roundCost (fun _ _ => ?_) fun _ _ => by omega
        refine (each found.1 place.2 isPost).bind (fun _ => 0) (fun round isRound => ?_)
          fun _ last => by cases last <;> simp [roundCost]
        cases round with
        | done state => exact regular_pure isRound
        | yield state => exact regular_pure isRound
  rw [forEach_eq]
  refine (regular_handle source).andThen fun _ _ => ?_
  refine ((plain_ofExcept _).regular).andThen fun first _ => ?_
  exact (regular_loop visited isPost).andThen fun last isLast => regular_pure isLast

/-! ## Runs of scripts -/

theorem Regular.related {cost : α → Nat} {related : α → α → Prop} {part : Eval α}
    (regular : Regular budget cost (fun _ => True) part) (reflexive : ∀ value, related value value) :
    Regular budget cost (fun value => ∃ other, related value other) part :=
  regular.mono (fun _ => Nat.le_refl _) fun value _ => ⟨value, reflexive value⟩

/-- Every part of a run of an accepted script is regular. The rules of the simulation say so of the
first of its two parts; a value of the second one only shows that the first is related to something. -/
def progress (budget : Budget) : Simulation budget budget where
  alike := Eq
  likeness := likeness_eq
  admits _ := True
  literal := @likeness_literal_eq
  Together related part _ :=
    Regular budget (fun _ => 0) (fun value => ∃ other, related value other) part
  Paying related part _ :=
    Regular budget (fun _ => 1) (fun value => ∃ other, related value other) part
  together paying := paying.mono (fun _ => Nat.zero_le _) fun _ holds => holds
  pure related := regular_pure ⟨_, related⟩
  bind first rest := first.andThen fun value ⟨other, related⟩ => rest value other related
  payingBind first rest :=
    first.bind _ (fun value ⟨other, related⟩ => rest value other related) fun _ _ => Nat.le_refl _
  tick := regular_tick.related fun _ => rfl
  within action := action.within
  loop {α related step other a b} each start := by
    refine regular_loop (fun state ⟨other, isRelated⟩ => ?_) ⟨b, start⟩
    refine (each state other isRelated).mono (fun round => ?_) fun round ⟨_, rounds⟩ => ?_
    · cases round <;> simp [roundCost]
    · cases rounds with
      | done states => exact ⟨_, states⟩
      | yield states => exact ⟨_, states⟩
  forEach {α related body other source source' a b} _ start each := by
    refine regular_forEach (fun item state ⟨other, isRelated⟩ => ?_) source ⟨b, start⟩
    refine (each item item rfl state other isRelated).mono (fun _ => Nat.le_refl _)
      fun round ⟨_, rounds⟩ => ?_
    cases rounds with
    | done states => exact ⟨_, states⟩
    | yield states => exact ⟨_, states⟩
  lookup isPublic := (regular_lookup isPublic).related fun _ => rfl
  bindName isPublic _ := (regular_bindName isPublic _).related fun _ => rfl
  handle _ := (regular_handle _).related fun _ => rfl
  argument isPublic := (regular_record (.argument _) isPublic).related fun _ => rfl
  refuse _ _ := regular_refuse _
  items _ := (plain_ofDraw _).regular.related List.forall₂_refl
  checkSize _ := (budget.plain_checkSize _).regular.related fun _ => rfl
  applyUnary offered _ := (plain_applyUnary offered _).regular.related fun _ => rfl
  operate offered _ _ := (plain_operate budget offered _ _).regular.related fun _ => rfl
  compareValues _ _ operator _ _ _ _ _ _ :=
    (plain_compareValues _ operator _ _).regular.related fun _ => rfl
  readAttribute isPublic _ := (regular_readAttribute _ isPublic).related fun _ => rfl
  element _ _ := (plain_ofExcept _).regular.related fun _ => rfl
  methodOf isPublic _ := (regular_methodOf _ isPublic).related Callee.alike_refl
  functionOf _ := (plain_functionOf _).regular.related Callee.alike_refl
  prepare _ _ _ := (plain_prepare budget _ _ _).regular.related List.forall₂_refl
  carryOut _ _ _ := (plain_carryOut budget _ _ _).regular.related fun _ => rfl
  insert _ _ := (plain_ofExcept _).regular.related Sink.alike_refl
  store _ _ _ := (plain_ofExcept _).regular.related Sink.alike_refl
  checkSink _ := (plain_checkSink budget _).regular.related Sink.alike_refl

variable (script : Script) (budget : Budget) (names : Scope) (cursors : Cursors)

theorem ended_finish :
    Ended budget (fun _ => 0) (fun value => ∃ other, value = other) 0
      (finish script budget names cursors) :=
  (progress budget).script script (fun _ _ => trivial)
    (regular_refuse _) { scope := names, cursors } (Nat.zero_le _)
    fun _ member => absurd member List.not_mem_nil

/-- A run of an accepted script never comes to a construct, an operator, a target or an argument that
the evaluator does not know, and every name that it looks up or binds, every attribute or method that it
asks for and every argument that it names is public. -/
theorem outcome_makes_progress :
    (∀ refusal, (script.outcome budget names cursors).result ≠ .error (.unsupported refusal)) ∧
      ∀ access ∈ (script.outcome budget names cursors).accesses, isPrivate access.name = false := by
  have ended := ended_finish script budget names cursors
  rw [outcome_eq]
  generalize finish script budget names cursors = final at ended
  cases ended with
  | ok isPost paid inLimit isPublic => exact ⟨fun _ same => (nomatch same), isPublic⟩
  | failed error inLimit isPublic => exact ⟨fun _ same => (nomatch same), isPublic⟩
  | exhausted isNext isPublic => exact ⟨fun _ same => (nomatch same), isPublic⟩

/-- A run of an accepted script ends in a value or an error before a loop is out of rounds. It takes at
most as many steps as its limits allow, or one more, and then it is stopped because of that one. -/
theorem outcome_ends :
    ((∃ value, (script.outcome budget names cursors).result = .ok value) ∨
        ∃ error, (script.outcome budget names cursors).result = .error (.failed error)) ∧
      (script.outcome budget names cursors).steps ≤ budget.limits.maxSteps + 1 ∧
      ((script.outcome budget names cursors).steps ≤ budget.limits.maxSteps ∨
        (script.outcome budget names cursors).result =
          .error (.failed (.limit (.steps budget.limits.maxSteps)))) := by
  have ended := ended_finish script budget names cursors
  rw [outcome_eq]
  generalize finish script budget names cursors = final at ended
  cases ended with
  | ok isPost paid inLimit isPublic => exact ⟨.inl ⟨_, rfl⟩, Nat.le_succ_of_le inLimit, .inl inLimit⟩
  | failed error inLimit isPublic => exact ⟨.inr ⟨_, rfl⟩, Nat.le_succ_of_le inLimit, .inl inLimit⟩
  | exhausted isNext isPublic => exact ⟨.inr ⟨_, rfl⟩, Nat.le_of_eq isNext, .inr rfl⟩

end Authorization.Script
