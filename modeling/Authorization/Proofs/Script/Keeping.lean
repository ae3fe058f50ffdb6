import Authorization.Proofs.Script.Progress
import Authorization.Proofs.Script.Results

/-!
# What runs of scripts are made of

A run that starts from names made of values that satisfy a lasting condition binds, handles and returns
only values that are made of such. Sizes of results are checked before they can get into anything else.
Where one-shot sequences are excluded, a run neither looks at what has been taken from them nor takes
anything.
-/

namespace Authorization

/-! ## Values that can be gone through again -/

namespace Value

/-- A value is no one-shot sequence. -/
def NotOneShot : Value → Prop
  | .oneShot .. => False
  | _ => True

/-- No one-shot sequence is in a value, at any depth. -/
def Repeatable (value : Value) : Prop :=
  value.MadeOf NotOneShot

/-- No one-shot sequence is in the keys and the values of a mapping. -/
def EntriesRepeatable (entries : List (Value × Value)) : Prop :=
  EntriesMadeOf NotOneShot entries

theorem excludesShared_notOneShot : ExcludesShared NotOneShot :=
  fun _ _ notOneShot => notOneShot

theorem notOneShot_properties {value : Value} (leaf : value.parts = []) :
    ∀ field ∈ value.properties, field.2.NotOneShot := by
  have none {fields : List (String × Value)} (same : fields.map Prod.snd = []) : fields = [] :=
    List.map_eq_nil_iff.1 same
  cases value with
  | object tag fields => simp [properties, none leaf]
  | record kind fields =>
      cases kind with
      | permission => simp [properties, none leaf, NotOneShot]
      | _ => simp [properties, none leaf]
  | slice lower upper step => cases leaf
  | instant time => cases offset : time.offset <;> simp [properties, offset, NotOneShot]
  | _ => simp [properties, NotOneShot]

theorem lasting_notOneShot : Lasting NotOneShot where
  plain {value} isPlain := by
    cases value with
    | oneShot tag items => cases isPlain
    | _ => trivial
  int _ := trivial
  negated _ := trivial
  range _ _ _ := trivial
  member _ _ := trivial
  span _ := trivial
  moved _ _ := trivial
  since _ _ _ := trivial
  shown _ leaf := notOneShot_properties leaf

theorem repeatable_str (text : String) : (Value.str text).Repeatable :=
  lasting_notOneShot.madeOf_str text

theorem repeatable_literal (literal : Script.Literal) : literal.toValue.Repeatable := by
  cases literal with
  | int n => exact madeOf_leaf trivial rfl
  | _ => exact lasting_notOneShot.leaf trivial rfl

end Value

end Authorization

namespace Authorization.Script

open Value Draw Eval

variable {α β : Type} {p : Value → Prop}

/-- What a run has bound and handled is made of values that satisfy a condition. -/
structure Run.MadeOf (p : Value → Prop) (run : Run) : Prop where
  scope : ∀ bound ∈ run.scope, bound.2.MadeOf p
  handled : ∀ value ∈ run.handled, value.MadeOf p

/-- A part of a run keeps what the run is made of, and its result satisfies a condition. Where one-shot
sequences are excluded, it neither looks at the cursors nor moves them. -/
structure Keeps (p : Value → Prop) (post : α → Prop) (part : Eval α) : Prop where
  made {run : Run} : run.MadeOf p → (perform part run).2.MadeOf p
  post {run : Run} {value : α} : run.MadeOf p → (perform part run).1 = .ok value → post value
  steady : ExcludesShared p → ∀ {run : Run}, run.MadeOf p → ∀ cursors,
    perform part { run with cursors } =
      ((perform part run).1, { (perform part run).2 with cursors })

theorem Keeps.holds {post : α → Prop} {part : Eval α} (keeps : Keeps p post part) {run : Run}
    (isMade : run.MadeOf p) (value : α) (same : (perform part run).1 = .ok value) : post value :=
  keeps.post isMade same

/-! ## Parts put together -/

theorem keeps_pure {post : α → Prop} {value : α} (holds : post value) : Keeps p post (pure value) where
  made isMade := isMade
  post _ same := by
    cases same
    exact holds
  steady _ _ _ _ := rfl

theorem keeps_fail {post : α → Prop} (error : Error) : Keeps p post (fail error : Eval α) where
  made isMade := isMade
  post _ same := nomatch same
  steady _ _ _ _ := rfl

theorem Keeps.mono {post weaker : α → Prop} {part : Eval α} (keeps : Keeps p post part)
    (implies : ∀ value, post value → weaker value) : Keeps p weaker part :=
  ⟨keeps.made, fun isMade same => implies _ (keeps.post isMade same), keeps.steady⟩

theorem Keeps.bind {post : α → Prop} {final : β → Prop} {part : Eval α} {next : α → Eval β}
    (keeps : Keeps p post part) (rest : ∀ value, post value → Keeps p final (next value)) :
    Keeps p final (part >>= next) := by
  constructor
  · intro run isMade
    have here := keeps.made isMade
    have holds := keeps.holds isMade
    rw [perform_bind]
    generalize perform part run = ending at here holds
    obtain ⟨_ | value, after⟩ := ending
    · exact here
    · exact (rest value (holds value rfl)).made here
  · intro run last isMade same
    have here := keeps.made isMade
    have holds := keeps.holds isMade
    rw [perform_bind] at same
    generalize perform part run = ending at here holds same
    obtain ⟨_ | value, after⟩ := ending
    · cases same
    · exact (rest value (holds value rfl)).post here same
  · intro excluded run isMade cursors
    have here := keeps.made isMade
    have holds := keeps.holds isMade
    rw [perform_bind, keeps.steady excluded isMade cursors, perform_bind]
    generalize perform part run = ending at here holds
    obtain ⟨_ | value, after⟩ := ending
    · rfl
    · exact (rest value (holds value rfl)).steady excluded here cursors

theorem Keeps.ite {post : α → Prop} {condition : Prop} [Decidable condition] {part other : Eval α}
    (keeps : condition → Keeps p post part) (keepsOther : ¬ condition → Keeps p post other) :
    Keeps p post (if condition then part else other) := by
  split
  · exact keeps ‹_›
  · exact keepsOther ‹_›

theorem keeps_ofExcept {post : α → Prop} {result : Except Error α}
    (holds : ∀ value, result = .ok value → post value) : Keeps p post (ofExcept result) := by
  cases result with
  | ok value => exact keeps_pure (holds value rfl)
  | error error => exact keeps_fail error

theorem keeps_ofDraw {post : α → Prop} {draw : Draw α} (gives : Gives p post draw) :
    Keeps p post (ofDraw draw) := by
  constructor
  · intro run isMade
    rw [perform_ofDraw]
    exact ⟨isMade.scope, isMade.handled⟩
  · intro run value isMade same
    rw [perform_ofDraw] at same
    generalize taken : Id.run (draw.run.run run.cursors) = ending at same
    obtain ⟨_ | found, after⟩ := ending
    · cases same
    · cases same
      exact gives.post taken
  · intro excluded run isMade cursors
    obtain ⟨result, taken⟩ := gives.steady excluded
    rw [perform_ofDraw, perform_ofDraw, taken, taken]

theorem keeps_record (access : Access) : Keeps p (fun _ => True) (record access) where
  made isMade := ⟨isMade.scope, isMade.handled⟩
  post _ _ := trivial
  steady _ _ _ _ := rfl

theorem keeps_handle {value : Value} (given : value.MadeOf p) :
    Keeps p (fun _ => True) (handle value) where
  made isMade := ⟨isMade.scope, List.forall_mem_cons.2 ⟨given, isMade.handled⟩⟩
  post _ _ := trivial
  steady _ _ _ _ := rfl

theorem keeps_bindName (name : String) {value : Value} (given : value.MadeOf p) :
    Keeps p (fun _ => True) (bindName name value) where
  made isMade :=
    ⟨List.forall_mem_cons.2 ⟨given, fun _ member => isMade.scope _ (List.mem_filter.1 member).1⟩,
      List.forall_mem_cons.2 ⟨given, isMade.handled⟩⟩
  post _ _ := trivial
  steady _ _ _ _ := rfl

theorem keeps_tick (budget : Budget) : Keeps p (fun _ => True) budget.tick where
  made isMade := by
    rw [perform_tick]
    exact ⟨isMade.scope, isMade.handled⟩
  post _ _ := trivial
  steady _ _ _ _ := by
    rw [perform_tick, perform_tick]

theorem Keeps.within {post : α → Prop} {part : Eval α} (keeps : Keeps p post part) :
    Keeps p post (Eval.within part) := by
  constructor
  · intro run isMade
    have here := keeps.made isMade
    rw [perform_within]
    generalize perform part run = ending at here
    obtain ⟨_ | value, after⟩ := ending
    · exact here
    · exact ⟨isMade.scope, here.handled⟩
  · intro run value isMade same
    have holds := keeps.holds isMade
    rw [perform_within] at same
    generalize perform part run = ending at holds same
    obtain ⟨_ | found, after⟩ := ending
    · cases same
    · exact holds value same
  · intro excluded run isMade cursors
    rw [perform_within, keeps.steady excluded isMade cursors, perform_within]
    rcases perform part run with ⟨_ | value, after⟩
    · rfl
    · rfl

theorem madeOf_knownValue? (lasting : Lasting p) {name : String} {value : Value}
    (isKnown : knownValue? name = some value) : value.MadeOf p := by
  unfold knownValue? at isKnown
  split at isKnown
  · cases isKnown
    exact lasting.madeOf_null
  · cases isKnown
    exact lasting.madeOf_bool true
  · cases isKnown
    exact lasting.madeOf_bool false
  · obtain ⟨f, -, rfl⟩ := Option.map_eq_some_iff.1 isKnown
    exact lasting.leaf trivial rfl

/-- The value of a name in a scope, or else of the language itself. -/
theorem keeps_valueOf (lasting : Lasting p) (name : String) {scope : Scope}
    (inScope : ∀ bound ∈ scope, bound.2.MadeOf p) :
    Keeps p (Value.MadeOf p) (match scope.lookup name with
      | some value => pure value
      | none =>
        match knownValue? name with
        | some value => pure value
        | none => refuse (.unbound name) : Eval Value) := by
  split
  · rename_i value isBound
    exact keeps_pure (inScope _ (mem_of_lookup isBound))
  · split
    · rename_i value isKnown
      exact keeps_pure (madeOf_knownValue? lasting isKnown)
    · exact keeps_fail _

theorem keeps_lookup (lasting : Lasting p) (name : String) :
    Keeps p (Value.MadeOf p) (lookup name) := by
  have noted {run : Run} (isMade : run.MadeOf p) :
      Run.MadeOf p { run with accesses := .lookup name :: run.accesses } :=
    ⟨isMade.scope, isMade.handled⟩
  constructor
  · intro run isMade
    rw [perform_lookup]
    exact (keeps_valueOf lasting name isMade.scope).made (noted isMade)
  · intro run value isMade same
    rw [perform_lookup] at same
    exact (keeps_valueOf lasting name isMade.scope).post (noted isMade) same
  · intro excluded run isMade cursors
    rw [perform_lookup, perform_lookup]
    exact (keeps_valueOf lasting name isMade.scope).steady excluded (noted isMade) cursors

/-! ## Loops -/

theorem keeps_loop {post : α → Prop} {step : α → Eval (ForInStep α)}
    (each : ∀ state, post state → Keeps p (RoundPost post) (step state)) (rounds : Nat)
    {state : α} (holds : post state) : Keeps p post (loop step rounds state) := by
  induction rounds generalizing state with
  | zero => exact ⟨fun isMade => isMade, fun _ same => (nomatch same), fun _ _ _ _ => rfl⟩
  | succ rounds inductionHypothesis =>
      refine (each state holds).bind fun round isLeft => ?_
      cases round with
      | done last => exact keeps_pure isLeft
      | yield next => exact inductionHypothesis isLeft

theorem keeps_advance {walk : Iteration} (isMade : walk.MadeOf p) :
    Keeps p (fun found? => ∀ found ∈ found?, found.1.MadeOf p ∧ found.2.MadeOf p)
      (advance walk) := by
  constructor
  · intro run made
    exact ⟨made.scope, made.handled⟩
  · intro run found? _ same found isFound
    rw [perform_advance] at same
    cases same
    exact Iteration.madeOf_next? isMade (Prod.ext isFound rfl)
  · intro excluded run _ cursors
    obtain ⟨found, next⟩ := (Iteration.isOwn_of_madeOf excluded isMade).exists_next?
    rw [perform_advance, perform_advance, next, next]

theorem keeps_forEach (lasting : Lasting p) {budget : Budget} {post : α → Prop}
    {body : Value → α → Eval (ForInStep α)}
    (each : ∀ item state, item.MadeOf p → post state →
      Keeps p (RoundPost post) (body item state))
    {source : Value} (given : source.MadeOf p) {state : α} (holds : post state) :
    Keeps p post (budget.forEach source state body) := by
  let inPlace : Iteration × α → Prop := fun place => place.1.MadeOf p ∧ post place.2
  have visited (place : Iteration × α) (holds : inPlace place) :
      Keeps p (RoundPost inPlace) (visit body place) := by
    refine (keeps_advance holds.1).bind fun found? isMade => ?_
    cases found? with
    | none => exact keeps_pure holds
    | some found =>
        obtain ⟨item, rest⟩ := isMade found rfl
        refine (keeps_handle item).bind fun _ _ => ?_
        refine (each found.1 place.2 item holds.2).bind fun round isLeft => ?_
        cases round with
        | done state => exact keeps_pure ⟨rest, isLeft⟩
        | yield state => exact keeps_pure ⟨rest, isLeft⟩
  rw [forEach_eq]
  refine (keeps_handle given).bind fun _ _ => ?_
  have started : Keeps p (fun walk => walk.MadeOf p) (ofExcept source.iteration) :=
    keeps_ofExcept fun _ isWalk => madeOf_iteration lasting given isWalk
  refine started.bind fun walk isMade => ?_
  have start : inPlace (walk, state) := ⟨isMade, holds⟩
  exact (keeps_loop visited budget.rounds start).bind fun last isLast => keeps_pure isLast.2

/-! ## Operations on values -/

section Operations

variable (lasting : Lasting p) (budget : Budget)

include lasting

/-- A result passes the check of its size only when it is made of what is admitted. -/
theorem keeps_checkSize {value : Value} (unchecked : value.Unchecked p) :
    Keeps p (Value.MadeOf p) (budget.checkSize value) := by
  obtain made | ⟨n, rfl⟩ := unchecked
  · have passed : Keeps p (Value.MadeOf p) (pure value) := keeps_pure made
    unfold Budget.checkSize
    split
    · exact .ite (fun _ => keeps_fail _) fun _ => passed
    · split
      · exact passed
      · refine .ite (fun _ => keeps_ofExcept fun _ same => (nomatch same)) fun _ => ?_
        exact .ite (fun _ => keeps_fail _) fun _ => passed
  · refine .ite (fun _ => keeps_fail _) fun inSize => keeps_pure ?_
    exact lasting.madeOf_int (Nat.le_of_not_lt inSize)

theorem keeps_checked {draw : Draw Value} (gives : Gives p (Unchecked p) draw) :
    Keeps p (Value.MadeOf p) (do budget.checkSize (← ofDraw draw)) :=
  (keeps_ofDraw gives).bind fun _ unchecked => keeps_checkSize lasting budget unchecked

omit lasting in
theorem keeps_checkOperands (operator : BinaryOperator) (left right : Value) :
    Keeps p (fun _ => True) (checkOperands budget operator left right) := by
  have nothing : Keeps p (fun _ => True) (pure () : Eval Unit) := keeps_pure trivial
  unfold checkOperands
  split
  · unfold checkPower
    split
    · split
      · exact keeps_fail _
      · exact keeps_ofExcept fun _ _ => trivial
    · split
      · exact .ite (fun _ => keeps_fail _) fun _ => nothing
      · exact nothing
  · split
    · exact keeps_fail _
    · exact nothing
  · unfold checkProduct
    dsimp only
    split
    · exact .ite (fun _ => keeps_fail _) fun _ => nothing
    · exact nothing
  · unfold checkSum
    split
    · exact .ite (fun _ => keeps_fail _) fun _ => nothing
    · exact nothing
  · exact nothing

theorem keeps_operate {operator : BinaryOperator} (offered : operator.isOffered = true)
    {left right : Value} (first : left.MadeOf p) (second : right.MadeOf p) :
    Keeps p (Value.MadeOf p) (operate budget operator left right) := by
  refine (keeps_checkOperands budget operator left right).bind fun _ _ => ?_
  have combined : Keeps p (Unchecked p) (combine operator left right) := by
    cases operator with
    | add => exact keeps_ofExcept fun _ made => unchecked_add lasting first.unchecked second made
    | subtract => exact keeps_ofDraw (gives_subtract lasting first second)
    | multiply => exact keeps_ofExcept fun _ made => unchecked_multiply lasting first second made
    | divide => exact keeps_ofExcept fun _ made => unchecked_divide lasting made
    | floorDivide => exact keeps_ofExcept fun _ made => unchecked_floorDivide lasting made
    | modulo => exact keeps_ofExcept fun _ made => unchecked_modulo lasting made
    | power => exact keeps_ofExcept fun _ made => unchecked_power lasting made
    | matrixMultiply | leftShift | rightShift | bitOr | bitXor | bitAnd => cases offered
  exact combined.bind fun _ unchecked => keeps_checkSize lasting budget unchecked

theorem keeps_applyUnary {operator : UnaryOperator} (offered : operator ≠ .invert)
    {operand : Value} (given : operand.MadeOf p) :
    Keeps p (Value.MadeOf p) (applyUnary operator operand) := by
  cases operator with
  | negation => exact keeps_pure (lasting.madeOf_bool _)
  | minus => exact keeps_ofExcept fun _ made => madeOf_negate lasting given made
  | plus => exact keeps_ofExcept fun _ made => madeOf_affirm lasting given made
  | invert => exact absurd rfl offered

theorem keeps_compareValues (isOne : Bool) (operator : Comparison) (left : Value) {right : Value}
    (given : right.MadeOf p) :
    Keeps p (fun _ => True) (compareValues isOne operator left right) := by
  have orders (relation : Relation) : Keeps p (fun _ => True) (ordered relation left right) := by
    unfold ordered
    split
    · exact keeps_pure trivial
    · exact keeps_ofExcept fun _ _ => trivial
  have equals : Keeps p (fun _ => True) (ofExcept (compared (equalOrShare? isOne left right))) :=
    keeps_ofExcept fun _ _ => trivial
  have looks := keeps_ofDraw (gives_isMemberOrShares lasting isOne left given)
  cases operator with
  | equal => exact equals
  | notEqual => exact equals.bind fun _ _ => keeps_pure trivial
  | less | lessOrEqual | greater | greaterOrEqual => exact orders _
  | identical | notIdentical => exact keeps_pure trivial
  | member => exact looks
  | notMember => exact looks.bind fun _ _ => keeps_pure trivial

theorem keeps_publicAttribute {base : Value} (name : String) (given : base.MadeOf p) :
    Keeps p (Value.MadeOf p) (publicAttribute base name) := by
  have pass {value? : Option Value} (made : ∀ value ∈ value?, value.MadeOf p) :
      Keeps p (Value.MadeOf p)
        (if (value?.getD .null).isCallable then refuse (.callableAttribute name)
          else return value?.getD .null : Eval Value) := by
    refine .ite (fun _ => keeps_fail _) fun _ => keeps_pure ?_
    cases value? with
    | none => exact lasting.madeOf_null
    | some value => exact made value rfl
  unfold publicAttribute
  dsimp only
  split
  · rename_i entries isMapping
    refine pass fun value found => madeOf_lookup? ?_ found
    cases base with
    | dict own | proxy own =>
        cases isMapping
        exact given.entries rfl
    | _ => cases isMapping
  · exact .ite (fun _ => keeps_fail _) fun _ =>
      pass fun value found => madeOf_attribute? lasting given found

/-! ## Calls -/

/-- What is called is a function or a method of a value made of what is admitted. -/
def Callee.MadeOf (p : Value → Prop) (callee : Callee) : Prop :=
  ∀ base ∈ callee.bases, base.MadeOf p

omit lasting in
theorem keeps_checkArgument (value : Value) :
    Keeps p (fun _ => True) (checkArgument value : Eval PUnit) := by
  unfold checkArgument
  split
  · exact keeps_pure trivial
  · exact .ite (fun _ => keeps_fail _) fun _ => keeps_pure trivial

omit lasting in
theorem keeps_forM {action : α → Eval PUnit} (each : ∀ item, Keeps p (fun _ => True) (action item))
    (items : List α) : Keeps p (fun _ => True) (items.forM action) := by
  induction items with
  | nil => exact keeps_pure trivial
  | cons item rest inductionHypothesis => exact (each item).bind fun _ _ => inductionHypothesis

theorem keeps_checkSized {arguments : List Value}
    (given : ∀ argument ∈ arguments, argument.MadeOf p) :
    Keeps p (fun _ => True) (checkSized budget arguments) := by
  induction arguments with
  | nil => exact keeps_pure trivial
  | cons value rest inductionHypothesis =>
      obtain ⟨here, others⟩ := List.forall_mem_cons.1 given
      have further : Keeps p (fun _ => True) (do
          let _ ← budget.checkSize value
          checkSized budget rest) :=
        (keeps_checkSize lasting budget here.unchecked).bind fun _ _ => inductionHypothesis others
      unfold checkSized
      split
      · have refused : Keeps p (fun _ => True) (refuse .unsizedArgument : Eval PUnit) := keeps_fail _
        exact refused.bind fun _ _ => further
      · exact further

theorem keeps_joinable {value : Value} (given : value.MadeOf p) :
    Keeps p (Value.MadeOf p) (joinable budget value) := by
  refine (keeps_ofDraw (gives_items lasting given)).bind fun parts isMade => ?_
  have joined := lasting.madeOf_list isMade
  refine (keeps_checkSize lasting budget joined.unchecked).bind fun _ _ => ?_
  dsimp only
  split
  · have tooLong : Keeps p (fun _ => True) (breach .joining : Eval PUnit) := keeps_fail _
    exact tooLong.bind fun _ _ => keeps_pure joined
  · exact keeps_pure joined

theorem keeps_prepare (callee : Callee) {arguments : List Value} (named : List (String × Value))
    (given : ∀ argument ∈ arguments, argument.MadeOf p) :
    Keeps p (fun passed => ∀ argument ∈ passed, argument.MadeOf p)
      (prepare budget callee arguments named) := by
  refine (keeps_forM keeps_checkArgument arguments).bind fun _ _ => ?_
  refine (keeps_forM (fun argument => keeps_checkArgument argument.2) named).bind fun _ _ => ?_
  dsimp only
  split
  · split
    · exact (keeps_checkSized lasting budget given).bind fun _ _ => keeps_pure given
    · exact keeps_pure given
  · obtain ⟨first, others⟩ := List.forall_mem_cons.1 given
    exact (keeps_joinable lasting budget first).bind fun joined isMade =>
      keeps_pure (List.forall_mem_cons.2 ⟨isMade, others⟩)
  · exact keeps_pure given

theorem keeps_carryOut {callee : Callee} {arguments : List Value} {named : List (String × Value)}
    (isMade : callee.MadeOf p) (given : ∀ argument ∈ arguments, argument.MadeOf p)
    (each : Builtin.NamedMadeOf p named) :
    Keeps p (Value.MadeOf p) (carryOut budget callee arguments named) := by
  cases callee with
  | function f => exact keeps_checked lasting budget (Builtin.gives_apply lasting f given each)
  | method base name =>
      have isBase : base.MadeOf p := isMade base (List.mem_singleton_self base)
      exact keeps_checked lasting budget (Method.gives_apply lasting name named isBase given)

/-! ## Sinks -/

/-- What a comprehension has built is made of what is admitted. -/
def Sink.MadeOf (p : Value → Prop) : Sink → Prop
  | .list items | .set items => ∀ item ∈ items, item.MadeOf p
  | .dict entries => EntriesMadeOf p entries

omit lasting in
theorem Sink.madeOf_insert {sink result : Sink} {item : Value} (isMade : sink.MadeOf p)
    (given : item.MadeOf p) (made : sink.insert item = .ok result) : result.MadeOf p := by
  cases sink with
  | list items =>
      cases made
      exact List.forall_mem_cons.2 ⟨given, isMade⟩
  | set members =>
      unfold Sink.insert at made
      dsimp only at made
      split at made
      · cases made
      · split at made
        · cases made
          exact isMade
        · cases made
          exact List.forall_mem_cons.2 ⟨given, isMade⟩
  | dict entries =>
      cases made
      exact isMade

omit lasting in
theorem Sink.madeOf_store {sink result : Sink} {key item : Value} (isMade : sink.MadeOf p)
    (isKey : key.MadeOf p) (given : item.MadeOf p) (made : sink.store key item = .ok result) :
    result.MadeOf p := by
  cases sink with
  | dict entries =>
      unfold Sink.store at made
      dsimp only at made
      split at made
      · cases made
        exact Builtin.entriesMadeOf_store isKey given isMade
      · cases made
  | _ =>
      cases made
      exact isMade

omit lasting in
theorem keeps_checkSink {sink : Sink} (isMade : sink.MadeOf p) :
    Keeps p (Sink.MadeOf p) (checkSink budget sink) :=
  .ite (fun _ => keeps_fail _) fun _ => keeps_pure isMade

end Operations

/-! ## Likeness -/

/-- One value twice, made of what is admitted. -/
def MadeAlike (p : Value → Prop) (a b : Value) : Prop :=
  a = b ∧ a.MadeOf p

theorem forall₂_eq_and_iff {r : α → Prop} {a b : List α} :
    List.Forall₂ (fun x y => x = y ∧ r x) a b ↔ a = b ∧ ∀ x ∈ a, r x := by
  constructor
  · intro related
    induction related with
    | nil => exact ⟨rfl, List.forall_mem_nil _⟩
    | cons here _ inductionHypothesis =>
        obtain ⟨rfl, holds⟩ := here
        obtain ⟨rfl, others⟩ := inductionHypothesis
        exact ⟨rfl, List.forall_mem_cons.2 ⟨holds, others⟩⟩
  · rintro ⟨rfl, holds⟩
    exact List.forall₂_same.2 fun x member => ⟨rfl, holds x member⟩

theorem forall₂_alike_iff {a b : List Value} :
    List.Forall₂ (MadeAlike p) a b ↔ a = b ∧ ∀ value ∈ a, value.MadeOf p :=
  forall₂_eq_and_iff

theorem forall₂_namedAlike_iff_madeOf {a b : List (String × Value)} :
    List.Forall₂ (NamedAlike (MadeAlike p)) a b ↔ a = b ∧ Builtin.NamedMadeOf p a := by
  refine Iff.trans (iff_of_eq ?_) forall₂_eq_and_iff
  congr 1
  funext first second
  exact propext ⟨fun pair => ⟨Prod.ext pair.1 pair.2.1, pair.2.2⟩,
    fun pair => ⟨congrArg Prod.fst pair.1, congrArg Prod.snd pair.1, pair.2⟩⟩

theorem forall₂_entryAlike_iff_madeOf {a b : List (Value × Value)} :
    List.Forall₂ (EntryAlike (MadeAlike p)) a b ↔ a = b ∧ EntriesMadeOf p a := by
  refine Iff.trans (iff_of_eq ?_) forall₂_eq_and_iff
  congr 1
  funext first second
  exact propext ⟨fun pair => ⟨Prod.ext pair.1.1 pair.2.1, pair.1.2, pair.2.2⟩,
    fun pair => ⟨⟨congrArg Prod.fst pair.1, pair.2.1⟩, congrArg Prod.snd pair.1, pair.2.2⟩⟩

theorem Sink.alike_iff_madeOf {a b : Sink} :
    Sink.Alike (MadeAlike p) a b ↔ a = b ∧ a.MadeOf p := by
  constructor
  · intro sinks
    cases sinks with
    | list items =>
        obtain ⟨rfl, made⟩ := forall₂_alike_iff.1 items
        exact ⟨rfl, made⟩
    | set members =>
        obtain ⟨rfl, made⟩ := forall₂_alike_iff.1 members
        exact ⟨rfl, made⟩
    | dict entries =>
        obtain ⟨rfl, made⟩ := forall₂_entryAlike_iff_madeOf.1 entries
        exact ⟨rfl, made⟩
  · rintro ⟨rfl, made⟩
    cases a with
    | list items => exact .list (forall₂_alike_iff.2 ⟨rfl, made⟩)
    | set members => exact .set (forall₂_alike_iff.2 ⟨rfl, made⟩)
    | dict entries => exact .dict (forall₂_entryAlike_iff_madeOf.2 ⟨rfl, made⟩)

theorem Callee.alike_iff_madeOf {a b : Callee} :
    Callee.Alike (MadeAlike p) a b ↔ a = b ∧ a.MadeOf p := by
  constructor
  · intro callees
    cases callees with
    | function f => exact ⟨rfl, List.forall_mem_nil _⟩
    | method bases name =>
        obtain ⟨rfl, made⟩ := bases
        exact ⟨rfl, List.forall_mem_singleton.2 made⟩
  · rintro ⟨rfl, made⟩
    cases a with
    | function f => exact .function f
    | method base name => exact .method ⟨rfl, made base (List.mem_singleton_self base)⟩ name

theorem likeness_alike (lasting : Lasting p) : Likeness (MadeAlike p) where
  null := ⟨rfl, lasting.madeOf_null⟩
  bool flag := ⟨rfl, lasting.madeOf_bool flag⟩
  list items := by
    obtain ⟨rfl, made⟩ := forall₂_alike_iff.1 items
    exact ⟨rfl, lasting.madeOf_list made⟩
  tuple items := by
    obtain ⟨rfl, made⟩ := forall₂_alike_iff.1 items
    exact ⟨rfl, lasting.madeOf_tuple made⟩
  set members := by
    obtain ⟨rfl, made⟩ := forall₂_alike_iff.1 members
    exact ⟨rfl, lasting.madeOf_set made⟩
  dict entries := by
    obtain ⟨rfl, made⟩ := forall₂_entryAlike_iff_madeOf.1 entries
    exact ⟨rfl, lasting.madeOf_dict made⟩
  slice lower upper step := by
    obtain ⟨rfl, first⟩ := lower
    obtain ⟨rfl, last⟩ := upper
    obtain ⟨rfl, stride⟩ := step
    exact ⟨rfl, lasting.madeOf_slice first last stride⟩
  truthy values := by rw [values.1]
  hasElements values := by rw [values.1]
  kindName values := by rw [values.1]

/-! ## Runs of scripts -/

theorem Keeps.alike {part : Eval Value} (keeps : Keeps p (Value.MadeOf p) part) :
    Keeps p (fun value => ∃ other, MadeAlike p value other) part :=
  keeps.mono fun value made => ⟨value, rfl, made⟩

theorem Keeps.same {part : Eval α} (keeps : Keeps p (fun _ => True) part) :
    Keeps p (fun value => ∃ other, value = other) part :=
  keeps.mono fun value _ => ⟨value, rfl⟩

theorem Keeps.alikeSink {part : Eval Sink} (keeps : Keeps p (Sink.MadeOf p) part) :
    Keeps p (fun sink => ∃ other, Sink.Alike (MadeAlike p) sink other) part :=
  keeps.mono fun sink made => ⟨sink, Sink.alike_iff_madeOf.2 ⟨rfl, made⟩⟩

/-- Every part of a run keeps what the run is made of. As in `progress`, the rules of the simulation say so
of the first of its two parts. -/
def keeping (lasting : Lasting p) (budget : Budget) : Simulation budget budget where
  alike := MadeAlike p
  likeness := likeness_alike lasting
  admits literal := literal.toValue.MadeOf p
  literal made := ⟨rfl, made⟩
  Together related part _ := Keeps p (fun value => ∃ other, related value other) part
  Paying related part _ := Keeps p (fun value => ∃ other, related value other) part
  together paying := paying
  pure related := keeps_pure ⟨_, related⟩
  bind first rest := first.bind fun value ⟨other, related⟩ => rest value other related
  payingBind first rest := first.bind fun value ⟨other, related⟩ => rest value other related
  tick := (keeps_tick budget).same
  within parts := parts.within
  loop {α related step other a b} each start := by
    refine keeps_loop (fun state ⟨other, isRelated⟩ => ?_) _ ⟨b, start⟩
    refine (each state other isRelated).mono fun round ⟨_, rounds⟩ => ?_
    cases rounds with
    | done states => exact ⟨_, states⟩
    | yield states => exact ⟨_, states⟩
  forEach {α related body other source source' a b} sources start each := by
    refine keeps_forEach lasting (fun item state made ⟨other, isRelated⟩ => ?_) sources.2 ⟨b, start⟩
    refine (each item item ⟨rfl, made⟩ state other isRelated).mono fun round ⟨_, rounds⟩ => ?_
    cases rounds with
    | done states => exact ⟨_, states⟩
    | yield states => exact ⟨_, states⟩
  lookup _ := (keeps_lookup lasting _).alike
  bindName _ values := (keeps_bindName _ values.2).same
  handle values := (keeps_handle values.2).same
  argument _ := (keeps_record _).same
  refuse _ _ := keeps_fail _
  items values := (keeps_ofDraw (gives_items lasting values.2)).mono fun items made =>
    ⟨items, forall₂_alike_iff.2 ⟨rfl, made⟩⟩
  checkSize values := (keeps_checkSize lasting budget values.2.unchecked).alike
  applyUnary offered values := (keeps_applyUnary lasting offered values.2).alike
  operate offered first second := (keeps_operate lasting budget offered first.2 second.2).alike
  compareValues _ _ operator _ _ _ _ _ second :=
    (keeps_compareValues lasting _ operator _ second.2).same
  readAttribute {name a b} isPublic values := by
    rw [readAttribute_eq a isPublic]
    exact (keeps_record _).bind fun _ _ => (keeps_publicAttribute lasting name values.2).alike
  element bases _ := (keeps_ofExcept fun _ made => madeOf_element lasting bases.2 made).alike
  methodOf {name a b} _ values := by
    rw [methodOf_eq]
    refine (keeps_record _).bind fun _ _ => .ite (fun _ => keeps_pure ?_) fun _ => keeps_fail _
    exact ⟨_, .method ⟨rfl, values.2⟩ name⟩
  functionOf {a b} _ := by
    unfold functionOf
    split
    · exact keeps_pure ⟨_, .function _⟩
    · exact keeps_fail _
  prepare {a b values others named otherNamed} callees positional given :=
    (keeps_prepare lasting budget a named (forall₂_alike_iff.1 positional).2).mono fun passed made =>
      ⟨passed, forall₂_alike_iff.2 ⟨rfl, made⟩⟩
  carryOut callees positional given :=
    (keeps_carryOut lasting budget (Callee.alike_iff_madeOf.1 callees).2
      (forall₂_alike_iff.1 positional).2 (forall₂_namedAlike_iff_madeOf.1 given).2).alike
  insert sinks items := (keeps_ofExcept fun _ made =>
    Sink.madeOf_insert (Sink.alike_iff_madeOf.1 sinks).2 items.2 made).alikeSink
  store sinks keys items := (keeps_ofExcept fun _ made =>
    Sink.madeOf_store (Sink.alike_iff_madeOf.1 sinks).2 keys.2 items.2 made).alikeSink
  checkSink sinks := (keeps_checkSink budget (Sink.alike_iff_madeOf.1 sinks).2).alikeSink

section Outcomes

variable (lasting : Lasting p) (script : Script) (budget : Budget) {names : Scope}
  (spelled : ∀ literal, (Node.root script.tree).Holds literal → literal.toValue.MadeOf p)
  (given : ∀ name ∈ names, name.2.MadeOf p)

include lasting spelled given

/-- All that a run handles and returns is made of what its names and its literals are made of. -/
theorem madeOf_outcome (cursors : Cursors) :
    (∀ value ∈ (script.outcome budget names cursors).handled, value.MadeOf p) ∧
      ∀ value, (script.outcome budget names cursors).result = .ok value → value.MadeOf p := by
  have keeps := (keeping lasting budget).script script spelled (keeps_fail _)
  have start : Run.MadeOf p { scope := names, cursors } := ⟨given, List.forall_mem_nil _⟩
  refine ⟨(keeps.made start).handled, fun value same => ?_⟩
  obtain ⟨other, -, made⟩ := keeps.post start same
  exact made

/-- A run on names without one-shot sequences comes to the same whatever has been taken from such, and
takes nothing. -/
theorem outcome_of_excludesShared (excluded : ExcludesShared p) (cursors other : Cursors) :
    script.outcome budget names cursors =
      { script.outcome budget names other with cursors } := by
  have keeps := (keeping lasting budget).script script spelled (keeps_fail _)
  have start : Run.MadeOf p { scope := names, cursors := other } := ⟨given, List.forall_mem_nil _⟩
  have same := keeps.steady excluded start cursors
  have whole : finish script budget names cursors = ((finish script budget names other).1,
      { (finish script budget names other).2 with cursors }) := same
  rw [outcome_eq, outcome_eq, whole]

end Outcomes

end Authorization.Script
