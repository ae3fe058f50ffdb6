import Authorization.Proofs.Result
import Authorization.Proofs.Script.Progress
import Authorization.Rule.Basic
import Mathlib.Algebra.Order.Ring.Int

/-!
# Wider limits

Limits only cut a run off: where no limit does, wider limits give the same result, the same steps and
the same items taken. A run within narrow limits is followed by the run within wide ones, part by part.

One error depends on limits without being one of theirs: an exponent beyond the limit is written into
the error that says so, and one of too many digits has no text. Limits on exponents that have no more
digits than a text may have agree on that error too.
-/

namespace Authorization

/-- Limits that allow no more than others do. -/
structure Limits.Within (narrow wide : Limits) : Prop where
  steps : narrow.maxSteps ≤ wide.maxSteps
  length : narrow.maxSequenceLength ≤ wide.maxSequenceLength
  exponent : narrow.maxExponent ≤ wide.maxExponent

namespace Value

theorem text?_eq_none_iff (value : Value) : value.text? = none ↔ value.holdsLongInt = true := by
  unfold text?
  cases value.holdsLongInt <;> simp

theorem holdsLongInt_int_iff (n : Int) :
    (Value.int n).holdsLongInt = true ↔ 10 ^ Number.maxDecimalDigits ≤ n.natAbs := by
  rw [holdsLongInt, holdsPart.eq_def]
  dsimp only
  rw [isLongInt, isLong, decide_eq_true_iff, ge_iff_le, Nat.pow_eq]

end Value

namespace Script

open Eval

variable {α β : Type} {narrow wide : Budget}

/-- The clock does not reach the limit of seconds in a number of steps. -/
def Budget.InTime (budget : Budget) (steps : Nat) : Prop :=
  ∀ n ≤ steps, budget.isLate n = false

theorem Budget.InTime.mono {budget : Budget} {fewer steps : Nat} (inTime : budget.InTime steps)
    (fewerSteps : fewer ≤ steps) : budget.InTime fewer :=
  fun n inFewer => inTime n (Nat.le_trans inFewer fewerSteps)

/-- A result that wider limits do not change: a value, or an error that is not due to a limit. -/
inductive Conclusive (wide : Budget) : Except Stop α → Prop
  | ok (value : α) : Conclusive wide (.ok value)
  | failed {error : Error} (notLimit : ∀ breach, error ≠ .limit breach)
      (isWritten : wide.limits.maxExponent < 10 ^ Number.maxDecimalDigits) :
      Conclusive wide (.error (.failed error))

theorem Conclusive.error {stop : Stop} (conclusive : Conclusive wide (.error stop : Except Stop α)) :
    Conclusive wide (.error stop : Except Stop β) := by
  cases conclusive with
  | failed notLimit isWritten => exact .failed notLimit isWritten

theorem not_conclusive_breach (found : Breach) :
    ¬ Conclusive wide (.error (.failed (.limit found)) : Except Stop α) := by
  intro conclusive
  cases conclusive with
  | failed notLimit _ => exact notLimit found rfl

/-- One part of a run ends as another one has, if that one's end is conclusive and in time. -/
structure Follows (wide : Budget) (related : α → α → Prop) (before : Run)
    (ending other : Except Stop α × Run) : Prop where
  later : before.steps ≤ ending.2.steps
  exists_related {value : α} : ending.1 = .ok value → ∃ other, related value other
  agrees : Conclusive wide ending.1 → wide.InTime ending.2.steps →
    other.2 = ending.2 ∧ Except.Related related ending.1 other.1

/-- A part of a run within wide limits follows one within narrow limits. -/
def Continues (wide : Budget) (related : α → α → Prop) (part other : Eval α) : Prop :=
  ∀ run, Follows wide related run (perform part run) (perform other run)

/-! ## Parts put together -/

/-- A part follows itself. -/
theorem Continues.same {related : α → α → Prop} {part : Eval α}
    (later : ∀ run, run.steps ≤ (perform part run).2.steps) (reflexive : ∀ value, related value value) :
    Continues wide related part part := by
  intro run
  refine ⟨later run, fun {value} _ => ⟨value, reflexive value⟩, fun _ _ => ⟨rfl, ?_⟩⟩
  exact (Except.Related.same _).mono fun same => same ▸ reflexive _

theorem Eval.Plain.continues {related : α → α → Prop} {part : Eval α} (plain : Plain part)
    (reflexive : ∀ value, related value value) : Continues wide related part part := by
  refine .same (fun run => Nat.le_of_eq ?_) reflexive
  obtain ⟨result, cursors, performed⟩ := plain.exists_perform run
  rw [performed]

theorem continues_pure {related : α → α → Prop} {a b : α} (values : related a b) :
    Continues wide related (pure a) (pure b) := by
  intro run
  refine ⟨Nat.le_refl _, fun same => ?_, fun _ _ => ⟨rfl, .ok values⟩⟩
  exact Except.ok.inj same ▸ ⟨b, values⟩

/-- Whatever is done instead of a part that is cut off follows it. -/
theorem continues_breach {related : α → α → Prop} (found : Breach) (other : Eval α) :
    Continues wide related (breach found) other := by
  intro run
  refine ⟨Nat.le_refl _, fun same => (nomatch same), fun conclusive => ?_⟩
  exact absurd conclusive (not_conclusive_breach found)

theorem continues_refuse {related : α → α → Prop} (refusal : Refusal) :
    Continues wide related (refuse refusal) (refuse refusal) :=
  fun _ => ⟨Nat.le_refl _, fun same => (nomatch same), fun _ _ => ⟨rfl, .error _⟩⟩

theorem Continues.bind {related : α → α → Prop} {final : β → β → Prop} {part other : Eval α}
    {next otherNext : α → Eval β} (first : Continues wide related part other)
    (rest : ∀ a b, related a b → Continues wide final (next a) (otherNext b)) :
    Continues wide final (part >>= next) (other >>= otherNext) := by
  intro run
  obtain ⟨later, exists_related, agrees⟩ := first run
  rcases performed : perform part run with ⟨stop | value, after⟩
  · rw [performed] at later agrees
    rw [perform_bind_of_error performed]
    refine ⟨later, fun same => (nomatch same), fun conclusive inTime => ?_⟩
    obtain ⟨sameRun, results⟩ := agrees conclusive.error inTime
    rcases performedOther : perform other run with ⟨result, otherAfter⟩
    rw [performedOther] at sameRun results
    cases results with
    | error =>
        rw [perform_bind_of_error performedOther]
        exact ⟨sameRun, .error stop⟩
  · rw [performed] at later exists_related agrees
    rw [perform_bind_of_ok performed]
    -- Some value related to this one shows that the rest does not go back in steps.
    obtain ⟨matching, related⟩ := exists_related rfl
    have here := rest value matching related after
    refine ⟨Nat.le_trans later here.later, here.exists_related, fun conclusive inTime => ?_⟩
    obtain ⟨sameRun, results⟩ := agrees (.ok value) (inTime.mono here.later)
    rcases performedOther : perform other run with ⟨result, otherAfter⟩
    rw [performedOther] at sameRun results
    cases results with
    | ok related =>
        rw [perform_bind_of_ok performedOther, show otherAfter = after from sameRun]
        exact (rest value _ related after).agrees conclusive inTime

/-- A limit that is exceeded in the wide is exceeded in the narrow. -/
theorem Continues.guard {related : α → α → Prop} {part other : Eval α} {exceeds exceedsWide : Prop}
    [Decidable exceeds] [Decidable exceedsWide] (wider : exceedsWide → exceeds) (found : Breach)
    {foundWide : Breach} (rest : Continues wide related part other) :
    Continues wide related (if exceeds then breach found else part)
      (if exceedsWide then breach foundWide else other) := by
  by_cases isBeyond : exceeds
  · rw [if_pos isBeyond]
    exact continues_breach found _
  · rw [if_neg isBeyond, if_neg (mt wider isBeyond)]
    exact rest

theorem continues_tick (within : narrow.limits.Within wide.limits) :
    Continues wide Eq narrow.tick wide.tick := by
  intro run
  rw [perform_tick, perform_tick]
  refine ⟨Nat.le_succ _, fun {value} _ => ⟨value, rfl⟩, fun conclusive inTime => ⟨rfl, ?_⟩⟩
  have notLate : wide.isLate (run.steps + 1) = false := inTime _ (Nat.le_refl _)
  by_cases beyond : run.steps + 1 > narrow.limits.maxSteps
  · simp only [if_pos beyond] at conclusive
    exact absurd conclusive (not_conclusive_breach _)
  · have inWide : ¬ run.steps + 1 > wide.limits.maxSteps := by
      have := within.steps
      omega
    simp only [if_neg beyond] at conclusive ⊢
    rw [if_neg inWide, notLate]
    split
    · rename_i isLate
      rw [if_pos isLate] at conclusive
      exact absurd conclusive (not_conclusive_breach _)
    · exact .ok rfl

theorem continues_record (access : Access) :
    Continues wide Eq (record access) (record access) :=
  .same (fun _ => Nat.le_refl _) fun _ => rfl

theorem continues_handle (value : Value) : Continues wide Eq (handle value) (handle value) :=
  .same (fun _ => Nat.le_refl _) fun _ => rfl

theorem continues_bindName (name : String) (value : Value) :
    Continues wide Eq (bindName name value) (bindName name value) :=
  .same (fun _ => Nat.le_refl _) fun _ => rfl

theorem continues_lookup (name : String) : Continues wide Eq (lookup name) (lookup name) := by
  refine .same (fun run => ?_) fun _ => rfl
  rw [perform_lookup]
  split
  · exact Nat.le_refl _
  · split <;> exact Nat.le_refl _

theorem continues_readAttribute (base : Value) {name : String} (isPublic : isPrivate name = false) :
    Continues wide Eq (readAttribute base name) (readAttribute base name) := by
  rw [readAttribute_eq base isPublic]
  exact (continues_record _).bind fun _ _ _ =>
    (plain_publicAttribute base name).continues fun _ => rfl

theorem continues_methodOf (base : Value) (name : String) :
    Continues wide (Callee.Alike Eq) (methodOf base name) (methodOf base name) := by
  rw [methodOf_eq]
  exact (continues_record _).bind fun _ _ _ =>
    (plain_listedMethod base name).continues Callee.alike_refl

theorem Continues.within {related : α → α → Prop} {part other : Eval α}
    (continues : Continues wide related part other) :
    Continues wide related (Eval.within part) (Eval.within other) := by
  intro run
  obtain ⟨later, exists_related, agrees⟩ := continues run
  rw [perform_within, perform_within]
  rcases performed : perform part run with ⟨stop | value, after⟩
  · rw [performed] at later agrees
    refine ⟨later, fun same => (nomatch same), fun conclusive inTime => ?_⟩
    obtain ⟨sameRun, results⟩ := agrees conclusive inTime
    generalize perform other run = ending at sameRun results
    obtain ⟨result, otherAfter⟩ := ending
    cases results with
    | error => exact ⟨sameRun, .error stop⟩
  · rw [performed] at later exists_related agrees
    refine ⟨later, fun same => exists_related same, fun conclusive inTime => ?_⟩
    obtain ⟨sameRun, results⟩ := agrees (.ok value) inTime
    generalize perform other run = ending at sameRun results
    obtain ⟨result, otherAfter⟩ := ending
    cases results with
    | ok related =>
        have sameRun : otherAfter = after := sameRun
        exact ⟨by rw [sameRun], .ok related⟩

/-! ## Loops -/

theorem continues_loop {related : α → α → Prop} {step other : α → Eval (ForInStep α)}
    (each : ∀ a b, related a b → Continues wide (RoundAlike related) (step a) (other b))
    {rounds more : Nat} (isMore : rounds ≤ more) {a b : α} (states : related a b) :
    Continues wide related (loop step rounds a) (loop other more b) := by
  induction rounds generalizing more a b with
  | zero =>
      -- Out of rounds is no conclusive end, so that nothing is to be shown of the wide run.
      intro run
      have shape : perform (loop step 0 a) run = (.error .unfinished, run) := rfl
      rw [shape]
      exact ⟨Nat.le_refl _, fun same => (nomatch same), fun conclusive => (nomatch conclusive)⟩
  | succ rounds inductionHypothesis =>
      cases more with
      | zero => exact absurd isMore (Nat.not_succ_le_zero rounds)
      | succ more =>
          refine (each a b states).bind fun first second round => ?_
          cases round with
          | done states => exact continues_pure states
          | yield states => exact inductionHypothesis (Nat.le_of_succ_le_succ isMore) states

theorem continues_forEach (within : narrow.limits.Within wide.limits) {related : α → α → Prop}
    {body other : Value → α → Eval (ForInStep α)}
    (each : ∀ item a b, related a b → Continues wide (RoundAlike related) (body item a) (other item b))
    (source : Value) {a b : α} (states : related a b) :
    Continues wide related (narrow.forEach source a body) (wide.forEach source b other) := by
  let places : Iteration × α → Iteration × α → Prop := fun first second =>
    first.1 = second.1 ∧ related first.2 second.2
  have visited (first second : Iteration × α) (same : places first second) :
      Continues wide (RoundAlike places) (visit body first) (visit other second) := by
    obtain ⟨walk, a⟩ := first
    obtain ⟨_, b⟩ := second
    have sameWalk : walk = _ := same.1
    subst sameWalk
    have states : related a b := same.2
    have advanced : Continues wide Eq (advance walk) (advance walk) :=
      .same (fun _ => Nat.le_refl _) fun _ => rfl
    refine advanced.bind fun item? _ same => ?_
    subst same
    cases item? with
    | none => exact continues_pure (.done ⟨rfl, states⟩)
    | some found =>
        refine (continues_handle found.1).bind fun _ _ _ => ?_
        refine (each found.1 a b states).bind fun _ _ round => ?_
        cases round with
        | done states => exact continues_pure (.done ⟨rfl, states⟩)
        | yield states => exact continues_pure (.yield ⟨rfl, states⟩)
  have rounds : narrow.rounds ≤ wide.rounds := Nat.add_le_add_right within.steps 2
  rw [forEach_eq, forEach_eq]
  refine (continues_handle source).bind fun _ _ _ => ?_
  refine ((plain_ofExcept _).continues fun _ => rfl).bind fun walk _ same => ?_
  subst same
  have start : places (walk, a) (walk, b) := ⟨rfl, states⟩
  exact (continues_loop visited rounds start).bind fun _ _ last => continues_pure last.2

/-! ## Operations on values -/

theorem continues_checkSize (within : narrow.limits.Within wide.limits) (value : Value) :
    Continues wide Eq (narrow.checkSize value) (wide.checkSize value) := by
  obtain ⟨n, rfl⟩ | shape := Budget.checkSize_eq_checkLength value
  · exact (narrow.plain_checkSize (.int n)).continues fun _ => rfl
  · rw [shape, shape, Budget.checkLength, Budget.checkLength]
    cases Budget.limitedLength? value with
    | none => exact continues_pure rfl
    | some length =>
        dsimp only
        split
        · exact (plain_ofExcept _).continues fun _ => rfl
        · have wider : length > wide.limits.maxSequenceLength →
              length > narrow.limits.maxSequenceLength := by
            have := within.length
            omega
          exact .guard wider _ (continues_pure rfl)

theorem compareIntFloat_mono {n m : Int} {x : Float} (less : n ≤ m) :
    (Number.compareIntFloat m x = some .lt → Number.compareIntFloat n x = some .lt) ∧
      (Number.compareIntFloat n x = some .gt → Number.compareIntFloat m x = some .gt) := by
  unfold Number.compareIntFloat
  cases Number.Binary.ofFloat x with
  | undefined => exact ⟨id, id⟩
  | infinite negative => exact ⟨id, id⟩
  | finite negative mantissa exponent =>
      simp only [Option.some.injEq, Int.compare_eq_lt, Int.compare_eq_gt]
      generalize Number.Binary.ratio negative mantissa exponent = ratio
      have scaled : n * ratio.2 ≤ m * ratio.2 :=
        Int.mul_le_mul_of_nonneg_right less (Int.natCast_nonneg _)
      constructor <;> intro <;> omega

theorem compareNumbers?_int_mono {value : Value} {n m : Int} (less : n ≤ m) :
    (Value.compareNumbers? value (.int m) = some .gt →
        Value.compareNumbers? value (.int n) = some .gt) ∧
      (Value.compareNumbers? value (.int n) = some .lt →
        Value.compareNumbers? value (.int m) = some .lt) := by
  have compared (k : Int) : (some (compare k m) = some .gt → some (compare k n) = some .gt) ∧
      (some (compare k n) = some .lt → some (compare k m) = some .lt) := by
    simp only [Option.some.injEq, Int.compare_eq_lt, Int.compare_eq_gt]
    constructor <;> intro <;> omega
  cases value with
  | bool flag => exact compared _
  | int k => exact compared k
  | float x =>
      obtain ⟨whenLess, whenGreater⟩ := compareIntFloat_mono (x := x) less
      have swapped (k : Int) : Value.compareNumbers? (.float x) (.int k) =
          (Number.compareIntFloat k x).map Ordering.swap := rfl
      rw [swapped, swapped]
      simp only [Option.map_eq_some_iff, Ordering.swap_eq_gt, Ordering.swap_eq_lt,
        exists_eq_right]
      exact ⟨whenLess, whenGreater⟩
  | _ => exact ⟨id, id⟩

theorem isSome_compareNumbers?_int (value : Value) (n m : Int) :
    (Value.compareNumbers? value (.int n)).isSome = (Value.compareNumbers? value (.int m)).isSome := by
  cases value with
  | float x =>
      have swapped (k : Int) : Value.compareNumbers? (.float x) (.int k) =
          (Number.compareIntFloat k x).map Ordering.swap := rfl
      rw [swapped, swapped, Option.isSome_map, Option.isSome_map]
      unfold Number.compareIntFloat
      cases Number.Binary.ofFloat x <;> rfl
  | _ => rfl

theorem isAbove_iff (value : Value) (bound : Nat) :
    isAbove value bound = true ↔
      Value.compareNumbers? value (.int bound) = some .gt ∨
        Value.compareNumbers? value (.int (-bound)) = some .lt := by
  have same := isSome_compareNumbers?_int value bound (-bound)
  unfold isAbove
  cases above : Value.compareNumbers? value (.int bound) with
  | none =>
      rw [above, eq_comm, Option.isSome_none, Option.isSome_eq_false_iff, Option.isNone_iff_eq_none]
        at same
      simp [same]
  | some first =>
      rw [above] at same
      obtain ⟨second, below⟩ := Option.isSome_iff_exists.1 same.symm
      simp [below]

/-- What lies above a limit lies above a lower one. -/
theorem isAbove_mono {value : Value} {bound lower : Nat} (less : lower ≤ bound)
    (above : isAbove value bound = true) : isAbove value lower = true := by
  have less : (lower : Int) ≤ bound := Int.ofNat_le.2 less
  have negated : -(bound : Int) ≤ -lower := Int.neg_le_neg less
  rw [isAbove_iff] at above ⊢
  exact above.imp (compareNumbers?_int_mono less).1 (compareNumbers?_int_mono negated).2

/-- A number without a text is an integer, and above all limits that have few enough digits. -/
theorem isAbove_of_text? {value : Value} {bound : Nat} (isReal : value.isReal = true)
    (noText : value.text? = none) (isWritten : bound < 10 ^ Number.maxDecimalDigits) :
    isAbove value bound = true := by
  cases value with
  | int n =>
      rw [Value.text?_eq_none_iff, Value.holdsLongInt_int_iff] at noText
      rw [isAbove_iff]
      have compared (k : Int) : Value.compareNumbers? (.int n) (.int k) = some (compare n k) := rfl
      simp only [compared, Option.some.injEq, Int.compare_eq_lt, Int.compare_eq_gt]
      omega
  | bool flag => cases noText
  | float x => cases noText
  | _ => cases isReal

theorem continues_checkPower (within : narrow.limits.Within wide.limits) (left right : Value) :
    Continues wide Eq (checkPower narrow left right) (checkPower wide left right) := by
  by_cases isReal : right.isReal = true
  · unfold checkPower
    simp only [isReal, Bool.true_and]
    by_cases aboveWide : isAbove right wide.limits.maxExponent = true
    · rw [if_pos aboveWide, if_pos (isAbove_mono within.exponent aboveWide)]
      cases right.text? with
      | some text => exact continues_breach _ _
      | none => exact (plain_ofExcept _).continues fun _ => rfl
    · rw [if_neg aboveWide]
      by_cases aboveNarrow : isAbove right narrow.limits.maxExponent = true
      · rw [if_pos aboveNarrow]
        cases noText : right.text? with
        | some text => exact continues_breach _ _
        | none =>
            -- The narrow run fails here without a limit's error, and the wide run would not.
            intro run
            refine ⟨Nat.le_refl _, fun same => (nomatch same), fun conclusive => ?_⟩
            cases conclusive with
            | failed notLimit isWritten =>
                exact absurd (isAbove_of_text? isReal noText isWritten) aboveWide
      · rw [if_neg aboveNarrow]
        refine Plain.continues ?_ fun _ => rfl
        split
        · split
          · exact plain_breach _
          · exact plain_pure _
        · exact plain_pure _
  · have same : checkPower wide left right = checkPower narrow left right := by
      simp [checkPower, isReal]
    rw [same]
    exact (plain_checkPower narrow left right).continues fun _ => rfl

theorem continues_checkOperands (within : narrow.limits.Within wide.limits)
    (operator : BinaryOperator) (left right : Value) :
    Continues wide Eq (checkOperands narrow operator left right)
      (checkOperands wide operator left right) := by
  have length := within.length
  cases operator with
  | power => exact continues_checkPower within left right
  | modulo => exact (plain_checkOperands narrow .modulo left right).continues fun _ => rfl
  | multiply =>
      unfold checkOperands checkProduct
      dsimp only
      split
      · exact .guard (fun _ => by omega) _ (continues_pure rfl)
      · exact continues_pure rfl
  | add =>
      unfold checkOperands checkSum
      dsimp only
      split
      · exact .guard (fun _ => by omega) _ (continues_pure rfl)
      · exact continues_pure rfl
  | _ => exact continues_pure rfl

theorem continues_operate (within : narrow.limits.Within wide.limits) {operator : BinaryOperator}
    (offered : operator.isOffered = true) (left right : Value) :
    Continues wide Eq (operate narrow operator left right) (operate wide operator left right) := by
  refine (continues_checkOperands within operator left right).bind fun _ _ _ => ?_
  refine ((plain_combine offered left right).continues fun _ => rfl).bind fun value _ same => ?_
  subst same
  exact continues_checkSize within value

theorem continues_checkSized (within : narrow.limits.Within wide.limits) (arguments : List Value) :
    Continues wide Eq (checkSized narrow arguments) (checkSized wide arguments) := by
  induction arguments with
  | nil => exact continues_pure rfl
  | cons value rest inductionHypothesis =>
      have others : Continues wide Eq
          (do let _ ← narrow.checkSize value; checkSized narrow rest)
          (do let _ ← wide.checkSize value; checkSized wide rest) :=
        (continues_checkSize within value).bind fun _ _ _ => inductionHypothesis
      unfold checkSized
      split
      · exact ((plain_refuse _).continues fun _ => rfl).bind fun _ _ _ => others
      · exact others

theorem continues_joinable (within : narrow.limits.Within wide.limits) (value : Value) :
    Continues wide Eq (joinable narrow value) (joinable wide value) := by
  have length := within.length
  refine ((plain_ofDraw _).continues fun _ => rfl).bind fun parts _ same => ?_
  subst same
  refine (continues_checkSize within _).bind fun _ _ _ => ?_
  dsimp only
  generalize parts.foldl (fun length part => length + textLength part) 0 = total
  exact .guard (fun _ => by omega) _ (continues_pure rfl)

theorem continues_prepare (within : narrow.limits.Within wide.limits) (callee : Callee)
    (arguments : List Value) (named : List (String × Value)) :
    Continues wide Eq (prepare narrow callee arguments named)
      (prepare wide callee arguments named) := by
  refine ((plain_forM plain_checkArgument arguments).continues fun _ => rfl).bind fun _ _ _ => ?_
  refine ((plain_forM (fun argument => plain_checkArgument argument.2) named).continues
    fun _ => rfl).bind fun _ _ _ => ?_
  dsimp only
  split
  · split
    · exact (continues_checkSized within arguments).bind fun _ _ _ => continues_pure rfl
    · exact continues_pure rfl
  · refine (continues_joinable within _).bind fun joined _ same => ?_
    exact continues_pure (same ▸ rfl)
  · exact continues_pure rfl

theorem continues_carryOut (within : narrow.limits.Within wide.limits) (callee : Callee)
    (arguments : List Value) (named : List (String × Value)) :
    Continues wide Eq (carryOut narrow callee arguments named)
      (carryOut wide callee arguments named) := by
  have applied (draw : Draw Value) : Continues wide Eq
      (do narrow.checkSize (← ofDraw draw)) (do wide.checkSize (← ofDraw draw)) := by
    refine ((plain_ofDraw draw).continues fun _ => rfl).bind fun value _ same => ?_
    subst same
    exact continues_checkSize within value
  cases callee with
  | function f => exact applied _
  | method base name => exact applied _

theorem continues_checkSink (within : narrow.limits.Within wide.limits) (sink : Sink) :
    Continues wide (Sink.Alike Eq) (checkSink narrow sink) (checkSink wide sink) := by
  have length := within.length
  exact .guard (fun _ => by omega) _ (continues_pure (Sink.alike_refl sink))

/-! ## Runs of scripts -/

/-- A run within narrow limits is followed by the run within wide ones. -/
def cutoff (within : narrow.limits.Within wide.limits) (sameObjects : narrow.isOne = wide.isOne) :
    Simulation narrow wide where
  alike := Eq
  likeness := likeness_eq
  admits _ := True
  literal := @likeness_literal_eq
  Together := Continues wide
  Paying := Continues wide
  together paying := paying
  pure := continues_pure
  bind first rest := first.bind rest
  payingBind first rest := first.bind rest
  tick := continues_tick within
  within parts := parts.within
  loop each start := continues_loop each (Nat.add_le_add_right within.steps 2) start
  forEach {α related body other source source' a b} same start each := by
    subst same
    exact continues_forEach within (fun item => each item item rfl) source start
  lookup _ := continues_lookup _
  bindName _ same := same ▸ continues_bindName _ _
  handle same := same ▸ continues_handle _
  argument _ := continues_record _
  refuse _ _ := continues_refuse _
  items same := same ▸ (plain_ofDraw _).continues List.forall₂_refl
  checkSize same := same ▸ continues_checkSize within _
  applyUnary offered same := same ▸ (plain_applyUnary offered _).continues fun _ => rfl
  operate offered left right := left ▸ right ▸ continues_operate within offered _ _
  compareValues e e' operator a b a' b' left right := by
    rw [left, right, sameObjects]
    exact (plain_compareValues _ operator a' b').continues fun _ => rfl
  readAttribute isPublic same := same ▸ continues_readAttribute _ isPublic
  element left right := left ▸ right ▸ (plain_ofExcept _).continues fun _ => rfl
  methodOf _ same := same ▸ continues_methodOf _ _
  functionOf same := same ▸ (plain_functionOf _).continues Callee.alike_refl
  prepare callees values named := by
    rw [Callee.eq_of_alike callees, eq_of_forall₂_eq values, eq_of_forall₂_namedAlike named,
      List.forall₂_eq_eq_eq]
    exact continues_prepare within _ _ _
  carryOut callees values named :=
    Callee.eq_of_alike callees ▸ eq_of_forall₂_eq values ▸ eq_of_forall₂_namedAlike named ▸
      continues_carryOut within _ _ _
  insert sinks same :=
    Sink.eq_of_alike sinks ▸ same ▸ (plain_ofExcept _).continues Sink.alike_refl
  store sinks keys same :=
    Sink.eq_of_alike sinks ▸ keys ▸ same ▸ (plain_ofExcept _).continues Sink.alike_refl
  checkSink sinks := Sink.eq_of_alike sinks ▸ continues_checkSink within _

/-- Wider limits do not change a run that is not cut off: it gives the same value or error, takes the
same steps and the same items, and uses the same names. -/
theorem outcome_of_conclusive (script : Script) (within : narrow.limits.Within wide.limits)
    (sameObjects : narrow.isOne = wide.isOne) (names : Scope) (cursors : Cursors)
    (conclusive : Conclusive wide (script.outcome narrow names cursors).result)
    (inTime : wide.InTime (script.outcome narrow names cursors).steps) :
    script.outcome wide names cursors = script.outcome narrow names cursors := by
  obtain ⟨sameRun, results⟩ := ((cutoff within sameObjects).script script (fun _ _ => trivial)
    (continues_refuse _) { scope := names, cursors }).agrees conclusive inTime
  have sameRun : (finish script wide names cursors).2 = (finish script narrow names cursors).2 :=
    sameRun
  have sameResult : (finish script wide names cursors).1 = (finish script narrow names cursors).1 :=
    Except.Related.eq results
  rw [outcome_eq, outcome_eq, sameRun, sameResult]

/-- Under limits on exponents that can be written, nothing but a limit or the clock makes a difference
between narrow and wide limits. -/
theorem outcome_of_within (script : Script) (within : narrow.limits.Within wide.limits)
    (sameObjects : narrow.isOne = wide.isOne)
    (isWritten : wide.limits.maxExponent < 10 ^ Number.maxDecimalDigits) (names : Scope)
    (cursors : Cursors)
    (notCutOff : ∀ found,
      (script.outcome narrow names cursors).result ≠ .error (.failed (.limit found)))
    (inTime : wide.InTime (script.outcome narrow names cursors).steps) :
    script.outcome wide names cursors = script.outcome narrow names cursors := by
  refine outcome_of_conclusive script within sameObjects names cursors ?_ inTime
  obtain ⟨⟨value, isOk⟩ | ⟨error, isError⟩, -, -⟩ := outcome_ends script narrow names cursors
  · rw [isOk]
    exact .ok value
  · rw [isError] at notCutOff ⊢
    refine .failed (fun found isLimit => notCutOff found ?_) isWritten
    rw [isLimit]

/-- An exponent that is too great to be written stops a run with an error that no limit has. -/
theorem perform_checkPower_of_text? {budget : Budget} {left right : Value} (run : Run)
    (isReal : right.isReal = true) (above : isAbove right budget.limits.maxExponent = true)
    (noText : right.text? = none) :
    perform (checkPower budget left right) run =
      ((fault .value "Exceeds the limit for integer string conversion").mapError .failed, run) := by
  unfold checkPower
  rw [isReal, above, noText, Bool.true_and, if_pos rfl]
  exact perform_ofExcept _ run

/-! ## Other clocks

A run asks its clock only whether it is late. Where two clocks are late at the same readings, a run comes
to the same by both.
-/

section Clocks

variable {limits : Limits} {clock other : Nat → Float} {isOne : Expression → Expression → Bool}

/-- Two parts of runs come to related results and leave the run alike. -/
def Unison (related : α → α → Prop) (part counterpart : Eval α) : Prop :=
  ∀ run, (perform counterpart run).2 = (perform part run).2 ∧
    Except.Related related (perform part run).1 (perform counterpart run).1

theorem unison_same {related : α → α → Prop} (part : Eval α)
    (reflexive : ∀ value, related value value) : Unison related part part :=
  fun _ => ⟨rfl, (Except.Related.same _).mono fun same => same ▸ reflexive _⟩

theorem unison_pure {related : α → α → Prop} {a b : α} (values : related a b) :
    Unison related (pure a) (pure b) :=
  fun _ => ⟨rfl, .ok values⟩

theorem Unison.bind {related : α → α → Prop} {final : β → β → Prop} {part counterpart : Eval α}
    {next otherNext : α → Eval β} (first : Unison related part counterpart)
    (rest : ∀ a b, related a b → Unison final (next a) (otherNext b)) :
    Unison final (part >>= next) (counterpart >>= otherNext) := by
  intro run
  obtain ⟨sameRun, results⟩ := first run
  rcases performed : perform part run with ⟨result, after⟩
  rcases performedOther : perform counterpart run with ⟨otherResult, otherAfter⟩
  rw [performed, performedOther] at sameRun results
  obtain rfl : otherAfter = after := sameRun
  cases results with
  | error stop =>
      rw [perform_bind_of_error performed, perform_bind_of_error performedOther]
      exact ⟨rfl, .error stop⟩
  | ok values =>
      rw [perform_bind_of_ok performed, perform_bind_of_ok performedOther]
      exact rest _ _ values otherAfter

theorem Unison.within {related : α → α → Prop} {part counterpart : Eval α}
    (unison : Unison related part counterpart) :
    Unison related (Eval.within part) (Eval.within counterpart) := by
  intro run
  obtain ⟨sameRun, results⟩ := unison run
  rw [perform_within, perform_within]
  generalize perform part run = ended at sameRun results
  generalize perform counterpart run = otherEnded at sameRun results
  obtain ⟨result, after⟩ := ended
  obtain ⟨otherResult, otherAfter⟩ := otherEnded
  obtain rfl : otherAfter = after := sameRun
  cases results with
  | error stop => exact ⟨rfl, .error stop⟩
  | ok values => exact ⟨rfl, .ok values⟩

theorem unison_loop {related : α → α → Prop} {step counterpart : α → Eval (ForInStep α)}
    (each : ∀ a b, related a b → Unison (RoundAlike related) (step a) (counterpart b)) (rounds : Nat)
    {a b : α} (states : related a b) :
    Unison related (loop step rounds a) (loop counterpart rounds b) := by
  induction rounds generalizing a b with
  | zero => exact fun _ => ⟨rfl, .error _⟩
  | succ rounds inductionHypothesis =>
      refine (each a b states).bind fun first second round => ?_
      cases round with
      | done states => exact unison_pure states
      | yield states => exact inductionHypothesis states

theorem unison_forEach {related : α → α → Prop} {body counterpart : Value → α → Eval (ForInStep α)}
    (each : ∀ item a b, related a b →
      Unison (RoundAlike related) (body item a) (counterpart item b))
    (source : Value) {a b : α} (states : related a b) :
    Unison related (Budget.forEach ⟨limits, clock, isOne⟩ source a body)
      (Budget.forEach ⟨limits, other, isOne⟩ source b counterpart) := by
  let places : Iteration × α → Iteration × α → Prop := fun first second =>
    first.1 = second.1 ∧ related first.2 second.2
  have visited (first second : Iteration × α) (same : places first second) :
      Unison (RoundAlike places) (visit body first) (visit counterpart second) := by
    obtain ⟨walk, a⟩ := first
    obtain ⟨_, b⟩ := second
    obtain ⟨rfl, states⟩ := same
    refine (unison_same (advance walk) fun _ => rfl).bind fun item? _ same => ?_
    subst same
    cases item? with
    | none => exact unison_pure (.done ⟨rfl, states⟩)
    | some found =>
        refine (unison_same (handle found.1) fun _ => rfl).bind fun _ _ _ => ?_
        refine (each found.1 a b states).bind fun _ _ round => ?_
        cases round with
        | done states => exact unison_pure (.done ⟨rfl, states⟩)
        | yield states => exact unison_pure (.yield ⟨rfl, states⟩)
  rw [forEach_eq, forEach_eq]
  refine (unison_same (handle source) fun _ => rfl).bind fun _ _ _ => ?_
  refine (unison_same (ofExcept source.iteration) fun _ => rfl).bind fun walk _ same => ?_
  subst same
  have start : places (walk, a) (walk, b) := ⟨rfl, states⟩
  exact (unison_loop visited _ start).bind fun _ _ last => unison_pure last.2

theorem prepare_clock (callee : Callee) (arguments : List Value) (named : List (String × Value)) :
    prepare ⟨limits, other, isOne⟩ callee arguments named =
      prepare ⟨limits, clock, isOne⟩ callee arguments named := by
  have sized : checkSized ⟨limits, other, isOne⟩ arguments =
      checkSized ⟨limits, clock, isOne⟩ arguments := by
    induction arguments with
    | nil => rfl
    | cons value rest inductionHypothesis =>
        unfold checkSized
        rw [inductionHypothesis]
        rfl
  unfold prepare
  rw [sized]
  rfl

/-- Steps by two clocks that are late at the same readings. -/
theorem unison_tick (alike : ∀ n, Budget.isLate ⟨limits, other, isOne⟩ n =
      Budget.isLate ⟨limits, clock, isOne⟩ n) :
    Unison Eq (Budget.tick ⟨limits, clock, isOne⟩) (Budget.tick ⟨limits, other, isOne⟩) := by
  intro run
  rw [perform_tick, perform_tick, alike]
  exact ⟨rfl, .same _⟩

/-- Two runs within the same limits by clocks that are late at the same readings. -/
def unison (alike : ∀ n, Budget.isLate ⟨limits, other, isOne⟩ n =
      Budget.isLate ⟨limits, clock, isOne⟩ n) :
    Simulation ⟨limits, clock, isOne⟩ ⟨limits, other, isOne⟩ where
  alike := Eq
  likeness := likeness_eq
  admits _ := True
  literal := @likeness_literal_eq
  Together := Unison
  Paying := Unison
  together paying := paying
  pure := unison_pure
  bind first rest := first.bind rest
  payingBind first rest := first.bind rest
  tick := unison_tick alike
  within parts := parts.within
  loop each start := unison_loop each _ start
  forEach {α related body counterpart source source' a b} same start each := by
    subst same
    exact unison_forEach (fun item => each item item rfl) source start
  lookup _ := unison_same _ fun _ => rfl
  bindName _ same := same ▸ unison_same _ fun _ => rfl
  handle same := same ▸ unison_same _ fun _ => rfl
  argument _ := unison_same _ fun _ => rfl
  refuse _ _ := fun _ => ⟨rfl, .error _⟩
  items same := same ▸ unison_same _ List.forall₂_refl
  checkSize {a b} same := same ▸ unison_same (Budget.checkSize ⟨limits, clock, isOne⟩ a) fun _ => rfl
  applyUnary _ same := same ▸ unison_same _ fun _ => rfl
  operate {operator a b a' b'} _ left right :=
    left ▸ right ▸ unison_same (operate ⟨limits, clock, isOne⟩ operator a b) fun _ => rfl
  compareValues _ _ _ _ _ _ _ left right := left ▸ right ▸ unison_same _ fun _ => rfl
  readAttribute _ same := same ▸ unison_same _ fun _ => rfl
  element left right := left ▸ right ▸ unison_same _ fun _ => rfl
  methodOf _ same := same ▸ unison_same _ Callee.alike_refl
  functionOf same := same ▸ unison_same _ Callee.alike_refl
  prepare {a b values others named otherNamed} callees values named := by
    rw [Callee.eq_of_alike callees, eq_of_forall₂_eq values, eq_of_forall₂_namedAlike named,
      List.forall₂_eq_eq_eq, @prepare_clock limits clock other isOne]
    exact unison_same (prepare ⟨limits, clock, isOne⟩ b others otherNamed) fun _ => rfl
  carryOut {a b values others named otherNamed} callees values named := by
    rw [Callee.eq_of_alike callees, eq_of_forall₂_eq values, eq_of_forall₂_namedAlike named]
    exact unison_same (carryOut ⟨limits, clock, isOne⟩ b others otherNamed) fun _ => rfl
  insert sinks same := Sink.eq_of_alike sinks ▸ same ▸ unison_same _ Sink.alike_refl
  store sinks keys same :=
    Sink.eq_of_alike sinks ▸ keys ▸ same ▸ unison_same _ Sink.alike_refl
  checkSink {a b} sinks :=
    Sink.eq_of_alike sinks ▸ unison_same (checkSink ⟨limits, clock, isOne⟩ a) Sink.alike_refl

end Clocks

end Script

end Authorization
