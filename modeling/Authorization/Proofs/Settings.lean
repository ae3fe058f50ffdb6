import Authorization.Proofs.Double
import Authorization.Proofs.Result
import Authorization.Proofs.Script.LooseControl
import Authorization.Proofs.Value
import Authorization.Settings

/-!
# Limits that are accepted

Limits are made of four values, which are given as arguments or found in a mapping of settings. They are
accepted when three of them are positive integers and the seconds are a number that is not zero or less.
Runs under accepted limits are held against the clock, unless the seconds are undefined, when time is never
over, or an integer beyond the doubles, when no run begins.
-/

namespace Authorization

open Script

namespace Value

/-! ## Comparing with zero -/

/-- Real numbers are compared with zero by their exact values; nothing else has an order with it. -/
theorem related?_zero (value : Value) (relation : Relation) :
    value.related? relation (.int 0) =
      if value.isReal then some ((compareNumbers? value (.int 0)).any relation.holds) else none := by
  cases value <;> simp [related?, setMembers?, isReal]
  all_goals split <;> rename_i outcome <;> rw [outcome] <;> rfl

theorem compareNumbers?_float_zero_eq_none_iff {x : Float} :
    compareNumbers? (.float x) (.int 0) = none ↔ x.isNaN = true := by
  have unfolded : compareNumbers? (.float x) (.int 0) =
      (Number.compareIntFloat 0 x).map Ordering.swap := rfl
  rw [unfolded, Option.map_eq_none_iff, ← Number.Binary.ofFloat_eq_undefined_iff]
  unfold Number.compareIntFloat
  split
  · rename_i undefined
    exact iff_of_true rfl undefined
  all_goals
    rename_i defined
    rw [defined]
    exact iff_of_false nofun nofun

/-- A value is more than zero when it can be compared with zero, and is not zero or less. -/
theorem greater_zero_iff {value : Value} : value.related? .greater (.int 0) = some true ↔
    value.related? .lessOrEqual (.int 0) = some false ∧ compareNumbers? value (.int 0) ≠ none := by
  rw [related?_zero, related?_zero]
  by_cases isReal : value.isReal = true
  · rw [if_pos isReal, if_pos isReal]
    rcases compareNumbers? value (.int 0) with _ | _ | _ | _ <;> decide
  · rw [if_neg isReal, if_neg isReal]
    exact iff_of_false nofun nofun

/-- A positive integer that is no truth value. -/
def IsCount (value : Value) : Prop :=
  ∃ n : Int, 1 ≤ n ∧ value = .int n

theorem IsCount.one_le {n : Nat} (isCount : (Value.int n).IsCount) : 1 ≤ n := by
  obtain ⟨number, isPositive, same⟩ := isCount
  have same := Value.int.inj same
  omega

/-- An integer or a double, no truth value. -/
def IsIntOrFloat (value : Value) : Prop :=
  (∃ n, value = .int n) ∨ ∃ x, value = .float x

/-- A double that is no number. -/
def IsUndefined (value : Value) : Prop :=
  ∃ x, value = .float x ∧ x.isNaN = true

/-- An integer that is too great for a double. -/
def IsBeyond (value : Value) : Prop :=
  ∃ n, value = .int n ∧ Number.roundInt n = none

section High

variable {value : Value} (isHigh : value.related? .lessOrEqual (.int 0) = some false)
include isHigh

theorem isReal_of_high : value.isReal = true := by
  rw [related?_zero] at isHigh
  by_contra notReal
  rw [if_neg notReal] at isHigh
  cases isHigh

/-- A real number that is not zero or less is more than zero, unless it is undefined. -/
theorem greater_iff_of_high : value.related? .greater (.int 0) = some true ↔ ¬value.IsUndefined := by
  rw [greater_zero_iff, and_iff_right isHigh]
  refine not_congr ⟨fun incomparable => ?_, ?_⟩
  · have isReal := isReal_of_high isHigh
    cases value with
    | bool flag => cases incomparable
    | int n => cases incomparable
    | float x => exact ⟨x, rfl, compareNumbers?_float_zero_eq_none_iff.1 incomparable⟩
    | _ => cases isReal
  · rintro ⟨x, rfl, isNaN⟩
    exact compareNumbers?_float_zero_eq_none_iff.2 isNaN

theorem isIntOrFloat_iff_of_high : value.IsIntOrFloat ↔ value ≠ .bool true := by
  constructor
  · rintro (⟨n, rfl⟩ | ⟨x, rfl⟩)
    · exact nofun
    · exact nofun
  · intro notTrue
    have isReal := isReal_of_high isHigh
    cases value with
    | bool flag =>
        cases flag with
        | false => exact absurd isHigh (by decide)
        | true => exact absurd rfl notTrue
    | int n => exact .inl ⟨n, rfl⟩
    | float x => exact .inr ⟨x, rfl⟩
    | _ => cases isReal

/-- It is also read as a double that is a number, unless it is undefined or beyond the doubles. -/
theorem exists_secondsOf (isDefined : ¬value.IsUndefined) (isNear : ¬value.IsBeyond) :
    ∃ seconds, secondsOf value = .ok seconds ∧ seconds.isNaN = false := by
  have isReal := isReal_of_high isHigh
  have rounding {n : Int} (same : value.asInt? = some n) (notFloat : ∀ x, value ≠ .float x)
      (isNear : Number.roundInt n ≠ none) :
      ∃ seconds, secondsOf value = .ok seconds ∧ seconds.isNaN = false := by
    obtain ⟨seconds, rounded⟩ := Option.ne_none_iff_exists'.1 isNear
    refine ⟨seconds, ?_, Number.isNaN_of_roundInt rounded⟩
    unfold secondsOf
    rw [same, Option.bind_some, rounded]
    split
    · exact absurd rfl (notFloat _)
    · rfl
  cases value with
  | bool flag =>
      cases flag with
      | false => exact absurd isHigh (by decide)
      | true => exact rounding rfl nofun (by decide +kernel)
  | int n => exact rounding rfl nofun fun isBeyond => isNear ⟨n, rfl, isBeyond⟩
  | float x => exact ⟨x, rfl, Bool.eq_false_iff.2 fun isNaN => isDefined ⟨x, rfl, isNaN⟩⟩
  | _ => cases isReal

end High

end Value

namespace Limits

/-! ## The values that limits are made of -/

/-- The four values that limits are made of. -/
structure Offer where
  steps : Value
  seconds : Value
  length : Value
  exponent : Value

namespace Offer

/-- The values that limits have. -/
def ofLimits (limits : Limits) : Offer :=
  ⟨.int limits.maxSteps, limits.maxSeconds, .int limits.maxSequenceLength, .int limits.maxExponent⟩

/-- The values that are given as arguments. -/
def ofBindings (bindings : Bindings) : Offer :=
  ⟨bindings.value "max_steps", bindings.value "max_seconds", bindings.value "max_sequence_length",
    bindings.value "max_exponent"⟩

/-- The values in a mapping of settings. What is missing there is taken from the default limits. -/
def ofEntries (entries : List (Value × Value)) : Offer :=
  let default := ofLimits {}
  ⟨setting entries "MAX_STEPS" default.steps, setting entries "MAX_SECONDS" default.seconds,
    setting entries "MAX_SEQUENCE_LENGTH" default.length, setting entries "MAX_EXPONENT" default.exponent⟩

/-- The limits of four values. -/
def limits (offer : Offer) : Except Error Limits :=
  ofValues offer.steps offer.seconds offer.length offer.exponent

/-- The values other than the seconds are positive integers. -/
structure Counted (offer : Offer) : Prop where
  steps : offer.steps.IsCount
  length : offer.length.IsCount
  exponent : offer.exponent.IsCount

/-- What is accepted: besides three positive integers, seconds that are a number and not zero or less. -/
structure Admissible (offer : Offer) : Prop extends Counted offer where
  isHigh : offer.seconds.related? .lessOrEqual (.int 0) = some false

/-- Besides three positive integers, seconds that are a number and more than zero. -/
structure Positive (offer : Offer) : Prop extends Counted offer where
  isIntOrFloat : offer.seconds.IsIntOrFloat
  isMore : offer.seconds.related? .greater (.int 0) = some true

theorem Positive.admissible {offer : Offer} (positive : offer.Positive) : offer.Admissible :=
  ⟨positive.toCounted, (Value.greater_zero_iff.1 positive.isMore).1⟩

end Offer

/-! ## Accepting -/

theorem positive_eq_ok_iff {field : String} {value : Value} {n : Nat} :
    positive field value = .ok n ↔ 1 ≤ n ∧ value = .int n := by
  unfold positive
  split
  · rename_i number
    split
    · rename_i isPositive
      rw [Except.ok.injEq, Value.int.injEq]
      omega
    · rename_i notPositive
      refine iff_of_false nofun fun both => notPositive ?_
      have same := Value.int.inj both.2
      omega
  · rename_i notInt
    exact iff_of_false nofun fun both => notInt n both.2

theorem seconds_eq (value : Value) :
    seconds value =
      if value.related? .lessOrEqual (.int 0) = some false then .ok value
      else .error (.inadmissible .positiveSeconds) := by
  unfold seconds
  rw [Value.related?_zero]
  cases value.isReal
  · rfl
  · rcases Value.compareNumbers? value (.int 0) with _ | _ | _ | _ <;> rfl

theorem seconds_eq_ok_iff {value made : Value} :
    seconds value = .ok made ↔ value.related? .lessOrEqual (.int 0) = some false ∧ value = made := by
  rw [seconds_eq]
  split
  · rename_i isHigh
    rw [Except.ok.injEq, and_iff_right isHigh]
  · rename_i notHigh
    exact iff_of_false nofun fun both => notHigh both.1

theorem label_of_positive {field : String} {value : Value} {error : Error}
    (fails : positive field value = .error error) : error.label = "ValueError" := by
  unfold positive at fails
  split at fails
  · split at fails
    · cases fails
    · cases fails
      rfl
  · cases fails
    rfl

theorem label_of_seconds {value : Value} {error : Error}
    (fails : seconds value = .error error) : error.label = "ValueError" := by
  rw [seconds_eq] at fails
  split at fails
  · cases fails
  · cases fails
    rfl

namespace Offer

variable {offer : Offer}

/-- What four values have to be for limits to be made of them, which then have these values. -/
theorem limits_eq_ok_iff {limits : Limits} :
    offer.limits = .ok limits ↔ offer.Admissible ∧ offer = ofLimits limits := by
  unfold Offer.limits ofValues
  simp only [Except.bind_eq_ok_iff, positive_eq_ok_iff, seconds_eq_ok_iff]
  constructor
  · rintro ⟨steps, ⟨stepsPositive, stepsSame⟩, length, ⟨lengthPositive, lengthSame⟩, exponent,
      ⟨exponentPositive, exponentSame⟩, seconds, ⟨isHigh, secondsSame⟩, ⟨⟩⟩
    refine ⟨⟨⟨⟨steps, by omega, stepsSame⟩, ⟨length, by omega, lengthSame⟩,
      ⟨exponent, by omega, exponentSame⟩⟩, isHigh⟩, ?_⟩
    rw [ofLimits, ← stepsSame, ← secondsSame, ← lengthSame, ← exponentSame]
  · rintro ⟨admissible, rfl⟩
    exact ⟨_, ⟨admissible.steps.one_le, rfl⟩, _, ⟨admissible.length.one_le, rfl⟩, _,
      ⟨admissible.exponent.one_le, rfl⟩, _, ⟨admissible.isHigh, rfl⟩, rfl⟩

theorem exists_limits (admissible : offer.Admissible) : ∃ limits, offer.limits = .ok limits := by
  obtain ⟨steps, stepsPositive, stepsSame⟩ := admissible.steps
  obtain ⟨length, lengthPositive, lengthSame⟩ := admissible.length
  obtain ⟨exponent, exponentPositive, exponentSame⟩ := admissible.exponent
  refine ⟨⟨steps.toNat, offer.seconds, length.toNat, exponent.toNat⟩,
    limits_eq_ok_iff.2 ⟨admissible, ?_⟩⟩
  dsimp only [ofLimits]
  rw [Int.toNat_of_nonneg (by omega), Int.toNat_of_nonneg (by omega),
    Int.toNat_of_nonneg (by omega), ← stepsSame, ← lengthSame, ← exponentSame]

/-- Four values that are not accepted fail as values. -/
theorem label_of_limits {error : Error} (fails : offer.limits = .error error) :
    error.label = "ValueError" := by
  unfold Offer.limits ofValues at fails
  rcases Except.bind_eq_error_iff.1 fails with steps | ⟨_, -, fails⟩
  · exact label_of_positive steps
  rcases Except.bind_eq_error_iff.1 fails with length | ⟨_, -, fails⟩
  · exact label_of_positive length
  rcases Except.bind_eq_error_iff.1 fails with exponent | ⟨_, -, fails⟩
  · exact label_of_positive exponent
  rcases Except.bind_eq_error_iff.1 fails with seconds | ⟨_, -, ⟨⟩⟩
  exact label_of_seconds seconds

end Offer

/-- Limits that were accepted are read back from their record. -/
theorem ofValue?_toValue {offer : Offer} {limits : Limits} (made : offer.limits = .ok limits) :
    ofValue? limits.toValue = some limits := by
  have held : offer = .ofLimits limits := (Offer.limits_eq_ok_iff.1 made).2
  have read : ofValue? limits.toValue = (Offer.ofLimits limits).limits.toOption := rfl
  rw [read, ← held, made]
  rfl

/-! ## Time -/

/-- The clock decides when the time of a run is over: a step that may be taken is stopped for time exactly
when the clock shows more than the seconds after its first reading, and is taken exactly when it shows
at most that. -/
def Timed (limits : Limits) : Prop :=
  ∃ seconds, secondsOf limits.maxSeconds = .ok seconds ∧
    ∀ (clock : Nat → Float) (isOne : Expression → Expression → Bool),
      (∀ n, (clock n).isFinite = true) → ∀ run : Run, run.steps < limits.maxSteps →
        ((Eval.perform (Budget.tick ⟨limits, clock, isOne⟩) run).1 =
            .error (.failed (.limit (.seconds limits.maxSeconds.text))) ↔
          clock 0 + seconds < clock (run.steps + 1)) ∧
        ((Eval.perform (Budget.tick ⟨limits, clock, isOne⟩) run).1 = .ok () ↔
          clock (run.steps + 1) ≤ clock 0 + seconds)

variable {limits : Limits} {seconds : Float} {isOne : Expression → Expression → Bool}

theorem isLate_iff (found : secondsOf limits.maxSeconds = .ok seconds) (clock : Nat → Float) (n : Nat) :
    Budget.isLate ⟨limits, clock, isOne⟩ n = true ↔ clock 0 + seconds < clock n := by
  have deadline : Budget.deadline ⟨limits, clock, isOne⟩ = .ok (clock 0 + seconds) := by
    rw [Budget.deadline, found]
    rfl
  rw [Budget.isLate, deadline]
  exact decide_eq_true_iff

theorem timed_of_isNumber (found : secondsOf limits.maxSeconds = .ok seconds)
    (isNumber : seconds.isNaN = false) : limits.Timed := by
  refine ⟨seconds, found, fun clock isOne isFinite run mayStep => ?_⟩
  have comparable := Number.not_lt_iff_le (Number.isNaN_add (isFinite 0) isNumber)
    (Number.isNaN_of_isFinite (isFinite (run.steps + 1)))
  have late : Budget.isLate ⟨limits, clock, isOne⟩ (run.steps + 1) = true ↔ _ :=
    isLate_iff found clock (run.steps + 1)
  have inSteps : ¬run.steps + 1 > limits.maxSteps := by omega
  rw [← comparable, ← late, Eval.perform_tick]
  dsimp only
  rw [if_neg inSteps]
  split
  · rename_i isLate
    exact ⟨iff_of_true rfl isLate, iff_of_false nofun (not_not_intro isLate)⟩
  · rename_i inTime
    exact ⟨iff_of_false nofun inTime, iff_of_true rfl inTime⟩

/-- Under undefined seconds the time of a run is never over. -/
theorem isLate_of_isUndefined (isUndefined : limits.maxSeconds.IsUndefined) (clock : Nat → Float)
    (n : Nat) : Budget.isLate ⟨limits, clock, isOne⟩ n = false := by
  obtain ⟨seconds, held, isNaN⟩ := isUndefined
  have found : secondsOf limits.maxSeconds = .ok seconds := by rw [held, secondsOf]
  rw [Bool.eq_false_iff, ne_eq, isLate_iff found]
  exact Number.not_lt_of_isNaN (Number.isNaN_add_of_isNaN _ isNaN) _

theorem secondsOf_of_isBeyond (isBeyond : limits.maxSeconds.IsBeyond) :
    secondsOf limits.maxSeconds = .error (.operation .overflow "int too large to convert to float") := by
  obtain ⟨n, held, noDouble⟩ := isBeyond
  rw [held]
  unfold secondsOf
  dsimp only [Value.asInt?, Option.bind_some]
  rw [noDouble]
  rfl

/-- Under seconds beyond the doubles no run begins. -/
theorem run_of_isBeyond (isBeyond : limits.maxSeconds.IsBeyond) (script : Script) (clock : Nat → Float)
    {names : Scope} (known : unexpected names = []) (cursors : Cursors) :
    Id.run ((script.run ⟨limits, clock, isOne⟩ names).run.run cursors) =
      (.error (.operation .overflow "int too large to convert to float"), cursors) := by
  have noDeadline : Budget.deadline ⟨limits, clock, isOne⟩ =
      .error (.operation .overflow "int too large to convert to float") := by
    rw [Budget.deadline, secondsOf_of_isBeyond isBeyond]
    rfl
  rw [run_eq, obstacle?_of_expected known, noDeadline]

/-- Seconds that the clock decides are defined. -/
theorem Timed.isDefined (timed : limits.Timed) (hasSteps : 0 < limits.maxSteps) :
    ¬limits.maxSeconds.IsUndefined := by
  intro isUndefined
  obtain ⟨seconds, found, decided⟩ := timed
  -- On a clock that stands still a step passes, though no reading is at most an undefined deadline.
  have inTime : (Eval.perform (Budget.tick ⟨limits, fun _ => 0, fun _ _ => false⟩) {}).1 = .ok () := by
    rw [Eval.perform_tick]
    dsimp only
    rw [if_neg (by omega), isLate_of_isUndefined isUndefined]
    rfl
  have reached :=
    (decided (fun _ => 0) (fun _ _ => false) (fun _ => by decide +kernel) {} hasSteps).2.1 inTime
  obtain ⟨x, held, isNaN⟩ := isUndefined
  rw [held, secondsOf] at found
  cases found
  exact Number.not_le_of_isNaN (Number.isNaN_add_of_isNaN _ isNaN) _ reached

/-- The seconds of limits are decided by the clock, unless they are undefined or beyond the doubles. -/
theorem timed_iff (hasSteps : 0 < limits.maxSteps)
    (isHigh : limits.maxSeconds.related? .lessOrEqual (.int 0) = some false) :
    limits.Timed ↔ ¬limits.maxSeconds.IsUndefined ∧ ¬limits.maxSeconds.IsBeyond := by
  constructor
  · intro timed
    refine ⟨timed.isDefined hasSteps, fun isBeyond => ?_⟩
    obtain ⟨seconds, found, -⟩ := timed
    rw [secondsOf_of_isBeyond isBeyond] at found
    cases found
  · rintro ⟨isDefined, isNear⟩
    obtain ⟨seconds, found, isNumber⟩ := Value.exists_secondsOf isHigh isDefined isNear
    exact timed_of_isNumber found isNumber

/-! ## Making limits -/

/-- The ways to make limits of four values: of arguments that fit the parameters, of a mapping of settings,
and of the mapping in the settings of a deployment, whose roles are any collection. -/
inductive Given : Offer → Except Error Limits → Prop
  | arguments {arguments : Arguments} {bindings : Bindings}
      (fit : arguments.bindTo parameters = .ok bindings) :
      Given (.ofBindings bindings) (ofArguments arguments)
  | settings {raw : Value} {entries : List (Value × Value)} (isMapping : raw.entries? = some entries) :
      Given (.ofEntries entries) (ofSettings raw)
  | deployment {raw : Value} {entries inner : List (Value × Value)} {roles : List Value}
      (isMapping : raw.entries? = some entries)
      (areRoles : ((Value.lookupText? entries "BYPASS_ROLES").getD Settings.defaultRoles).toMembers =
        .ok roles)
      (isInner : ((Value.lookupText? entries "SANDBOX").getD (.dict [])).entries? = some inner) :
      Given (.ofEntries inner) ((Settings.ofMapping raw).map Settings.limits)

theorem ofSettings_eq {raw : Value} {entries : List (Value × Value)}
    (isMapping : raw.entries? = some entries) : ofSettings raw = (Offer.ofEntries entries).limits := by
  rw [ofSettings, settingEntries, isMapping]
  rfl

end Limits

theorem Settings.eq_of_rolesOf {members : List Value} {error : Error}
    (fails : rolesOf members = .error error) : error = .inadmissible .bypassRoles := by
  induction members with
  | nil => cases fails
  | cons member rest inductionHypothesis =>
      rw [rolesOf] at fails
      split at fails
      · exact inductionHypothesis (Except.map_eq_error_iff.1 fails)
      · cases fails
        rfl

namespace Limits

variable {offer : Offer} {made : Except Error Limits}

/-- However they are given, limits are made of the four values alone; a deployment may only fail for its
roles besides. -/
theorem Given.eq_or (given : Given offer made) :
    made = offer.limits ∨
      (∃ limits, offer.limits = .ok limits) ∧ made = .error (.inadmissible .bypassRoles) := by
  cases given with
  | arguments fit =>
      rw [ofArguments, fit]
      exact .inl rfl
  | settings isMapping => exact .inl (ofSettings_eq isMapping)
  | @deployment _ _ inner members isMapping areRoles isInner =>
      rw [Settings.ofMapping, settingEntries, isMapping, Except.ok_bind, areRoles, Except.ok_bind,
        ofSettings_eq isInner]
      cases accepted : (Offer.ofEntries inner).limits with
      | error error => exact .inl rfl
      | ok limits =>
          cases found : Settings.rolesOf members with
          | error error =>
              refine .inr ⟨⟨limits, rfl⟩, ?_⟩
              rw [← Settings.eq_of_rolesOf found]
              rfl
          | ok roles =>
              have read : Settings.limits ⟨roles, limits.toValue⟩ = limits := by
                rw [Settings.limits, ofValue?_toValue accepted]
                rfl
              exact .inl (congrArg Except.ok read)

/-- What is not accepted fails as a value, and nothing positive fails. What is accepted are three positive
integers, and seconds that are a number unless they are a truth value, more than zero unless they are
undefined, and decided by the clock unless they are undefined or beyond the doubles. -/
theorem accepted_limits_are_usable (given : Given offer made) :
    (∀ error, made = .error error →
      error.label = "ValueError" ∧ (offer.Positive → error = .inadmissible .bypassRoles)) ∧
    ∀ limits, made = .ok limits →
      offer = .ofLimits limits ∧ offer.Counted ∧
      (offer.seconds.IsIntOrFloat ↔ offer.seconds ≠ .bool true) ∧
      (offer.seconds.related? .greater (.int 0) = some true ↔ ¬offer.seconds.IsUndefined) ∧
      (limits.Timed ↔ ¬offer.seconds.IsUndefined ∧ ¬offer.seconds.IsBeyond) := by
  constructor
  · intro error fails
    rcases given.eq_or with rfl | ⟨-, rfl⟩
    · refine ⟨Offer.label_of_limits fails, fun positive => ?_⟩
      obtain ⟨limits, accepted⟩ := Offer.exists_limits positive.admissible
      rw [accepted] at fails
      cases fails
    · cases fails
      exact ⟨rfl, fun _ => rfl⟩
  · intro limits accepted
    rcases given.eq_or with rfl | ⟨-, rfl⟩
    · obtain ⟨admissible, rfl⟩ := Offer.limits_eq_ok_iff.1 accepted
      exact ⟨rfl, admissible.toCounted, Value.isIntOrFloat_iff_of_high admissible.isHigh,
        Value.greater_iff_of_high admissible.isHigh,
        timed_iff admissible.steps.one_le admissible.isHigh⟩
    · cases accepted

/-- Limits of five steps, and else the default ones. -/
def fiveSteps : Limits :=
  { maxSteps := 5 }

theorem accepted_limits_are_usable_five :
    Given (.ofEntries [(.str "MAX_STEPS", .int 5)]) (ofSettings (.dict [(.str "MAX_STEPS", .int 5)])) ∧
    ofSettings (.dict [(.str "MAX_STEPS", .int 5)]) = .ok fiveSteps ∧
    (Offer.ofLimits fiveSteps).Positive ∧ fiveSteps.Timed := by
  have offered : Offer.ofEntries [(.str "MAX_STEPS", .int 5)] = .ofLimits fiveSteps := by
    simp [Offer.ofEntries, setting, Value.lookupText?, Value.lookup?, Offer.ofLimits, fiveSteps]
  have given : Given (.ofLimits fiveSteps) (ofSettings (.dict [(.str "MAX_STEPS", .int 5)])) :=
    offered ▸ .settings rfl
  have admissible : (Offer.ofLimits fiveSteps).Admissible :=
    ⟨⟨⟨5, by decide, rfl⟩, ⟨10000, by decide, rfl⟩, ⟨1000, by decide, rfl⟩⟩, by decide +kernel⟩
  have accepted : ofSettings (.dict [(.str "MAX_STEPS", .int 5)]) = .ok fiveSteps := by
    rw [ofSettings_eq rfl, offered]
    exact Offer.limits_eq_ok_iff.2 ⟨admissible, rfl⟩
  have isDefined : ¬(Value.float 0.05).IsUndefined := by
    rintro ⟨x, ⟨⟩, isNaN⟩
    exact absurd isNaN (by decide +kernel)
  have isNear : ¬(Value.float 0.05).IsBeyond := by
    rintro ⟨n, held, -⟩
    cases held
  obtain ⟨-, counted, isIntOrFloat, isMore, timed⟩ := (accepted_limits_are_usable given).2 _ accepted
  exact ⟨offered ▸ given, accepted, ⟨counted, isIntOrFloat.2 nofun, isMore.2 isDefined⟩,
    timed.2 ⟨isDefined, isNear⟩⟩

end Limits

end Authorization
