import Authorization.Proofs.Script.Limits

/-!
# Asking a script

What a rule makes of what a script says: its truth value, or false and a note in the journal when it
fails. A rule that holds under narrow limits holds under wide ones. At another pace of the machine a rule
says the same, as long as the machine cuts off the script at the same place or not at all.
-/

namespace Authorization

namespace Script

/-- What a script says of names, and the items that have been taken then. -/
def verdict (script : Script) (budget : Budget) (names : Scope) (cursors : Cursors) :
    Except Error Bool × Cursors :=
  Id.run ((script.decide budget names).run.run cursors)

/-- The truth value of a run that has ended. -/
def judgement (budget : Budget) : Except Stop Value → Except Error Bool
  | .ok value => .ok (value.asBool?.getD false)
  | .error stop => .error (stop.error budget)

theorem verdict_eq (script : Script) (budget : Budget) (names : Scope) (cursors : Cursors) :
    script.verdict budget names cursors =
      match obstacle? budget names with
      | none => (judgement budget (script.outcome budget names cursors).result,
          (script.outcome budget names cursors).cursors)
      | some error => (.error error, cursors) := by
  unfold verdict Script.decide Script.run
  cases obstacle? budget names with
  | none =>
      let ended := script.outcome budget names cursors
      let answer : Draw Value := match ended.result with
        | .ok value => pure value
        | .error stop => throw (stop.error budget)
      have shape : Id.run ((answer >>= fun value => pure (value.asBool?.getD false)).run.run
          ended.cursors) = (judgement budget ended.result, ended.cursors) := by
        simp only [answer]
        cases ended.result <;> rfl
      exact shape
  | some error => rfl

end Script

namespace Check

/-- What a script says of a decision, and the items that have been taken then. -/
def said [Host] (code : Script) (limits : Limits) (attributes : DecisionAttributes) (cursors : Cursors) :
    Except Error Bool × Cursors :=
  Id.run ((decided code limits attributes).run.run cursors)

theorem said_of_breaksOff [Host] {code : Script} (breaksOff : Host.pace.breaksOff code.tree = true)
    (limits : Limits) (attributes : DecisionAttributes) (cursors : Cursors) :
    said code limits attributes cursors =
      (.error (.raised .recursion "maximum recursion depth exceeded"), cursors) := by
  unfold said decided
  rw [if_pos breaksOff]
  rfl

theorem said_eq [Host] {code : Script} (getsOn : Host.pace.breaksOff code.tree = false) (limits : Limits)
    (attributes : DecisionAttributes) (cursors : Cursors) :
    said code limits attributes cursors =
      code.verdict (budget code limits) (exposed attributes) cursors := by
  unfold said decided
  rw [if_neg (by simp [getsOn])]
  rfl

/-- What a rule reports for what a script has said: the note on an error has to be written. -/
def reported (attributes : DecisionAttributes) (journal : Journal) :
    Except Error Bool × Cursors → Except Error Bool × Journal
  | (.ok answer, cursors) => (.ok answer, { journal with cursors })
  | (.error error, cursors) =>
    match error.toLogged with
    | .ok words =>
      (.ok false, { journal with cursors }.add .warning .sandbox
        ("Script evaluation failed for principal '" ++ attributes.principal.id ++ "': " ++ words))
    | .error other => (.error other, { journal with cursors })

/-- What a rule reports is a matter of what the script has said. -/
theorem reported_congr (attributes : DecisionAttributes) {journal other : Journal}
    {said otherSaid : Except Error Bool × Cursors} (same : said.1 = otherSaid.1) :
    (reported attributes journal said).1 = (reported attributes other otherSaid).1 := by
  obtain ⟨result, cursors⟩ := said
  obtain ⟨otherResult, otherCursors⟩ := otherSaid
  obtain rfl : result = otherResult := same
  cases result with
  | ok answer => rfl
  | error error =>
      unfold reported
      dsimp only
      cases error.toLogged <;> rfl

theorem run_consult [Host] (code : Script) (limits : Limits) (attributes : DecisionAttributes)
    (journal : Journal) :
    Id.run ((consult code limits attributes).run journal) =
      reported attributes journal (said code limits attributes journal.cursors) := by
  have shape : Id.run ((Judged.attempt (Judged.ofDraw (decided code limits attributes))).run journal) =
      (.ok (said code limits attributes journal.cursors).1,
        { journal with cursors := (said code limits attributes journal.cursors).2 }) := rfl
  unfold consult
  rw [Judged.run_bind, shape]
  rcases said code limits attributes journal.cursors with ⟨error | answer, cursors⟩
  · dsimp only
    rw [Judged.run_bind, Judged.run_liftM]
    unfold reported
    dsimp only
    cases error.toLogged <;> rfl
  · rfl

theorem run_evaluate_script [Host] (code : Script) (limits : Limits) (attributes : DecisionAttributes)
    (journal : Journal) :
    Id.run (((Check.script code limits).evaluate attributes).run journal) =
      ((reported attributes journal (said code limits attributes journal.cursors)).1.map .bool,
        (reported attributes journal (said code limits attributes journal.cursors)).2) := by
  unfold evaluate
  rw [Judged.run_bind, run_consult]
  rcases reported attributes journal (said code limits attributes journal.cursors) with
    ⟨error | answer, after⟩ <;> rfl

/-- A script rule says yes only where its script does. -/
theorem said_of_reported {attributes : DecisionAttributes} {journal : Journal}
    {said : Except Error Bool × Cursors}
    (holds : (reported attributes journal said).1 = .ok true) : said.1 = .ok true := by
  obtain ⟨error | answer, cursors⟩ := said
  · unfold reported at holds
    dsimp only at holds
    split at holds
    · cases holds
    · cases holds
  · exact holds

/-! ## Other paces -/

variable {pace : Pace} {code : Script} {limits : Limits}

/-- At another pace the machine gets on with a script within limits as at its own: it breaks off both runs
or neither, and the time is over at the same readings of the two clocks. -/
structure RunsAlike [Host] (pace : Pace) (code : Script) (limits : Limits) : Prop where
  breaksOff : pace.breaksOff code.tree = Host.pace.breaksOff code.tree
  isLate : ∀ n, (@budget (Host.paced pace) code limits).isLate n = (budget code limits).isLate n

/-- So it does where neither run is broken off or late. -/
theorem runsAlike_of_undisturbed [Host] (getsOn : Host.pace.breaksOff code.tree = false)
    (inTime : ∀ n, (budget code limits).isLate n = false) (getsOnToo : pace.breaksOff code.tree = false)
    (inTimeToo : ∀ n, (@budget (Host.paced pace) code limits).isLate n = false) :
    RunsAlike pace code limits where
  breaksOff := getsOnToo.trans getsOn.symm
  isLate n := (inTimeToo n).trans (inTime n).symm

/-- A script that says yes within narrow limits says the same within wide ones. -/
theorem said_of_within [Host] (code : Script) {narrow wide : Limits} (within : narrow.Within wide)
    (attributes : DecisionAttributes) (cursors : Cursors)
    (inTime : ∀ n, (budget code wide).isLate n = false)
    (holds : (said code narrow attributes cursors).1 = .ok true) :
    said code wide attributes cursors = said code narrow attributes cursors := by
  cases breaksOff : Host.pace.breaksOff code.tree with
  | true =>
      rw [said_of_breaksOff breaksOff] at holds
      cases holds
  | false =>
      rw [said_eq breaksOff, Script.verdict_eq] at holds
      rw [said_eq breaksOff, said_eq breaksOff, Script.verdict_eq, Script.verdict_eq]
      cases obstructed : Script.obstacle? (budget code narrow) (exposed attributes) with
      | none =>
        rw [obstructed] at holds
        have known : Script.unexpected (exposed attributes) = [] := by
          by_contra unknown
          rw [Script.obstacle?_of_unexpected unknown] at obstructed
          cases obstructed
        obtain ⟨deadline, isDeadline⟩ := Script.Budget.exists_deadline (inTime 0)
        rw [Script.obstacle?_of_expected known, isDeadline]
        dsimp only at holds ⊢
        have conclusive : Script.Conclusive (budget code wide)
            (code.outcome (budget code narrow) (exposed attributes) cursors).result := by
          generalize (code.outcome (budget code narrow) (exposed attributes) cursors).result = result
            at holds
          cases result with
          | ok value => exact .ok value
          | error stop => cases holds
        have within : (budget code narrow).limits.Within (budget code wide).limits := within
        have same := Script.outcome_of_conclusive code within rfl (exposed attributes) cursors
          conclusive fun n _ => inTime n
        rw [same]
        generalize (code.outcome (budget code narrow) (exposed attributes) cursors) = ended
          at holds conclusive
        obtain ⟨result, steps, cursors, accesses⟩ := ended
        cases conclusive with
        | ok value => rfl
        | failed notLimit isWritten => cases holds
      | some error =>
        rw [obstructed] at holds
        cases holds

end Check

namespace Script

/-- Limits only cut off. Where a run is not cut off, it ends under wider limits as it has, with the same
value or the same error, as long as the limits on exponents can be written and the clock does not end
the longer run; and a rule that asks the script and holds also holds under wider limits, without any
condition on exponents. -/
theorem limits_only_cut_off [Host] (script : Script) {narrow wide : Limits}
    (within : narrow.Within wide) :
    (∀ (clock other : Nat → Float) (isOne : Expression → Expression → Bool) (names : Scope)
        (cursors : Cursors),
        wide.maxExponent < 10 ^ Number.maxDecimalDigits →
        (∀ found, (script.outcome ⟨narrow, clock, isOne⟩ names cursors).result ≠
          .error (.failed (.limit found))) →
        Budget.InTime ⟨wide, other, isOne⟩ (script.outcome ⟨narrow, clock, isOne⟩ names cursors).steps →
        script.outcome ⟨wide, other, isOne⟩ names cursors =
          script.outcome ⟨narrow, clock, isOne⟩ names cursors) ∧
      ∀ (attributes : DecisionAttributes) (journal : Journal),
        (∀ n, (Check.budget script wide).isLate n = false) →
        (Id.run (((Check.script script narrow).evaluate attributes).run journal)).1 =
          .ok (.bool true) →
        Id.run (((Check.script script wide).evaluate attributes).run journal) =
          Id.run (((Check.script script narrow).evaluate attributes).run journal) := by
  constructor
  · intro clock other isOne names cursors isWritten notCutOff inTime
    have within : (Budget.mk narrow clock isOne).limits.Within (Budget.mk wide other isOne).limits :=
      within
    exact outcome_of_within script within rfl isWritten names cursors notCutOff inTime
  · intro attributes journal inTime holds
    rw [Check.run_evaluate_script] at holds
    have reports : (Check.reported attributes journal
        (Check.said script narrow attributes journal.cursors)).1 = .ok true := by
      generalize (Check.reported attributes journal
        (Check.said script narrow attributes journal.cursors)).1 = result at holds
      cases result with
      | error error => cases holds
      | ok truth => exact congrArg Except.ok (Value.bool.inj (Except.ok.inj holds))
    rw [Check.run_evaluate_script, Check.run_evaluate_script,
      Check.said_of_within script within attributes journal.cursors inTime
        (Check.said_of_reported reports)]

/-- The script `2 ** 5 == 32`. -/
def powerOfTwo : Script where
  tree := .expression (.compare 1
    (.binary 1 (.constant 1 (.int 2)) .power (.constant 1 (.int 5))) [.equal] [.constant 1 (.int 32)])
  isAccepted := by rfl

def doubledLimits : Limits :=
  { maxSteps := 20000, maxSequenceLength := 20000, maxExponent := 2000 }

def visitorAttributes : DecisionAttributes :=
  ⟨⟨"visitor", "user", none, [], []⟩, .null, .str "view", []⟩

def isYes {ε : Type} : Except ε Value → Bool
  | .ok (.bool answer) => answer
  | _ => false

theorem eq_ok_of_isYes {ε : Type} {result : Except ε Value} (yes : isYes result = true) :
    result = .ok (.bool true) := by
  unfold isYes at yes
  split at yes
  · rw [yes]
  · cases yes

open scoped Host in
theorem powerOfTwo_limits_only_cut_off :
    powerOfTwo.outcome { usualLimits with limits := doubledLimits } [] {} =
        powerOfTwo.outcome usualLimits [] {} ∧
      Id.run (((Check.script powerOfTwo doubledLimits).evaluate visitorAttributes).run {}) =
        Id.run (((Check.script powerOfTwo {}).evaluate visitorAttributes).run {}) := by
  have within : Limits.Within {} doubledLimits := ⟨by decide, by decide, by decide⟩
  have inTime (n : Nat) : (Check.budget powerOfTwo doubledLimits).isLate n = false := by
    have first : (Check.budget powerOfTwo doubledLimits).isLate 0 = false := by decide +kernel
    exact first
  have isWritten : doubledLimits.maxExponent < 10 ^ Number.maxDecimalDigits := by
    have few : 2000 < 10 ^ 4 := by decide
    exact Nat.lt_of_lt_of_le few (Nat.pow_le_pow_right (by omega) (by decide))
  have runs : isYes (powerOfTwo.outcome usualLimits [] {}).result = true := by
    decide +kernel
  have holds : isYes (Id.run
      (((Check.script powerOfTwo {}).evaluate visitorAttributes).run {})).1 = true := by
    decide +kernel
  obtain ⟨sameOutcome, sameAnswer⟩ := limits_only_cut_off powerOfTwo within
  refine ⟨sameOutcome _ _ _ _ _ isWritten (fun found cutOff => ?_) fun n _ => inTime n,
    sameAnswer _ _ inTime (eq_ok_of_isYes holds)⟩
  have cutOff : (powerOfTwo.outcome usualLimits [] {}).result = .error (.failed (.limit found)) := cutOff
  rw [cutOff] at runs
  cases runs

/-- A pace at which each run takes a hundredth of a second. -/
def steadyPace : Pace :=
  ⟨fun _ n => if n = 0 then 0.0 else 0.01, fun _ => false⟩

open scoped Host in
/-- At that pace the script is asked in time, as it is where the clock stands still. -/
example : Check.RunsAlike steadyPace powerOfTwo {} := by
  refine Check.runsAlike_of_undisturbed rfl (fun n => ?_) rfl fun n => ?_
  · have first : (Check.budget powerOfTwo {}).isLate 0 = false := by decide +kernel
    exact first
  · cases n with
    | zero => decide +kernel
    | succ n =>
        have second : (@Check.budget (Host.paced steadyPace) powerOfTwo {}).isLate 1 = false := by
          decide +kernel
        exact second

end Script

end Authorization
