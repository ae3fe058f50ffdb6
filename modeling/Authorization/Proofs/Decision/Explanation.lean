import Authorization.Proofs.Decision.Chain

/-!
# What a chain reports

A decision stops at the first rule that does not pass; a report asks every rule. Both ask in the order of
the chain and come to the same decision, for what the rules after the first that does not pass say makes
no difference to it. Where each rule has one answer, both follow from the list of the answers alone: the
decision asks a part from the front of the list, and the report tells for each rule whether it answered
true, and what was wrong where it answered no truth value.
-/

namespace Authorization

namespace ChainRule

theorem isTrue_iff {answer : Except Error Value} :
    isTrue answer = true ↔ answer = .ok (.bool true) := by
  rcases answer with error | value
  · simp [isTrue]
  · cases value <;> simp [isTrue]

theorem objection_eq_none_iff {answer : Except Error Value} :
    objection answer = none ↔ ∃ truth, answer = .ok (.bool truth) := by
  rcases answer with error | value
  · simp [objection]
  · cases value <;> simp [objection]

end ChainRule

namespace PolicyChain

/-! ## Asking every rule -/

/-- All rules of a list pass. -/
def allPass (outcomes : Except Error (List RuleOutcome)) : Bool :=
  (outcomes.map fun found => found.all RuleOutcome.passed).toOption.getD false

theorem allPass_cons (outcome : RuleOutcome) (others : Except Error (List RuleOutcome)) :
    allPass (others.map (outcome :: ·)) = (outcome.passed && allPass others) := by
  cases others with
  | ok found => rfl
  | error error => exact (Bool.and_false _).symm

variable [Host]

theorem outcomes_cons (key : Value) (attributes : DecisionAttributes) (entry : ChainRule)
    (rest : List ChainRule) (journal : Journal) :
    Id.run ((outcomes key attributes (entry :: rest)).run journal) =
      match Id.run ((entry.judge key attributes).run journal) with
      | (.ok (passed, error), next) =>
        ((Id.run ((outcomes key attributes rest).run next)).1.map (⟨entry, passed, error⟩ :: ·),
          (Id.run ((outcomes key attributes rest).run next)).2)
      | (.error error, next) => (.error error, next) := by
  rw [outcomes, Judged.run_bind]
  rcases Id.run ((entry.judge key attributes).run journal) with ⟨error | judged, next⟩
  · rfl
  · dsimp only
    rw [Judged.run_bind]
    rcases Id.run ((outcomes key attributes rest).run next) with ⟨error | found, last⟩ <;> rfl

/-- All rules of a list pass exactly when each of them answers true: what the others say after one that
does not pass makes no difference. -/
theorem allPass_outcomes_iff (key : Value) (attributes : DecisionAttributes) (rules : List ChainRule)
    (journal : Journal) :
    allPass (Id.run ((outcomes key attributes rules).run journal)).1 = true ↔
      ChainRule.AllTrue attributes journal rules := by
  induction rules generalizing journal with
  | nil => exact ⟨fun _ => .nil journal, fun _ => rfl⟩
  | cons entry rest inductionHypothesis =>
      rw [outcomes_cons]
      have notTrue {next : Journal} {result : Except Error (Bool × Option String)}
          (judged : Id.run ((entry.judge key attributes).run journal) = (result, next))
          (fails : result ≠ .ok (true, none)) :
          ¬ ChainRule.AllTrue attributes journal (entry :: rest) := by
        rintro (_ | ⟨isTrue, _⟩)
        rw [ChainRule.judge_of_true isTrue] at judged
        cases judged
        exact fails rfl
      rcases judged : Id.run ((entry.judge key attributes).run journal) with
        ⟨error | ⟨_ | _, report⟩, next⟩
      · exact iff_of_false nofun (notTrue judged nofun)
      · dsimp only
        rw [allPass_cons]
        exact iff_of_false nofun (notTrue judged nofun)
      · have answered := ChainRule.answer_of_passes judged
        dsimp only
        rw [allPass_cons, Bool.true_and, inductionHypothesis next]
        constructor
        · intro others
          exact .cons answered others
        · rintro (_ | ⟨isTrue, others⟩)
          rw [answered] at isTrue
          cases isTrue
          exact others

/-- What a chain reports of a decision, from a journal on; of a chain that fails, that it denies. -/
def report (chain : PolicyChain) (attributes : DecisionAttributes) (journal : Journal) :
    ChainReport :=
  (Id.run ((chain.explain attributes).run journal)).1.toOption.getD
    { allowed := false, key := chain.key }

/-- For a report, a chain that is not rejected and has rules asks each of them. -/
theorem explain_eq {chain : PolicyChain} (accepted : chain.isRejected = false)
    (nonEmpty : chain.rules ≠ []) (attributes : DecisionAttributes) (journal : Journal) :
    Id.run ((chain.explain attributes).run journal) =
      ((Id.run ((outcomes chain.key attributes chain.rules).run journal)).1.map fun found =>
          { allowed := found.all RuleOutcome.passed, key := chain.key, outcomes := found },
        (Id.run ((outcomes chain.key attributes chain.rules).run journal)).2) := by
  unfold explain
  rw [if_neg (by simp [accepted])]
  cases rules : chain.rules with
  | nil => exact absurd rules nonEmpty
  | cons entry rest =>
      dsimp only
      rw [Judged.run_bind]
      rcases Id.run ((outcomes chain.key attributes (entry :: rest)).run journal) with
        ⟨error | found, last⟩ <;> rfl

/-- A chain that is rejected or has no rules reports that it denies, and nothing of any rule. -/
theorem report_of_mute {chain : PolicyChain} (mute : chain.isRejected = true ∨ chain.rules = [])
    (attributes : DecisionAttributes) (journal : Journal) :
    (chain.report attributes journal).allowed = false ∧
      (chain.report attributes journal).outcomes = [] := by
  unfold report explain
  by_cases rejected : chain.isRejected = true
  · rw [if_pos rejected, Judged.run_bind, Judged.run_liftM]
    cases chain.reason.toText with
    | error error => exact ⟨rfl, rfl⟩
    | ok reason => exact ⟨rfl, rfl⟩
  · rw [if_neg rejected, mute.resolve_left rejected]
    exact ⟨rfl, rfl⟩

theorem allowed_report_iff (chain : PolicyChain) (attributes : DecisionAttributes)
    (journal : Journal) :
    (chain.report attributes journal).allowed = true ↔ chain.Holds attributes journal := by
  by_cases mute : chain.isRejected = true ∨ chain.rules = []
  · rw [(report_of_mute mute attributes journal).1]
    refine iff_of_false nofun fun holds => ?_
    rcases mute with rejected | empty
    · rw [holds.accepted] at rejected
      cases rejected
    · exact holds.nonEmpty empty
  · obtain ⟨accepted, nonEmpty⟩ := not_or.1 mute
    have accepted : chain.isRejected = false := by simpa using accepted
    have allowed : (chain.report attributes journal).allowed =
        allPass (Id.run ((outcomes chain.key attributes chain.rules).run journal)).1 := by
      unfold report allPass
      rw [explain_eq accepted nonEmpty]
      rcases Id.run ((outcomes chain.key attributes chain.rules).run journal) with
        ⟨error | found, last⟩ <;> rfl
    rw [allowed, allPass_outcomes_iff]
    exact ⟨fun allTrue => ⟨accepted, nonEmpty, allTrue⟩, Holds.allTrue⟩

/-- A chain reports of a decision what it says of it. -/
theorem allowed_report (chain : PolicyChain) (attributes : DecisionAttributes) (journal : Journal) :
    (chain.report attributes journal).allowed = chain.upholds attributes journal := by
  rw [Bool.eq_iff_iff, allowed_report_iff, upholds_iff]

theorem exists_outcomes {key : Value} {attributes : DecisionAttributes} {rules : List ChainRule}
    (notable : ∀ entry ∈ rules, ∀ journal, entry.CanBeNoted key (entry.answer attributes journal).1)
    (journal : Journal) :
    ∃ found, (Id.run ((outcomes key attributes rules).run journal)).1 = .ok found := by
  induction rules generalizing journal with
  | nil => exact ⟨_, rfl⟩
  | cons entry rest inductionHypothesis =>
      obtain ⟨here, others⟩ := List.forall_mem_cons.1 notable
      obtain ⟨next, rated, -⟩ := ChainRule.exists_rate (here journal) (entry.answer attributes journal).2
      obtain ⟨found, asked⟩ := inductionHypothesis others next
      rw [outcomes_cons, ChainRule.judge_run, rated]
      dsimp only
      rw [asked]
      exact ⟨_, rfl⟩

/-- A chain whose rules can be noted, and whose reason can be written if it is rejected, reports. -/
theorem IsNotable.explain_eq {chain : PolicyChain} {attributes : DecisionAttributes}
    (notable : chain.IsNotable attributes) (hasText : chain.isRejected = true → chain.reason.HasText)
    (journal : Journal) :
    (Id.run ((chain.explain attributes).run journal)).1 = .ok (chain.report attributes journal) := by
  have reports : ∃ report, (Id.run ((chain.explain attributes).run journal)).1 = .ok report := by
    by_cases rejected : chain.isRejected = true
    · obtain ⟨reason, isReason⟩ := hasText rejected
      unfold explain
      rw [if_pos rejected, Judged.run_bind, Judged.run_liftM, isReason]
      exact ⟨_, rfl⟩
    · by_cases nonEmpty : chain.rules = []
      · unfold explain
        rw [if_neg rejected, nonEmpty]
        exact ⟨_, rfl⟩
      · obtain ⟨found, asked⟩ := exists_outcomes notable journal
        rw [PolicyChain.explain_eq (by simpa using rejected) nonEmpty, asked]
        exact ⟨_, rfl⟩
  obtain ⟨report, reported⟩ := reports
  rw [PolicyChain.report, reported]
  rfl

end PolicyChain

/-! ## Rules with one answer -/

namespace PolicyChain

section Answers

variable {attributes : DecisionAttributes} {answers : ChainRule → Except Error Value}

/-- A rule passes. -/
def Passing (answers : ChainRule → Except Error Value) (entry : ChainRule) : Bool :=
  ChainRule.isTrue (answers entry)

/-- What comes of a rule. -/
def outcomeOf (answers : ChainRule → Except Error Value) (entry : ChainRule) : RuleOutcome :=
  ⟨entry, Passing answers entry, ChainRule.objection (answers entry)⟩

/-- The rules up to the first that does not pass, and that one. -/
def upToFailure (answers : ChainRule → Except Error Value) (rules : List ChainRule) :
    List ChainRule :=
  rules.takeWhile (Passing answers) ++ (rules.dropWhile (Passing answers)).take 1

/-- All that goes into a note on the chain or on an answer of one of its rules can be written. -/
structure CanBeNoted (chain : PolicyChain) (answers : ChainRule → Except Error Value) : Prop where
  reason : chain.isRejected = true → chain.reason.HasText
  rules : ∀ entry ∈ chain.rules, entry.CanBeNoted chain.key (answers entry)

theorem upToFailure_cons (entry : ChainRule) (rest : List ChainRule) :
    upToFailure answers (entry :: rest) =
      entry :: if Passing answers entry then upToFailure answers rest else [] := by
  unfold upToFailure
  rw [List.takeWhile_cons, List.dropWhile_cons]
  cases Passing answers entry <;> rfl

variable [Host]

/-- Each rule of a list has one answer, whatever the journal holds. -/
def Answered (attributes : DecisionAttributes) (answers : ChainRule → Except Error Value)
    (rules : List ChainRule) : Prop :=
  ∀ entry ∈ rules, ∀ journal, (entry.answer attributes journal).1 = answers entry

/-- Asks each rule of a list once, in order. -/
def askInTurn (key : Value) (attributes : DecisionAttributes) (rules : List ChainRule) :
    Judged (List (Bool × Option String)) :=
  rules.mapM fun entry => entry.judge key attributes

/-- The journal after each rule of a list has been asked once, in order. -/
def afterAsking (key : Value) (attributes : DecisionAttributes) (rules : List ChainRule)
    (journal : Journal) : Journal :=
  (Id.run ((askInTurn key attributes rules).run journal)).2

theorem afterAsking_cons {key : Value} {entry : ChainRule} {rest : List ChainRule}
    {journal next : Journal} {judged : Bool × Option String}
    (asked : Id.run ((entry.judge key attributes).run journal) = (.ok judged, next)) :
    afterAsking key attributes (entry :: rest) journal = afterAsking key attributes rest next := by
  unfold afterAsking askInTurn
  rw [List.mapM_cons, Judged.run_bind, asked]
  dsimp only
  rw [Judged.run_bind]
  rcases Id.run ((rest.mapM fun other => ChainRule.judge other key attributes).run next) with
    ⟨error | judged, last⟩ <;> rfl

/-- A rule is asked, and what comes of it is told, when its answer can be noted. -/
theorem exists_judge_run {key : Value} {entry : ChainRule} {journal : Journal}
    (isAnswered : (entry.answer attributes journal).1 = answers entry)
    (canBeNoted : entry.CanBeNoted key (answers entry)) : ∃ next,
    Id.run ((entry.judge key attributes).run journal) =
      (.ok (Passing answers entry, ChainRule.objection (answers entry)), next) := by
  rw [ChainRule.judge_run, isAnswered]
  obtain ⟨next, rated, -⟩ := ChainRule.exists_rate canBeNoted (entry.answer attributes journal).2
  exact ⟨next, rated⟩

/-- For a report, each rule is asked once, in order. -/
theorem outcomes_run (key : Value) {rules : List ChainRule}
    (answered : Answered attributes answers rules)
    (canBeNoted : ∀ entry ∈ rules, entry.CanBeNoted key (answers entry)) (journal : Journal) :
    Id.run ((outcomes key attributes rules).run journal) =
      (.ok (rules.map (outcomeOf answers)), afterAsking key attributes rules journal) := by
  induction rules generalizing journal with
  | nil => rfl
  | cons entry rest inductionHypothesis =>
      obtain ⟨here, others⟩ := List.forall_mem_cons.1 answered
      obtain ⟨noted, othersNoted⟩ := List.forall_mem_cons.1 canBeNoted
      obtain ⟨next, judged⟩ := exists_judge_run (here journal) noted
      rw [outcomes_cons, afterAsking_cons judged, judged]
      dsimp only
      rw [inductionHypothesis others othersNoted]
      rfl

/-- For a decision, each rule up to the first that does not pass is asked once, in order. -/
theorem consult_run (key : Value) {rules : List ChainRule}
    (answered : Answered attributes answers rules)
    (canBeNoted : ∀ entry ∈ rules, entry.CanBeNoted key (answers entry)) (journal : Journal) :
    Id.run ((consult key attributes rules).run journal) =
      (.ok (rules.all (Passing answers), (upToFailure answers rules).length),
        afterAsking key attributes (upToFailure answers rules) journal) := by
  induction rules generalizing journal with
  | nil => rfl
  | cons entry rest inductionHypothesis =>
      obtain ⟨here, others⟩ := List.forall_mem_cons.1 answered
      obtain ⟨noted, othersNoted⟩ := List.forall_mem_cons.1 canBeNoted
      obtain ⟨next, judged⟩ := exists_judge_run (here journal) noted
      rw [consult_cons, upToFailure_cons, List.all_cons, afterAsking_cons judged, judged]
      cases Passing answers entry with
      | false => rfl
      | true =>
          dsimp only
          rw [inductionHypothesis others othersNoted]
          rfl

variable {chain : PolicyChain}

theorem evaluateCounting_eq (accepted : chain.isRejected = false) (nonEmpty : chain.rules ≠ [])
    (attributes : DecisionAttributes) (journal : Journal) :
    Id.run ((chain.evaluateCounting attributes).run journal) =
      Id.run ((consult chain.key attributes chain.rules).run journal) := by
  have isAsked : chain.asked = chain.rules := if_neg (by simp [accepted])
  unfold evaluateCounting
  rw [isAsked]
  cases rules : chain.rules with
  | nil => exact absurd rules nonEmpty
  | cons entry rest => rfl

/-- A chain that is not rejected asks its rules up to the first that does not pass. -/
theorem evaluateCounting_run (accepted : chain.isRejected = false)
    (answered : Answered attributes answers chain.rules) (canBeNoted : chain.CanBeNoted answers)
    (journal : Journal) :
    Id.run ((chain.evaluateCounting attributes).run journal) =
      (.ok (chain.upholds attributes journal, (upToFailure answers chain.rules).length),
        afterAsking chain.key attributes (upToFailure answers chain.rules) journal) := by
  have decided {truth : Bool} {count : Nat} {last : Journal}
      (ended : Id.run ((chain.evaluateCounting attributes).run journal) = (.ok (truth, count), last)) :
      chain.upholds attributes journal = truth := by
    rw [upholds, answer_eq, ended]
    rfl
  by_cases nonEmpty : chain.rules = []
  · have empty : Id.run ((chain.evaluateCounting attributes).run journal) =
        (.ok (false, 0), journal) := by
      unfold evaluateCounting asked
      rw [nonEmpty, ite_self]
      rfl
    rw [decided empty, empty, nonEmpty]
    rfl
  · have ended := evaluateCounting_eq accepted nonEmpty attributes journal
    rw [consult_run chain.key answered canBeNoted.rules] at ended
    rw [decided ended, ended]

/-- A chain whose notes can be written reports, and asks each of its rules if it is not rejected. -/
theorem explain_run (answered : Answered attributes answers chain.rules)
    (canBeNoted : chain.CanBeNoted answers) (journal : Journal) :
    (Id.run ((chain.explain attributes).run journal)).1 = .ok (chain.report attributes journal) ∧
      (chain.isRejected = false →
        (chain.report attributes journal).outcomes = chain.rules.map (outcomeOf answers) ∧
          (Id.run ((chain.explain attributes).run journal)).2 =
            afterAsking chain.key attributes chain.rules journal) := by
  have told {report : ChainReport} {last : Journal}
      (ended : Id.run ((chain.explain attributes).run journal) = (.ok report, last)) :
      chain.report attributes journal = report := by
    unfold PolicyChain.report
    rw [ended]
    rfl
  by_cases rejected : chain.isRejected = true
  · obtain ⟨reason, isReason⟩ := canBeNoted.reason rejected
    have ended : Id.run ((chain.explain attributes).run journal) =
        (.ok { allowed := false, key := chain.key, message := "Policy rejected: " ++ reason },
          journal) := by
      unfold explain
      rw [if_pos rejected, Judged.run_bind, Judged.run_liftM, isReason]
      rfl
    rw [ended, told ended]
    exact ⟨rfl, fun accepted => absurd rejected (by simp [accepted])⟩
  · have accepted : chain.isRejected = false := by simpa using rejected
    by_cases empty : chain.rules = []
    · have ended : Id.run ((chain.explain attributes).run journal) =
          (.ok { allowed := false, key := chain.key, message := "Policy has no active rules." },
            journal) := by
        unfold explain
        rw [if_neg rejected, empty]
        rfl
      rw [ended, told ended, empty]
      exact ⟨rfl, fun _ => ⟨rfl, rfl⟩⟩
    · have ended := explain_eq accepted empty attributes journal
      rw [outcomes_run chain.key answered canBeNoted.rules] at ended
      rw [told ended, ended]
      exact ⟨rfl, fun _ => ⟨rfl, rfl⟩⟩

theorem holds_iff_of_answered (answered : Answered attributes answers chain.rules)
    (journal : Journal) :
    chain.Holds attributes journal ↔ chain.isRejected = false ∧ chain.rules ≠ [] ∧
      ∀ entry ∈ chain.rules, answers entry = .ok (.bool true) := by
  have allTrue {rules : List ChainRule} (answered : Answered attributes answers rules)
      (journal : Journal) : ChainRule.AllTrue attributes journal rules ↔
        ∀ entry ∈ rules, answers entry = .ok (.bool true) := by
    induction rules generalizing journal with
    | nil => exact ⟨fun _ => List.forall_mem_nil _, fun _ => .nil journal⟩
    | cons entry rest inductionHypothesis =>
        obtain ⟨here, others⟩ := List.forall_mem_cons.1 answered
        rw [List.forall_mem_cons]
        constructor
        · rintro (_ | ⟨isTrue, allTrue⟩)
          refine ⟨?_, (inductionHypothesis others _).1 allTrue⟩
          rw [← here journal, isTrue]
        · rintro ⟨isTrue, areTrue⟩
          exact .cons (Prod.ext ((here journal).trans isTrue) rfl)
            ((inductionHypothesis others _).2 areTrue)
  exact ⟨fun holds => ⟨holds.accepted, holds.nonEmpty, (allTrue answered journal).1 holds.allTrue⟩,
    fun ⟨accepted, nonEmpty, areTrue⟩ =>
      ⟨accepted, nonEmpty, (allTrue answered journal).2 areTrue⟩⟩

/-- Where each rule of a chain has one answer, and all that is to be noted of the chain and its rules can
be written, the chain always answers, and upholds a decision exactly when it is not rejected, has rules and
each of them answers true; and it always reports, and the same, whenever it is asked. To decide, it asks
each rule up to the first that does not answer true, once and in order; to report, it asks every rule so,
and tells of each whether it answered true and whether anything else than a truth value. -/
theorem report_agrees_with_decision (answered : Answered attributes answers chain.rules)
    (canBeNoted : chain.CanBeNoted answers) :
    (∀ journal, chain.answer attributes journal = .ok (chain.upholds attributes journal) ∧
      (chain.upholds attributes journal = true ↔ chain.isRejected = false ∧
        chain.rules ≠ [] ∧ ∀ entry ∈ chain.rules, answers entry = .ok (.bool true))) ∧
    (∀ journal,
      (Id.run ((chain.explain attributes).run journal)).1 = .ok (chain.report attributes journal) ∧
      ∀ other, (chain.report attributes journal).allowed = chain.upholds attributes other) ∧
    (chain.isRejected = false → ∀ journal,
      Id.run ((chain.evaluateCounting attributes).run journal) =
        (.ok (chain.upholds attributes journal, (upToFailure answers chain.rules).length),
          afterAsking chain.key attributes (upToFailure answers chain.rules) journal)) ∧
    (chain.isRejected = false → ∀ journal,
      Id.run ((chain.explain attributes).run journal) =
        (.ok (chain.report attributes journal), afterAsking chain.key attributes chain.rules journal) ∧
      (chain.report attributes journal).outcomes.map RuleOutcome.rule = chain.rules ∧
      ∀ outcome ∈ (chain.report attributes journal).outcomes,
        (outcome.passed = true ↔ answers outcome.rule = .ok (.bool true)) ∧
        (outcome.error = none ↔ ∃ truth, answers outcome.rule = .ok (.bool truth))) := by
  have upholds (journal : Journal) := (chain.upholds_iff attributes journal).trans
    (holds_iff_of_answered answered journal)
  have asks (accepted : chain.isRejected = false) (journal : Journal) :=
    evaluateCounting_run accepted answered canBeNoted journal
  refine ⟨fun journal => ⟨?_, upholds journal⟩,
    fun journal => ⟨(explain_run answered canBeNoted journal).1, fun other => ?_⟩, asks,
    fun accepted journal => ?_⟩
  · rw [answer_eq]
    cases rejected : chain.isRejected with
    | false =>
        rw [asks rejected journal]
        rfl
    | true =>
        have denied : chain.upholds attributes journal = false := by
          rw [← Bool.not_eq_true, upholds]
          exact fun holds => absurd holds.1 (by simp [rejected])
        rw [denied, evaluateCounting, asked, if_pos rejected]
        rfl
  · rw [allowed_report, Bool.eq_iff_iff, upholds, upholds]
  · obtain ⟨ended, reports⟩ := explain_run answered canBeNoted journal
    obtain ⟨reported, left⟩ := reports accepted
    refine ⟨Prod.ext ended left, ?_, ?_⟩
    · rw [reported, List.map_map]
      exact List.map_id _
    · rw [reported]
      simp only [List.forall_mem_map]
      exact fun entry _ => ⟨ChainRule.isTrue_iff, ChainRule.objection_eq_none_iff⟩

end Answers

/-! ### A chain of which one rule fails -/

/-- The answer of a rule that has a fixed one. -/
def fixedAnswer (entry : ChainRule) : Except Error Value :=
  match entry.rule.check with
  | .fixed answer => answer
  | _ => .ok .null

theorem answered_fixedAnswer [Host] {attributes : DecisionAttributes} {rules : List ChainRule}
    (areFixed : ∀ entry ∈ rules, ∃ answer, entry.rule.check = .fixed answer) :
    Answered attributes fixedAnswer rules := by
  intro entry member journal
  obtain ⟨answer, isFixed⟩ := areFixed entry member
  unfold ChainRule.answer Rule.evaluate fixedAnswer
  rw [isFixed]
  cases answer <;> rfl

/-- A chain of a rule that answers true, one that fails and one that answers true. -/
def failingInTheMiddle (error : Error) : PolicyChain :=
  { key := .str "deal:read"
    rules := [⟨⟨"Fixed", "yes", .fixed (.ok (.bool true))⟩, .str "first", .null⟩,
      ⟨⟨"Fixed", "down", .fixed (.error error)⟩, .str "second", .null⟩,
      ⟨⟨"Fixed", "yes", .fixed (.ok (.bool true))⟩, .str "third", .null⟩] }

theorem answered_failingInTheMiddle [Host] {attributes : DecisionAttributes} (error : Error) :
    Answered attributes fixedAnswer (failingInTheMiddle error).rules := by
  apply answered_fixedAnswer
  simp only [failingInTheMiddle, List.forall_mem_cons]
  exact ⟨⟨_, rfl⟩, ⟨_, rfl⟩, ⟨_, rfl⟩, List.forall_mem_nil _⟩

open scoped Host in
theorem report_agrees_with_decision_failing : ∃ attributes : DecisionAttributes,
    let chain := failingInTheMiddle (.raised .runtime "down")
    Answered attributes fixedAnswer chain.rules ∧ chain.CanBeNoted fixedAnswer ∧
    chain.isRejected = false ∧
    chain.answer attributes {} = .ok false ∧
    (chain.report attributes {}).allowed = false ∧
    (Id.run ((chain.evaluateCounting attributes).run {})).1.map Prod.snd = .ok 2 ∧
    (chain.report attributes {}).outcomes.map RuleOutcome.rule = chain.rules := by
  let attributes : DecisionAttributes :=
    ⟨⟨"u1", "user", none, [], []⟩, .dict [], .str "read", []⟩
  let chain := failingInTheMiddle (.raised .runtime "down")
  have answered : Answered attributes fixedAnswer chain.rules := answered_failingInTheMiddle _
  have noted (entry : ChainRule) (member : entry ∈ chain.rules) :
      entry.CanBeNoted chain.key (fixedAnswer entry) := by
    simp only [chain, failingInTheMiddle, List.mem_cons, List.not_mem_nil, or_false] at member
    rcases member with rfl | rfl | rfl
    · exact ⟨absurd rfl, absurd rfl, nofun⟩
    · exact ⟨fun _ => ⟨_, rfl⟩, fun _ => ⟨_, rfl⟩, fun error same => Except.error.inj same ▸ ⟨_, rfl⟩⟩
    · exact ⟨absurd rfl, absurd rfl, nofun⟩
  have canBeNoted : chain.CanBeNoted fixedAnswer := ⟨nofun, noted⟩
  obtain ⟨upholds, agrees, asks, reports⟩ := report_agrees_with_decision answered canBeNoted
  have denied : chain.upholds attributes {} = false := by
    rw [← Bool.not_eq_true, (upholds {}).2]
    rintro ⟨_, _, areTrue⟩
    cases areTrue _ (.tail _ (.head _))
  refine ⟨attributes, answered, canBeNoted, rfl, denied ▸ (upholds {}).1,
    ((agrees {}).2 {}).trans denied, ?_, (reports rfl {}).2.1⟩
  rw [asks rfl {}]
  rfl

/-- Where the error of a rule cannot be written, the chain fails itself. -/
example [Host] (attributes : DecisionAttributes) (journal : Journal) :
    (failingInTheMiddle (.foreign "KeyError" (.error .value))).answer attributes journal =
      .error (.operation .value "the error has no text") :=
  rfl

/-- A chain fails where the error of a rule cannot be written. -/
example [Host] (attributes : DecisionAttributes) :
    ((failingInTheMiddle (.foreign "KeyError" (.error .value))).answer attributes {}).isOk = false := by
  rfl

end PolicyChain

end Authorization
