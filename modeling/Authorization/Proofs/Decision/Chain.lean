import Authorization.Chain
import Authorization.Proofs.Script.Faults

/-!
# What a chain says

A chain holds for a decision when it is not rejected, has rules, and each of them answers exactly the
truth value true; a rule that fails or answers anything else does not. The rules are asked in their
order, each with the journal that the ones before it leave. What a chain says depends on the items that
have been taken from one-shot sequences, and not on what the log holds.

What is wrong with a rule is noted, and to write the note may fail. Then the chain fails, which is no yes
either; where everything that goes into a note has a text, the chain has an answer.
-/

namespace Authorization

/-- A value can be written. -/
def Value.HasText (value : Value) : Prop :=
  ∃ text, value.toText = .ok text

/-- An error can be written. -/
def Error.HasText (error : Error) : Prop :=
  ∃ text, error.toLogged = .ok text

@[simp]
theorem Value.hasText_str (text : String) : (Value.str text).HasText :=
  ⟨text, rfl⟩

namespace Error

/-- The only error without a text is one that says so. -/
theorem hasText_iff {error : Error} :
    error.HasText ↔ ∀ className kind, error ≠ .foreign className (.error kind) := by
  constructor
  · rintro ⟨text, written⟩ className kind rfl
    cases written
  · intro told
    unfold HasText toLogged
    split
    · exact absurd rfl (told _ _)
    · exact ⟨_, rfl⟩

theorem toLogged_of_hasText {error : Error} (hasText : error.HasText) :
    error.toLogged = .ok error.logged := by
  obtain ⟨text, written⟩ := hasText
  unfold toLogged at written ⊢
  split at written
  · cases written
  · rfl

theorem IsFault.hasText {error : Error} (isFault : error.IsFault) : error.HasText := by
  obtain ⟨kind, detail, rfl, -⟩ := isFault
  exact ⟨_, rfl⟩

/-- What is raised in place of an error without a text has one. -/
theorem hasText_of_toLogged {error other : Error} (fails : error.toLogged = .error other) :
    other.HasText := by
  unfold toLogged at fails
  split at fails
  · cases fails
    exact ⟨_, rfl⟩
  · cases fails

end Error

namespace ChainRule

/-- What a rule answers, and the journal after it. -/
def answer [Host] (entry : ChainRule) (attributes : DecisionAttributes) (journal : Journal) :
    Except Error Value × Journal :=
  Id.run ((entry.rule.evaluate attributes).run journal)

/-- Each rule of a list answers true, from a journal on. -/
inductive AllTrue [Host] (attributes : DecisionAttributes) : Journal → List ChainRule → Prop
  | nil (journal : Journal) : AllTrue attributes journal []
  | cons {journal next : Journal} {entry : ChainRule} {rest : List ChainRule}
      (isTrue : entry.answer attributes journal = (.ok (.bool true), next))
      (others : AllTrue attributes next rest) : AllTrue attributes journal (entry :: rest)

/-- An answer is exactly the truth value true. -/
def isTrue : Except Error Value → Bool
  | .ok (.bool passed) => passed
  | _ => false

/-- What is wrong with an answer that is no truth value. -/
def objection : Except Error Value → Option String
  | .ok (.bool _) => none
  | .ok other => some ("returned " ++ other.kindName)
  | .error error => some error.logged

/-- All that goes into the note on an answer that is no truth value can be written: the name of the rule,
the key of the policy, and the error. -/
structure CanBeNoted (entry : ChainRule) (key : Value) (answer : Except Error Value) : Prop where
  name : objection answer ≠ none → entry.name.HasText
  key : objection answer ≠ none → key.HasText
  error : ∀ error, answer = .error error → error.HasText

theorem run_complain (entry : ChainRule) (key : Value) (what : Except Error String)
    (journal : Journal) :
    Id.run ((entry.complain key what).run journal) =
      match entry.complaint key what with
      | .ok message => (.ok (), journal.add .warning .policy message)
      | .error error => (.error error, journal) := by
  unfold complain
  rw [Judged.run_bind, Judged.run_liftM]
  cases entry.complaint key what <;> rfl

theorem complaint_eq_ok {entry : ChainRule} {key : Value} (name : entry.name.HasText)
    (hasKey : key.HasText) (words : String) :
    ∃ message, entry.complaint key (.ok words) = .ok message := by
  obtain ⟨nameText, isName⟩ := name
  obtain ⟨keyText, isKey⟩ := hasKey
  unfold complaint
  rw [isName, isKey]
  exact ⟨_, rfl⟩

/-- Only an answer that is true passes. -/
theorem answer_of_rate {entry : ChainRule} {key : Value} {answer : Except Error Value}
    {journal next : Journal} {report : Option String}
    (passes : Id.run ((entry.rate key answer).run journal) = (.ok (true, report), next)) :
    answer = .ok (.bool true) := by
  have fails (what words : Except Error String) :
      (Id.run ((do
        entry.complain key what
        return (false, some (← words)) : Judged (Bool × Option String)).run journal)).1 ≠
        .ok (true, report) := by
    rw [Judged.run_bind, run_complain]
    cases entry.complaint key what with
    | error error => nofun
    | ok message => cases words <;> nofun
  unfold rate at passes
  split at passes
  · cases passes
    rfl
  · exact absurd (congrArg Prod.fst passes) (fails _ (.ok _))
  · exact absurd (congrArg Prod.fst passes) (fails _ _)

/-- An answer that can be noted is rated, which takes nothing. -/
theorem exists_rate {entry : ChainRule} {key : Value} {answer : Except Error Value}
    (canBeNoted : entry.CanBeNoted key answer) (journal : Journal) : ∃ next,
    Id.run ((entry.rate key answer).run journal) = (.ok (isTrue answer, objection answer), next) ∧
      next.cursors = journal.cursors := by
  have noted (words : String) {report : Except Error String} {reported : String}
      (written : report = .ok reported) (objects : objection answer ≠ none) : ∃ next,
      Id.run ((do
        entry.complain key (.ok words)
        return (false, some (← report)) : Judged (Bool × Option String)).run journal) =
        (.ok (false, some reported), next) ∧ next.cursors = journal.cursors := by
    obtain ⟨message, isNote⟩ :=
      complaint_eq_ok (canBeNoted.name objects) (canBeNoted.key objects) words
    rw [Judged.run_bind, run_complain, isNote, written]
    exact ⟨_, rfl, rfl⟩
  rcases answer with error | value
  · have written := Error.toLogged_of_hasText (canBeNoted.error error rfl)
    have shape : entry.rate key (.error error) = (do
        entry.complain key (error.toLogged.map ("raised " ++ ·))
        return (false, some (← error.toLogged))) := rfl
    rw [shape, written]
    exact noted _ rfl nofun
  · cases value with
    | bool passed => exact ⟨journal, rfl, rfl⟩
    | _ => exact noted _ (Eq.refl (Except.ok _)) nofun

variable [Host] {entry : ChainRule} {key : Value} {attributes : DecisionAttributes}
  {journal next : Journal}

/-- A rule is judged by its answer. -/
theorem judge_run (entry : ChainRule) (key : Value) (attributes : DecisionAttributes)
    (journal : Journal) :
    Id.run ((entry.judge key attributes).run journal) =
      Id.run ((entry.rate key (entry.answer attributes journal).1).run
        (entry.answer attributes journal).2) := by
  unfold judge
  rw [Judged.run_bind, Judged.run_attempt]
  rfl

/-- A rule that answers true passes, and leaves no trace of its own. -/
theorem judge_of_true (isTrue : entry.answer attributes journal = (.ok (.bool true), next)) :
    Id.run ((entry.judge key attributes).run journal) = (.ok (true, none), next) := by
  rw [judge_run, isTrue]
  rfl

/-- Only a rule that answers true passes. -/
theorem answer_of_passes {report : Option String}
    (passes : Id.run ((entry.judge key attributes).run journal) = (.ok (true, report), next)) :
    entry.answer attributes journal = (.ok (.bool true), next) := by
  rw [judge_run] at passes
  have isTrue := answer_of_rate passes
  rw [isTrue] at passes
  cases passes
  exact Prod.ext isTrue rfl

end ChainRule

namespace PolicyChain

variable [Host]

/-- A chain holds for a decision, from a journal on. -/
structure Holds (chain : PolicyChain) (attributes : DecisionAttributes) (journal : Journal) :
    Prop where
  accepted : chain.isRejected = false
  nonEmpty : chain.rules ≠ []
  allTrue : ChainRule.AllTrue attributes journal chain.rules

theorem consult_cons (key : Value) (attributes : DecisionAttributes) (entry : ChainRule)
    (rest : List ChainRule) (journal : Journal) :
    Id.run ((consult key attributes (entry :: rest)).run journal) =
      match Id.run ((entry.judge key attributes).run journal) with
      | (.ok (true, _), next) =>
        ((Id.run ((consult key attributes rest).run next)).1.map fun found => (found.1, found.2 + 1),
          (Id.run ((consult key attributes rest).run next)).2)
      | (.ok (false, _), next) => (.ok (false, 1), next)
      | (.error error, next) => (.error error, next) := by
  rw [consult, Judged.run_bind]
  rcases Id.run ((entry.judge key attributes).run journal) with ⟨error | ⟨_ | _, report⟩, next⟩
  · rfl
  · rfl
  · dsimp only
    rw [if_pos rfl, Judged.run_bind]
    rcases Id.run ((consult key attributes rest).run next) with ⟨error | found, last⟩ <;> rfl

/-- The rules of a list all pass exactly when each of them answers true. -/
theorem consult_iff (key : Value) (attributes : DecisionAttributes) (rules : List ChainRule)
    (journal : Journal) :
    (Id.run ((consult key attributes rules).run journal)).1.map Prod.fst = .ok true ↔
      ChainRule.AllTrue attributes journal rules := by
  induction rules generalizing journal with
  | nil => exact ⟨fun _ => .nil journal, fun _ => rfl⟩
  | cons entry rest inductionHypothesis =>
      rw [consult_cons]
      have notTrue {next : Journal} {result : Except Error (Bool × Option String)}
          (judged : Id.run ((entry.judge key attributes).run journal) = (result, next))
          (fails : result ≠ .ok (true, none)) :
          ¬ ChainRule.AllTrue attributes journal (entry :: rest) := by
        rintro (_ | ⟨isTrue, _⟩)
        rw [ChainRule.judge_of_true isTrue] at judged
        cases judged
        exact fails rfl
      rcases judged : Id.run ((entry.judge key attributes).run journal) with
        ⟨error | ⟨_ | _, report⟩, next⟩
      · exact iff_of_false nofun (notTrue judged nofun)
      · exact iff_of_false nofun (notTrue judged nofun)
      · have answered := ChainRule.answer_of_passes judged
        have counted (result : Except Error (Bool × Nat)) :
            (result.map fun found => (found.1, found.2 + 1)).map Prod.fst = result.map Prod.fst := by
          cases result <;> rfl
        dsimp only
        rw [counted]
        refine (inductionHypothesis next).trans ⟨fun others => .cons answered others, ?_⟩
        rintro (_ | ⟨isTrue, others⟩)
        rw [answered] at isTrue
        cases isTrue
        exact others

/-- What a chain answers to a decision, from a journal on. -/
def answer (chain : PolicyChain) (attributes : DecisionAttributes) (journal : Journal) :
    Except Error Bool :=
  (Id.run ((chain.evaluate attributes).run journal)).1

/-- A chain upholds a decision, from a journal on: it answers yes. -/
def upholds (chain : PolicyChain) (attributes : DecisionAttributes) (journal : Journal) : Bool :=
  (chain.answer attributes journal).toOption.getD false

theorem answer_eq (chain : PolicyChain) (attributes : DecisionAttributes) (journal : Journal) :
    chain.answer attributes journal =
      (Id.run ((chain.evaluateCounting attributes).run journal)).1.map Prod.fst := by
  unfold answer evaluate
  rw [Judged.run_bind]
  rcases Id.run ((chain.evaluateCounting attributes).run journal) with ⟨error | found, last⟩ <;> rfl

theorem upholds_iff_answer {chain : PolicyChain} {attributes : DecisionAttributes}
    {journal : Journal} :
    chain.upholds attributes journal = true ↔ chain.answer attributes journal = .ok true := by
  unfold upholds
  rcases chain.answer attributes journal with error | truth
  · exact iff_of_false nofun nofun
  · exact ⟨congrArg Except.ok, Except.ok.inj⟩

theorem upholds_iff (chain : PolicyChain) (attributes : DecisionAttributes) (journal : Journal) :
    chain.upholds attributes journal = true ↔ chain.Holds attributes journal := by
  rw [upholds_iff_answer, answer_eq, evaluateCounting, asked]
  by_cases rejected : chain.isRejected = true
  · rw [if_pos rejected]
    refine iff_of_false nofun fun holds => ?_
    rw [holds.accepted] at rejected
    cases rejected
  · rw [if_neg rejected]
    cases rules : chain.rules with
    | nil => exact iff_of_false nofun fun holds => holds.nonEmpty rules
    | cons entry rest =>
        dsimp only
        rw [consult_iff]
        constructor
        · intro allTrue
          exact ⟨by simpa using rejected, by simp [rules], rules ▸ allTrue⟩
        · intro holds
          exact rules ▸ holds.allTrue

/-! ## Chains that answer -/

/-- Whatever the rules of a chain answer to a decision can be noted. -/
def IsNotable (chain : PolicyChain) (attributes : DecisionAttributes) : Prop :=
  ∀ entry ∈ chain.rules, ∀ journal, entry.CanBeNoted chain.key (entry.answer attributes journal).1

theorem exists_consult {key : Value} {attributes : DecisionAttributes} {rules : List ChainRule}
    (notable : ∀ entry ∈ rules, ∀ journal, entry.CanBeNoted key (entry.answer attributes journal).1)
    (journal : Journal) :
    ∃ found, (Id.run ((consult key attributes rules).run journal)).1 = .ok found := by
  induction rules generalizing journal with
  | nil => exact ⟨_, rfl⟩
  | cons entry rest inductionHypothesis =>
      obtain ⟨here, others⟩ := List.forall_mem_cons.1 notable
      obtain ⟨next, rated, -⟩ := ChainRule.exists_rate (here journal) (entry.answer attributes journal).2
      rw [consult_cons, ChainRule.judge_run, rated]
      cases ChainRule.isTrue (entry.answer attributes journal).1 with
      | false => exact ⟨_, rfl⟩
      | true =>
          obtain ⟨found, asked⟩ := inductionHypothesis others next
          dsimp only
          rw [asked]
          exact ⟨_, rfl⟩

/-- A chain whose rules can be noted has an answer. -/
theorem IsNotable.answer_eq {chain : PolicyChain} {attributes : DecisionAttributes}
    (notable : chain.IsNotable attributes) (journal : Journal) :
    chain.answer attributes journal = .ok (chain.upholds attributes journal) := by
  have answers : ∃ truth, chain.answer attributes journal = .ok truth := by
    rw [PolicyChain.answer_eq, evaluateCounting, asked]
    by_cases rejected : chain.isRejected = true
    · rw [if_pos rejected]
      exact ⟨_, rfl⟩
    · rw [if_neg rejected]
      cases rules : chain.rules with
      | nil => exact ⟨_, rfl⟩
      | cons entry rest =>
          unfold IsNotable at notable
          rw [rules] at notable
          obtain ⟨found, isFound⟩ := exists_consult notable journal
          dsimp only
          rw [isFound]
          exact ⟨_, rfl⟩
  obtain ⟨truth, isAnswer⟩ := answers
  rw [upholds, isAnswer]
  rfl

end PolicyChain

end Authorization

/-!
## Rules that say the same

A chain makes the same of rules that say the same, be it of other attributes or on another machine.
-/

namespace Authorization

/-- Each rule of a list says the same of some attributes on one machine as of others on another. -/
def RulesAgree (host otherHost : Host) (a b : DecisionAttributes) (rules : List ChainRule) : Prop :=
  ∀ entry ∈ rules, @Rule.evaluate host entry.rule a = @Rule.evaluate otherHost entry.rule b

variable {host otherHost : Host} {a b : DecisionAttributes}

theorem ChainRule.judge_congr {entry : ChainRule} (key : Value)
    (same : @Rule.evaluate host entry.rule a = @Rule.evaluate otherHost entry.rule b) :
    @judge host entry key a = @judge otherHost entry key b := by
  unfold judge
  rw [same]

namespace PolicyChain

theorem consult_congr (key : Value) {rules : List ChainRule}
    (same : RulesAgree host otherHost a b rules) :
    @consult host key a rules = @consult otherHost key b rules := by
  induction rules with
  | nil => rfl
  | cons entry rest inductionHypothesis =>
      obtain ⟨here, others⟩ := List.forall_mem_cons.1 same
      unfold consult
      rw [ChainRule.judge_congr key here, inductionHypothesis others]

theorem outcomes_congr (key : Value) {rules : List ChainRule}
    (same : RulesAgree host otherHost a b rules) :
    @outcomes host key a rules = @outcomes otherHost key b rules := by
  induction rules with
  | nil => rfl
  | cons entry rest inductionHypothesis =>
      obtain ⟨here, others⟩ := List.forall_mem_cons.1 same
      unfold outcomes
      rw [ChainRule.judge_congr key here, inductionHypothesis others]

theorem evaluate_congr {chain : PolicyChain} (same : RulesAgree host otherHost a b chain.rules) :
    @evaluate host chain a = @evaluate otherHost chain b := by
  have asked : RulesAgree host otherHost a b chain.asked := by
    unfold PolicyChain.asked
    split
    · exact List.forall_mem_nil _
    · exact same
  unfold evaluate evaluateCounting
  cases rules : chain.asked with
  | nil => rfl
  | cons entry rest =>
      rw [rules] at asked
      dsimp only
      rw [consult_congr chain.key asked]

theorem explain_congr {chain : PolicyChain} (same : RulesAgree host otherHost a b chain.rules) :
    @explain host chain a = @explain otherHost chain b := by
  unfold explain
  cases rules : chain.rules with
  | nil => rfl
  | cons entry rest =>
      rw [rules] at same
      dsimp only
      rw [outcomes_congr chain.key same]

end PolicyChain

end Authorization

/-!
## What the log holds does not matter

Rules and chains write to the log and never read it: what they answer, and which items they take, depends
on the items that have been taken before and not on the log.
-/

namespace Authorization

namespace Journaled

variable {α : Type}

/-- What an action comes to and takes depends on the journal through the items taken before. -/
def Blind (action : Journaled α) : Prop :=
  ∀ journal other : Journal, journal.cursors = other.cursors →
    (Id.run (action.run journal)).1 = (Id.run (action.run other)).1 ∧
      (Id.run (action.run journal)).2.cursors = (Id.run (action.run other)).2.cursors

theorem blind_note (level : LogLevel) (source : LogSource) (message : String) :
    Blind (note level source message) :=
  fun _ _ same => ⟨rfl, same⟩

theorem blind_ofDraw (draw : Draw α) : Blind (ofDraw draw) := by
  intro journal other same
  have run (journal : Journal) : Id.run ((ofDraw draw).run journal) =
      ((Id.run ((ExceptT.run draw).run journal.cursors)).1,
        { journal with cursors := (Id.run ((ExceptT.run draw).run journal.cursors)).2 }) := rfl
  rw [run, run, same]
  exact ⟨rfl, rfl⟩

end Journaled

namespace Judged

variable {α β : Type}

/-- What an action comes to and takes depends on the journal through the items taken before. -/
def Blind (action : Judged α) : Prop :=
  ∀ journal other : Journal, journal.cursors = other.cursors →
    (Id.run (action.run journal)).1 = (Id.run (action.run other)).1 ∧
      (Id.run (action.run journal)).2.cursors = (Id.run (action.run other)).2.cursors

theorem Blind.journaled {action : Judged α} (blind : Blind action) : Journaled.Blind action.run :=
  blind

theorem blind_pure (value : α) : Blind (pure value) :=
  fun _ _ same => ⟨rfl, same⟩

theorem blind_liftM (result : Except Error α) : Blind (liftM result) := by
  intro journal other same
  rw [run_liftM, run_liftM]
  exact ⟨rfl, same⟩

theorem blind_note (level : LogLevel) (source : LogSource) (message : String) :
    Blind (note level source message) :=
  fun _ _ same => ⟨rfl, same⟩

theorem blind_ofDraw (draw : Draw α) : Blind (ofDraw draw) :=
  Journaled.blind_ofDraw draw

theorem Blind.attempt {action : Judged α} (blind : Blind action) : Blind (attempt action) := by
  intro journal other same
  obtain ⟨sameResult, sameCursors⟩ := blind journal other same
  rw [run_attempt, run_attempt, sameResult]
  exact ⟨rfl, sameCursors⟩

theorem Blind.bind {action : Judged α} {next : α → Judged β} (blind : Blind action)
    (rest : ∀ value, Blind (next value)) : Blind (action >>= next) := by
  intro journal other same
  obtain ⟨sameResult, sameCursors⟩ := blind journal other same
  rw [run_bind, run_bind]
  generalize Id.run (action.run journal) = ended at sameResult sameCursors ⊢
  generalize Id.run (action.run other) = otherEnded at sameResult sameCursors ⊢
  obtain ⟨result, after⟩ := ended
  obtain ⟨otherResult, otherAfter⟩ := otherEnded
  obtain rfl : result = otherResult := sameResult
  cases result with
  | ok value => exact rest value _ _ sameCursors
  | error error => exact ⟨rfl, sameCursors⟩

end Judged

open Judged

theorem ChainRule.blind_complain (entry : ChainRule) (key : Value) (what : Except Error String) :
    Blind (entry.complain key what) :=
  (blind_liftM _).bind fun _ => blind_note _ _ _

section Rules

variable [Host]

theorem Check.blind_consult (code : Script) (limits : Limits) (attributes : DecisionAttributes) :
    Blind (Check.consult code limits attributes) := by
  refine (blind_ofDraw _).attempt.bind fun result => ?_
  split
  · exact blind_pure _
  · exact (blind_liftM _).bind fun _ => (blind_note _ _ _).bind fun _ => blind_pure _

/-- A rule reads no log. -/
theorem Rule.blind_evaluate (rule : Rule) (attributes : DecisionAttributes) :
    Blind (rule.evaluate attributes) := by
  unfold Rule.evaluate Check.evaluate
  split
  · exact (blind_liftM _).bind fun _ => blind_pure _
  · exact (blind_liftM _).bind fun _ => blind_pure _
  · exact blind_pure _
  · exact (blind_ofDraw _).bind fun _ => blind_pure _
  · exact (Check.blind_consult _ _ _).bind fun _ => blind_pure _
  · exact blind_liftM _

theorem ChainRule.blind_judge (entry : ChainRule) (key : Value) (attributes : DecisionAttributes) :
    Blind (entry.judge key attributes) := by
  refine (entry.rule.blind_evaluate attributes).attempt.bind fun answer => ?_
  unfold rate
  split
  · exact blind_pure _
  · exact (entry.blind_complain key _).bind fun _ => blind_pure _
  · exact (entry.blind_complain key _).bind fun _ => (blind_liftM _).bind fun _ => blind_pure _

namespace PolicyChain

theorem blind_consult (key : Value) (attributes : DecisionAttributes) (rules : List ChainRule) :
    Blind (consult key attributes rules) := by
  induction rules with
  | nil => exact blind_pure _
  | cons entry rest inductionHypothesis =>
      refine (entry.blind_judge key attributes).bind fun judged => ?_
      dsimp only
      split
      · exact inductionHypothesis.bind fun _ => blind_pure _
      · exact blind_pure _

/-- What a chain decides does not depend on the log. -/
theorem blind_evaluate (chain : PolicyChain) (attributes : DecisionAttributes) :
    Blind (chain.evaluate attributes) := by
  refine Blind.bind ?_ fun _ => blind_pure _
  unfold evaluateCounting
  split
  · exact blind_pure _
  · exact blind_consult _ _ _

theorem blind_outcomes (key : Value) (attributes : DecisionAttributes) (rules : List ChainRule) :
    Blind (outcomes key attributes rules) := by
  induction rules with
  | nil => exact blind_pure _
  | cons entry rest inductionHypothesis =>
      exact (entry.blind_judge key attributes).bind fun _ =>
        inductionHypothesis.bind fun _ => blind_pure _

/-- What a chain reports does not depend on the log. -/
theorem blind_explain (chain : PolicyChain) (attributes : DecisionAttributes) :
    Blind (chain.explain attributes) := by
  unfold PolicyChain.explain
  split
  · exact (blind_liftM _).bind fun _ => blind_pure _
  · split
    · exact blind_pure _
    · exact (blind_outcomes _ _ _).bind fun _ => blind_pure _

end PolicyChain

end Rules

end Authorization
