import Authorization.Proofs.Decision.Chain
import Authorization.Proofs.Decision.Explanation
import Authorization.Proofs.Decision.Steady
import Mathlib.Data.List.Perm.Basic

/-!
# Chains of the same rules

Two chains whose entries have the same rules under the same names report the same of every decision, line
by line, whatever keys and identifiers they have. Where the entries stand in another order, the lines of a
report on what can be gone through again stand in that order, and the decision is the same.
-/

namespace Authorization

open Journaled

/-! ## Entries -/

/-- A line of a report: the name and the type of a rule, and whether it passed. -/
def RuleOutcome.line (outcome : RuleOutcome) : Value × String × Bool :=
  (outcome.rule.name, outcome.rule.rule.typeTag, outcome.passed)

namespace ChainRule

/-- Two entries have the same rule under the same name. -/
structure Twins (entry other : ChainRule) : Prop where
  rule : other.rule = entry.rule
  name : other.name = entry.name

variable {entry other : ChainRule}

/-- Entries with one rule judge alike when the same has been taken and their answers can be noted. -/
theorem Twins.judge [Host] (twins : entry.Twins other) {key otherKey : Value}
    {attributes : DecisionAttributes} {journal later : Journal}
    (same : journal.cursors = later.cursors)
    (noted : entry.CanBeNoted key (entry.answer attributes journal).1)
    (otherNoted : other.CanBeNoted otherKey (other.answer attributes later).1) :
    ∃ judged next otherNext,
      Id.run ((entry.judge key attributes).run journal) = (.ok judged, next) ∧
      Id.run ((other.judge otherKey attributes).run later) = (.ok judged, otherNext) ∧
      next.cursors = otherNext.cursors := by
  obtain ⟨sameAnswer, sameCursors⟩ := entry.rule.blind_evaluate attributes journal later same
  have answers : (other.answer attributes later).1 = (entry.answer attributes journal).1 := by
    unfold answer
    rw [twins.rule]
    exact sameAnswer.symm
  have cursors : (other.answer attributes later).2.cursors =
      (entry.answer attributes journal).2.cursors := by
    unfold answer
    rw [twins.rule]
    exact sameCursors.symm
  obtain ⟨next, rated, unchanged⟩ := exists_rate noted (entry.answer attributes journal).2
  obtain ⟨otherNext, otherRated, otherUnchanged⟩ :=
    exists_rate otherNoted (other.answer attributes later).2
  rw [answers] at otherRated
  refine ⟨_, next, otherNext, (judge_run ..).trans rated, ?_,
    unchanged.trans (cursors.symm.trans otherUnchanged.symm)⟩
  rw [judge_run, answers]
  exact otherRated

end ChainRule

/-! ## Chains -/

namespace PolicyChain

variable {chain other : PolicyChain} {attributes : DecisionAttributes}

/-- The lines of what a chain reports. -/
def lines [Host] (chain : PolicyChain) (attributes : DecisionAttributes) (journal : Journal) :
    List (Value × String × Bool) :=
  (chain.report attributes journal).outcomes.map RuleOutcome.line

/-- A report allows what it is on when it has lines and all of them pass. -/
theorem allowed_eq_lines [Host] (chain : PolicyChain) (attributes : DecisionAttributes)
    (journal : Journal) : (chain.report attributes journal).allowed =
      (!(chain.lines attributes journal).isEmpty &&
        (chain.lines attributes journal).all fun line => line.2.2) := by
  have passed (outcomes : List RuleOutcome) : outcomes.all RuleOutcome.passed =
      (outcomes.map RuleOutcome.line).all fun line => line.2.2 := by
    rw [List.all_map]
    rfl
  by_cases mute : chain.isRejected = true ∨ chain.rules = []
  · obtain ⟨denies, noOutcomes⟩ := report_of_mute mute attributes journal
    rw [lines, denies, noOutcomes]
    rfl
  · obtain ⟨accepted, nonEmpty⟩ := not_or.1 mute
    have accepted : chain.isRejected = false := by simpa using accepted
    obtain ⟨entry, rest, rules⟩ := List.exists_cons_of_ne_nil nonEmpty
    rw [lines, report, explain_eq accepted nonEmpty, rules, outcomes_cons]
    rcases Id.run ((entry.judge chain.key attributes).run journal) with ⟨error | judged, next⟩
    · rfl
    · dsimp only
      rcases (Id.run ((outcomes chain.key attributes rest).run next)).1 with error | found
      · rfl
      · exact passed (_ :: found)

/-- A chain that is not rejected reports what comes of asking all its rules. -/
theorem lines_of_accepted [Host] (accepted : chain.isRejected = false) {journal : Journal}
    {found : List RuleOutcome}
    (asked : (Id.run ((outcomes chain.key attributes chain.rules).run journal)).1 = .ok found) :
    chain.lines attributes journal = found.map RuleOutcome.line := by
  by_cases nonEmpty : chain.rules = []
  · rw [nonEmpty] at asked
    cases asked
    rw [lines, (report_of_mute (.inr nonEmpty) attributes journal).2]
  · rw [lines, report, explain_eq accepted nonEmpty, asked]
    rfl

theorem lines_of_rejected [Host] (rejected : chain.isRejected = true) (journal : Journal) :
    chain.lines attributes journal = [] := by
  rw [lines, (report_of_mute (.inl rejected) attributes journal).2]
  rfl

theorem lines_outcomes_of_twins [Host] {rules others : List ChainRule}
    (twins : List.Forall₂ ChainRule.Twins rules others) {key otherKey : Value}
    (notable : ∀ entry ∈ rules, ∀ journal, entry.CanBeNoted key (entry.answer attributes journal).1)
    (otherNotable : ∀ entry ∈ others, ∀ journal,
      entry.CanBeNoted otherKey (entry.answer attributes journal).1)
    {journal later : Journal} (same : journal.cursors = later.cursors) : ∃ found otherFound,
    (Id.run ((outcomes key attributes rules).run journal)).1 = .ok found ∧
      (Id.run ((outcomes otherKey attributes others).run later)).1 = .ok otherFound ∧
      found.map RuleOutcome.line = otherFound.map RuleOutcome.line := by
  induction twins generalizing journal later with
  | nil => exact ⟨[], [], rfl, rfl, rfl⟩
  | @cons entry other rest otherRest isTwin _ inductionHypothesis =>
      obtain ⟨here, others⟩ := List.forall_mem_cons.1 notable
      obtain ⟨otherHere, otherOthers⟩ := List.forall_mem_cons.1 otherNotable
      obtain ⟨judged, next, otherNext, judges, otherJudges, sameCursors⟩ :=
        isTwin.judge same (here journal) (otherHere later)
      obtain ⟨found, otherFound, asked, otherAsked, sameLines⟩ :=
        inductionHypothesis others otherOthers sameCursors
      have sameLine : RuleOutcome.line ⟨entry, judged.1, judged.2⟩ =
          RuleOutcome.line ⟨other, judged.1, judged.2⟩ := by
        rw [RuleOutcome.line, RuleOutcome.line, isTwin.rule, isTwin.name]
      rw [outcomes_cons, outcomes_cons, judges, otherJudges]
      dsimp only
      rw [asked, otherAsked]
      refine ⟨_, _, rfl, rfl, ?_⟩
      rw [List.map_cons, List.map_cons, sameLine, sameLines]

/-- The entries of two chains are twins, one by one, or both chains are rejected. -/
structure Twins (chain other : PolicyChain) : Prop where
  rejected : other.isRejected = chain.isRejected
  rules : List.Forall₂ ChainRule.Twins chain.rules other.rules

/-- The entries of two chains are twins in some order, or both chains are rejected. -/
structure Kin (chain other : PolicyChain) : Prop where
  rejected : other.isRejected = chain.isRejected
  rules : ∃ arranged, List.Forall₂ ChainRule.Twins chain.rules arranged ∧ arranged.Perm other.rules

/-- Twins report the same, line by line, when the same has been taken and their rules can be noted. -/
theorem Twins.lines_eq [Host] (twins : chain.Twins other) (notable : chain.IsNotable attributes)
    (otherNotable : other.IsNotable attributes) {journal later : Journal}
    (same : journal.cursors = later.cursors) :
    other.lines attributes later = chain.lines attributes journal := by
  have sameRejected := twins.rejected
  cases rejected : chain.isRejected with
  | true =>
      rw [rejected] at sameRejected
      rw [lines_of_rejected rejected, lines_of_rejected sameRejected]
  | false =>
      rw [rejected] at sameRejected
      obtain ⟨found, otherFound, asked, otherAsked, sameLines⟩ :=
        lines_outcomes_of_twins twins.rules notable otherNotable same
      rw [lines_of_accepted rejected asked, lines_of_accepted sameRejected otherAsked]
      exact sameLines.symm

/-- Kin report the same lines in some order, on what can be gone through again, when their rules can be
noted. -/
theorem Kin.lines_perm [Host] (kin : chain.Kin other) (notable : chain.IsNotable attributes)
    (otherNotable : other.IsNotable attributes)
    (steady : ∀ entry ∈ chain.rules, entry.rule.Steady attributes) (journal later : Journal) :
    (other.lines attributes later).Perm (chain.lines attributes journal) := by
  have sameRejected := kin.rejected
  cases rejected : chain.isRejected with
  | true =>
      rw [rejected] at sameRejected
      rw [lines_of_rejected rejected, lines_of_rejected sameRejected]
  | false =>
      rw [rejected] at sameRejected
      obtain ⟨arranged, twins, perm⟩ := kin.rules
      let answers (entry : ChainRule) := entry.rule.answer attributes {}
      have isAnswered {entry : ChainRule} (isSteady : entry.rule.Steady attributes)
          (journal : Journal) : (entry.answer attributes journal).1 = answers entry := by
        obtain ⟨answer, same⟩ := isSteady
        exact (same journal).trans (same {}).symm
      have otherSteady : ∀ entry ∈ other.rules, entry.rule.Steady attributes := by
        intro entry member
        obtain ⟨twin, twinMember, isTwin⟩ := twins.flip.exists_of_mem (perm.mem_iff.2 member)
        exact isTwin.rule ▸ steady twin twinMember
      have answered : Answered attributes answers chain.rules :=
        fun entry member => isAnswered (steady entry member)
      have otherAnswered : Answered attributes answers other.rules :=
        fun entry member => isAnswered (otherSteady entry member)
      have sameLines : chain.rules.map (fun entry => (outcomeOf answers entry).line) =
          arranged.map fun entry => (outcomeOf answers entry).line := by
        rw [← List.forall₂_eq_eq_eq, List.forall₂_map_left_iff, List.forall₂_map_right_iff]
        refine twins.imp fun entry twin isTwin => ?_
        have sameAnswer : answers twin = answers entry := congrArg (·.answer attributes {}) isTwin.rule
        rw [outcomeOf, outcomeOf, RuleOutcome.line, RuleOutcome.line, Passing, Passing, sameAnswer,
          isTwin.rule, isTwin.name]
      have asked := outcomes_run chain.key answered
        (fun entry member => notable entry member {}) journal
      have otherAsked := outcomes_run other.key otherAnswered
        (fun entry member => otherNotable entry member {}) later
      rw [lines_of_accepted rejected (congrArg Prod.fst asked),
        lines_of_accepted sameRejected (congrArg Prod.fst otherAsked), List.map_map, List.map_map]
      exact (perm.symm.map _).trans (.of_eq sameLines.symm)

/-- Reports with the same lines in some order allow the same. -/
theorem allowed_eq_of_perm [Host] {journal later : Journal}
    (perm : (other.lines attributes later).Perm (chain.lines attributes journal)) :
    (other.report attributes later).allowed = (chain.report attributes journal).allowed := by
  rw [allowed_eq_lines, allowed_eq_lines, perm.isEmpty_eq, perm.all_eq]

end PolicyChain

/-! ## Rules -/

/-- A rule says what another one says, for another policy and under another identifier. -/
def PolicyRule.Repeats (rule copy : PolicyRule) : Prop :=
  copy = { rule with id := copy.id, policyId := copy.policyId }

variable {catalog : RuleCatalog}

namespace RuleCatalog

variable {rule copy : PolicyRule} (repeats : rule.Repeats copy)

include repeats

/-- What repeats a rule is made of the same. -/
theorem create_of_repeats [Host] : catalog.create (.str copy.type) copy.config =
    catalog.create (.str rule.type) rule.config := by
  rw [repeats]

theorem exists_makes_iff_of_repeats [Host] :
    (∃ entry, catalog.Makes copy entry) ↔ ∃ entry, catalog.Makes rule entry := by
  have created := @create_of_repeats catalog _ _ repeats
  constructor
  · rintro ⟨_, made, creates, _⟩
    exact ⟨_, made, created.symm.trans creates, rfl⟩
  · rintro ⟨_, made, creates, _⟩
    exact ⟨_, made, created.trans creates, rfl⟩

theorem Makes.twins [Host] {entry other : ChainRule} (makes : catalog.Makes rule entry)
    (copyMakes : catalog.Makes copy other) : entry.Twins other := by
  obtain ⟨made, creates, rfl⟩ := makes
  obtain ⟨copied, copyCreates, rfl⟩ := copyMakes
  rw [create_of_repeats repeats, creates] at copyCreates
  cases copyCreates
  have sameName : copy.name = rule.name := by
    rw [repeats]
  refine ⟨rfl, ?_⟩
  rw [ChainRule.of, ChainRule.of, sameName]

end RuleCatalog

namespace Snapshot

variable {source copy : Policy} {active arranged copies : List PolicyRule}
  {chain copyChain : PolicyChain} {issue? copyIssue? : Option BuildIssue}

/-- A chain is not rejected when all its rules can be made. -/
theorem Builds.accepted_iff [Host] (builds : Builds catalog source active chain issue?) :
    chain.isRejected = false ↔ ∀ rule ∈ active, ∃ entry, catalog.Makes rule entry := by
  cases builds with
  | accepted makes => exact ⟨fun _ rule member =>
      (makes.exists_of_mem member).imp fun _ made => made.2, fun _ => rfl⟩
  | rejected _ fails =>
      refine ⟨nofun, fun makes => ?_⟩
      obtain ⟨_, made, creates, _⟩ := makes _ (List.mem_append_right _ (.head _))
      rw [fails] at creates
      cases creates

theorem twins_of_makes [Host] {entries copyEntries : List ChainRule}
    (repeats : List.Forall₂ PolicyRule.Repeats active copies)
    (makes : List.Forall₂ catalog.Makes active entries)
    (copyMakes : List.Forall₂ catalog.Makes copies copyEntries) :
    List.Forall₂ ChainRule.Twins entries copyEntries := by
  induction repeats generalizing entries copyEntries with
  | nil =>
      cases makes
      cases copyMakes
      exact .nil
  | cons here _ inductionHypothesis =>
      cases makes with
      | cons made makes =>
          cases copyMakes with
          | cons copyMade copyMakes =>
              exact .cons (made.twins here copyMade) (inductionHypothesis makes copyMakes)

/-- The chain of rules that repeat others, in some order, is rejected when that of the others is. -/
theorem Builds.sameRejected [Host] (builds : Builds catalog source active chain issue?)
    (copyBuilds : Builds catalog copy copies copyChain copyIssue?)
    (repeats : List.Forall₂ PolicyRule.Repeats active arranged) (perm : arranged.Perm copies) :
    copyChain.isRejected = chain.isRejected := by
  rw [Bool.eq_iff_iff, ← not_iff_not, Bool.not_eq_true, Bool.not_eq_true, builds.accepted_iff,
    copyBuilds.accepted_iff]
  constructor
  · intro makes rule member
    obtain ⟨other, otherMember, isRepeated⟩ := repeats.exists_of_mem member
    exact (RuleCatalog.exists_makes_iff_of_repeats isRepeated).1
      (makes other (perm.mem_iff.1 otherMember))
  · intro makes other member
    obtain ⟨rule, ruleMember, isRepeated⟩ := repeats.flip.exists_of_mem (perm.mem_iff.2 member)
    exact (RuleCatalog.exists_makes_iff_of_repeats isRepeated).2 (makes rule ruleMember)

/-- Rules that repeat others, one by one, build a twin of their chain. -/
theorem Builds.twins [Host] (builds : Builds catalog source active chain issue?)
    (copyBuilds : Builds catalog copy copies copyChain copyIssue?)
    (repeats : List.Forall₂ PolicyRule.Repeats active copies) : chain.Twins copyChain := by
  have sameRejected := builds.sameRejected copyBuilds repeats (.refl _)
  refine ⟨sameRejected, ?_⟩
  cases builds with
  | accepted makes =>
      cases copyBuilds with
      | accepted copyMakes => exact twins_of_makes repeats makes copyMakes
      | rejected _ _ => cases sameRejected
  | rejected _ _ =>
      cases copyBuilds with
      | accepted _ => cases sameRejected
      | rejected _ _ => exact .nil

/-- Rules that repeat others in some order build kin of their chain. -/
theorem Builds.kin [Host] (builds : Builds catalog source active chain issue?)
    (copyBuilds : Builds catalog copy copies copyChain copyIssue?)
    (repeats : List.Forall₂ PolicyRule.Repeats active arranged) (perm : arranged.Perm copies) :
    chain.Kin copyChain := by
  have sameRejected := builds.sameRejected copyBuilds repeats perm
  refine ⟨sameRejected, ?_⟩
  cases builds with
  | accepted makes =>
      cases copyBuilds with
      | accepted copyMakes =>
          obtain ⟨entries, arrangedMakes, entriesPerm⟩ := List.perm_comp_forall₂ perm copyMakes
          exact ⟨entries, twins_of_makes repeats makes arrangedMakes, entriesPerm⟩
      | rejected _ _ => cases sameRejected
  | rejected _ _ =>
      cases copyBuilds with
      | accepted _ => cases sameRejected
      | rejected _ _ => exact ⟨[], .nil, .refl _⟩

/-- The rules of a chain each have one answer to what can be gone through again. -/
theorem Builds.steady [Host] (builds : Builds catalog source active chain issue?)
    {attributes : DecisionAttributes} (repeatable : attributes.Repeatable) :
    ∀ entry ∈ chain.rules, entry.rule.Steady attributes := by
  cases builds with
  | accepted makes => exact steady_of_forall₂ repeatable makes
  | rejected _ _ => exact List.forall_mem_nil _

end Snapshot

end Authorization
