import Authorization.Proofs.Decision.Chain
import Authorization.Proofs.Decision.Consultation
import Authorization.Proofs.Registry.Agreement
import Authorization.Proofs.Script.Faults
import Authorization.Proofs.Script.Keeping

/-!
# Rules with one answer

One-shot sequences are all that a rule could leave a trace in for the next one. Where a rule looks at none,
it has one answer, whatever has been logged and whatever has been taken before: comparisons never take
items, and a script takes none where its names hold no one-shot sequence. So it makes no difference in
which order the rules of a chain are asked. The chain of a policy holds exactly when the policy has active
rules and each of them can be made and says yes, which is a matter of their types and configurations.

What rules of the classes raise can be written, and so can their names: the chain of a policy always
answers and reports. At another pace of the machine it answers the same, as long as the machine gets on
with its scripts alike.
-/

namespace Authorization

open Value

open Draw

/-! ## Comparisons -/

namespace Comparison

/-- A value of the kind that an operator needs. -/
def Suits (operator : Comparison) (value : Value) : Prop :=
  operator.needsList = true → (Check.membersOf? value).isSome = true

theorem steady_isMemberOrShares {isOne : Bool} {value container : Value}
    (steady : Steady (value.isMember container)) : Steady (value.isMemberOrShares isOne container) :=
  steady.bind fun _ => steady_pure _

/-- To look for a value among listed ones takes nothing. -/
theorem steady_isMember (value : Value) {container : Value}
    (areMembers : (Check.membersOf? container).isSome = true) :
    Steady (value.isMember container) := by
  have listed (items : List Value) : Steady (value.isMember (.list items)) := by
    obtain ⟨result, taken⟩ := steady_liftM (compared (Iteration.search (equal? value) items).2)
    exact ⟨result, taken⟩
  cases container with
  | list items => exact listed items
  | tuple items => exact listed items
  | _ => cases areMembers

theorem steady_containment (isOne : Bool) (container value : Value) :
    Steady (containment isOne container value) := by
  have looked {draw : Draw Bool} (steady : Steady draw) (same : draw = value.isMember container) :
      Steady (do return some (← value.isMemberOrShares isOne container)) :=
    (steady_isMemberOrShares (same ▸ steady)).bind fun _ => steady_pure _
  unfold containment
  split
  · exact steady_pure _
  · exact looked (steady_isMember value rfl) rfl
  · exact looked (steady_isMember value rfl) rfl
  · exact looked (steady_liftM (amongMembers value _)) rfl
  · exact looked (steady_liftM (amongKeys value _)) rfl
  · exact looked (steady_liftM (amongEntries value _)) rfl
  · exact steady_pure _

/-- A comparison with a value that suits it takes nothing. -/
theorem steady_holds {operator : Comparison} {value : Value} (suits : operator.Suits value)
    (isOne : Bool) (field : Value) : Steady (operator.holds isOne field value) := by
  cases operator with
  | equals => exact steady_liftM _
  | notEquals => exact (steady_liftM _).bind fun _ => steady_pure _
  | contains | notContains => exact (steady_containment isOne field value).bind fun _ => steady_pure _
  | isIn => exact steady_isMemberOrShares (steady_isMember field (suits rfl))
  | isNotIn =>
      exact (steady_isMemberOrShares (steady_isMember field (suits rfl))).bind fun _ => steady_pure _
  | _ => exact steady_pure _

end Comparison

/-! ## Scripts -/

namespace Script

variable {names : Scope}

/-- A script takes nothing where no name holds a one-shot sequence. -/
theorem steady_decide (script : Script) (budget : Budget)
    (given : ∀ name ∈ names, name.2.Repeatable) : Steady (script.decide budget names) := by
  have same (cursors : Cursors) : script.outcome budget names cursors =
      { script.outcome budget names {} with cursors } :=
    outcome_of_excludesShared lasting_notOneShot script budget
      (fun literal _ => repeatable_literal literal) given excludesShared_notOneShot cursors {}
  cases known : obstacle? budget names with
  | none =>
      refine ⟨judgement budget (script.outcome budget names {}).result, fun cursors => ?_⟩
      have said := script.verdict_eq budget names cursors
      rw [same cursors, known] at said
      exact said
  | some error =>
      refine ⟨.error error, fun cursors => ?_⟩
      have said := script.verdict_eq budget names cursors
      rw [known] at said
      exact said

end Script

/-! ## Rules -/

/-- The checks that classes make: a comparison is with a value that suits its operator, and a fixed answer
is yes. -/
inductive Check.IsMade : Check → Prop
  | ownership : IsMade .ownership
  | sameOrganization : IsMade .sameOrganization
  | accountRole (roles : List String) : IsMade (.accountRole roles)
  | field (comparison : FieldComparison) (suits : comparison.operator.Suits comparison.value) :
      IsMade (.field comparison)
  | script (code : Script) (limits : Limits) : IsMade (.script code limits)
  | always : IsMade (.fixed (.ok (.bool true)))

/-- Everything that rules may look at can be gone through again. -/
structure DecisionAttributes.Repeatable (attributes : DecisionAttributes) : Prop where
  principal : EntriesRepeatable attributes.principal.entries
  resource : attributes.resource.Repeatable
  action : attributes.action.Repeatable
  context : EntriesRepeatable attributes.context

/-- The names that a script sees hold no one-shot sequence. -/
theorem Check.repeatable_exposed {attributes : DecisionAttributes}
    (repeatable : attributes.Repeatable) : ∀ name ∈ exposed attributes, name.2.Repeatable := by
  have user : (Value.dict attributes.principal.entries).Repeatable :=
    lasting_notOneShot.madeOf_dict repeatable.principal
  have context : (Value.dict attributes.context).Repeatable :=
    lasting_notOneShot.madeOf_dict repeatable.context
  have whole : EntriesRepeatable [(.str "user", .dict attributes.principal.entries),
      (.str "resource", attributes.resource), (.str "action", attributes.action),
      (.str "context", .dict attributes.context)] := by
    simp only [EntriesRepeatable, EntriesMadeOf, List.forall_mem_cons]
    exact ⟨⟨repeatable_str _, user⟩, ⟨repeatable_str _, repeatable.resource⟩,
      ⟨repeatable_str _, repeatable.action⟩, ⟨repeatable_str _, context⟩, List.forall_mem_nil _⟩
  have all : (Value.dict _).Repeatable := lasting_notOneShot.madeOf_dict whole
  simp only [exposed, List.cons_append, List.nil_append, List.forall_mem_cons]
  exact ⟨user, repeatable.resource, repeatable.action, context, all, List.forall_mem_nil _⟩

/-- A script takes nothing where everything can be gone through again. -/
theorem Check.steady_decided [Host] (code : Script) (limits : Limits) {attributes : DecisionAttributes}
    (repeatable : attributes.Repeatable) : Steady (decided code limits attributes) := by
  unfold decided
  split
  · exact ⟨_, fun _ => rfl⟩
  · exact code.steady_decide (budget code limits) (repeatable_exposed repeatable)

namespace Rule

variable {rule : Rule} {attributes : DecisionAttributes}

/-- What a rule answers, from a journal on. -/
def answer [Host] (rule : Rule) (attributes : DecisionAttributes) (journal : Journal) :
    Except Error Value :=
  (Id.run ((rule.evaluate attributes).run journal)).1

/-- A rule has one answer, whatever has been logged and taken. -/
def Steady [Host] (rule : Rule) (attributes : DecisionAttributes) : Prop :=
  ∃ answer, ∀ journal, rule.answer attributes journal = answer

/-- A rule says yes, whatever has been logged and taken. -/
def Affirms [Host] (rule : Rule) (attributes : DecisionAttributes) : Prop :=
  ∀ journal, rule.answer attributes journal = .ok (.bool true)

theorem Steady.affirms_iff [Host] (steady : rule.Steady attributes) (journal : Journal) :
    rule.Affirms attributes ↔ rule.answer attributes journal = .ok (.bool true) := by
  obtain ⟨answer, same⟩ := steady
  refine ⟨fun affirms => affirms journal, fun isTrue other => ?_⟩
  rw [same other, ← same journal]
  exact isTrue

/-- Where everything can be gone through again, a rule with a check that classes make has one answer. -/
theorem steady_of_isMade [Host] (isMade : rule.check.IsMade) (repeatable : attributes.Repeatable) :
    rule.Steady attributes := by
  have ofResult (result : Except Error Bool) : ∃ answer, ∀ journal : Journal,
      (Id.run ((do return .bool (← result) : Judged Value).run journal)).1 = answer := by
    cases result with
    | error error => exact ⟨.error error, fun _ => rfl⟩
    | ok truth => exact ⟨.ok (.bool truth), fun _ => rfl⟩
  have ofDraw {draw : Draw Bool} (steady : Draw.Steady draw) : ∃ answer, ∀ journal : Journal,
      (Id.run ((do return .bool (← Judged.ofDraw draw) : Judged Value).run journal)).1 = answer := by
    obtain ⟨result, taken⟩ := steady
    refine ⟨result.map Value.bool, fun journal => ?_⟩
    rw [Judged.run_bind, Judged.run_ofDraw, taken journal.cursors]
    cases result <;> rfl
  obtain ⟨className, typeTag, check⟩ := rule
  cases isMade with
  | ownership => exact ofResult _
  | sameOrganization => exact ofResult _
  | accountRole roles => exact ⟨.ok (.bool (roles.contains attributes.principal.role)), fun _ => rfl⟩
  | field comparison suits =>
      refine ofDraw ?_
      unfold FieldComparison.holds
      split
      · exact Comparison.steady_holds suits _ _
      · exact steady_pure _
  | script code limits =>
      obtain ⟨result, taken⟩ := Check.steady_decided code limits repeatable
      have run (journal : Journal) : (Rule.mk className typeTag (.script code limits)).answer attributes
          journal = (Check.reported attributes journal (result, journal.cursors)).1.map .bool := by
        have said : Check.said code limits attributes journal.cursors = (result, journal.cursors) :=
          taken journal.cursors
        rw [← said]
        exact congrArg Prod.fst (Check.run_evaluate_script code limits attributes journal)
      refine ⟨(Check.reported attributes {} (result, {})).1.map .bool, fun journal => ?_⟩
      rw [run]
      exact congrArg (Except.map Value.bool) (Check.reported_congr attributes rfl)
  | always => exact ⟨.ok (.bool true), fun _ => rfl⟩

end Rule

/-! ## Rules whose errors can be written -/

namespace Judged

variable {α β : Type} {p : Error → Prop}

/-- If something fails, then with an error of a certain sort. -/
def FailsWith (p : Error → Prop) (action : Judged α) : Prop :=
  ∀ journal, (Id.run (action.run journal)).1.FailsWith p

theorem failsWith_pure (value : α) : FailsWith p (pure value) :=
  fun _ => trivial

theorem failsWith_liftM {result : Except Error α} (fails : result.FailsWith p) :
    FailsWith p (liftM result : Judged α) := by
  intro journal
  rw [run_liftM]
  exact fails

theorem failsWith_ofDraw {draw : Draw α} (fails : draw.FailsWith p) : FailsWith p (ofDraw draw) :=
  fun journal => fails journal.cursors

theorem FailsWith.bind {action : Judged α} {next : α → Judged β} (fails : FailsWith p action)
    (rest : ∀ value, FailsWith p (next value)) : FailsWith p (action >>= next) := by
  intro journal
  have here := fails journal
  rw [run_bind]
  revert here
  rcases Id.run (action.run journal) with ⟨error | value, after⟩
  · exact id
  · exact fun _ => rest value after

end Judged

namespace Check

open Judged

theorem failsWith_sameText (a b : Value) : (sameText a b).FailsWith Error.IsFault :=
  .ite (Except.failsWith_ok _)
    ((failsWith_toText a).bind fun _ => (failsWith_toText b).bind fun _ => Except.failsWith_ok _)

theorem failsWith_containment (isOne : Bool) (container value : Value) :
    (Comparison.containment isOne container value).FailsWith Error.IsFault := by
  have looked : (do return some (← value.isMemberOrShares isOne container) : Draw (Option Bool)).FailsWith
      Error.IsFault :=
    ((failsWith_isMember value container).bind fun _ => Draw.failsWith_pure _).bind fun _ =>
      Draw.failsWith_pure _
  unfold Comparison.containment
  split
  · exact Draw.failsWith_pure _
  all_goals first | exact looked | exact Draw.failsWith_pure _

theorem failsWith_holds (isOne : Bool) (operator : Comparison) (field value : Value) :
    (operator.holds isOne field value).FailsWith Error.IsFault := by
  have equality := Draw.failsWith_liftM.2 (failsWith_compared (equalOrShare? isOne field value))
  have membership : (field.isMemberOrShares isOne value).FailsWith Error.IsFault :=
    (failsWith_isMember field value).bind fun _ => Draw.failsWith_pure _
  cases operator with
  | equals => exact equality
  | notEquals => exact equality.bind fun _ => Draw.failsWith_pure _
  | contains | notContains =>
      exact (failsWith_containment isOne field value).bind fun _ => Draw.failsWith_pure _
  | isIn => exact membership
  | isNotIn => exact membership.bind fun _ => Draw.failsWith_pure _
  | _ => exact Draw.failsWith_pure _

/-- The errors of a check that classes make can be written: a script fails only for what cannot be noted,
with an error that can. -/
theorem IsMade.failsWith_evaluate [Host] {check : Check} (isMade : check.IsMade)
    (attributes : DecisionAttributes) : Judged.FailsWith Error.HasText (check.evaluate attributes) := by
  have sameText (a b : Value) : Judged.FailsWith Error.HasText
      (do return .bool (← sameText a b) : Judged Value) :=
    (failsWith_liftM ((failsWith_sameText a b).mono fun _ => Error.IsFault.hasText)).bind
      fun _ => failsWith_pure _
  cases isMade with
  | ownership => exact sameText _ _
  | sameOrganization => exact sameText _ _
  | accountRole roles => exact failsWith_pure _
  | field comparison suits =>
      refine Judged.FailsWith.bind (failsWith_ofDraw ?_) fun _ => failsWith_pure _
      unfold FieldComparison.holds
      split
      · exact fun cursors => (failsWith_holds _ _ _ _ cursors).mono fun _ => Error.IsFault.hasText
      · exact Draw.failsWith_pure _
  | script code limits =>
      have attempted : Judged.FailsWith Error.HasText (attempt (ofDraw (decided code limits attributes))) :=
        fun _ => trivial
      refine Judged.FailsWith.bind (attempted.bind fun result => ?_) fun _ => failsWith_pure _
      split
      · exact failsWith_pure _
      · rename_i error
        have written : error.toLogged.FailsWith Error.HasText := by
          cases fails : error.toLogged with
          | ok words => trivial
          | error other => exact Error.hasText_of_toLogged fails
        exact (failsWith_liftM written).bind fun _ => Judged.FailsWith.bind (fun _ => trivial) fun _ =>
          failsWith_pure _
  | always => exact failsWith_pure _

end Check

/-! ## Rules that can be made -/

namespace Check

variable {typeTag : String} {config : List (Value × Value)} {comparison : FieldComparison}

theorem suits_of_fieldComparisonOf
    (made : fieldComparisonOf typeTag config = .ok (.field comparison)) :
    comparison.operator.Suits comparison.value := by
  obtain ⟨field, _, made⟩ := Except.bind_eq_ok_iff.1 made
  obtain ⟨operator, _, made⟩ := Except.bind_eq_ok_iff.1 made
  split at made
  · cases made
  · split at made
    · cases made
    · rename_i hasMembers
      split at made
      · cases made
      · cases made
        intro needsList
        rw [Bool.and_eq_true, not_and, Bool.not_eq_true, Option.isNone_eq_false_iff] at hasMembers
        exact hasMembers needsList

theorem isMade_of_fieldComparisonOf {check : Check}
    (made : fieldComparisonOf typeTag config = .ok check) : check.IsMade := by
  obtain ⟨comparison, rfl⟩ : ∃ comparison, check = .field comparison := by
    obtain ⟨field, _, made⟩ := Except.bind_eq_ok_iff.1 made
    obtain ⟨operator, _, made⟩ := Except.bind_eq_ok_iff.1 made
    split at made
    · cases made
    · split at made
      · cases made
      · split at made
        · cases made
        · cases made
          exact ⟨_, rfl⟩
  exact .field comparison (suits_of_fieldComparisonOf made)

theorem isMade_of_accountRoleOf {check : Check} (made : accountRoleOf typeTag config = .ok check) :
    check.IsMade := by
  unfold accountRoleOf at made
  split at made
  · cases made
  · split at made
    · cases made
      exact .accountRole _
    · cases made

theorem isMade_of_scriptOf [Host] {limits : Limits} {check : Check}
    (made : scriptOf typeTag config limits = .ok check) : check.IsMade := by
  unfold scriptOf at made
  split at made
  · split at made
    · cases made
    · obtain ⟨code, _, made⟩ := Except.bind_eq_ok_iff.1 made
      cases made
      exact .script code limits
  · cases made

end Check

/-- A rule that a class makes has a check that classes make. -/
theorem RuleCatalog.isMade_of_create [Host] {catalog : RuleCatalog} {typeTag config : Value} {rule : Rule}
    (created : catalog.create typeTag config = .ok rule) : rule.check.IsMade := by
  unfold create at created
  split at created
  · cases created
  · split at created
    · rename_i ruleClass _
      obtain ⟨found, _, created⟩ := Except.bind_eq_ok_iff.1 created
      obtain ⟨check, made, created⟩ := Except.bind_eq_ok_iff.1 created
      cases created
      unfold RuleClass.checkOf at made
      split at made
      · cases made
        exact .ownership
      · cases made
        exact .sameOrganization
      · exact Check.isMade_of_accountRoleOf made
      · exact Check.isMade_of_fieldComparisonOf made
      · exact Check.isMade_of_scriptOf made
      · cases made
        exact .always
    · cases created

/-! ## Chains -/

namespace ChainRule

variable {attributes : DecisionAttributes}

/-- Rules with one answer each all answer true, one after the other, when each of them says yes. -/
theorem allTrue_iff_of_steady [Host] {rules : List ChainRule}
    (steady : ∀ entry ∈ rules, entry.rule.Steady attributes) (journal : Journal) :
    AllTrue attributes journal rules ↔ ∀ entry ∈ rules, entry.rule.Affirms attributes := by
  induction rules generalizing journal with
  | nil => exact ⟨fun _ => List.forall_mem_nil _, fun _ => .nil journal⟩
  | cons entry rest inductionHypothesis =>
      obtain ⟨here, others⟩ := List.forall_mem_cons.1 steady
      rw [List.forall_mem_cons]
      constructor
      · rintro (_ | ⟨isTrue, allTrue⟩)
        exact ⟨(here.affirms_iff journal).2 (congrArg Prod.fst isTrue),
          (inductionHypothesis others _).1 allTrue⟩
      · rintro ⟨affirms, affirm⟩
        exact .cons (Prod.ext (affirms journal) rfl) ((inductionHypothesis others _).2 affirm)

end ChainRule

/-- A stored rule can be made, and says yes to a decision. -/
def PolicyRule.Affirms [Host] (catalog : RuleCatalog) (attributes : DecisionAttributes)
    (rule : PolicyRule) : Prop :=
  ∃ made, catalog.create (.str rule.type) rule.config = .ok made ∧ made.Affirms attributes

variable {catalog : RuleCatalog} {attributes : DecisionAttributes} {policy : Policy}
  {chain : PolicyChain} {issue? : Option BuildIssue}

theorem RuleCatalog.Makes.affirms_iff [Host] {rule : PolicyRule} {entry : ChainRule}
    (makes : catalog.Makes rule entry) :
    rule.Affirms catalog attributes ↔ entry.rule.Affirms attributes := by
  obtain ⟨made, created, rfl⟩ := makes
  constructor
  · rintro ⟨other, otherCreated, affirms⟩
    rw [created] at otherCreated
    cases otherCreated
    exact affirms
  · exact fun affirms => ⟨made, created, affirms⟩

theorem RuleCatalog.Makes.steady [Host] {rule : PolicyRule} {entry : ChainRule}
    (repeatable : attributes.Repeatable) (makes : catalog.Makes rule entry) :
    entry.rule.Steady attributes := by
  obtain ⟨made, created, rfl⟩ := makes
  exact Rule.steady_of_isMade (isMade_of_create created) repeatable

/-- What a rule of a class answers can be noted, where its name and the key of the policy are texts. -/
theorem ChainRule.canBeNoted_of_isMade [Host] {rule : Rule} (isMade : rule.check.IsMade)
    (name key : String) (id : Value) (attributes : DecisionAttributes) (journal : Journal) :
    (ChainRule.of rule (.str name) id).CanBeNoted (.str key)
      ((ChainRule.of rule (.str name) id).answer attributes journal).1 := by
  refine ⟨fun _ => ?_, fun _ => Value.hasText_str key, fun error fails => ?_⟩
  · unfold ChainRule.of
    dsimp only
    split
    · exact Value.hasText_str _
    · exact Value.hasText_str _
  · exact (isMade.failsWith_evaluate attributes journal).holds fails

namespace PolicyTable

end PolicyTable

namespace Snapshot

theorem affirm_iff_of_forall₂ [Host] {active : List PolicyRule} {made : List ChainRule}
    (makes : List.Forall₂ catalog.Makes active made) :
    (∀ rule ∈ active, rule.Affirms catalog attributes) ↔
      ∀ entry ∈ made, entry.rule.Affirms attributes := by
  induction makes with
  | nil => simp
  | cons here _ inductionHypothesis =>
      rw [List.forall_mem_cons, List.forall_mem_cons, here.affirms_iff, inductionHypothesis]

theorem steady_of_forall₂ [Host] (repeatable : attributes.Repeatable) {active : List PolicyRule}
    {made : List ChainRule} (makes : List.Forall₂ catalog.Makes active made) :
    ∀ entry ∈ made, entry.rule.Steady attributes := by
  induction makes with
  | nil => exact List.forall_mem_nil _
  | cons here _ inductionHypothesis =>
      exact List.forall_mem_cons.2 ⟨here.steady repeatable, inductionHypothesis⟩

/-- The chain of a policy holds, from any journal on, when the policy has active rules and each of them
says yes. A rejected chain has an active rule that cannot be made. -/
theorem Builds.holds_iff [Host] {active : List PolicyRule} (repeatable : attributes.Repeatable)
    (builds : Builds catalog policy active chain issue?) (journal : Journal) :
    chain.Holds attributes journal ↔
      active ≠ [] ∧ ∀ rule ∈ active, rule.Affirms catalog attributes := by
  cases builds with
  | @accepted _ made makes =>
      rw [affirm_iff_of_forall₂ makes]
      have nonEmpty : active ≠ [] ↔ made ≠ [] := by
        cases makes <;> simp
      rw [nonEmpty]
      have allTrue := ChainRule.allTrue_iff_of_steady (steady_of_forall₂ repeatable makes) journal
      exact ⟨fun holds => ⟨holds.nonEmpty, allTrue.1 holds.allTrue⟩,
        fun ⟨nonEmpty, affirm⟩ => ⟨rfl, nonEmpty, allTrue.2 affirm⟩⟩
  | @rejected before after rule error makes fails =>
      constructor
      · intro holds
        cases holds.accepted
      · rintro ⟨_, affirm⟩
        obtain ⟨made, created, _⟩ := affirm rule (by simp)
        rw [fails] at created
        cases created

/-- Whatever comes of the chain of a policy can be noted and written. -/
theorem Builds.isNotable [Host] {active : List PolicyRule}
    (builds : Builds catalog policy active chain issue?) (attributes : DecisionAttributes) :
    chain.IsNotable attributes := by
  cases builds with
  | accepted makes =>
      intro entry member journal
      obtain ⟨rule, -, made, created, rfl⟩ := makes.flip.exists_of_mem member
      exact ChainRule.canBeNoted_of_isMade (RuleCatalog.isMade_of_create created) _ _ _ attributes journal
  | rejected _ _ => exact List.forall_mem_nil _

theorem Builds.source_eq [Host] {active : List PolicyRule}
    (builds : Builds catalog policy active chain issue?) : chain.source = .stored := by
  cases builds <;> rfl

end Snapshot

/-! ## Stored policies -/

namespace PolicyStore

variable {store : PolicyStore}

/-- A policy has active rules, and each of them can be made and says yes to a decision. -/
structure Affirms [Host] (store : PolicyStore) (catalog : RuleCatalog) (attributes : DecisionAttributes)
    (policyId : String) : Prop where
  hasRule : ∃ rule ∈ store.rules.values, rule.policyId = policyId ∧ rule.active.truthy = true
  affirm : ∀ rule ∈ store.rules.values, rule.policyId = policyId → rule.active.truthy = true →
    rule.Affirms catalog attributes

/-- What the chain of a policy says is a matter of its active rules, in whatever order they stand. -/
theorem Chains.holds_iff [Host] (repeatable : attributes.Repeatable)
    (chains : store.Chains catalog policy chain issue?) (journal : Journal) :
    chain.Holds attributes journal ↔ store.Affirms catalog attributes policy.id := by
  obtain ⟨active, areActive, builds⟩ := chains
  rw [builds.holds_iff repeatable journal]
  constructor
  · rintro ⟨nonEmpty, affirm⟩
    obtain ⟨rule, member⟩ := List.exists_mem_of_ne_nil _ nonEmpty
    exact ⟨⟨rule, (areActive.members rule).1 member⟩, fun rule member isPolicy isActive =>
      affirm rule ((areActive.members rule).2 ⟨member, isPolicy, isActive⟩)⟩
  · rintro ⟨⟨rule, isActive⟩, affirm⟩
    refine ⟨List.ne_nil_of_mem ((areActive.members rule).2 isActive), fun rule member => ?_⟩
    obtain ⟨stored, isPolicy, isActive⟩ := (areActive.members rule).1 member
    exact affirm rule stored isPolicy isActive

end PolicyStore

/-! ## Other paces -/

namespace PolicyChain

/-- At another pace the machine gets on with each script of a chain as at its own. -/
def RunsAlike [Host] (chain : PolicyChain) (pace : Pace) : Prop :=
  ∀ entry ∈ chain.rules, ∀ code limits, entry.rule.check = .script code limits →
    Check.RunsAlike pace code limits

end PolicyChain

end Authorization
