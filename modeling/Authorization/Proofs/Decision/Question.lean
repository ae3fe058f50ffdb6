import Authorization.Proofs.Decision.Chain
import Authorization.Proofs.Decision.Gate

/-!
# Decisions

The outcome of a decision from the answer of the gate and the chain in charge, and what decisions come
to: something is allowed exactly when the gate is passed and, with a resource at hand, a chain is in
charge and holds. The reason names the first condition that settled the matter. What goes wrong on the way
is noted; where such a note cannot be written, the decision fails.
-/

namespace Authorization

open Service

namespace Decision

/-- What a decision comes to, given the answer of the gate and the chain in charge. -/
def verdict [Host] (key : String) (principal : Principal) (action : String) (instance? context : Value)
    (journal : Journal) (gate : Except Error Bool) (chain? : Option PolicyChain) :
    Except Error Decision :=
  match gate, instance?, chain? with
  | .error error, _, _ => error.toLogged.map fun _ => ⟨false, .gateError, key, none⟩
  | .ok false, _, _ => .ok ⟨false, .gateDenied, key, none⟩
  | .ok true, .null, _ => .ok ⟨true, .gateOnly, key, none⟩
  | .ok true, _, none => .ok ⟨false, .noPolicy, key, none⟩
  | .ok true, _, some chain =>
    (DecisionAttributes.ofBindings
      [("principal", principal.toValue), ("resource", instance?), ("action", .str action),
       ("context", contextOr context)]).bind fun attributes =>
      (chain.answer attributes journal).map fun allowed =>
        ⟨allowed, if allowed then .policyAllowed else .policyDenied, key, some chain.source⟩

end Decision

namespace Service

theorem exec_idText (system : System) (principal : Principal) :
    exec (idText principal.toValue) system = (.ok (Value.str principal.id).text, system) :=
  rfl

theorem exec_chainFor (key : String) (organization : Option String) (system : System) :
    exec (chainFor (.str key) (Value.ofOption organization)) system =
      (.ok (system.registry.snapshot.chainFor key organization), system) := by
  cases organization <;> rfl

theorem exec_decideByChain [Host] (chain : PolicyChain) (key : String) (principal : Principal)
    (action : String) (instance? context : Value) (system : System) :
    (exec (decideByChain chain key principal.toValue (.str action) instance? context) system).1 =
      (DecisionAttributes.ofBindings
        [("principal", principal.toValue), ("resource", instance?), ("action", .str action),
         ("context", contextOr context)]).bind fun attributes =>
        (chain.answer attributes system.journal).map fun allowed =>
          ⟨allowed, if allowed then .policyAllowed else .policyDenied, key, some chain.source⟩ := by
  unfold decideByChain
  rw [exec_bind, exec_orFail]
  rcases DecisionAttributes.ofBindings _ with error | attributes
  · rfl
  · dsimp only [Except.bind]
    rw [exec_bind, exec_judged]
    unfold PolicyChain.answer
    rcases Id.run ((chain.evaluate attributes).run system.journal) with ⟨error | allowed, after⟩ <;> rfl

/-- With a resource at hand the chain in charge is looked up. -/
theorem decideByPolicy_of_ne_null [Host] {instance? : Value} (isThere : instance? ≠ .null) (key : String)
    (principal action context : Value) :
    decideByPolicy key principal action instance? context = (do
      let organization ← readAttribute principal "organization_id"
      match ← chainFor (.str key) organization with
      | none =>
        note .debug .access ("No policy for '" ++ key ++ "'. Denied.")
        return ⟨false, .noPolicy, key, none⟩
      | some chain => decideByChain chain key principal action instance? context) := by
  cases instance? with
  | null => exact absurd rfl isThere
  | _ => rfl

theorem exec_decideByPolicy [Host] (key : String) (principal : Principal) (action : String)
    (instance? context : Value) (system : System) :
    (exec (decideByPolicy key principal.toValue (.str action) instance? context) system).1 =
      Decision.verdict key principal action instance? context system.journal (.ok true)
        (system.registry.snapshot.chainFor key principal.organization) := by
  by_cases isNull : instance? = .null
  · rw [isNull]
    rfl
  · rw [decideByPolicy_of_ne_null isNull,
      exec_bind_of_ok (exec_readAttribute system principal.attribute_organization),
      exec_bind_of_ok (exec_chainFor key principal.organization system)]
    rcases system.registry.snapshot.chainFor key principal.organization with _ | chain
    · cases instance? with
      | null => exact absurd rfl isNull
      | _ => rfl
    · dsimp only
      rw [exec_decideByChain]
      cases instance? with
      | null => exact absurd rfl isNull
      | _ => rfl

/-- A decision of a principal about texts is the verdict on the answer of the gate and the chain in
charge. -/
theorem exec_explain [Host] {system : System} (notForged : system.RolesNotForged) (principal : Principal)
    (resource action : String) (instance? context : Value) :
    (exec (explain principal.toValue (.str resource) (.str action) instance? context) system).1 =
      Decision.verdict (Key.join resource action) principal action instance? context system.journal
        (system.gate principal resource action)
        (system.registry.snapshot.chainFor (Key.join resource action) principal.organization) := by
  obtain ⟨plans, report, evaluated, answered⟩ :=
    exec_evaluatePermissions notForged principal resource action
  have key : exec (orFail (keyOf (.str resource) (.str action))) system =
      (.ok (Key.join resource action), system) := rfl
  unfold explain
  rw [exec_bind_of_ok key, exec_bind, exec_outcome, evaluated, ← answered]
  rcases report with error | gate
  · dsimp only [Except.map, Decision.verdict]
    rw [exec_bind_of_ok (exec_idText _ principal), exec_bind, exec_orFail]
    cases error.toLogged <;> rfl
  · dsimp only [Except.map]
    cases gate.allowed with
    | false => rfl
    | true =>
        rw [if_pos rfl]
        exact exec_decideByPolicy _ principal action instance? context { system with plans }

end Service

end Authorization

/-!
## What settles a question

A question asks whether a principal may act on a resource. It is allowed exactly when the gate is passed
and, with a resource at hand, a chain is in charge that holds. The reason of a decision is the first
condition that settled it, and a decision names the source of a chain exactly when a chain settled it.
-/

namespace Authorization

/-- The roles of identifiers are missing only for reasons that can be written. -/
theorem RoleStore.failsWith_rolesOf (store : RoleStore) (ids : List Value) :
    (store.rolesOf ids).FailsWith Error.HasText := by
  have identified (id : Value) : (store.backend.identifier id).FailsWith Error.IsFault := by
    unfold Backend.identifier
    split
    · exact .ite (Except.failsWith_ok _) (failsWith_unhashable id)
    · exact Except.failsWith_ok _
  have faulty : (store.rolesOf ids).FailsWith Error.IsFault := by
    refine (Except.FailsWith.mapM identified ids).bind fun known => ?_
    dsimp only
    split
    · exact failsWith_unhashable _
    · exact Except.failsWith_ok _
  exact faulty.mono fun _ => Error.IsFault.hasText

/-- A question that a decision answers. -/
structure Question where
  principal : Principal
  resource : String
  action : String
  instance? : Value := .null
  context : Value := .null

namespace Question

/-- The key that the question is about. -/
def key (question : Question) : String :=
  Key.join question.resource question.action

/-- The question as it is put to the system, with the reason of the answer. -/
def explained [Host] (question : Question) : Service Decision :=
  Service.explain question.principal.toValue (.str question.resource) (.str question.action)
    question.instance? question.context

/-- The question as it is put to the system. -/
def allowed [Host] (question : Question) : Service Bool :=
  Service.allows question.principal.toValue (.str question.resource) (.str question.action)
    question.instance? question.context

/-- What the rules of a chain may look at. -/
def attributes (question : Question) : DecisionAttributes :=
  ⟨question.principal, question.instance?, .str question.action,
    (question.context.entries?).getD []⟩

/-- The principal is one that can be made, and the context is nothing or a mapping. -/
structure Proper (question : Question) : Prop where
  principal : ∃ arguments, Principal.ofArguments arguments = .ok question.principal
  context : question.context = .null ∨ question.context.entries?.isSome

section Conditions

variable (question : Question) (system : System)

/-- The account role passes the gate unconditionally. -/
def Bypasses : Prop :=
  question.principal.role ∈ system.settings.bypassRoles

/-- The role store answers with roles. -/
def IsAnswered : Prop :=
  ∃ found, system.rolesAnswer question.principal.roles = .ok found

/-- A stored role lets the principal pass. -/
def IsGranted : Prop :=
  ∃ role, question.principal.Opens system.roles question.resource question.action role

/-- The gate is passed. -/
def Passes : Prop :=
  question.Bypasses system ∨ (question.IsAnswered system ∧ question.IsGranted system)

/-- The chain in charge. -/
def chain? : Option PolicyChain :=
  system.registry.snapshot.chainFor question.key question.principal.organization

/-- The chain in charge holds. -/
def IsUpheld [Host] : Prop :=
  ∃ chain, question.chain? system = some chain ∧ chain.Holds question.attributes system.journal

/-- A reason names the first condition that settles the question. -/
inductive Settles [Host] : DecisionReason → Prop
  | gateError (account : ¬question.Bypasses system) (asked : question.principal.roles ≠ [])
      (failed : ¬question.IsAnswered system) : Settles .gateError
  | gateDenied (account : ¬question.Bypasses system)
      (answered : question.principal.roles = [] ∨ question.IsAnswered system)
      (denied : ¬question.IsGranted system) : Settles .gateDenied
  | gateOnly (passed : question.Passes system) (nothing : question.instance? = .null) :
      Settles .gateOnly
  | noPolicy (passed : question.Passes system) (something : question.instance? ≠ .null)
      (missing : question.chain? system = none) : Settles .noPolicy
  | policyAllowed (passed : question.Passes system) (something : question.instance? ≠ .null)
      (upheld : question.IsUpheld system) : Settles .policyAllowed
  | policyDenied (passed : question.Passes system) (something : question.instance? ≠ .null)
      (inCharge : (question.chain? system).isSome) (broken : ¬question.IsUpheld system) :
      Settles .policyDenied

end Conditions

/-! ### The answer of the gate -/

section Gate

variable {question : Question} {system : System}

/-- The answer of the gate to a question. -/
def gateAnswer (question : Question) (system : System) : Except Error Bool :=
  system.gate question.principal question.resource question.action

theorem gateAnswer_of_asked (account : ¬question.Bypasses system)
    (asked : question.principal.roles ≠ []) :
    question.gateAnswer system = (system.rolesAnswer question.principal.roles).map fun found =>
      found.any (question.principal.accepts question.resource question.action) := by
  have notMember : question.principal.role ∉ system.settings.bypassRoles := account
  rw [gateAnswer, System.gate, if_neg notMember, if_neg asked]

theorem gateAnswer_of_error (account : ¬question.Bypasses system)
    (asked : question.principal.roles ≠ []) (failed : ¬question.IsAnswered system) :
    ∃ error, question.gateAnswer system = .error error := by
  rw [gateAnswer_of_asked account asked]
  rcases answer : system.rolesAnswer question.principal.roles with error | found
  · exact ⟨error, rfl⟩
  · exact absurd ⟨found, answer⟩ failed

theorem gateAnswer_of_denied (account : ¬question.Bypasses system)
    (answered : question.principal.roles = [] ∨ question.IsAnswered system)
    (denied : ¬question.IsGranted system) : question.gateAnswer system = .ok false := by
  have notMember : question.principal.role ∉ system.settings.bypassRoles := account
  by_cases none : question.principal.roles = []
  · rw [gateAnswer, System.gate, if_neg notMember, if_pos none]
  · obtain ⟨found, answer⟩ := answered.resolve_left none
    have noneOpens : found.any
        (question.principal.accepts question.resource question.action) = false :=
      Bool.eq_false_iff.2 fun opens =>
        denied ((System.any_accepts_iff answer question.resource question.action).1 opens)
    rw [gateAnswer_of_asked account none, answer, Except.map, noneOpens]

theorem gateAnswer_of_passes (passed : question.Passes system) :
    question.gateAnswer system = .ok true := by
  by_cases account : question.Bypasses system
  · rw [gateAnswer, System.gate]
    exact if_pos account
  · obtain ⟨⟨found, answer⟩, granted⟩ := passed.resolve_left account
    have asked : question.principal.roles ≠ [] := fun none =>
      System.not_opens_of_nil none _ granted.choose_spec
    rw [gateAnswer_of_asked account asked, answer, Except.map,
      (System.any_accepts_iff answer question.resource question.action).2 granted]

theorem gate_cases (question : Question) (system : System) :
    (¬question.Bypasses system ∧ question.principal.roles ≠ [] ∧ ¬question.IsAnswered system) ∨
      (¬question.Bypasses system ∧
        (question.principal.roles = [] ∨ question.IsAnswered system) ∧
        ¬question.IsGranted system) ∨
      question.Passes system := by
  by_cases account : question.Bypasses system
  · exact .inr (.inr (.inl account))
  · by_cases granted : question.IsGranted system
    · have asked : question.principal.roles ≠ [] := fun none =>
        System.not_opens_of_nil none _ granted.choose_spec
      by_cases answered : question.IsAnswered system
      · exact .inr (.inr (.inr ⟨answered, granted⟩))
      · exact .inl ⟨account, asked, answered⟩
    · by_cases answered : question.principal.roles = [] ∨ question.IsAnswered system
      · exact .inr (.inl ⟨account, answered, granted⟩)
      · exact .inl ⟨account, fun none => answered (.inl none), fun some => answered (.inr some)⟩

/-- Where nothing is planned, the gate fails only for reasons that can be written. -/
theorem failsWith_gateAnswer (unplanned : system.plans = []) :
    (question.gateAnswer system).FailsWith Error.HasText := by
  rw [gateAnswer, System.gate, System.rolesAnswer_of_unplanned unplanned]
  exact .ite (Except.failsWith_ok _) (.ite (Except.failsWith_ok _)
    (Except.failsWith_map.2 (system.roles.failsWith_rolesOf _)))

end Gate

/-! ### The decision -/

/-- A principal that can be made is found again in its record. -/
theorem principal_ofValue? {arguments : Arguments} {principal : Principal}
    (made : Principal.ofArguments arguments = .ok principal) :
    Principal.ofValue? principal.toValue = some principal := by
  obtain ⟨bindings, _, given⟩ := Except.bind_eq_ok_iff.1 made
  obtain ⟨id, idOk, given⟩ := Except.bind_eq_ok_iff.1 given
  obtain ⟨role, roleOk, given⟩ := Except.bind_eq_ok_iff.1 given
  obtain ⟨organization, _, given⟩ := Except.bind_eq_ok_iff.1 given
  obtain ⟨roles, _, given⟩ := Except.bind_eq_ok_iff.1 given
  obtain ⟨attributes, _, given⟩ := Except.bind_eq_ok_iff.1 given
  cases given
  have idAgain : (Value.str id).nonEmptyText "id" = .ok id :=
    Value.nonEmptyText_eq_ok_iff.2 ⟨rfl, (Value.nonEmptyText_eq_ok_iff.1 idOk).2⟩
  have roleAgain : (Value.str role).nonEmptyText "role" = .ok role :=
    Value.nonEmptyText_eq_ok_iff.2 ⟨rfl, (Value.nonEmptyText_eq_ok_iff.1 roleOk).2⟩
  have organizationAgain : Principal.organizationOf (Value.ofOption organization) =
      .ok organization := by
    cases organization <;> rfl
  have shape : Principal.ofBindings
      [("id", .str id), ("role", .str role), ("organization_id", Value.ofOption organization),
       ("roles", .tuple roles), ("attributes", .proxy attributes)] = (do
      let id ← (Value.str id).nonEmptyText "id"
      let role ← (Value.str role).nonEmptyText "role"
      let organization ← Principal.organizationOf (Value.ofOption organization)
      let roles ← Principal.rolesOf (.tuple roles)
      return ⟨id, role, organization, roles, ← (Value.proxy attributes).toEntries⟩) := rfl
  rw [idAgain, Except.ok_bind, roleAgain, Except.ok_bind, organizationAgain] at shape
  exact congrArg Except.toOption shape

/-- A mapping counts as true when it has entries. -/
theorem truthy_of_entries {value : Value} {entries : List (Value × Value)}
    (mapping : value.entries? = some entries) : value.truthy = (entries.length != 0) := by
  cases value with
  | dict found => cases mapping; rfl
  | proxy found => cases mapping; rfl
  | _ => cases mapping

/-- What the rules of a chain are handed of the question. -/
def handed (question : Question) : Except Error DecisionAttributes :=
  DecisionAttributes.ofBindings
    [("principal", question.principal.toValue), ("resource", question.instance?),
     ("action", .str question.action), ("context", Service.contextOr question.context)]

theorem handed_eq (question : Question) :
    question.handed =
      match Principal.ofValue? question.principal.toValue with
      | none => .error (.wrongKind .principal)
      | some principal => do
        let context := Service.contextOr question.context
        let entries ← if context.truthy then context.toEntries else pure []
        return ⟨principal, question.instance?, .str question.action, entries⟩ :=
  rfl

/-- The rules of a chain look at the parts of the question. -/
theorem handed_of_proper {question : Question} (proper : question.Proper) :
    question.handed = .ok question.attributes := by
  obtain ⟨arguments, made⟩ := proper.principal
  rw [handed_eq, principal_ofValue? made, attributes, Service.contextOr]
  by_cases truthy : question.context.truthy = true
  · rcases proper.context with isNull | mapping
    · rw [isNull] at truthy
      cases truthy
    · obtain ⟨entries, isMapping⟩ := Option.isSome_iff_exists.1 mapping
      have read : question.context.toEntries = .ok entries := by
        rw [Value.toEntries, isMapping]
      simp only [if_pos truthy, read, isMapping]
      rfl
  · have noEntries : (question.context.entries?).getD [] = [] := by
      rcases entries : question.context.entries? with _ | found
      · rfl
      · rw [truthy_of_entries entries] at truthy
        simpa using truthy
    simp only [if_neg truthy, noEntries]
    rfl

/-! ### The outcome -/

section Outcome

variable {question : Question} {system : System}

theorem explained_result [Host] (notForged : system.RolesNotForged) :
    (Service.exec question.explained system).1 =
      Decision.verdict question.key question.principal question.action question.instance?
        question.context system.journal (question.gateAnswer system) (question.chain? system) :=
  Service.exec_explain notForged question.principal question.resource question.action
    question.instance? question.context

/-- What a decision comes to when a chain settles it. -/
def ruling (question : Question) (source : ChainSource) (upheld : Bool) : Decision :=
  ⟨upheld, if upheld then .policyAllowed else .policyDenied, question.key, some source⟩

theorem verdict_of_some [Host] (something : question.instance? ≠ .null) (journal : Journal)
    (chain : PolicyChain) :
    Decision.verdict question.key question.principal question.action question.instance?
        question.context journal (.ok true) (some chain) =
      question.handed.bind fun attributes =>
        (chain.answer attributes journal).map (question.ruling chain.source) := by
  cases given : question.instance? with
  | null => exact absurd given something
  | _ =>
      unfold handed
      rw [given]
      rfl

theorem verdict_of_chain [Host] (proper : question.Proper) (something : question.instance? ≠ .null)
    (journal : Journal) (chain : PolicyChain) :
    Decision.verdict question.key question.principal question.action question.instance?
        question.context journal (.ok true) (some chain) =
      (chain.answer question.attributes journal).map (question.ruling chain.source) := by
  rw [verdict_of_some something, handed_of_proper proper]
  rfl

/-- The decision for a reason. -/
def decision (question : Question) (system : System) (reason : DecisionReason) : Decision :=
  match reason with
  | .gateOnly => ⟨true, .gateOnly, question.key, none⟩
  | .policyAllowed =>
    ⟨true, .policyAllowed, question.key, (question.chain? system).map PolicyChain.source⟩
  | .policyDenied =>
    ⟨false, .policyDenied, question.key, (question.chain? system).map PolicyChain.source⟩
  | reason => ⟨false, reason, question.key, none⟩

theorem reason_decision (question : Question) (system : System) (reason : DecisionReason) :
    (question.decision system reason).reason = reason := by
  cases reason <;> rfl

/-- All that is to be noted on the way to a decision can be written: an error of the gate, and, with a
resource at hand, what the rules of the chain in charge answer. -/
structure CanBeNoted [Host] (question : Question) (system : System) : Prop where
  gate : ∀ error, question.gateAnswer system = .error error → error.HasText
  chain : question.instance? ≠ .null → ∀ chain, question.chain? system = some chain →
    chain.IsNotable question.attributes

/-- A reason that settles the question is the one of its decision. -/
theorem explained_of_settles [Host] (notForged : system.RolesNotForged) (proper : question.Proper)
    (canBeNoted : question.CanBeNoted system) {reason : DecisionReason}
    (settles : question.Settles system reason) :
    (Service.exec question.explained system).1 = .ok (question.decision system reason) := by
  rw [explained_result notForged]
  cases settles with
  | gateError account asked failed =>
      obtain ⟨error, answer⟩ := gateAnswer_of_error account asked failed
      have written := Error.toLogged_of_hasText (canBeNoted.gate error answer)
      rw [answer, Decision.verdict, written]
      rfl
  | gateDenied account answered denied =>
      rw [gateAnswer_of_denied account answered denied]
      rfl
  | gateOnly passed nothing =>
      rw [gateAnswer_of_passes passed, nothing]
      rfl
  | noPolicy passed something missing =>
      rw [gateAnswer_of_passes passed, missing]
      cases given : question.instance? with
      | null => exact absurd given something
      | _ => rfl
  | policyAllowed passed something upheld =>
      obtain ⟨chain, inCharge, holds⟩ := upheld
      have answer := PolicyChain.upholds_iff_answer.1
        ((chain.upholds_iff question.attributes system.journal).2 holds)
      rw [gateAnswer_of_passes passed, inCharge, verdict_of_chain proper something, answer, decision,
        inCharge]
      rfl
  | policyDenied passed something inCharge broken =>
      obtain ⟨chain, inCharge⟩ := Option.isSome_iff_exists.1 inCharge
      have upholds : chain.upholds question.attributes system.journal = false :=
        Bool.eq_false_iff.2 fun upholds =>
          broken ⟨chain, inCharge, (chain.upholds_iff question.attributes system.journal).1 upholds⟩
      rw [gateAnswer_of_passes passed, inCharge, verdict_of_chain proper something,
        (canBeNoted.chain something chain inCharge).answer_eq, upholds, decision, inCharge]
      rfl

/-- Some reason settles every question. -/
theorem exists_settles [Host] (question : Question) (system : System) :
    ∃ reason, question.Settles system reason := by
  rcases gate_cases question system with
    ⟨account, asked, failed⟩ | ⟨account, answered, denied⟩ | passed
  · exact ⟨_, .gateError account asked failed⟩
  · exact ⟨_, .gateDenied account answered denied⟩
  · by_cases given : question.instance? = .null
    · exact ⟨_, .gateOnly passed given⟩
    · rcases inCharge : question.chain? system with _ | chain
      · exact ⟨_, .noPolicy passed given inCharge⟩
      · by_cases upheld : question.IsUpheld system
        · exact ⟨_, .policyAllowed passed given upheld⟩
        · exact ⟨_, .policyDenied passed given (by rw [inCharge]; rfl) upheld⟩

/-- A decision answers a question correctly. -/
structure IsAnsweredBy [Host] (question : Question) (system : System) (decision : Decision) : Prop where
  explained : (Service.exec question.explained system).1 = .ok decision
  allowed : (Service.exec question.allowed system).1 = .ok decision.allowed
  key : decision.key = question.key
  allowed_iff : decision.allowed = true ↔
    question.Passes system ∧ (question.instance? = .null ∨ question.IsUpheld system)
  reason_iff : ∀ reason, decision.reason = reason ↔ question.Settles system reason
  source_iff : decision.source.isSome ↔
    decision.reason = .policyAllowed ∨ decision.reason = .policyDenied
  source_eq : ∀ source, decision.source = some source →
    ∃ chain, question.chain? system = some chain ∧ chain.source = source

theorem allowed_of_explained [Host] {decision : Decision}
    (explained : (Service.exec question.explained system).1 = .ok decision) :
    (Service.exec question.allowed system).1 = .ok decision.allowed := by
  have shape : question.allowed = question.explained >>= fun made => pure made.allowed := rfl
  rw [shape, Service.exec_bind]
  rcases outcome : Service.exec question.explained system with ⟨result, after⟩
  rw [outcome] at explained
  cases explained
  rfl

/-- The account of a decision by its reason: when it allows, and when it names a source. -/
theorem decision_of_settles [Host] {reason : DecisionReason} (settles : question.Settles system reason) :
    ((question.decision system reason).allowed = true ↔
        reason = .gateOnly ∨ reason = .policyAllowed) ∧
      ((question.decision system reason).source.isSome ↔
        reason = .policyAllowed ∨ reason = .policyDenied) := by
  cases settles with
  | policyAllowed passed something upheld =>
      obtain ⟨chain, inCharge, _⟩ := upheld
      simp [decision, inCharge]
  | policyDenied passed something inCharge broken => simpa [decision] using inCharge
  | _ => simp [decision]

/-- Every question is answered, and answered correctly, where all that is to be noted on the way can be
written. -/
theorem exists_isAnsweredBy [Host] (question : Question) (system : System)
    (notForged : system.RolesNotForged) (proper : question.Proper)
    (canBeNoted : question.CanBeNoted system) :
    ∃ decision, question.IsAnsweredBy system decision := by
  obtain ⟨reason, settles⟩ := exists_settles question system
  have explained := explained_of_settles notForged proper canBeNoted settles
  have unique {other : DecisionReason} (others : question.Settles system other) :
      reason = other := by
    have same := explained.symm.trans (explained_of_settles notForged proper canBeNoted others)
    rw [← reason_decision question system reason, Except.ok.inj same,
      reason_decision]
  obtain ⟨allows, names⟩ := decision_of_settles settles
  refine ⟨question.decision system reason, explained, allowed_of_explained explained, ?key, ?allowed,
    ?reasons, ?isSome, ?source⟩
  case key => cases reason <;> rfl
  case allowed =>
    rw [allows]
    constructor
    · rintro (rfl | rfl)
      · cases settles with
        | gateOnly passed nothing => exact ⟨passed, .inl nothing⟩
      · cases settles with
        | policyAllowed passed something upheld => exact ⟨passed, .inr upheld⟩
    · rintro ⟨passed, settled⟩
      by_cases nothing : question.instance? = .null
      · exact .inl (unique (.gateOnly passed nothing))
      · exact .inr (unique (.policyAllowed passed nothing (settled.resolve_left nothing)))
  case reasons =>
    intro other
    rw [reason_decision]
    exact ⟨fun same => same ▸ settles, unique⟩
  case isSome => rw [names, reason_decision]
  case source =>
    intro source named
    have fromChain : (question.chain? system).map PolicyChain.source = some source := by
      cases reason <;> first | exact named | cases named
    exact Option.map_eq_some_iff.1 fromChain

end Outcome

/-! ### A question about a customer -/

/-- A system in which a role of the organization "acme" covers all that concerns customers, a role of
another organization does too, and a stored chain asks for the account role "user". -/
def customerSystem : System :=
  { roles :=
      { roles :=
          [("r1", ⟨"r1", "Guests", "guests", "other", ["customer:manage"], .bool false, .null⟩),
           ("r2", ⟨"r2", "Sales", "sales", "acme", ["customer:manage"], .bool false, .null⟩)] }
    policies := {}
    registry :=
      ⟨.builtin {},
        { version := 1
          stored := [(("acme", "customer:update"),
            { key := .str "customer:update", source := .stored
              rules := [⟨⟨"RoleBasedRule", "role_based", .accountRole ["user"]⟩, .str "users",
                .str "rule"⟩] })] }⟩
    clock := ⟨0, some 0⟩ }

/-- Whether a user of that organization, with both roles, may change a customer. -/
def customerQuestion : Question :=
  { principal := ⟨"u1", "user", some "acme", [.str "r1", .str "r2"], []⟩
    resource := "customer", action := "update", instance? := .dict [], context := .dict [] }

open scoped Host in
theorem customerQuestion_isAnsweredBy :
    customerSystem.RolesNotForged ∧ customerQuestion.Proper ∧ customerQuestion.CanBeNoted customerSystem ∧
      ∃ decision, customerQuestion.IsAnsweredBy customerSystem decision ∧
        decision.reason = .policyAllowed := by
  have notForged : customerSystem.RolesNotForged := System.rolesNotForged_of_unplanned rfl
  have proper : customerQuestion.Proper :=
    ⟨⟨⟨[.str "u1", .str "user", .str "acme", .tuple [.str "r1", .str "r2"]], []⟩, rfl⟩, .inr rfl⟩
  have granted : customerQuestion.IsGranted customerSystem :=
    ⟨⟨"r2", "Sales", "sales", "acme", ["customer:manage"], .bool false, .null⟩,
      .tail _ (.head _), ⟨.str "r2", .tail _ (.head _), rfl⟩, rfl, .inr (.head _)⟩
  have passes : customerQuestion.Passes customerSystem := .inr ⟨⟨_, rfl⟩, granted⟩
  have canBeNoted : customerQuestion.CanBeNoted customerSystem := by
    refine ⟨fun error failed => ?_, fun _ chain inCharge => ?_⟩
    · rw [gateAnswer_of_passes passes] at failed
      cases failed
    · cases inCharge
      exact List.forall_mem_singleton.2 fun journal => ⟨absurd rfl, absurd rfl, nofun⟩
  obtain ⟨decision, answered⟩ :=
    exists_isAnsweredBy customerQuestion customerSystem notForged proper canBeNoted
  have settles : customerQuestion.Settles customerSystem .policyAllowed :=
    .policyAllowed passes (fun impossible => by cases impossible)
      ⟨_, rfl, ⟨rfl, List.cons_ne_nil _ _, .cons rfl (.nil _)⟩⟩
  exact ⟨notForged, proper, canBeNoted, decision, answered, (answered.reason_iff _).2 settles⟩

end Question

end Authorization
