import Authorization.Proofs.Decision.Chain
import Authorization.Proofs.Decision.Consultation
import Authorization.Proofs.Disclosure.Script

/-!
# Rules on what attributes disclose

A rule reads a decision by names, of which it hides the private ones, by comparisons and by scripts.
None of them tells attributes of a decision apart that disclose the same.
-/

namespace Authorization

open Value

/-! ## Principals -/

namespace Value

theorem nonEmptyText_disclosed (field : String) (value : Value) :
    nonEmptyText field value.disclosed = nonEmptyText field value := by
  cases value <;> rfl

theorem toEntries_disclosed (value : Value) :
    toEntries value.disclosed = (toEntries value).map (List.map disclosedEntry) := by
  unfold toEntries
  rw [entries?_disclosed]
  cases value.entries? with
  | some entries => rfl
  | none =>
      have called : ((Builtin.applyPlain .dict [value.disclosed]).run {}).1 =
          ((Builtin.applyPlain .dict [value]).run {}).1.map disclosed := by
        rw [show [value.disclosed] = [value].map disclosed from rfl,
          Builtin.applyPlain_disclosed]
        exact congrArg Prod.fst (Draw.run_map disclosed (Builtin.applyPlain .dict [value]) {})
      simp only [called]
      cases ((Builtin.applyPlain .dict [value]).run {}).1 with
      | error error => rfl
      | ok found =>
          simp only [Except.map, entries?_disclosed]
          cases found.entries? <;> rfl

end Value

theorem Bindings.value_disclosed (bindings : Bindings) (name : String) :
    Bindings.value (bindings.map disclosedField) name = (bindings.value name).disclosed := by
  unfold Bindings.value
  rw [lookup_disclosedField]
  cases bindings.lookup name <;> rfl

namespace Principal

/-- The principal with what its roles and attributes disclose. -/
def disclosed (principal : Principal) : Principal :=
  { principal with
    roles := principal.roles.map Value.disclosed
    attributes := principal.attributes.map disclosedEntry }

theorem organizationOf_disclosed (value : Value) :
    organizationOf value.disclosed = organizationOf value := by
  cases value <;> rfl

theorem rolesOf_disclosed (value : Value) :
    rolesOf value.disclosed = (rolesOf value).map (List.map Value.disclosed) := by
  cases value with
  | tuple items => simp [rolesOf, Except.map]
  | _ => rfl

theorem ofBindings_disclosed (bindings : Bindings) :
    ofBindings (bindings.map disclosedField) = (ofBindings bindings).map disclosed := by
  unfold ofBindings
  simp only [Bindings.value_disclosed, nonEmptyText_disclosed, organizationOf_disclosed,
    rolesOf_disclosed, toEntries_disclosed]
  cases (bindings.value "id").nonEmptyText "id" with
  | error error => rfl
  | ok id =>
      cases (bindings.value "role").nonEmptyText "role" with
      | error error => rfl
      | ok role =>
          cases organizationOf (bindings.value "organization_id") with
          | error error => rfl
          | ok organization =>
              cases rolesOf (bindings.value "roles") with
              | error error => rfl
              | ok roles => cases (bindings.value "attributes").toEntries <;> rfl

theorem ofValue?_disclosed (value : Value) :
    ofValue? value.disclosed = (ofValue? value).map disclosed := by
  cases value with
  | record kind fields =>
      rw [disclosed_record]
      cases kind with
      | principal =>
          simp only [ofValue?, ofBindings_disclosed]
          cases ofBindings fields <;> rfl
      | _ => rfl
  | _ => rfl

theorem toValue_disclosed (principal : Principal) :
    principal.disclosed.toValue = principal.toValue.disclosed := by
  simp [toValue, disclosed, disclosedField]

theorem entries_disclosed (principal : Principal) :
    principal.disclosed.entries = principal.entries.map disclosedEntry := by
  have stored := Builtin.foldl_store_disclosed
    [("id", .str principal.id), ("role", .str principal.role),
     ("organization_id", Value.ofOption principal.organization),
     ("roles", .tuple principal.roles)] principal.attributes
  unfold entries
  simpa [disclosed, disclosedField] using stored

end Principal

/-! ## Looking up -/

namespace Value

/-- What a value that is not null shows under a name that is not hidden. -/
def shownUnder? (source : Value) (name : String) : Option Value :=
  match Principal.ofValue? source with
  | some principal => lookupText? principal.entries name
  | none => match source.entries? with
    | some entries => lookupText? entries name
    | none => source.attribute? name

theorem shownUnder?_disclosed (source : Value) {name : String} (isShown : isHidden name = false) :
    source.disclosed.shownUnder? name = (source.shownUnder? name).map disclosed := by
  have isOpen := isConcealed_of_isHidden isShown
  unfold shownUnder?
  rw [Principal.ofValue?_disclosed, entries?_disclosed, attribute?_disclosed source isOpen]
  cases Principal.ofValue? source with
  | some principal =>
      simp only [Option.map_some, Principal.entries_disclosed, lookupText?_disclosed]
  | none =>
      cases source.entries? with
      | some entries => exact lookupText?_disclosed entries name
      | none => rfl

theorem shown?_disclosed (source : Value) (name : String) :
    source.disclosed.shown? name = (source.shown? name).map disclosed := by
  unfold shown?
  cases isShown : isHidden name with
  | true => rfl
  | false =>
      have others := shownUnder?_disclosed source isShown
      cases source with
      | null => rfl
      | _ => exact others

theorem Resembles.shownOr {source other : Value} (sources : source.Resembles other)
    (name : String) :
    (source.shownOr (.str name) .null).Resembles (other.shownOr (.str name) .null) := by
  have shown (source : Value) : (source.shownOr (.str name) .null).disclosed =
      source.disclosed.shownOr (.str name) .null := by
    simp only [Value.shownOr, shown?_disclosed]
    cases source.shown? name <;> rfl
  rw [Resembles, shown, sources, shown]

theorem follow_disclosed (source : Value) (segments : List String) :
    source.disclosed.follow segments = (source.follow segments).map disclosed := by
  induction segments generalizing source with
  | nil => rfl
  | cons segment rest inductionHypothesis =>
      unfold follow at inductionHypothesis ⊢
      rw [List.foldlM_cons, List.foldlM_cons, shown?_disclosed]
      cases source.shown? segment with
      | none => rfl
      | some next => exact inductionHypothesis next

theorem resolve_disclosed (source : Value) (path : String) :
    source.disclosed.resolve path = (source.resolve path).map disclosed :=
  follow_disclosed source (Path.segments path)

end Value

/-! ## Comparisons -/

namespace Comparison

theorem containment_disclosed (isOne : Bool) (container value : Value) :
    containment isOne container.disclosed value.disclosed = containment isOne container value := by
  have walked : (do return some (← isMemberOrShares isOne value.disclosed container.disclosed) :
      Draw (Option Bool)) = do return some (← isMemberOrShares isOne value container) := by
    rw [isMemberOrShares_disclosed]
  cases container with
  | str content => cases value <;> rfl
  | list items | tuple items | set frozen items => exact walked
  | view kind entries =>
      cases kind with
      | keys => exact walked
      | items => exact walked
      | values => rfl
  | _ => rfl

theorem bothTexts_disclosed (test : List Char → List Char → Bool) (field value : Value) :
    bothTexts test field.disclosed value.disclosed = bothTexts test field value := by
  cases field with
  | str content => cases value <;> rfl
  | _ => rfl

/-- A comparison holds between values exactly when it holds between what they disclose. -/
theorem holds_disclosed (isOne : Bool) (operator : Comparison) (field value : Value) :
    operator.holds isOne field.disclosed value.disclosed = operator.holds isOne field value := by
  cases operator <;>
    simp only [holds, equalOrShare?_disclosed, related?_disclosed, containment_disclosed,
      bothTexts_disclosed, isMemberOrShares_disclosed]

end Comparison

/-! ## Attributes of a decision -/

namespace DecisionAttributes

/-- The attributes with what they disclose. -/
def disclosed (attributes : DecisionAttributes) : DecisionAttributes :=
  ⟨attributes.principal.disclosed, attributes.resource.disclosed, attributes.action.disclosed,
    attributes.context.map disclosedEntry⟩

/-- Two sets of attributes differ only in what they conceal. -/
def Resembles (a b : DecisionAttributes) : Prop :=
  a.disclosed = b.disclosed

theorem Resembles.resource {a b : DecisionAttributes} (same : a.Resembles b) :
    a.resource.Resembles b.resource :=
  congrArg DecisionAttributes.resource same

theorem Resembles.principal {a b : DecisionAttributes} (same : a.Resembles b) :
    a.principal.id = b.principal.id ∧ a.principal.role = b.principal.role ∧
      a.principal.organization = b.principal.organization := by
  have principals : a.disclosed.principal = b.disclosed.principal :=
    congrArg DecisionAttributes.principal same
  simp only [DecisionAttributes.disclosed, Principal.disclosed, Principal.mk.injEq] at principals
  exact ⟨principals.1, principals.2.1, principals.2.2.1⟩

end DecisionAttributes

theorem FieldComparison.found_disclosed (comparison : FieldComparison)
    (attributes : DecisionAttributes) :
    comparison.found attributes.disclosed = (comparison.found attributes).map Value.disclosed := by
  unfold found
  cases comparison.side with
  | principal =>
      simp only [DecisionAttributes.disclosed, Principal.toValue_disclosed, resolve_disclosed]
  | resource => exact resolve_disclosed _ _

theorem FieldComparison.holds_resembles [Host] (comparison : FieldComparison)
    {a b : DecisionAttributes} (same : a.Resembles b) :
    comparison.holds a = comparison.holds b := by
  have found : (comparison.found a).map Value.disclosed =
      (comparison.found b).map Value.disclosed := by
    rw [← found_disclosed, same, found_disclosed]
  unfold holds
  cases isFound : comparison.found a with
  | none =>
      rw [isFound, Option.map_none, eq_comm, Option.map_eq_none_iff] at found
      rw [found]
  | some field =>
      rw [isFound, Option.map_some, eq_comm, Option.map_eq_some_iff] at found
      obtain ⟨other, isOther, fields⟩ := found
      rw [isOther]
      dsimp only
      rw [← Comparison.holds_disclosed, ← fields, Comparison.holds_disclosed]

namespace Check

theorem isPresent_disclosed (value : Value) : isPresent value.disclosed = isPresent value := by
  have compared (other : Value) : value.disclosed.equal other.disclosed = value.equal other :=
    equal_disclosed value other
  have null := compared .null
  have empty := compared (.str "")
  rw [disclosed_null] at null
  rw [disclosed_str] at empty
  rw [isPresent, null, empty, isPresent]

theorem sameText_disclosed (a b : Value) : sameText a.disclosed b.disclosed = sameText a b := by
  simp only [sameText, isPresent_disclosed, toText_disclosed]

theorem exposed_disclosed (attributes : DecisionAttributes) :
    exposed attributes.disclosed = (exposed attributes).map disclosedField := by
  simp [exposed, DecisionAttributes.disclosed, Principal.entries_disclosed, disclosedField,
    disclosedEntry]

end Check

/-! ## Scripts -/

namespace Script

theorem judgement_resembles (budget : Budget) {result other : Except Stop Value}
    (related : Except.Related Value.Resembles result other) :
    judgement budget result = judgement budget other := by
  cases related with
  | error stop => rfl
  | ok values => simp only [judgement, values.same asBool?_disclosed]

/-- What a script says depends only on what its names disclose. -/
theorem verdict_resembles (script : Script) (budget : Budget) {names others : Scope}
    (same : names.map disclosedField = others.map disclosedField) (cursors : Cursors) :
    script.verdict budget names cursors = script.verdict budget others cursors := by
  have sameNames : names.map Prod.fst = others.map Prod.fst := by
    have firsts (scope : Scope) : (scope.map disclosedField).map Prod.fst = scope.map Prod.fst := by
      rw [List.map_map]
      rfl
    rw [← firsts names, same, firsts]
  obtain ⟨results, -, taken, -⟩ := outcome_resembles script budget same cursors
  have sameObstacle : obstacle? budget names = obstacle? budget others := by
    rw [obstacle?, unexpected, sameNames]
    rfl
  rw [verdict_eq, verdict_eq, sameObstacle, judgement_resembles budget results, taken]

end Script

namespace Check

theorem decided_resembles [Host] (code : Script) (limits : Limits) {a b : DecisionAttributes}
    (same : a.Resembles b) : said code limits a = said code limits b := by
  have names : (exposed a).map disclosedField = (exposed b).map disclosedField := by
    rw [← exposed_disclosed, same, exposed_disclosed]
  funext cursors
  cases breaksOff : Host.pace.breaksOff code.tree with
  | true => rw [said_of_breaksOff breaksOff, said_of_breaksOff breaksOff]
  | false => rw [said_eq breaksOff, said_eq breaksOff, Script.verdict_resembles code _ names]

theorem consult_resembles [Host] (code : Script) (limits : Limits) {a b : DecisionAttributes}
    (same : a.Resembles b) : consult code limits a = consult code limits b := by
  have sameId := same.principal.1
  have sameReport : reported a = reported b := by
    funext journal said
    unfold reported
    rw [sameId]
  funext journal
  have ran := run_consult code limits a journal
  rw [decided_resembles code limits same, sameReport] at ran
  exact ran.trans (run_consult code limits b journal).symm

theorem sameText_resembles {a b other otherText : Value} (values : a.Resembles other)
    (texts : b.Resembles otherText) : sameText a b = sameText other otherText := by
  rw [← sameText_disclosed, values, texts, sameText_disclosed]

/-- A check says the same of attributes that differ only in what they conceal. -/
theorem evaluate_resembles [Host] (check : Check) {a b : DecisionAttributes} (same : a.Resembles b) :
    check.evaluate a = check.evaluate b := by
  obtain ⟨sameId, sameRole, sameOrganization⟩ := same.principal
  cases check with
  | ownership =>
      have texts := sameText_resembles (same.resource.shownOr "assigned_to")
        (.refl (.str b.principal.id))
      simp only [evaluate, sameId, texts]
  | sameOrganization =>
      have texts := sameText_resembles (same.resource.shownOr "organization_id")
        (.refl (.ofOption b.principal.organization))
      simp only [evaluate, sameOrganization, texts]
  | accountRole roles => simp only [evaluate, sameRole]
  | field comparison => simp only [evaluate, comparison.holds_resembles same]
  | script code limits => simp only [evaluate, consult_resembles code limits same]
  | fixed answer => rfl

end Check

end Authorization

/-!
## Chains on what attributes disclose

What a chain decides, what it reports of each rule and what it leaves in the journal are the same for
attributes of a decision that differ only in private attributes of objects, wherever these occur.
-/

namespace Authorization

variable {a b : DecisionAttributes}

namespace PolicyChain

theorem rulesAgree_of_resembles [host : Host] (same : a.Resembles b) (rules : List ChainRule) :
    RulesAgree host host a b rules :=
  fun entry _ => entry.rule.check.evaluate_resembles same

/-- Private attributes never influence a decision: a chain decides the same, and explains it by the
same outcomes, for attributes that differ only in what their objects conceal. -/
theorem concealed_attributes_never_decide [Host] (chain : PolicyChain) (same : a.Resembles b) :
    chain.evaluate a = chain.evaluate b ∧ chain.explain a = chain.explain b :=
  ⟨evaluate_congr (rulesAgree_of_resembles same _), explain_congr (rulesAgree_of_resembles same _)⟩

/-- A visitor asks to see a note that has an owner, which is private, and a status. -/
def noteAttributes (owner : Value) (status : String) : DecisionAttributes :=
  ⟨⟨"visitor", "user", none, [], []⟩, .object 1 [("_owner", owner), ("status", .str status)],
    .str "view", [(.str "notes", .list [.object 2 [("_owner", owner)]])]⟩

/-- Notes may be seen while they are open. -/
def openNotes : PolicyChain :=
  { key := .str "notes"
    rules := [⟨⟨"FieldComparisonRule", "field_value",
      .field ⟨.resource, "status", .equals, .str "open"⟩⟩, .str "open", .null⟩] }

open scoped Host in
theorem openNotes_never_asks_for_owners :
    (noteAttributes (.str "visitor") "open").Resembles (noteAttributes .null "open") ∧
      openNotes.evaluate (noteAttributes (.str "visitor") "open") =
        openNotes.evaluate (noteAttributes .null "open") ∧
      openNotes.explain (noteAttributes (.str "visitor") "open") =
        openNotes.explain (noteAttributes .null "open") := by
  have same : (noteAttributes (.str "visitor") "open").Resembles (noteAttributes .null "open") := rfl
  exact ⟨same, openNotes.concealed_attributes_never_decide same⟩

open scoped Host in
/-- Its status, which is public, does decide. -/
example : openNotes.upholds (noteAttributes .null "open") {} = true ∧
    openNotes.upholds (noteAttributes .null "closed") {} = false := by
  decide +kernel

end PolicyChain

end Authorization
