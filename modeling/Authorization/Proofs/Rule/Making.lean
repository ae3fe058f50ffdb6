import Authorization.Proofs.Store.Document
import Authorization.Rule.Catalog

/-!
# Rules that can be made

A rule that can be made from a configuration can be made from the document of the configuration as well.
A class looks for what stands under a few words, and asks for texts and for sequences there: texts stay
what they are, and sequences become lists of what they hold.
-/

namespace Authorization

namespace Check

variable {entries kept : List (Value × Value)} {typeTag : String}

/-- What stands under a word in a configuration stands there as a document in another one. -/
def CarriedBy (entries kept : List (Value × Value)) : Prop :=
  ∀ name ∈ Column.words, ∀ value, Value.lookupText? entries name = some value →
    ∃ content, Column.document value = .ok content ∧ Value.lookupText? kept name = some content

theorem carriedBy_document (apart : Value.KeysApart entries)
    (made : Column.documentEntries entries [] = .ok kept) : CarriedBy entries kept := by
  intro name isWord value isThere
  have found := Column.lookupText?_documentEntries apart isWord made
  rw [isThere] at found
  exact found

theorem CarriedBy.str (carried : CarriedBy entries kept) {name text : String}
    (isWord : name ∈ Column.words) (isThere : Value.lookupText? entries name = some (.str text)) :
    Value.lookupText? kept name = some (.str text) := by
  obtain ⟨content, isContent, found⟩ := carried name isWord _ isThere
  cases isContent
  exact found

/-- A sequence becomes a list of the documents of its members. -/
theorem membersOf?_document {value content : Value} {members : List Value}
    (isSequence : membersOf? value = some members)
    (isContent : Column.document value = .ok content) :
    ∃ contents, Column.documentItems members = .ok contents ∧ membersOf? content = some contents := by
  cases value with
  | list items =>
      cases isSequence
      rw [Column.document] at isContent
      obtain ⟨contents, made, rfl⟩ := Except.map_eq_ok_iff.1 isContent
      exact ⟨contents, made, rfl⟩
  | tuple items =>
      cases isSequence
      rw [Column.document] at isContent
      obtain ⟨contents, made, rfl⟩ := Except.map_eq_ok_iff.1 isContent
      exact ⟨contents, made, rfl⟩
  | _ => cases isSequence

/-- Names of roles are texts, and stay as they are in a document. -/
theorem documentItems_of_roleNames? {items contents : List Value} {names : List String}
    (areNames : roleNames? items = some names)
    (made : Column.documentItems items = .ok contents) : contents = items := by
  induction items generalizing contents names with
  | nil =>
      cases made
      rfl
  | cons item rest inductionHypothesis =>
      rw [roleNames?] at areNames
      obtain ⟨name, isName, areNames⟩ := Option.bind_eq_some_iff.1 areNames
      obtain ⟨others, areOthers, _⟩ := Option.map_eq_some_iff.1 areNames
      rw [Column.documentItems] at made
      obtain ⟨first, isFirst, made⟩ := Except.bind_eq_ok_iff.1 made
      obtain ⟨further, isFurther, made⟩ := Except.bind_eq_ok_iff.1 made
      cases made
      rw [inductionHypothesis areOthers isFurther]
      cases item with
      | str text =>
          cases isFirst
          rfl
      | _ => cases isName

/-! ## Checks of the account role -/

theorem accountRoleOf_of_roleNames? {value : Value} {members : List Value} {names : List String}
    (isThere : Value.lookupText? entries "roles" = some value)
    (areMembers : membersOf? value = some members) (nonEmpty : members ≠ [])
    (areNames : roleNames? members = some names) :
    accountRoleOf typeTag entries = .ok (.accountRole names) := by
  unfold accountRoleOf
  rw [isThere, Option.bind_some, areMembers, Option.getD_some]
  cases members with
  | nil => exact absurd rfl nonEmpty
  | cons first rest =>
      dsimp only
      rw [areNames]
      rfl

theorem exists_of_accountRoleOf {check : Check}
    (made : accountRoleOf typeTag entries = .ok check) : ∃ value members names,
      Value.lookupText? entries "roles" = some value ∧ membersOf? value = some members ∧
        members ≠ [] ∧ roleNames? members = some names := by
  unfold accountRoleOf at made
  rcases isSequence : (Value.lookupText? entries "roles").bind membersOf? with _ | members
  · rw [isSequence] at made
    cases made
  · rw [isSequence, Option.getD_some] at made
    obtain ⟨value, isThere, areMembers⟩ := Option.bind_eq_some_iff.1 isSequence
    cases members with
    | nil => cases made
    | cons first rest =>
        dsimp only at made
        rcases areNames : roleNames? (first :: rest) with _ | names
        · rw [areNames] at made
          cases made
        · exact ⟨value, _, names, isThere, areMembers, List.cons_ne_nil _ _, areNames⟩

theorem exists_accountRoleOf (carried : CarriedBy entries kept) {check : Check}
    (made : accountRoleOf typeTag entries = .ok check) :
    ∃ other, accountRoleOf typeTag kept = .ok other := by
  obtain ⟨value, members, names, isThere, areMembers, nonEmpty, areNames⟩ :=
    exists_of_accountRoleOf made
  obtain ⟨content, isContent, found⟩ := carried "roles" (by decide) value isThere
  obtain ⟨contents, areContents, isSequence⟩ := membersOf?_document areMembers isContent
  rw [documentItems_of_roleNames? areNames areContents] at isSequence
  exact ⟨_, accountRoleOf_of_roleNames? found isSequence nonEmpty areNames⟩

/-! ## Comparisons of fields -/

/-- The name of a field is a text. -/
theorem exists_str_of_fieldOf {value? : Option Value} {field : String}
    (made : fieldOf typeTag (value?.getD .null) = .ok field) : ∃ text, value? = some (.str text) := by
  cases value? with
  | none => cases made
  | some value =>
      cases value with
      | str text => exact ⟨text, rfl⟩
      | _ => cases made

/-- The name of an operator is a text. -/
theorem exists_str_of_operatorOf {value? : Option Value} {operator : Comparison}
    (made : operatorOf typeTag (value?.getD .null) = .ok operator) :
    ∃ text, value? = some (.str text) := by
  cases value? with
  | none => cases made
  | some value =>
      cases value with
      | str text => exact ⟨text, rfl⟩
      | _ => cases made

theorem isNone_membersOf?_document {value content : Value}
    (isContent : Column.document value = .ok content) (isNone : (membersOf? content).isNone = true) :
    (membersOf? value).isNone = true := by
  rcases areMembers : membersOf? value with _ | members
  · rfl
  · obtain ⟨contents, _, isSequence⟩ := membersOf?_document areMembers isContent
    rw [isSequence] at isNone
    cases isNone

theorem isNone_asStr?_document {value content : Value}
    (isContent : Column.document value = .ok content) (isNone : content.asStr?.isNone = true) :
    value.asStr?.isNone = true := by
  cases value with
  | str text =>
      cases isContent
      exact isNone
  | _ => rfl

theorem exists_fieldComparisonOf (carried : CarriedBy entries kept) {check : Check}
    (made : fieldComparisonOf typeTag entries = .ok check) :
    ∃ other, fieldComparisonOf typeTag kept = .ok other := by
  obtain ⟨field, isField, made⟩ := Except.bind_eq_ok_iff.1 made
  obtain ⟨operator, isOperator, made⟩ := Except.bind_eq_ok_iff.1 made
  obtain ⟨fieldText, fieldThere⟩ := exists_str_of_fieldOf isField
  obtain ⟨operatorText, operatorThere⟩ := exists_str_of_operatorOf isOperator
  rw [fieldThere] at isField
  rw [operatorThere] at isOperator
  rcases isThere : Value.lookupText? entries "value" with _ | value
  · rw [isThere] at made
    cases made
  · rw [isThere] at made
    dsimp only at made
    obtain ⟨content, isContent, found⟩ := carried "value" (by decide) value isThere
    unfold fieldComparisonOf
    rw [carried.str (by decide) fieldThere, isField, Except.ok_bind,
      carried.str (by decide) operatorThere, isOperator, Except.ok_bind, found]
    dsimp only
    split at made
    · cases made
    · rename_i hasMembers
      split at made
      · cases made
      · rename_i hasText
        rw [if_neg, if_neg]
        · exact ⟨_, rfl⟩
        · intro lacks
          rw [Bool.and_eq_true] at lacks hasText
          exact hasText ⟨lacks.1, isNone_asStr?_document isContent lacks.2⟩
        · intro lacks
          rw [Bool.and_eq_true] at lacks hasMembers
          exact hasMembers ⟨lacks.1, isNone_membersOf?_document isContent lacks.2⟩

/-! ## Scripts -/

theorem exists_scriptOf [Host] (carried : CarriedBy entries kept) {limits : Limits} {check : Check}
    (made : scriptOf typeTag entries limits = .ok check) :
    ∃ other, scriptOf typeTag kept limits = .ok other := by
  unfold scriptOf at made
  split at made
  · rename_i text isThere
    refine ⟨check, ?_⟩
    unfold scriptOf
    rw [carried.str (by decide) isThere]
    exact made
  · cases made

/-! ## Configurations -/

/-- What is read of a configuration does not depend on the type of the rule. -/
theorem configOf_eq_ok {config : Value} (isRead : configOf typeTag config = .ok entries)
    (other : String) : configOf other config = .ok entries := by
  unfold configOf at isRead ⊢
  split at isRead
  · exact isRead
  · split at isRead
    · exact isRead
    · cases isRead

end Check

/-! ## Rules -/

/-- A class makes a check from a configuration that holds the documents of another one from which it makes
one. -/
theorem RuleClass.exists_checkOf [Host] (ruleClass : RuleClass) {limits : Limits}
    {entries kept : List (Value × Value)} (carried : Check.CarriedBy entries kept) {check : Check}
    (made : ruleClass.checkOf limits entries = .ok check) :
    ∃ other, ruleClass.checkOf limits kept = .ok other := by
  unfold checkOf at made ⊢
  split at made
  · exact ⟨_, rfl⟩
  · exact ⟨_, rfl⟩
  · exact Check.exists_accountRoleOf carried made
  · exact Check.exists_fieldComparisonOf carried made
  · exact Check.exists_scriptOf carried made
  · exact ⟨_, rfl⟩

namespace RuleCatalog

variable {catalog : RuleCatalog} {type typeTag : String} {config other : Value}
  {entries kept : List (Value × Value)}

/-- A rule of a type can be made from a configuration. -/
def Accepts [Host] (catalog : RuleCatalog) (type : String) (config : Value) : Prop :=
  ∃ made, catalog.create (.str type) config = .ok made

theorem create_str [Host] (catalog : RuleCatalog) (type : String) (config : Value) :
    catalog.create (.str type) config =
      ((catalog.find? type).map fun ruleClass => ruleClass.make catalog.limits config).getD
        (.error (.unknownRuleType (.str type))) := by
  have isText : (Value.str type).asStr?.bind catalog.find? = catalog.find? type := rfl
  have isHashable : (!(Value.str type).hashable) = false := rfl
  rw [create, isText, isHashable, if_neg Bool.false_ne_true]
  cases catalog.find? type with
  | none => rfl
  | some ruleClass => rfl

theorem accepts_iff [Host] : catalog.Accepts type config ↔ ∃ ruleClass made,
    catalog.find? type = some ruleClass ∧ ruleClass.make catalog.limits config = .ok made := by
  rw [Accepts, create_str]
  cases catalog.find? type with
  | none => simp
  | some ruleClass => simp

/-- A configuration from which a rule can be made is nothing or a mapping. -/
theorem Accepts.exists_entries [Host] (accepts : catalog.Accepts type config) (typeTag : String) :
    ∃ entries, Check.configOf typeTag config = .ok entries := by
  obtain ⟨ruleClass, made, _, isMade⟩ := accepts_iff.1 accepts
  obtain ⟨entries, isRead, _⟩ := Except.bind_eq_ok_iff.1 isMade
  exact ⟨entries, Check.configOf_eq_ok isRead typeTag⟩

/-- A rule can be made from a configuration that holds the documents of another one from which it can be
made. -/
theorem Accepts.of_carriedBy [Host] (accepts : catalog.Accepts type config)
    (isRead : Check.configOf typeTag config = .ok entries)
    (otherIsRead : Check.configOf typeTag other = .ok kept)
    (carried : Check.CarriedBy entries kept) : catalog.Accepts type other := by
  obtain ⟨ruleClass, made, isFound, isMade⟩ := accepts_iff.1 accepts
  have read := Check.configOf_eq_ok isRead ruleClass.typeTag
  have otherRead := Check.configOf_eq_ok otherIsRead ruleClass.typeTag
  obtain ⟨found, isFoundRead, isMade⟩ := Except.bind_eq_ok_iff.1 isMade
  obtain ⟨check, isChecked, _⟩ := Except.bind_eq_ok_iff.1 isMade
  obtain rfl : found = entries := Except.ok.inj (isFoundRead.symm.trans read)
  obtain ⟨otherCheck, otherIsChecked⟩ := ruleClass.exists_checkOf carried isChecked
  refine accepts_iff.2
    ⟨ruleClass, ⟨ruleClass.className, ruleClass.typeTag, otherCheck⟩, isFound, ?_⟩
  unfold RuleClass.make
  rw [otherRead, Except.ok_bind, otherIsChecked]
  rfl

/-- Whether a rule can be made depends on what is read of the configuration. -/
theorem Accepts.congr [Host] (accepts : catalog.Accepts type config)
    (same : ∀ typeTag, Check.configOf typeTag other = Check.configOf typeTag config) :
    catalog.Accepts type other := by
  obtain ⟨ruleClass, made, isFound, isMade⟩ := accepts_iff.1 accepts
  refine accepts_iff.2 ⟨ruleClass, made, isFound, ?_⟩
  unfold RuleClass.make at isMade ⊢
  rw [same]
  exact isMade

end RuleCatalog

end Authorization
