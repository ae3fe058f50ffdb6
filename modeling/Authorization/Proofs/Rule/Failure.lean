import Authorization.Proofs.Rule.Making
import Authorization.Proofs.Text.Case

/-!
# How rules fail to be made

A class fails to make a rule for what is wrong with the configuration, and a script for what is wrong with
its text. Each such error names what was asked for: the type that is not registered, the type whose
configuration is refused, or the construct that no script may have. The exceptions are texts that cannot
be read at all, with a null character or half of a pair: they fail before they are parsed, with the error
of the reader.
-/

namespace Authorization

/-- A result fails only with errors of some kind. -/
def FailsOnlyWith {α : Type} (kind : Error → Prop) (result : Except Error α) : Prop :=
  ∀ error, result = .error error → kind error

namespace FailsOnlyWith

variable {α β : Type} {kind : Error → Prop}

theorem ok (value : α) : FailsOnlyWith kind (.ok value) :=
  nofun

theorem error {error : Error} (isKind : kind error) :
    FailsOnlyWith kind (.error error : Except Error α) := by
  rintro _ ⟨⟩
  exact isKind

theorem bind {result : Except Error α} {next : α → Except Error β}
    (fails : FailsOnlyWith kind result)
    (further : ∀ value, result = .ok value → FailsOnlyWith kind (next value)) :
    FailsOnlyWith kind (result >>= next) := by
  cases result with
  | error error => exact FailsOnlyWith.error (fails error rfl)
  | ok value => exact further value rfl

theorem mono {weaker : Error → Prop} {result : Except Error α} (fails : FailsOnlyWith kind result)
    (implies : ∀ error, kind error → weaker error) : FailsOnlyWith weaker result :=
  fun error failed => implies error (fails error failed)

end FailsOnlyWith

/-! ## Scripts -/

namespace Script

/-- The error of a text that cannot be read. -/
inductive Unreadable (text : String) : Error → Prop
  | null (isHeld : '\x00' ∈ text.toList) :
      Unreadable text (.operation .value "source code string cannot contain null bytes")
  | half (isHeld : Text.holdsHalf text = true) :
      Unreadable text (.operation .unencodable "half of a pair stands alone")

/-- The error of a source that is no script. -/
inductive Objects (source : Value) : Error → Prop
  | compile (fault : CompileFault) (line : Option Nat) : Objects source (.compile fault line)
  | unreadable {text : String} {error : Error} (isText : source = .str text)
      (isUnreadable : Unreadable text error) : Objects source error

theorem mem_of_mem_trim {text : String} {c : Char} (member : c ∈ (Text.trim text).toList) :
    c ∈ text.toList := by
  rw [Text.trim, String.toList_ofList] at member
  exact (Text.trimBoth_sublist _ _).subset member

theorem failsOnlyWith_ofText [Host] (text : String) :
    FailsOnlyWith (Objects (.str text)) (Tree.ofText (Text.trim text)) := by
  unfold Tree.ofText
  split
  · rename_i isHeld
    rw [List.contains_iff_mem] at isHeld
    exact .error (.unreadable rfl (.null (mem_of_mem_trim isHeld)))
  · dsimp only
    split
    · exact .error (.compile _ _)
    · split
      · exact .error (.compile _ _)
      · split
        · exact .error (.compile _ _)
        · exact .ok _

theorem failsOnlyWith_ofTree {source : Value} (tree : Tree) :
    FailsOnlyWith (Objects source) (ofTree tree) := by
  unfold ofTree
  split
  · exact .error (.compile _ _)
  · exact .ok _

/-- What is no script has a fault, unless it is a text that cannot be read. -/
theorem failsOnlyWith_ofSource [Host] (source : Value) :
    FailsOnlyWith (Objects source) (ofSource source) := by
  unfold ofSource
  split
  · rename_i text
    split
    · exact .error (.compile _ _)
    · split
      · exact .error (.compile _ _)
      · split
        · rename_i isHeld
          exact .error (.unreadable rfl (.half isHeld))
        · exact (failsOnlyWith_ofText text).bind fun tree _ => failsOnlyWith_ofTree tree
  · exact .error (.compile _ _)

end Script

/-! ## Configurations -/

namespace Check

variable {typeTag : String} {entries : List (Value × Value)}

/-- The text of the script of a configuration. -/
def codeOf? (config : Value) : Option String :=
  match config.entries?.bind fun entries => Value.lookupText? entries "code" with
  | some (.str text) => some text
  | _ => none

/-- An error says what is wrong with a configuration of a type. -/
inductive Refuses (typeTag : String) : Error → Prop
  | intro (fault : ConfigFault) : Refuses typeTag (.config typeTag fault)

theorem failsOnlyWith_configOf (config : Value) :
    FailsOnlyWith (Refuses typeTag) (configOf typeTag config) := by
  unfold configOf
  split
  · exact .ok _
  · split
    · exact .ok _
    · exact .error ⟨_⟩

theorem failsOnlyWith_accountRoleOf :
    FailsOnlyWith (Refuses typeTag) (accountRoleOf typeTag entries) := by
  unfold accountRoleOf
  split
  · exact .error ⟨_⟩
  · split
    · exact .ok _
    · exact .error ⟨_⟩

theorem failsOnlyWith_fieldOf (value : Value) :
    FailsOnlyWith (Refuses typeTag) (fieldOf typeTag value) := by
  unfold fieldOf
  split
  · dsimp only
    split
    · exact .error ⟨_⟩
    · split
      · exact .error ⟨_⟩
      · exact .ok _
  · exact .error ⟨_⟩

theorem failsOnlyWith_operatorOf (value : Value) :
    FailsOnlyWith (Refuses typeTag) (operatorOf typeTag value) := by
  unfold operatorOf
  split
  · exact .ok _
  · exact .error ⟨_⟩

theorem failsOnlyWith_fieldComparisonOf :
    FailsOnlyWith (Refuses typeTag) (fieldComparisonOf typeTag entries) := by
  refine (failsOnlyWith_fieldOf _).bind fun field _ =>
    (failsOnlyWith_operatorOf _).bind fun operator _ => ?_
  split
  · exact .error ⟨_⟩
  · split
    · exact .error ⟨_⟩
    · split
      · exact .error ⟨_⟩
      · exact .ok _

/-- The error of a configuration without a script. -/
inductive HasNoScript (typeTag : String) (entries : List (Value × Value)) : Error → Prop
  | refuses {error : Error} (refuses : Refuses typeTag error) : HasNoScript typeTag entries error
  | code {text : String} {error : Error}
      (isCode : Value.lookupText? entries "code" = some (.str text))
      (objects : Script.Objects (.str text) error) : HasNoScript typeTag entries error

theorem failsOnlyWith_scriptOf [Host] {limits : Limits} :
    FailsOnlyWith (HasNoScript typeTag entries) (scriptOf typeTag entries limits) := by
  unfold scriptOf
  split
  · rename_i text isCode
    split
    · exact .error (.refuses ⟨_⟩)
    · have reads : FailsOnlyWith (HasNoScript typeTag entries) (Script.ofSource (.str text)) :=
        (Script.failsOnlyWith_ofSource _).mono fun _ objects => .code isCode objects
      exact reads.bind fun _ _ => .ok _
  · exact .error (.refuses ⟨_⟩)

theorem codeOf?_of_configOf {config : Value} {text : String}
    (isRead : configOf typeTag config = .ok entries)
    (isCode : Value.lookupText? entries "code" = some (.str text)) : codeOf? config = some text := by
  unfold configOf at isRead
  split at isRead
  · cases isRead
    cases isCode
  · split at isRead
    · rename_i isMapping
      cases isRead
      rw [codeOf?, isMapping, Option.bind_some, isCode]
    · cases isRead

end Check

/-! ## Rules -/

namespace RuleCatalog

variable {catalog : RuleCatalog} {typeTag : String} {ruleClass : RuleClass} {config : Value}

/-- The error of a rule that is not made. -/
inductive Objects (catalog : RuleCatalog) (typeTag : String) (config : Value) : Error → Prop
  | unknown (isFree : catalog.find? typeTag = none) :
      Objects catalog typeTag config (.unknownRuleType (.str typeTag))
  | refuses {error : Error} (refuses : Check.Refuses typeTag error) :
      Objects catalog typeTag config error
  | code {ruleClass : RuleClass} {text : String} {error : Error}
      (isFound : catalog.find? typeTag = some ruleClass) (isScript : ruleClass.kind = .script)
      (isCode : Check.codeOf? config = some text) (objects : Script.Objects (.str text) error) :
      Objects catalog typeTag config error

theorem typeTag_of_find? (isFound : catalog.find? typeTag = some ruleClass) :
    ruleClass.typeTag = typeTag := by
  simpa using List.find?_some isFound

/-- A class fails to make a check only for what is wrong with the configuration, or with the script. -/
theorem failsOnlyWith_checkOf [Host] (isFound : catalog.find? typeTag = some ruleClass) {limits : Limits}
    {entries : List (Value × Value)} (isRead : Check.configOf typeTag config = .ok entries) :
    FailsOnlyWith (catalog.Objects typeTag config) (ruleClass.checkOf limits entries) := by
  obtain rfl := typeTag_of_find? isFound
  unfold RuleClass.checkOf
  split
  · exact .ok _
  · exact .ok _
  · exact Check.failsOnlyWith_accountRoleOf.mono fun _ => .refuses
  · exact Check.failsOnlyWith_fieldComparisonOf.mono fun _ => .refuses
  · rename_i isScript
    refine Check.failsOnlyWith_scriptOf.mono fun error lacks => ?_
    obtain refuses | ⟨isCode, objects⟩ := lacks
    · exact .refuses refuses
    · exact .code isFound isScript (Check.codeOf?_of_configOf isRead isCode) objects
  · exact .ok _

/-- A catalog fails to make a rule only for the type, the configuration or the script. -/
theorem failsOnlyWith_create [Host] (catalog : RuleCatalog) (typeTag : String) (config : Value) :
    FailsOnlyWith (catalog.Objects typeTag config) (catalog.create (.str typeTag) config) := by
  rw [create_str]
  cases isFound : catalog.find? typeTag with
  | none => exact .error (.unknown isFound)
  | some ruleClass =>
      obtain rfl := typeTag_of_find? isFound
      have reads : FailsOnlyWith (catalog.Objects ruleClass.typeTag config)
          (Check.configOf ruleClass.typeTag config) :=
        (Check.failsOnlyWith_configOf config).mono fun _ refuses => .refuses refuses
      exact reads.bind fun entries isRead => (failsOnlyWith_checkOf isFound isRead).bind
        fun check _ => .ok _

/-- A rule is made by the class that is registered under its type. -/
theorem exists_class_of_create [Host] {rule : Rule}
    (created : catalog.create (.str typeTag) config = .ok rule) :
    ∃ ruleClass, catalog.find? typeTag = some ruleClass ∧ rule.className = ruleClass.className ∧
      rule.typeTag = typeTag := by
  rw [create_str] at created
  cases isFound : catalog.find? typeTag with
  | none =>
      rw [isFound] at created
      cases created
  | some ruleClass =>
      rw [isFound] at created
      obtain ⟨entries, _, created⟩ := Except.bind_eq_ok_iff.1 created
      obtain ⟨check, _, created⟩ := Except.bind_eq_ok_iff.1 created
      cases created
      exact ⟨ruleClass, rfl, rfl, typeTag_of_find? isFound⟩

/-- Only the type of scripts is registered for a class that makes scripts. -/
theorem typeTag_of_isScript {limits : Limits} (isFound : (builtin limits).find? typeTag = some ruleClass)
    (isScript : ruleClass.kind = .script) : typeTag = Error.scriptRuleType := by
  have tagged : ∀ ruleClass ∈ RuleClass.builtin, ruleClass.kind = .script →
      ruleClass.typeTag = Error.scriptRuleType := by
    decide
  rw [← typeTag_of_find? isFound]
  exact tagged ruleClass (List.mem_of_find?_eq_some isFound) isScript

/-- For every type and every configuration, the built-in classes make a rule of the class that is registered
under the type, or fail with an error of the type, the configuration or the script, unless the
configuration is one of a script whose text cannot be read. Likewise a source is a script, or fails with an
error of the script, unless it is a text that cannot be read. -/
theorem creation_fails_only_for_configuration [Host] (limits : Limits) :
    (∀ (typeTag : String) (config : Value),
      (∃ ruleClass rule, (builtin limits).find? typeTag = some ruleClass ∧
        (builtin limits).create (.str typeTag) config = .ok rule ∧
        rule.className = ruleClass.className ∧ rule.typeTag = typeTag) ∨
      ∃ error, (builtin limits).create (.str typeTag) config = .error error ∧
        (error.label ∈ ["UnknownRuleTypeError", "RuleConfigError", "ScriptCompileError"] ∨
          typeTag = Error.scriptRuleType ∧ ∃ text, Check.codeOf? config = some text ∧
            Script.Unreadable text error)) ∧
    ∀ source : Value,
      (∃ script, Script.ofSource source = .ok script) ∨
      ∃ error, Script.ofSource source = .error error ∧
        (error.label = "ScriptCompileError" ∨
          ∃ text, source = .str text ∧ Script.Unreadable text error) := by
  refine ⟨fun typeTag config => ?_, fun source => ?_⟩
  · cases created : (builtin limits).create (.str typeTag) config with
    | ok rule =>
        obtain ⟨ruleClass, isFound, isNamed, isTagged⟩ := exists_class_of_create created
        exact .inl ⟨ruleClass, rule, isFound, rfl, isNamed, isTagged⟩
    | error error =>
        refine .inr ⟨error, rfl, ?_⟩
        cases failsOnlyWith_create (builtin limits) typeTag config error created with
        | unknown isFree => exact .inl (by simp [Error.label])
        | refuses refuses =>
            obtain ⟨fault⟩ := refuses
            exact .inl (by simp [Error.label])
        | code isFound isScript isCode objects =>
            cases objects with
            | compile fault line => exact .inl (by simp [Error.label])
            | unreadable isText isUnreadable =>
                cases isText
                exact .inr ⟨typeTag_of_isScript isFound isScript, _, isCode, isUnreadable⟩
  · cases read : Script.ofSource source with
    | ok script => exact .inl ⟨script, rfl⟩
    | error error =>
        refine .inr ⟨error, rfl, ?_⟩
        cases Script.failsOnlyWith_ofSource source error read with
        | compile fault line => exact .inl rfl
        | unreadable isText isUnreadable => exact .inr ⟨_, isText, isUnreadable⟩

open scoped Host in
/-- The text of a script with a null character cannot be read. -/
example : Script.ofSource (.str "True\x00") =
    .error (.operation .value "source code string cannot contain null bytes") := by
  rfl

end RuleCatalog

end Authorization
