import Authorization.Key
import Authorization.Rule.Basic

/-!
# Classes of rules

How checks are made from stored configurations, and the classes of rules that make them.
-/

/-!
## Configurations of rules

Each check is made from a configuration that has been stored with its rule. A configuration is a
mapping, or nothing for the empty one, and is looked at in full when the check is made: a check that
could be made never fails for its configuration afterwards.
-/

namespace Authorization.Check

private abbrev Config := List (Value × Value)

/-- The entries of a configuration. -/
def configOf (typeTag : String) (config : Value) : Except Error (List (Value × Value)) :=
  match config with
  | .null => .ok []
  | _ => match config.entries? with
    | some entries => .ok entries
    | none => .error (.config typeTag .notObject)

private def refuse {α : Type} (typeTag : String) (fault : ConfigFault) : Except Error α :=
  .error (.config typeTag fault)

/-- The members of a list or a tuple. -/
def membersOf? : Value → Option (List Value)
  | .list items | .tuple items => some items
  | _ => none

def roleNames? : List Value → Option (List String)
  | [] => some []
  | value :: rest => value.nonEmptyText?.bind fun name => (roleNames? rest).map (name :: ·)

/-- A check of the account role: some roles, each a text that is not empty. -/
def accountRoleOf (typeTag : String) (config : Config) : Except Error Check := do
  match ((Value.lookupText? config "roles").bind membersOf?).getD [] with
  | [] => refuse typeTag .rolesEmpty
  | members =>
    match roleNames? members with
    | some roles => return .accountRole roles
    | none => refuse typeTag .rolesText

/-- The trimmed name of a field, of which no segment is empty. -/
def fieldOf (typeTag : String) (value : Value) : Except Error String := do
  match value with
  | .str text =>
    let field := Text.trim text
    if field.isEmpty then refuse typeTag .fieldEmpty
    else if (Path.segments field).any String.isEmpty then refuse typeTag (.fieldMalformed field)
    else return field
  | _ => refuse typeTag .fieldEmpty

def operatorOf (typeTag : String) (value : Value) : Except Error Comparison :=
  match value.asStr?.bind Comparison.ofLabel? with
  | some operator => .ok operator
  | none => refuse typeTag (.operatorUnknown Comparison.labels)

/-- A comparison of a field: the operators on lists need a list, those on texts a text. -/
def fieldComparisonOf (typeTag : String) (config : Config) : Except Error Check := do
  let field ← fieldOf typeTag ((Value.lookupText? config "field").getD .null)
  let operator ← operatorOf typeTag ((Value.lookupText? config "operator").getD .null)
  match Value.lookupText? config "value" with
  | none => refuse typeTag .valueMissing
  | some value =>
    if operator.needsList && (membersOf? value).isNone then
      refuse typeTag (.listRequired operator.label)
    else if operator.needsText && value.asStr?.isNone then
      refuse typeTag (.textRequired operator.label)
    else
      let (side, path) := FieldComparison.target field
      return .field ⟨side, path, operator, value⟩

/-- A script that is accepted. -/
def scriptOf [Host] (typeTag : String) (config : Config) (limits : Limits) : Except Error Check := do
  match Value.lookupText? config "code" with
  | some (.str text) =>
    if (Text.trim text).isEmpty then refuse typeTag .codeEmpty
    else return .script (← Script.ofSource (.str text)) limits
  | _ => refuse typeTag .codeEmpty

end Authorization.Check

/-!
## Classes and their tags

A class of rules has a tag, under which configurations name it, a description and a schema for its
configurations. The built-in classes each make one kind of check. Further classes may be declared; they
keep the contract of all classes and take no configuration.
-/

namespace Authorization

/-- The check that a class makes from a configuration. -/
inductive CheckKind where
  | ownership | sameOrganization | accountRole | field | script | always
deriving DecidableEq, Repr

/-- A class of rules. Classes that are declared at different times are different, whatever they hold:
`mark` tells them apart. -/
structure RuleClass where
  className : String
  typeTag : String
  description : String
  schema : List (Value × Value)
  kind : CheckKind
  isAbstract : Bool := false
  mark : Nat := 0

namespace RuleClass

private def entries (fields : List (String × Value)) : Value :=
  .dict (fields.map fun field => (.str field.1, field.2))

private def schemaOf (fields : List (String × Value)) : List (Value × Value) :=
  fields.map fun field => (.str field.1, field.2)

private def ownershipClass : RuleClass :=
  { className := "OwnershipRule"
    typeTag := "ownership"
    description := "Checks whether the user owns the resource (based on the assigned_to field)."
    schema := []
    kind := .ownership }

private def sameOrganizationClass : RuleClass :=
  { className := "SameOrganizationRule"
    typeTag := "same_organization"
    description := "Checks whether the user and the resource belong to the same organization."
    schema := []
    kind := .sameOrganization }

private def accountRoleClass : RuleClass :=
  { className := "RoleMembershipRule"
    typeTag := "role_based"
    description := "Checks whether the user has one of the required roles."
    schema := schemaOf
      [("roles", entries
        [("type", .str "array"),
         ("items", entries [("type", .str "string")]),
         ("description", .str "Roles allowed to pass this rule."),
         ("example", .list [.str "admin", .str "manager"]),
         ("required", .bool true)])]
    kind := .accountRole }

private def fieldClass : RuleClass :=
  { className := "FieldComparisonRule"
    typeTag := "field_value"
    description := "Compares a field of the resource or the user against a value."
    schema := schemaOf
      [("field", entries
        [("type", .str "string"),
         ("description", .str "Field name, optionally prefixed with user. or resource."),
         ("example", .str "resource.status"),
         ("required", .bool true)]),
       ("operator", entries
        [("type", .str "string"),
         ("enum", .list (Comparison.labels.map Value.str)),
         ("description", .str "Comparison operator."),
         ("example", .str Comparison.equals.label),
         ("required", .bool true)]),
       ("value", entries
        [("type", .str "any"),
         ("description", .str "Value to compare against."),
         ("example", .str "active"),
         ("required", .bool true)])]
    kind := .field }

private def scriptClass : RuleClass :=
  { className := "ScriptedPredicateRule"
    typeTag := Error.scriptRuleType
    description := "Evaluates a sandboxed script that must return a boolean."
    schema := schemaOf
      [("code", entries
        [("type", .str "string"),
         ("description",
           .str "Script to run; an expression, or statements that return a boolean."),
         ("example",
           .str ("return user[\"role\"] == \"admin\" or " ++
             "(resource is not None and resource.created_by == user[\"id\"])")),
         ("required", .bool true)])]
    kind := .script }

/-- The built-in classes, in the order in which they are registered. -/
def builtin : List RuleClass :=
  [ownershipClass, sameOrganizationClass, accountRoleClass, fieldClass, scriptClass]

/-- A tag: a small letter, then small letters, digits and underscores, then perhaps a line feed. -/
def isTypeTag (text : String) : Bool :=
  match Key.withoutLineFeed text.toList with
  | [] => false
  | first :: rest => ('a' ≤ first && first ≤ 'z') && rest.all Key.isSlugChar

/-- A class that is declared with some fields. An abstract class makes no rules and need not keep the
contract. -/
def declare (className : String) (isAbstract : Bool) (mark : Nat) (fields : Bindings) :
    Except Error RuleClass := do
  let broken {α : Type} (part : ContractPart) : Except Error α :=
    .error (.wrongKind (.contract className part))
  if isAbstract then return ⟨className, "", "", [], .always, true, mark⟩
  let typeTag ← match fields.lookup "rule_type" with
    | some (.str text) => if isTypeTag text then pure text else broken .ruleType
    | _ => broken .ruleType
  let description ← match (fields.value "description").nonEmptyText? with
    | some text => pure text
    | none => broken .description
  let schema ← match (fields.lookup "config_schema").getD (.dict []) with
    | .dict found => pure found
    | _ => broken .configSchema
  return ⟨className, typeTag, description, schema, .always, false, mark⟩

/-- Two classes are the same. -/
def isSame (a b : RuleClass) : Bool :=
  a.mark == b.mark && a.className == b.className

/-- The check that a class makes from the entries of a configuration. -/
def checkOf [Host] (ruleClass : RuleClass) (limits : Limits) (config : List (Value × Value)) :
    Except Error Check :=
  match ruleClass.kind with
  | .ownership => .ok .ownership
  | .sameOrganization => .ok .sameOrganization
  | .accountRole => Check.accountRoleOf ruleClass.typeTag config
  | .field => Check.fieldComparisonOf ruleClass.typeTag config
  | .script => Check.scriptOf ruleClass.typeTag config limits
  | .always => .ok (.fixed (.ok (.bool true)))

/-- The rule that a class makes from a configuration. -/
def make [Host] (ruleClass : RuleClass) (limits : Limits) (config : Value) : Except Error Rule := do
  let found ← Check.configOf ruleClass.typeTag config
  let check ← ruleClass.checkOf limits found
  return ⟨ruleClass.className, ruleClass.typeTag, check⟩

end RuleClass

end Authorization
