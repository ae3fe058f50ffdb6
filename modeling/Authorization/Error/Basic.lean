import Authorization.Error.Record
import Authorization.Error.Rule
import Authorization.Number.Decimal
import Authorization.Text.Basic
import Authorization.Value.Equality

/-!
# Errors

What can go wrong in an operation of the library, first in one of administration, then in any.
-/

/-!
## Errors of administration

What an administrator is told when an operation is not carried out.
-/

namespace Authorization

/-- Why the input of an administrative operation is not valid. -/
inductive InvalidInput where
  | nonEmptyText (field : String)
  | optionalText (field : String)
  | boolean (field : String)
  | integer (field : String)
  | unknownFields (first : String) (fields : List String)
  | slugFormat
  | keyFormat
  | permissionList
  | configObject
  | ordersMapping
  | foreignRules (policyId : String) (ruleIds : List String)
deriving DecidableEq, Repr

namespace InvalidInput

/-- The field at fault. -/
def field : InvalidInput → String
  | .nonEmptyText field | .optionalText field | .boolean field | .integer field => field
  | .unknownFields first _ => first
  | .slugFormat => "slug"
  | .keyFormat => "key"
  | .permissionList => "permissions"
  | .configObject => "config"
  | .ordersMapping | .foreignRules .. => "orders"

/-- The words for an invalid input. -/
def message : InvalidInput → String
  | .nonEmptyText field => field ++ " must be a non-empty string."
  | .optionalText field => field ++ " must be a string."
  | .boolean field => field ++ " must be a boolean."
  | .integer field => field ++ " must be an integer."
  | .unknownFields _ fields => "Unknown field(s): " ++ Text.join ", " fields ++ "."
  | .slugFormat => "Slug can only contain lowercase letters, numbers, and underscores."
  | .keyFormat => "Policy key must be in format 'resource:action'."
  | .permissionList => "permissions must be a list of slugs."
  | .configObject => "config must be an object."
  | .ordersMapping => "orders must be a non-empty mapping."
  | .foreignRules policyId ruleIds =>
    "Rules do not belong to policy '" ++ policyId ++ "': " ++ Text.join ", " ruleIds ++ "."

end InvalidInput

/-- The entities that administrators handle. -/
inductive Entity where
  | role | policy | rule
deriving DecidableEq, Repr

/-- The name of an entity in messages. -/
def Entity.label : Entity → String
  | .role => "Role"
  | .policy => "Policy"
  | .rule => "Rule"

/-- What still refers to an entity that should be deleted. -/
inductive Reference where
  | holders (count : String)
  | rules (count : String)
  | store (message : String)
deriving DecidableEq, Repr

/-- The words for a reference that keeps an entity alive. -/
def Reference.message : Reference → String
  | .holders count => "Cannot delete role. It is assigned to " ++ count ++ " users."
  | .rules count => "Cannot delete policy with " ++ count ++ " rules. Delete all rules first."
  | .store message => message

end Authorization

/-!
## Errors of every kind

Every way in which an operation of the library can fail. An error has a class, by which callers and
logs name it, and words; errors of the access model also carry their data. Errors of plain operations
on values have words of no importance: `words?` leaves them out. To write an error may fail in turn: one
that names what is too long to be written has no text.
-/

namespace Authorization

/-- An error. -/
inductive Error where
  | operation (kind : FaultKind) (detail : String)
  | raised (kind : FaultKind) (message : String)
  /-- An error of any class. Its text is computed when it is asked for, which may fail. -/
  | foreign (className : String) (text : Except FaultKind String)
  | refused (refusal : Refusal)
  | limit (breach : Breach)
  | compile (fault : CompileFault) (line : Option Nat)
  | config (ruleType : String) (fault : ConfigFault)
  | unknownRuleType (ruleType : Value)
  | registryBuild (cause : Error)
  | inadmissible (reason : Inadmissible)
  | wrongKind (reason : WrongKind)
  | unknownPermissions (slugs : List String)
  | invalidInput (reason : InvalidInput)
  | duplicate (entity : Entity) (field value organization : String)
  | notFound (entity : Entity) (identifier : Value)
  | referenced (entity : Entity) (identifier : String) (reference : Reference)

namespace Error

/-- The class of an error. -/
def label : Error → String
  | .operation kind _ | .raised kind _ => kind.label
  | .foreign className _ => className
  | .refused refusal => refusal.kind.label
  | .limit _ => "SandboxLimitExceeded"
  | .compile .. => "ScriptCompileError"
  | .config .. => "RuleConfigError"
  | .unknownRuleType _ => "UnknownRuleTypeError"
  | .registryBuild _ => "RegistryBuildError"
  | .inadmissible _ => "ValueError"
  | .wrongKind _ => "TypeError"
  | .unknownPermissions _ => "UnknownPermissionError"
  | .invalidInput _ => "AdminValidationError"
  | .duplicate .. => "DuplicateError"
  | .notFound .. => "NotFoundError"
  | .referenced .. => "ReferentialIntegrityError"

/-- The name of the rule type that runs scripts. -/
def scriptRuleType : String := "custom_script"

private def configMessage (ruleType message : String) : String :=
  "Invalid config for rule type '" ++ ruleType ++ "': " ++ message

/-- The words of an error, as far as it has any. -/
def message : Error → String
  | .operation _ detail => detail
  | .raised _ message => message
  | .foreign _ text => text.toOption.getD ""
  | .refused refusal => refusal.message
  | .limit breach => breach.message
  | .compile fault line =>
    configMessage scriptRuleType <| fault.message ++ match line with
      | some line => " (line " ++ Number.intText line ++ ")"
      | none => ""
  | .config ruleType fault => configMessage ruleType fault.message
  | .unknownRuleType ruleType => "Unknown rule type: '" ++ ruleType.text ++ "'."
  | .registryBuild cause =>
    "Policy registry rebuild failed: " ++ cause.label ++ ": " ++ cause.message
  | .inadmissible reason => reason.message
  | .wrongKind reason => reason.message
  | .unknownPermissions slugs => "Unknown permission(s): " ++ Text.join ", " slugs ++ "."
  | .invalidInput reason => reason.message
  | .duplicate entity field value organization =>
    entity.label ++ " with " ++ field ++ " '" ++ value ++ "' already exists in organization '" ++
      organization ++ "'."
  | .notFound entity identifier => entity.label ++ " '" ++ identifier.text ++ "' not found."
  | .referenced _ _ reference => reference.message

/-- The words of an error, unless it comes from a plain operation on values. -/
def words? : Error → Option String
  | .operation .. => none
  | error => some error.message

/-- The error as logs name it: its class and its words. -/
def logged (error : Error) : String :=
  error.label ++ ": " ++ error.message

/-- Writes an error as logs name it. -/
def toLogged : Error → Except Error String
  | .foreign _ (.error kind) => .error (.operation kind "the error has no text")
  | error => .ok error.logged

/-- The data of an error of the access model. -/
def data : Error → List (String × Value)
  | .limit breach => [("limit", .str breach.limit.label)]
  | .compile _ line =>
    [("rule_type", .str scriptRuleType), ("lineno", match line with
      | some line => .int line
      | none => .null)]
  | .config ruleType _ => [("rule_type", .str ruleType)]
  | .unknownRuleType ruleType => [("rule_type", ruleType)]
  | .unknownPermissions slugs => [("slugs", .tuple (slugs.map Value.str))]
  | .invalidInput reason => [("field", .str reason.field)]
  | .duplicate entity field value organization =>
    [("entity", .str entity.label), ("field", .str field), ("value", .str value),
     ("organization_id", .str organization)]
  | .notFound entity identifier => [("entity", .str entity.label), ("entity_id", identifier)]
  | .referenced entity identifier _ =>
    [("entity", .str entity.label), ("entity_id", .str identifier)]
  | _ => []

/-- A value error: the kind that stores raise for what they do not admit. -/
def isValueError : Error → Bool
  | .operation kind _ | .raised kind _ => kind.isValue
  | .refused refusal => refusal.kind.isValue
  | .inadmissible _ => true
  | _ => false

end Error

/-- Fails an operation on values. -/
def fault {α : Type} (kind : FaultKind) (detail : String) : Except Error α :=
  .error (.operation kind detail)

/-- A value that had to be hashable is not, by reason of one of its parts. -/
def unhashable {α : Type} (value : Value) : Except Error α :=
  fault .type ("unhashable type: '" ++ (value.unhashablePart?.getD value).kindName ++ "'")

private def tooLong {α : Type} : Except Error α :=
  fault .value ("Exceeds the limit (" ++ Number.intText Number.maxDecimalDigits ++ " digits) for " ++
    "integer string conversion")

/-- The text of a value. -/
def Value.toText (value : Value) : Except Error String :=
  match value.text? with
  | some text => .ok text
  | none => tooLong

/-- The text of a value inside another value. -/
def Value.toWritten (value : Value) : Except Error String :=
  if value.holdsLongInt then tooLong else .ok value.written

end Authorization
