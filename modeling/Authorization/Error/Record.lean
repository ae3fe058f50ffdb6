import Authorization.Number.Decimal

/-!
# Errors of records

The broad kinds of error that callers tell apart, and what records and stores refuse.
-/

/-!
## Kinds of error

The broad kinds that callers tell apart when they catch an error of an operation.
-/

namespace Authorization

/-- What went wrong, in the broadest terms. -/
inductive FaultKind where
  | type | value | name | attribute | key | index | zeroDivision | overflow | grammar
  | runtime | connection | guarded | integrity | validation | recursion
  | lookup | memory | encoding | undecodable | unencodable
deriving DecidableEq, Repr

/-- The name of the kind, as logs and answers give it. -/
def FaultKind.label : FaultKind → String
  | .type => "TypeError"
  | .value => "ValueError"
  | .name => "NameError"
  | .attribute => "AttributeError"
  | .key => "KeyError"
  | .index => "IndexError"
  | .zeroDivision => "ZeroDivisionError"
  | .overflow => "OverflowError"
  | .grammar => "SyntaxError"
  | .runtime => "RuntimeError"
  | .recursion => "RecursionError"
  | .connection => "ConnectionError"
  | .guarded => "ProtectedError"
  | .integrity => "IntegrityError"
  | .validation => "ValidationError"
  | .lookup => "LookupError"
  | .memory => "MemoryError"
  | .encoding => "UnicodeError"
  | .undecodable => "UnicodeDecodeError"
  | .unencodable => "UnicodeEncodeError"

/-- A kind that is caught as an inadmissible value: what cannot be decoded or encoded is one. -/
def FaultKind.isValue : FaultKind → Bool
  | .value | .encoding | .undecodable | .unencodable => true
  | _ => false

end Authorization

/-!
## Records and stores

A record is not made from values it does not admit, and a store does not take a record that would
break one of its invariants.
-/

namespace Authorization

/-- A value that a record, a setting or a store does not admit. -/
inductive Inadmissible where
  | positiveInteger (field : String)
  | positiveSeconds
  | bypassRoles
  | nonEmptyText (field : String)
  | optionalOrganization
  | rolesTuple
  | slugMismatch (slug expected : String)
  | roleSlug
  | permissionValues
  | policyKey
  | ruleOrder
  | entryAllowed
  | entryTime
  | malformedKey (key : String)
  | clockWithoutZone
  | duplicateStaticPolicy (key : String)
  | duplicateRoleId (roleId : String)
  | roleSlugTaken (slug organization : String)
  | policyKeyTaken (key organization : String)
  | unknownPolicy (ruleId policyId : String)
  | policyHasRules (policyId : String)
  | notUuid (field identifier : String)
  | ruleNotUuid (ruleId : String)
  | ruleTypeTaken (ruleType holder : String)
deriving DecidableEq, Repr

/-- The words for an inadmissible value. -/
def Inadmissible.message : Inadmissible → String
  | .positiveInteger field => field ++ " must be a positive integer."
  | .positiveSeconds => "max_seconds must be a positive number."
  | .bypassRoles => "bypass_roles must contain non-empty strings."
  | .nonEmptyText field => field ++ " must be a non-empty string."
  | .optionalOrganization => "organization_id must be a string or None."
  | .rolesTuple => "roles must be a tuple."
  | .slugMismatch slug expected => "slug '" ++ slug ++ "' must equal '" ++ expected ++ "'."
  | .roleSlug => "slug can only contain lowercase letters, numbers, and underscores."
  | .permissionValues => "permission values must be non-empty strings."
  | .policyKey => "Policy key must be in format 'resource:action'."
  | .ruleOrder => "order must be an integer."
  | .entryAllowed => "allowed must be a bool."
  | .entryTime => "timestamp must be a datetime."
  | .malformedKey key => "Policy key '" ++ key ++ "' must be in format 'resource:action'."
  | .clockWithoutZone => "FixedClock requires timezone-aware datetime."
  | .duplicateStaticPolicy key => "Duplicate static policy '" ++ key ++ "'."
  | .duplicateRoleId roleId => "Duplicate role_id '" ++ roleId ++ "'."
  | .roleSlugTaken slug organization =>
    "Role slug '" ++ slug ++ "' already exists in organization '" ++ organization ++ "'."
  | .policyKeyTaken key organization =>
    "Policy key '" ++ key ++ "' already exists in organization '" ++ organization ++ "'."
  | .unknownPolicy ruleId policyId =>
    "Rule '" ++ ruleId ++ "' references unknown policy '" ++ policyId ++ "'."
  | .policyHasRules policyId => "Policy '" ++ policyId ++ "' still has rules."
  | .notUuid field identifier => field ++ " '" ++ identifier ++ "' is not a valid UUID."
  | .ruleNotUuid ruleId => "Rule '" ++ ruleId ++ "' has a non-UUID identifier."
  | .ruleTypeTaken ruleType holder =>
    "Rule type '" ++ ruleType ++ "' is already registered by " ++ holder ++ "."

/-- The part of the contract of rule classes that a class breaks. -/
inductive ContractPart where
  | ruleType | description | configSchema
deriving DecidableEq, Repr

/-- A value of the wrong kind where a definite kind is required. -/
inductive WrongKind where
  | principal
  | rule
  | contract (className : String) (part : ContractPart)
  | ruleClass (given : String)
  | abstractRuleClass (className : String)
  | listener
  | entry
deriving DecidableEq, Repr

/-- The words for a value of the wrong kind. -/
def WrongKind.message : WrongKind → String
  | .principal => "principal must be a Principal."
  | .rule => "rule must be a BaseRule instance."
  | .contract className .ruleType =>
    "Rule class " ++ className ++ " must declare rule_type as a snake_case string."
  | .contract className .description =>
    "Rule class " ++ className ++ " must declare description as non-empty string."
  | .contract className .configSchema =>
    "Rule class " ++ className ++ " must declare config_schema as a dict."
  | .ruleClass given => "Expected BaseRule subclass, got " ++ given ++ "."
  | .abstractRuleClass className => "Rule class " ++ className ++ " is abstract."
  | .listener => "listener must be callable."
  | .entry => "entry must be an AccessLogEntry."

end Authorization
