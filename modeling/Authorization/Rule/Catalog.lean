import Authorization.Rule.Class

/-!
# The catalog of rule classes

Rules are made by the class that is registered under their tag. No tag is taken twice.
-/

namespace Authorization

/-- The registered classes, in the order of their registration, and the limits of scripts. -/
structure RuleCatalog where
  limits : Limits := {}
  classes : List RuleClass := []

namespace RuleCatalog

/-- The class registered under a tag. -/
def find? (catalog : RuleCatalog) (typeTag : String) : Option RuleClass :=
  catalog.classes.find? fun ruleClass => ruleClass.typeTag == typeTag

/-- What the log says of a registration. -/
def registered (ruleClass : RuleClass) : LogRecord :=
  ⟨.debug, .policy, "Rule type registered: " ++ ruleClass.typeTag⟩

/-- Registers a class; to register it again changes nothing. -/
def register (catalog : RuleCatalog) (ruleClass : RuleClass) :
    Except Error (RuleCatalog × LogRecord) :=
  if ruleClass.isAbstract then .error (.wrongKind (.abstractRuleClass ruleClass.className))
  else match catalog.find? ruleClass.typeTag with
    | some holder =>
      if holder.isSame ruleClass then .ok (catalog, registered ruleClass)
      else .error (.inadmissible (.ruleTypeTaken ruleClass.typeTag holder.className))
    | none =>
      .ok ({ catalog with classes := catalog.classes ++ [ruleClass] }, registered ruleClass)

/-- Refuses to register what is no class. -/
def registerOther (given : Value) : Except Error (RuleCatalog × LogRecord) :=
  .error (.wrongKind (.ruleClass given.written))

/-- A catalog of some of the built-in classes, with the log records of their registrations. -/
def ofClasses (limits : Limits) (classes : List RuleClass) : Except Error (RuleCatalog × List LogRecord) :=
  classes.foldlM
    (fun (catalog, records) ruleClass => do
      let (next, record) ← register catalog ruleClass
      return (next, records ++ [record]))
    (⟨limits, []⟩, [])

/-- The catalog of the built-in classes. -/
def builtin (limits : Limits) : RuleCatalog :=
  ⟨limits, RuleClass.builtin⟩

/-- The log records of the registration of the built-in classes. -/
def builtinRecords : List LogRecord :=
  RuleClass.builtin.map registered

/-- The registered classes by the order of their tags. -/
def sorted (catalog : RuleCatalog) : List RuleClass :=
  catalog.classes.mergeSort fun a b => Value.compareTexts a.typeTag b.typeTag != .gt

/-- The tags of the registered classes in order. -/
def typeTags (catalog : RuleCatalog) : List String :=
  catalog.sorted.map RuleClass.typeTag

/-- Makes a rule of a type from a configuration. -/
def create [Host] (catalog : RuleCatalog) (typeTag config : Value) : Except Error Rule :=
  if !typeTag.hashable then unhashable typeTag
  else match typeTag.asStr?.bind catalog.find? with
    | some ruleClass => ruleClass.make catalog.limits config
    | none => .error (.unknownRuleType typeTag)

end RuleCatalog

end Authorization
