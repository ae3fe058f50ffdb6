import Authorization.Rule.Basic

/-!
# Chains of rules

A chain is the ordered list of rules behind a policy key. It holds when each of its rules answers with
the truth value true: the first that does not settles the matter. A rule that fails, or answers with
anything but a truth value, counts as false, which is noted in the journal. The note names the rule, the
policy and the error; where one of these cannot be written, the chain fails itself.

A rejected chain stands for a policy whose rules could not be made. It holds for nothing, so that a
broken policy is never replaced by one that allows more.
-/

namespace Authorization

/-- A rule of a chain with the name and the identifier under which it is stored. -/
structure ChainRule where
  rule : Rule
  name : Value
  id : Value

/-- Where a chain comes from. -/
inductive ChainSource where
  | fixed | stored
deriving DecidableEq, Repr

/-- The name of a source. -/
def ChainSource.label : ChainSource → String
  | .fixed => "static"
  | .stored => "dynamic"

/-- A chain of rules for a policy key. A chain with a reason is rejected. -/
structure PolicyChain where
  key : Value
  rules : List ChainRule := []
  source : ChainSource := .fixed
  policyId : Value := .null
  organization : Value := .null
  reason : Value := .null

/-- What came of one rule of a chain. -/
structure RuleOutcome where
  rule : ChainRule
  passed : Bool
  error : Option String

/-- What came of a chain: the decision, and every rule's part in it. -/
structure ChainReport where
  allowed : Bool
  key : Value
  outcomes : List RuleOutcome := []
  message : String := ""

namespace ChainRule

def parameters : List Parameter :=
  [.needed "rule", .optional "name" (.str ""), .optional "rule_id" .null]

/-- A rule under a name, or under the tag of its type when the name counts as false. -/
def of (rule : Rule) (name id : Value) : ChainRule :=
  ⟨rule, if name.truthy then name else .str rule.typeTag, id⟩

/-- Writes what is wrong with a rule. -/
def complaint (entry : ChainRule) (key : Value) (what : Except Error String) : Except Error String := do
  let name ← entry.name.toText
  let key ← key.toText
  let what ← what
  return "Rule '" ++ name ++ "' (" ++ entry.rule.typeTag ++ ") of policy '" ++ key ++ "' " ++ what ++
    ". Treated as deny."

/-- Notes what is wrong with a rule. -/
def complain (entry : ChainRule) (key : Value) (what : Except Error String) : Judged Unit := do
  Judged.note .warning .policy (← entry.complaint key what)

/-- What is made of the answer of a rule: a truth value, and what is wrong if the answer is not one. -/
def rate (entry : ChainRule) (key : Value) (answer : Except Error Value) :
    Judged (Bool × Option String) :=
  match answer with
  | .ok (.bool passed) => return (passed, none)
  | .ok other => do
    entry.complain key (.ok ("returned " ++ other.kindName ++ ", expected bool"))
    return (false, some ("returned " ++ other.kindName))
  | .error error => do
    entry.complain key (error.toLogged.map ("raised " ++ ·))
    return (false, some (← error.toLogged))

/-- What a rule says of a decision, as a truth value, and what was wrong if it is not one. -/
def judge [Host] (entry : ChainRule) (key : Value) (attributes : DecisionAttributes) :
    Judged (Bool × Option String) := do
  entry.rate key (← Judged.attempt (entry.rule.evaluate attributes))

end ChainRule

namespace PolicyChain

/-- The chain of a policy that could not be made, for a reason. -/
def rejected (key reason policyId organization : Value) : PolicyChain :=
  { key, source := .stored, policyId, organization, reason }

/-- The parameters of a rejected chain. -/
def rejectedParameters : List Parameter :=
  [.needed "policy_key", .needed "reason", .optional "policy_id" .null,
   .optional "organization_id" .null]

/-- The rejected chain of given arguments. -/
def rejectedOf (arguments : Arguments) : Except Error PolicyChain := do
  let bindings ← arguments.bindTo rejectedParameters
  return rejected (bindings.value "policy_key") (bindings.value "reason")
    (bindings.value "policy_id") (bindings.value "organization_id")

/-- A chain with a reason is rejected. -/
def isRejected (chain : PolicyChain) : Bool :=
  match chain.reason with
  | .null => false
  | _ => true

/-- Every rule up to the first that does not pass; the number of rules that were asked comes with the
answer. -/
def consult [Host] (key : Value) (attributes : DecisionAttributes) :
    List ChainRule → Judged (Bool × Nat)
  | [] => return (true, 0)
  | entry :: rest => do
    let (passed, _) ← entry.judge key attributes
    if passed then
      let (allowed, count) ← consult key attributes rest
      return (allowed, count + 1)
    else return (false, 1)

/-- The rules that take part in a decision: those of a chain that is not rejected. -/
def asked (chain : PolicyChain) : List ChainRule :=
  if chain.isRejected then [] else chain.rules

/-- The decision of a chain and the number of rules that were asked. A chain without rules denies. -/
def evaluateCounting [Host] (chain : PolicyChain) (attributes : DecisionAttributes) :
    Judged (Bool × Nat) :=
  match chain.asked with
  | [] => return (false, 0)
  | rules => consult chain.key attributes rules

/-- The decision of a chain. -/
def evaluate [Host] (chain : PolicyChain) (attributes : DecisionAttributes) : Judged Bool := do
  return (← chain.evaluateCounting attributes).1

/-- Asks every rule, whatever the others say. -/
def outcomes [Host] (key : Value) (attributes : DecisionAttributes) :
    List ChainRule → Judged (List RuleOutcome)
  | [] => return []
  | entry :: rest => do
    let (passed, error) ← entry.judge key attributes
    return ⟨entry, passed, error⟩ :: (← outcomes key attributes rest)

/-- The decision of a chain with the outcome of every rule. -/
def explain [Host] (chain : PolicyChain) (attributes : DecisionAttributes) : Judged ChainReport := do
  if chain.isRejected then
    return { allowed := false, key := chain.key
             message := "Policy rejected: " ++ (← chain.reason.toText) }
  match chain.rules with
  | [] => return { allowed := false, key := chain.key, message := "Policy has no active rules." }
  | rules =>
    let found ← outcomes chain.key attributes rules
    return { allowed := found.all RuleOutcome.passed, key := chain.key, outcomes := found }

end PolicyChain

end Authorization
