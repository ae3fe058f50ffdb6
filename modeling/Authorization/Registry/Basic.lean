import Authorization.Chain
import Authorization.Keyed
import Authorization.Rule.Catalog
import Authorization.Store.Order

/-!
# The registry

The snapshots of what is in force, the chains that are fixed, and the registry, which publishes them
together with those of stored policies.
-/

/-!
## Snapshots

A snapshot holds a chain for every stored policy and tells which chain governs a key in an
organization. It is made in one piece from the stored policies and rules: the chain of a policy is made
of its active rules in their order, and is rejected when one of them cannot be made. Only an active
policy with an active rule governs its key; without one the fixed chain of the key is in charge.
-/

namespace Authorization

/-- A policy whose chain was rejected. -/
structure BuildIssue where
  policyId : String
  policyKey : String
  organization : String
  ruleId : String
  message : String
deriving DecidableEq, Repr

/-- The chains that are in force. -/
structure Snapshot where
  version : Nat
  fixed : Keyed String PolicyChain := []
  stored : Keyed (String × String) PolicyChain := []
  byPolicy : Keyed String PolicyChain := []
  errors : List BuildIssue := []

namespace PolicyRule

/-- The active rules of a policy in their order. -/
def activeOf (rules : List PolicyRule) (policyId : String) : List PolicyRule :=
  (rules.filter fun rule => rule.policyId == policyId && rule.active.truthy).mergeSort inOrder

end PolicyRule

namespace Snapshot

/-- The chain that governs a key: the stored one of the organization, or else the fixed one. -/
def chainFor (snapshot : Snapshot) (key : String) (organization : Option String) :
    Option PolicyChain :=
  (organization.bind fun organization => snapshot.stored.get? (organization, key)) <|>
    snapshot.fixed.get? key

/-- The chain of a policy. -/
def chainForPolicy (snapshot : Snapshot) (policyId : String) : Option PolicyChain :=
  snapshot.byPolicy.get? policyId

/-- Makes the rules of a chain, up to the first that cannot be made. -/
def makeRules [Host] (catalog : RuleCatalog) :
    List PolicyRule → Except (PolicyRule × Error) (List ChainRule)
  | [] => .ok []
  | rule :: rest =>
    match catalog.create (.str rule.type) rule.config with
    | .error error => .error (rule, error)
    | .ok made => (makeRules catalog rest).map (ChainRule.of made (.str rule.name) (.str rule.id) :: ·)

/-- The chain of a policy, and the issue when it is rejected. -/
def chainOf [Host] (catalog : RuleCatalog) (policy : Policy) (rules : List PolicyRule) :
    PolicyChain × Option BuildIssue :=
  match makeRules catalog (PolicyRule.activeOf rules policy.id) with
  | .ok made =>
    ({ key := .str policy.key, rules := made, source := .stored, policyId := .str policy.id
       organization := .str policy.organization }, none)
  | .error (rule, error) =>
    let message := "rule '" ++ rule.name ++ "' (" ++ rule.type ++ "): " ++ error.message
    (.rejected (.str policy.key) (.str message) (.str policy.id) (.str policy.organization),
      some ⟨policy.id, policy.key, policy.organization, rule.id, message⟩)

/-- A chain stands in for the fixed one: it is rejected, or has rules. -/
def governs (policy : Policy) (chain : PolicyChain) : Bool :=
  policy.active.truthy && (chain.isRejected || !chain.rules.isEmpty)

/-- The snapshot with one more policy. -/
def addPolicy [Host] (catalog : RuleCatalog) (rules : List PolicyRule) (snapshot : Snapshot)
    (policy : Policy) : Snapshot :=
  let (chain, issue?) := chainOf catalog policy rules
  { snapshot with
    stored :=
      if governs policy chain then snapshot.stored.put (policy.organization, policy.key) chain
      else snapshot.stored
    byPolicy := snapshot.byPolicy.put policy.id chain
    errors := snapshot.errors ++ issue?.toList }

/-- The snapshot of stored policies and rules. -/
def build [Host] (catalog : RuleCatalog) (fixed : Keyed String PolicyChain) (version : Nat)
    (policies : List Policy) (rules : List PolicyRule) : Snapshot :=
  policies.foldl (addPolicy catalog rules) { version, fixed }

end Snapshot

/-- What the log says of an issue when it is found. -/
def BuildIssue.record (issue : BuildIssue) : LogRecord :=
  ⟨.error, .policy, "Dynamic policy '" ++ issue.policyKey ++ "' of organization '" ++
    issue.organization ++ "' rejected, " ++ issue.message⟩

end Authorization

/-!
## Fixed chains

The chains that are in force where no stored policy is. They are given as a table of keys with the
types and configurations of their rules; no key may occur twice. The standard table keeps customers,
deals, tasks and products within their organization and leaves keys and webhooks to administrators.
-/

namespace Authorization

/-- A table of fixed chains: keys with the types and configurations of their rules. -/
abbrev PolicyTable := List (String × List (Value × Value))

namespace PolicyTable

def chainOf [Host] (catalog : RuleCatalog) (key : String) (rules : List (Value × Value)) :
    Except Error PolicyChain := do
  let made ← rules.mapM fun (typeTag, config) => catalog.create typeTag config
  return { key := .str key, rules := made.map fun rule => ChainRule.of rule (.str "") .null }

def addTo [Host] (catalog : RuleCatalog) (found : Keyed String PolicyChain) :
    PolicyTable → Except Error (Keyed String PolicyChain)
  | [] => .ok found
  | (key, rules) :: rest =>
    if found.has key then .error (.inadmissible (.duplicateStaticPolicy key))
    else do
      let chain ← chainOf catalog key rules
      addTo catalog (found ++ [(key, chain)]) rest

/-- The chains of a table. -/
def chains [Host] (catalog : RuleCatalog) (table : PolicyTable) : Except Error (Keyed String PolicyChain) :=
  addTo catalog [] table

def sameOrganization : Value × Value :=
  (.str "same_organization", .dict [])

def ownership : Value × Value :=
  (.str "ownership", .dict [])

def accountRoles (roles : List String) : Value × Value :=
  (.str "role_based", .dict [(.str "roles", .list (roles.map Value.str))])

def entity (name : String) (creators : List String) : PolicyTable :=
  [(Key.join name "read", [sameOrganization, accountRoles ["admin", "user"]]),
   (Key.join name "create", [accountRoles creators])]

def owned (name : String) : PolicyTable :=
  entity name ["admin", "user"] ++
    [(Key.join name "update", [sameOrganization, ownership]),
     (Key.join name "delete", [sameOrganization, accountRoles ["admin"]])]

def forAdministrators (name : String) : PolicyTable :=
  ["create", "read", "update", "delete"].map fun action =>
    (Key.join name action, [accountRoles ["admin"]])

/-- The standard table. -/
def standard : PolicyTable :=
  owned "customer" ++
    [("customer:assign", [sameOrganization, accountRoles ["admin", "manager"]])] ++
  owned "deal" ++ owned "task" ++
  forAdministrators "api_key" ++ forAdministrators "webhook" ++
  entity "product" ["admin"] ++
    ["update", "delete"].map fun action =>
      (Key.join "product" action, [sameOrganization, accountRoles ["admin"]])

end PolicyTable

end Authorization

/-!
## The registry

The registry publishes snapshots. Each takes the place of the one before it as a whole and has the next
version; the fixed chains stay as they were made.
-/

namespace Authorization

structure Registry where
  catalog : RuleCatalog
  snapshot : Snapshot

namespace Registry

/-- A registry before any stored policy has been read, and what the log says of it. -/
def ofTable [Host] (catalog : RuleCatalog) (table : PolicyTable) : Except Error (Registry × LogRecord) := do
  let fixed ← table.chains catalog
  return (⟨catalog, { version := 0, fixed }⟩,
    ⟨.debug, .policy, "Initialized " ++ Number.intText fixed.length ++ " static policies"⟩)

/-- The keys of the fixed chains in order. -/
def fixedKeys (registry : Registry) : List String :=
  (registry.snapshot.fixed.map Prod.fst).mergeSort textsInOrder

/-- The registry after the stored policies and rules have been read anew. -/
def rebuilt [Host] (registry : Registry) (policies : List Policy) (rules : List PolicyRule) : Registry :=
  { registry with
    snapshot := Snapshot.build registry.catalog registry.snapshot.fixed
      (registry.snapshot.version + 1) policies rules }

/-- What the log says of a rebuilt registry. -/
def rebuildRecords (registry : Registry) : List LogRecord :=
  registry.snapshot.errors.map BuildIssue.record ++
    [⟨.info, .policy, "Policy registry rebuilt: v" ++ Number.intText registry.snapshot.version ++
      ", " ++ Number.intText registry.snapshot.stored.length ++ " dynamic chains, " ++
      Number.intText registry.snapshot.errors.length ++ " rejected"⟩]

end Registry

end Authorization
