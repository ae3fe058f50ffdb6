import Authorization.System.Basic

/-!
# Changes of policies

Every change of the policy store is announced to those who listen. The registry is the first of them and
rebuilds its snapshot from the store, so that a change is in force when the operation that made it
returns. Inside a transaction on tables, announcements wait for the end of the outermost transaction;
those of a transaction that is taken back are never made.
-/

namespace Authorization.Service

/-! ## Reading a planned value -/

/-- The policies that a planned value stands for. -/
def policiesFrom (value : Value) : Except Error (List Policy) := do
  (← (value.items.run {}).1).mapM PolicyStore.policyOf

/-- The rules that a planned value stands for. -/
def rulesFrom (value : Value) : Except Error (List PolicyRule) := do
  (← (value.items.run {}).1).mapM PolicyStore.ruleOf

def readOr {α : Type} (read : Value → Except Error α) : Value ⊕ α → Service α
  | .inl value => orFail (read value)
  | .inr result => return result

/-! ## Rebuilding -/

/-- All stored policies and rules. -/
def stored : Service ((Value ⊕ List Policy) × (Value ⊕ List PolicyRule)) := do
  let policies ← plannedOr .listPolicies do return (← get).policies.policiesIn .null
  let rules ← plannedOr .listRules do orFail ((← get).policies.rulesOf .null)
  return (policies, rules)

/-- Rebuilds the registry from the policy store. When the store cannot be read, the snapshot stays. -/
def reload [Host] : Service Snapshot := do
  match ← outcome stored with
  | .error error =>
    note .error .policy ("Policy registry rebuild failed, keeping v" ++
      Number.intText (← get).registry.snapshot.version ++ ": " ++ (← orFail error.toLogged))
    throw (.registryBuild error)
  | .ok (policies, rules) =>
    let rules ← readOr rulesFrom rules
    let policies ← readOr policiesFrom policies
    let registry := (← get).registry.rebuilt policies rules
    modify fun system => { system with registry }
    noteAll registry.rebuildRecords
    return registry.snapshot

/-! ## Announcing -/

/-- Tells one listener of a change. -/
def tell [Host] (listener : Listener) : Service Unit :=
  match listener with
  | .registry => do
    let _ ← reload
  | .counter => modify fun system => { system with counted := system.counted + 1 }
  | .function _ => return ()

/-- Tells the listeners of a change, one after the other, up to the first that fails. -/
def notify [Host] : Service Unit := do
  (← get).listeners.forM tell

/-- Lets somebody listen to changes; nobody listens twice. -/
def listen (listener : Listener) : Service Unit :=
  modify fun system =>
    if system.listeners.contains listener then system
    else { system with listeners := system.listeners ++ [listener] }

/-- Announces a change: now, or at the end of the outermost transaction. -/
def announce [Host] : Service Unit := do
  if (← get).savepoints.isEmpty then notify
  else modify fun system => { system with waiting := system.waiting + 1 }

/-! ## Transactions -/

/-- Begins a transaction. -/
def begin : Service Unit :=
  modify fun system =>
    { system with savepoints := ⟨system.roles, system.policies, system.waiting⟩ :: system.savepoints }

def restore (saved : Savepoint) (outer : List Savepoint) : Service Unit :=
  modify fun system =>
    { system with
      roles := saved.roles, policies := saved.policies, waiting := saved.waiting, savepoints := outer }

/-- Announces a number of changes, up to the first announcement that fails. -/
def announceAll [Host] : Nat → Service Unit
  | 0 => return ()
  | count + 1 => do
    notify
    announceAll count

/-- Ends the innermost transaction. The outermost one leaves the tables consistent or is taken back, and
then makes the announcements that waited for it. -/
def finish [Host] (takenBack : Bool) : Service Unit := do
  match (← get).savepoints with
  | [] => return ()
  | saved :: outer =>
    if takenBack then restore saved outer
    else if !outer.isEmpty then modify fun system => { system with savepoints := outer }
    else if !(← get).roles.isConsistent then
      restore saved outer
      throw (.operation .integrity "a role that is held does not exist")
    else
      let count := (← get).waiting
      modify fun system => { system with savepoints := [], waiting := 0 }
      announceAll count

end Authorization.Service
