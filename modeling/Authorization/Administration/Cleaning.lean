import Authorization.Decision.Basic
import Authorization.Text.Case

/-!
# Cleaning of input

What administrators give is cleaned before it is used: texts are trimmed and must not be blank, flags and
integers have to be just that, and only fields that can be changed may be named in a change. What has
been changed is logged.
-/

namespace Authorization.Cleaning

def refuse {α : Type} (reason : InvalidInput) : Except Error α :=
  .error (.invalidInput reason)

/-- A text that is not blank, without the white space around it. -/
def text (field : String) (value : Value) : Except Error String :=
  match value with
  | .str given =>
    let trimmed := Text.trim given
    if trimmed.isEmpty then refuse (.nonEmptyText field) else .ok trimmed
  | _ => refuse (.nonEmptyText field)

/-- A text or nothing; a blank text counts as nothing. -/
def optionalText (field : String) (value : Value) : Except Error (Option String) :=
  match value with
  | .null => .ok none
  | .str given =>
    let trimmed := Text.trim given
    .ok (if trimmed.isEmpty then none else some trimmed)
  | _ => refuse (.optionalText field)

/-- A truth value. -/
def flag (field : String) (value : Value) : Except Error Bool :=
  match value with
  | .bool found => .ok found
  | _ => refuse (.boolean field)

/-- An integer that is no truth value. -/
def integer (field : String) (value : Value) : Except Error Int :=
  match value with
  | .int found => .ok found
  | _ => refuse (.integer field)

/-- The slug of a role, in small letters. -/
def slug (value : Value) : Except Error String := do
  let given ← text "slug" value
  let lowered := Text.lower given
  if Key.isSlug lowered then return lowered else refuse .slugFormat

/-- The key of a policy. -/
def key (value : Value) : Except Error String := do
  let given ← text "key" value
  if Key.isPolicyKey given then return given else refuse .keyFormat

/-- The configuration of a rule, as a mapping of its own; nothing stands for an empty one. -/
def config (value : Value) : Except Error Value :=
  match value with
  | .null => .ok (.dict [])
  | _ => match value.entries? with
    | some entries =>
      .ok (.dict (entries.foldl (fun found entry => Value.store entry.1 entry.2 found) []))
    | none => refuse .configObject

/-- Only fields that can be changed are named. -/
def knownFields (changes : Bindings) (known : List String) : Except Error Unit :=
  let unknown := (changes.map Prod.fst).filter fun name => !known.contains name
  match unknown.mergeSort textsInOrder with
  | [] => .ok ()
  | first :: rest => refuse (.unknownFields first (first :: rest))

/-- A change of one field, if it is among the changes. -/
def change {α : Type} (changes : Bindings) (field : String) (clean : Value → Except Error α) :
    Except Error (Option α) :=
  match changes.lookup field with
  | none => .ok none
  | some value => (clean value).map some

/-- The names of the fields that are changed, in order, as a written list. -/
def changedNames (names : List (String × Bool)) : String :=
  let changed := (names.filter Prod.snd).map Prod.fst
  (Value.list ((changed.mergeSort textsInOrder).map Value.str)).written

end Authorization.Cleaning

namespace Authorization.Service

/-- Logs a change together with who made it, which fails when that cannot be written. -/
def noteChange (message : String) (organization actor : Value) : Service Unit := do
  let actor ← orFail actor.toText
  note .info .admin (message ++ " org=" ++ organization.text ++ " actor=" ++ actor)

end Authorization.Service
