import Authorization.Error.Basic
import Authorization.Script.Function

/-!
# Arguments

How the arguments of an operation find their parameters: by position, by name, or by default. An
argument too many, an unknown name, a parameter given twice or not at all is a type error.
-/

namespace Authorization

/-- A parameter of an operation. -/
structure Parameter where
  name : String
  default : Option Value
  byName : Bool

namespace Parameter

/-- A parameter that has to be given. -/
def needed (name : String) : Parameter :=
  ⟨name, none, false⟩

/-- A parameter with a default. -/
def optional (name : String) (default : Value) : Parameter :=
  ⟨name, some default, false⟩

/-- A parameter that is given by name only, if at all. -/
def named (name : String) (default : Value) : Parameter :=
  ⟨name, some default, true⟩

end Parameter

/-- The arguments of a call: some by position, some by name. -/
structure Arguments where
  positional : List Value := []
  named : List (String × Value) := []

/-- The values of the parameters of an operation. -/
abbrev Bindings := List (String × Value)

namespace Bindings

/-- The value of a parameter. -/
def value (bindings : Bindings) (name : String) : Value :=
  (bindings.lookup name).getD .null

end Bindings

namespace Arguments

def mismatch {α : Type} : Except Error α :=
  fault .type "the arguments do not fit the parameters"

def fill (named : List (String × Value)) : List Parameter → Except Error Bindings
  | [] => .ok []
  | parameter :: rest =>
    match named.lookup parameter.name <|> parameter.default with
    | some value => (fill named rest).map ((parameter.name, value) :: ·)
    | none => mismatch

/-- Finds the value of each parameter. -/
def bindTo (arguments : Arguments) (parameters : List Parameter) : Except Error Bindings :=
  let places := parameters.filter fun parameter => !parameter.byName
  if arguments.positional.length > places.length then mismatch
  else
    let placed := (places.map Parameter.name).zip arguments.positional
    let unfilled := parameters.filter fun parameter => (placed.lookup parameter.name).isNone
    if arguments.named.any fun argument => !unfilled.any (·.name == argument.1) then mismatch
    else (fill arguments.named unfilled).map (placed ++ ·)

end Arguments

namespace Value

/-- A text that is not empty. -/
def nonEmptyText? : Value → Option String
  | .str text => if text.isEmpty then none else some text
  | _ => none

/-- A text that is not empty, in a field that needs one. -/
def nonEmptyText (field : String) (value : Value) : Except Error String :=
  match value.nonEmptyText? with
  | some text => .ok text
  | none => .error (.inadmissible (.nonEmptyText field))

/-- The entries of a mapping made from a value: a copy of a mapping, or its pairs. -/
def toEntries (value : Value) : Except Error (List (Value × Value)) :=
  match value.entries? with
  | some entries => .ok entries
  | none =>
    ((Builtin.applyPlain .dict [value]).run {}).1.map fun found => (found.entries?).getD []

/-- The members of a set made from a value. -/
def toMembers (value : Value) : Except Error (List Value) :=
  ((Builtin.applyPlain .set [value]).run {}).1.map fun found => (found.setMembers?).getD []

/-- The items of a value that counts as true; no items of any other. -/
def itemsIfAny (value : Value) : Except Error (List Value) :=
  if value.truthy then (value.items.run {}).1 else .ok []

end Value

end Authorization
