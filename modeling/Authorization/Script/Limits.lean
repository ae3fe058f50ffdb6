import Authorization.Record.Arguments
import Authorization.Value.Equality

/-!
# Limits of script runs

How much a run may do: the steps it takes, the seconds it lasts, the length of what it builds, and the
exponents it raises to.
-/

namespace Authorization

/-- The limits of a run. Seconds are a number of any real kind. -/
structure Limits where
  maxSteps : Nat := 10000
  maxSeconds : Value := .float 0.05
  maxSequenceLength : Nat := 10000
  maxExponent : Nat := 1000

namespace Limits

/-- A positive integer that is no truth value. -/
def positive (field : String) (value : Value) : Except Error Nat :=
  match value with
  | .int n => if 0 < n then .ok n.toNat else .error (.inadmissible (.positiveInteger field))
  | _ => .error (.inadmissible (.positiveInteger field))

/-- A real number that is not zero or less. -/
def seconds (value : Value) : Except Error Value :=
  let isLow : Bool := match Value.compareNumbers? value (.int 0) with
    | some outcome => outcome != .gt
    | none => false
  if value.isReal && !isLow then .ok value else .error (.inadmissible .positiveSeconds)

/-- The limits of four values: three positive integers and a number of seconds. -/
def ofValues (maxSteps maxSeconds maxSequenceLength maxExponent : Value) : Except Error Limits := do
  let steps ← positive "max_steps" maxSteps
  let length ← positive "max_sequence_length" maxSequenceLength
  let exponent ← positive "max_exponent" maxExponent
  return ⟨steps, ← seconds maxSeconds, length, exponent⟩

/-- The limits by the names under which they are given. -/
def fields (limits : Limits) : Bindings :=
  [("max_steps", .int limits.maxSteps), ("max_seconds", limits.maxSeconds),
   ("max_sequence_length", .int limits.maxSequenceLength),
   ("max_exponent", .int limits.maxExponent)]

/-- The parameters; each has the default of the structure. -/
def parameters : List Parameter :=
  (fields {}).map fun field => .optional field.1 field.2

/-- The limits of given fields. -/
def ofBindings (bindings : Bindings) : Except Error Limits :=
  ofValues (bindings.value "max_steps") (bindings.value "max_seconds")
    (bindings.value "max_sequence_length") (bindings.value "max_exponent")

/-- The limits of given arguments. -/
def ofArguments (arguments : Arguments) : Except Error Limits := do
  ofBindings (← arguments.bindTo parameters)

/-- The limits as a record. -/
def toValue (limits : Limits) : Value :=
  .record .limits limits.fields

/-- The limits that a record is. -/
def ofValue? : Value → Option Limits
  | .record .limits fields => (ofBindings fields).toOption
  | _ => none

end Limits

end Authorization
