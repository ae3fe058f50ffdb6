import Authorization.Error.Record
import Authorization.Text.Basic
import Authorization.Value.Written

/-!
# Errors of rules

What is wrong with the configuration of a rule, with a script, and with the run of one.
-/

/-!
## Errors of rule configurations

What a rule type finds wrong with the configuration it is given.
-/

namespace Authorization

/-- Why a configuration does not satisfy its rule type. -/
inductive ConfigFault where
  | notObject
  | rolesEmpty
  | rolesText
  | fieldEmpty
  | fieldMalformed (field : String)
  | operatorUnknown (known : List String)
  | valueMissing
  | listRequired (operator : String)
  | textRequired (operator : String)
  | codeEmpty
deriving DecidableEq, Repr

/-- The words for a configuration fault. -/
def ConfigFault.message : ConfigFault → String
  | .notObject => "config must be an object."
  | .rolesEmpty => "roles must be a non-empty list."
  | .rolesText => "roles must contain non-empty strings."
  | .fieldEmpty => "field must be a non-empty string."
  | .fieldMalformed field => "field '" ++ field ++ "' is malformed."
  | .operatorUnknown known => "operator must be one of: " ++ Text.join ", " known ++ "."
  | .valueMissing => "value is required."
  | .listRequired operator => "operator '" ++ operator ++ "' requires a list value."
  | .textRequired operator => "operator '" ++ operator ++ "' requires a string value."
  | .codeEmpty => "code must be a non-empty string."

end Authorization

/-!
## Errors of scripts

Three families. A `CompileFault` is found when a script is read: it cannot be parsed, or uses a
construct that is not allowed. A `Refusal` ends a run that tried something the evaluator does not
offer. A `Breach` ends a run that went beyond one of its limits.
-/

namespace Authorization

/-- The greatest number of characters of a script. -/
def maxSourceLength : Nat := 10000

/-- The greatest number of bits of an integer that a script may compute. -/
def maxIntBits : Nat := 4096

/-- What keeps a text from being a script. -/
inductive Misprint where
  | neverClosed (bracket : Char)
  | unmatched (bracket : Char)
  | mismatched (bracket opening : Char) (openingLine : Option Nat)
  | endlessText (line : Nat)
  | endlessBlockText (line : Nat)
  | unexpectedIndent
  | unknown
deriving DecidableEq, Repr

/-- The words for a misprint. -/
def Misprint.message : Misprint → String
  | .neverClosed bracket => "'" ++ String.singleton bracket ++ "' was never closed"
  | .unmatched bracket => "unmatched '" ++ String.singleton bracket ++ "'"
  | .mismatched bracket opening openingLine =>
    "closing parenthesis '" ++ String.singleton bracket ++
      "' does not match opening parenthesis '" ++ String.singleton opening ++ "'" ++
      match openingLine with
      | some line => " on line " ++ Number.intText line
      | none => ""
  | .endlessText line =>
    "unterminated string literal (detected at line " ++ Number.intText line ++ ")"
  | .endlessBlockText line =>
    "unterminated triple-quoted string literal (detected at line " ++ Number.intText line ++ ")"
  | .unexpectedIndent => "unexpected indent"
  | .unknown => "invalid syntax"

/-- Why a script is not accepted. -/
inductive CompileFault where
  | emptyCode
  | tooLong
  | malformed (misprint : Misprint)
  | tooDeep
  | constructRefused (construct : String)
  | nameRefused (name : String)
  | attributeRefused (name : String)
  | keywordUnpacking
  | assignmentTarget
  | loopTarget
  | asyncComprehension
  | loopElse
  | mappingUnpacking
deriving DecidableEq, Repr

/-- The words for a compile fault. -/
def CompileFault.message : CompileFault → String
  | .emptyCode => "code must be a non-empty string"
  | .tooLong => "code must be at most " ++ Number.intText maxSourceLength ++ " characters"
  | .malformed misprint => "syntax error: " ++ misprint.message
  | .tooDeep => "script is too deeply nested"
  | .constructRefused construct => "'" ++ construct ++ "' is not allowed"
  | .nameRefused name => "name '" ++ name ++ "' is not allowed"
  | .attributeRefused name => "attribute '" ++ name ++ "' is not allowed"
  | .keywordUnpacking => "keyword unpacking is not allowed"
  | .assignmentTarget => "only names can be assigned"
  | .loopTarget => "loop targets must be names"
  | .asyncComprehension => "async comprehensions are not allowed"
  | .loopElse => "loop 'else' is not allowed"
  | .mappingUnpacking => "dict unpacking is not allowed"

/-- Why a running script is stopped by the evaluator itself. -/
inductive Refusal where
  | textFormatting
  | unpacking
  | unbound (name : String)
  | notSubscriptable (kind : String)
  | privateAttribute (name : String)
  | attributeOfData (kind : String)
  | callableAttribute (name : String)
  | unlistedFunction
  | unlistedArgument
  | unsizedArgument
  | unlistedMethod (name kind : String)
  | statement (construct : String)
  | expression (construct : String)
  | looseLoopControl
  | unexpectedNames (names : List String)
deriving DecidableEq, Repr

namespace Refusal

/-- The kind of error that a refusal counts as. -/
def kind : Refusal → FaultKind
  | .unpacking | .unexpectedNames _ => .value
  | .unbound _ => .name
  | .privateAttribute _ | .attributeOfData _ => .attribute
  | .looseLoopControl => .grammar
  | _ => .type

/-- The words for a refusal. -/
def message : Refusal → String
  | .textFormatting => "string formatting is not allowed"
  | .unpacking => "unpacking length mismatch"
  | .unbound name => "name '" ++ name ++ "' is not defined"
  | .notSubscriptable kind => "'" ++ kind ++ "' is not subscriptable"
  | .privateAttribute name => "attribute '" ++ name ++ "' is not allowed"
  | .attributeOfData kind => "'" ++ kind ++ "' attributes are only reachable as calls"
  | .callableAttribute name => "attribute '" ++ name ++ "' is callable and not exposed"
  | .unlistedFunction => "only whitelisted functions can be called"
  | .unlistedArgument => "only whitelisted functions can be passed as arguments"
  | .unsizedArgument => "argument must be a sized collection"
  | .unlistedMethod name kind => "method '" ++ name ++ "' of '" ++ kind ++ "' cannot be called"
  | .statement construct => "Unsupported statement '" ++ construct ++ "'."
  | .expression construct => "Unsupported expression '" ++ construct ++ "'."
  | .looseLoopControl => "'break' or 'continue' outside loop"
  | .unexpectedNames names =>
    "Unexpected sandbox names: " ++ (Value.list (names.map Value.str)).written

end Refusal

/-- The limits of a run. -/
inductive LimitName where
  | steps | seconds | sequenceLength | exponent | intBits
deriving DecidableEq, Repr

/-- The name under which a limit is set and reported. -/
def LimitName.label : LimitName → String
  | .steps => "max_steps"
  | .seconds => "max_seconds"
  | .sequenceLength => "max_sequence_length"
  | .exponent => "max_exponent"
  | .intBits => "max_int_bits"

/-- How a run went beyond a limit. -/
inductive Breach where
  | steps (most : Nat)
  | seconds (most : String)
  | length (found : Nat)
  | repetition
  | concatenation
  | joining
  | intSize
  | powerSize
  | exponent (found : String)
deriving DecidableEq, Repr

namespace Breach

/-- The limit that was exceeded. -/
def limit : Breach → LimitName
  | .steps _ => .steps
  | .seconds _ => .seconds
  | .length _ | .repetition | .concatenation | .joining => .sequenceLength
  | .intSize | .powerSize => .intBits
  | .exponent _ => .exponent

private def detail : Breach → String
  | .steps most => "more than " ++ Number.intText most ++ " steps"
  | .seconds most => "ran longer than " ++ most ++ "s"
  | .length found => "sequence of length " ++ Number.intText found
  | .repetition => "repeated sequence too long"
  | .concatenation => "concatenation too long"
  | .joining => "joined string too long"
  | .intSize => "integer too large"
  | .powerSize => "power too large"
  | .exponent found => "exponent " ++ found

/-- The words for a breach. -/
def message (breach : Breach) : String :=
  "Sandbox limit '" ++ breach.limit.label ++ "' exceeded: " ++ breach.detail

end Breach

end Authorization
