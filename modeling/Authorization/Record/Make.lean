import Authorization.Record.Entry
import Authorization.Record.Policy
import Authorization.Record.Principal
import Authorization.Record.Role
import Authorization.Script.Limits

/-!
# Records of every kind

A record is made from arguments by the rules of its kind.
-/

namespace Authorization.RecordKind

/-- Makes a record. -/
def make (kind : RecordKind) (arguments : Arguments) : Except Error Value :=
  match kind with
  | .principal => (Principal.ofArguments arguments).map Principal.toValue
  | .role => (Role.ofArguments arguments).map Role.toValue
  | .permission => (Permission.ofArguments arguments).map Permission.toValue
  | .policy => (Policy.ofArguments arguments).map Policy.toValue
  | .rule => (PolicyRule.ofArguments arguments).map PolicyRule.toValue
  | .entry => (AccessEntry.ofArguments arguments).map AccessEntry.toValue
  | .limits => (Limits.ofArguments arguments).map Limits.toValue
  | .attributes => (DecisionAttributes.ofArguments arguments).map DecisionAttributes.toValue

end Authorization.RecordKind
