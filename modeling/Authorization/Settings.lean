import Authorization.Script.Limits

/-!
# Settings

What a deployment may tune: the account roles that pass the gate of permissions unconditionally, and
the limits of script runs. Settings given as a mapping use names of their own; what is missing keeps
its default.
-/

namespace Authorization

namespace Limits

def setting (entries : List (Value × Value)) (name : String) (default : Value) : Value :=
  (Value.lookupText? entries name).getD default

/-- The entries of a value that settings are read from. -/
def settingEntries (raw : Value) : Except Error (List (Value × Value)) :=
  match raw.entries? with
  | some entries => .ok entries
  | none => fault .attribute ("'" ++ raw.kindName ++ "' object has no attribute 'get'")

/-- The limits of a mapping of settings. -/
def ofSettings (raw : Value) : Except Error Limits := do
  let entries ← settingEntries raw
  let default : Limits := {}
  ofValues (setting entries "MAX_STEPS" (.int default.maxSteps))
    (setting entries "MAX_SECONDS" default.maxSeconds)
    (setting entries "MAX_SEQUENCE_LENGTH" (.int default.maxSequenceLength))
    (setting entries "MAX_EXPONENT" (.int default.maxExponent))

end Limits

/-- The settings of a deployment. The limits are kept as they are given. -/
structure Settings where
  bypassRoles : List String := ["admin", "superadmin"]
  sandbox : Value := ({} : Limits).toValue

namespace Settings

def defaultRoles : Value :=
  .set true (({} : Settings).bypassRoles.map Value.str)

def rolesOf : List Value → Except Error (List String)
  | [] => .ok []
  | value :: rest =>
    match value.nonEmptyText? with
    | some role => (rolesOf rest).map (role :: ·)
    | none => .error (.inadmissible .bypassRoles)

def parameters : List Parameter :=
  [.optional "bypass_roles" defaultRoles, .optional "sandbox" ({} : Settings).sandbox]

/-- The settings of given fields. -/
def ofBindings (bindings : Bindings) : Except Error Settings := do
  let members ← (bindings.value "bypass_roles").toMembers
  return ⟨← rolesOf members, bindings.value "sandbox"⟩

/-- The settings of given arguments. -/
def ofArguments (arguments : Arguments) : Except Error Settings := do
  ofBindings (← arguments.bindTo parameters)

/-- The settings of a mapping. -/
def ofMapping (raw : Value) : Except Error Settings := do
  let entries ← Limits.settingEntries raw
  let members ← ((Value.lookupText? entries "BYPASS_ROLES").getD defaultRoles).toMembers
  let limits ← Limits.ofSettings ((Value.lookupText? entries "SANDBOX").getD (.dict []))
  return ⟨← rolesOf members, limits.toValue⟩

/-- The limits of script runs; the default ones where none are given. -/
def limits (settings : Settings) : Limits :=
  (Limits.ofValue? settings.sandbox).getD {}

/-- The settings as a mapping of names to values. -/
def fields (settings : Settings) : Bindings :=
  [("bypass_roles", .set true (settings.bypassRoles.map Value.str)), ("sandbox", settings.sandbox)]

end Settings

end Authorization
