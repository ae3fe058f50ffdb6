import Authorization.Proofs.Keyed
import Authorization.Proofs.Result
import Authorization.Proofs.Service.Run
import Authorization.Proofs.Value
import Authorization.Store.Column

/-!
# Finding records

A record is found under its identifier when it passes a test, as being of the right organization; one that
does not pass is as good as missing. What is found depends only on the records that pass.
-/

namespace Authorization

namespace Keyed

variable {α : Type} {ownKey : α → String} {entries others : Keyed String α} {test : α → Bool}
  {backend : Backend} {missing : Error} {id : Value} {record : α}

/-- The record of an identifier, if it passes a test. -/
def finding (backend : Backend) (missing : Error) (test : α → Bool) (entries : Keyed String α)
    (id : Value) : Except Error α := do
  match (← backend.identifier id).bind entries.get? |>.filter test with
  | some record => return record
  | none => throw missing

theorem finding_eq_ok (isFound : finding backend missing test entries id = .ok record) :
    record ∈ entries.values ∧ test record = true := by
  obtain ⟨known, _, isFound⟩ := Except.bind_eq_ok_iff.1 isFound
  rcases filtered : (known.bind entries.get?).filter test with _ | found
  · rw [filtered] at isFound
    cases isFound
  · rw [filtered] at isFound
    cases isFound
    obtain ⟨isStored, passes⟩ := Option.filter_eq_some_iff.1 filtered
    obtain ⟨key, _, isStored⟩ := Option.bind_eq_some_iff.1 isStored
    exact ⟨mem_values_of_get? isStored, passes⟩

/-- Two collections that hold the same of the records that pass find the same. -/
theorem Indexed.finding_eq (indexed : Indexed ownKey entries) (otherIndexed : Indexed ownKey others)
    (same : ∀ record, test record = true → (record ∈ entries.values ↔ record ∈ others.values)) :
    finding backend missing test entries id = finding backend missing test others id := by
  unfold finding
  rcases backend.identifier id with error | _ | known
  · rfl
  · rfl
  · rw [Except.ok_bind, Except.ok_bind, Option.bind_some, Option.bind_some,
      indexed.filter_get?_eq otherIndexed same]

end Keyed

namespace Service

variable {α : Type} {system : System}

/-- What is looked up is found when it passes a test. -/
theorem exec_finding {lookup : Service (Option α)} {next : Option α → Service α}
    {entries : Keyed String α} {backend : Backend} {missing : Error} {test : α → Bool} {id : Value}
    (run : exec lookup system = (do return (← backend.identifier id).bind entries.get?, system))
    (absent : exec (next none) system = (.error missing, system))
    (present : ∀ record, exec (next (some record)) system =
      (if test record then .ok record else .error missing, system)) :
    exec (lookup >>= next) system = (entries.finding backend missing test id, system) := by
  rw [exec_bind, run, Keyed.finding]
  rcases backend.identifier id with error | known
  · rfl
  · rw [Except.ok_bind, Except.ok_bind]
    dsimp only [pure, Except.pure]
    rcases known.bind entries.get? with _ | record
    · exact absent
    · rw [present, Option.filter_some]
      split
      · rfl
      · rfl

theorem exec_ofOrganization (record : α) (missing : Error) (given organization : String) :
    exec (if (Value.str given).equal (.str organization) then return record
      else throw missing) system =
      (if decide (organization = given) then .ok record else .error missing, system) := by
  rw [Value.str_equal_str]
  by_cases isHere : organization = given
  · rw [decide_eq_true isHere, decide_eq_true isHere.symm]
    rfl
  · rw [decide_eq_false isHere, decide_eq_false (Ne.symm isHere)]
    rfl

end Service

end Authorization
