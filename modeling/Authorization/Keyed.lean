/-!
# Entries under keys

A finite map as the list of its entries, in the order in which the keys were first put in. Putting an
entry in replaces the one under the same key, at its place.
-/

namespace Authorization

/-- Entries under keys. -/
abbrev Keyed (κ α : Type) := List (κ × α)

namespace Keyed

variable {κ α : Type} [DecidableEq κ]

/-- The entry under a key. -/
def get? (entries : Keyed κ α) (key : κ) : Option α :=
  (entries.find? fun entry => entry.1 = key).map Prod.snd

/-- There is an entry under a key. -/
def has (entries : Keyed κ α) (key : κ) : Bool :=
  (entries.get? key).isSome

/-- Puts an entry in. -/
def put (key : κ) (value : α) : Keyed κ α → Keyed κ α
  | [] => [(key, value)]
  | entry :: rest => if entry.1 = key then (key, value) :: rest else entry :: put key value rest

/-- Leaves out the entry under a key. -/
def erase (entries : Keyed κ α) (key : κ) : Keyed κ α :=
  entries.filter fun entry => entry.1 ≠ key

/-- The values of all entries. -/
def values (entries : Keyed κ α) : List α :=
  entries.map Prod.snd

@[simp]
theorem get?_nil (key : κ) : get? ([] : Keyed κ α) key = none :=
  rfl

theorem get?_put (entries : Keyed κ α) (key other : κ) (value : α) :
    get? (put key value entries) other = if other = key then some value else get? entries other := by
  induction entries with
  | nil => by_cases h : other = key <;> simp [put, get?, h, eq_comm]
  | cons entry rest ih =>
    by_cases same : entry.1 = key
    · by_cases h : other = key
      · simp [put, same, get?, h]
      · simp [put, same, get?, h, Ne.symm h]
    · by_cases here : entry.1 = other
      · have apart : ¬other = key := fun equal => same (here.trans equal)
        simp [put, get?, here, apart]
      · simp only [put, same, if_false]
        simpa [get?, here] using ih

theorem get?_erase (entries : Keyed κ α) (key other : κ) :
    get? (erase entries key) other = if other = key then none else get? entries other := by
  induction entries with
  | nil => simp [erase]
  | cons entry rest ih =>
    by_cases same : entry.1 = key <;> by_cases h : other = key <;>
      by_cases here : entry.1 = other <;>
      simp_all [erase, get?]

end Keyed

end Authorization
