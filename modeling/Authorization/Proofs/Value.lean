import Authorization.Proofs.Text.Uuid
import Authorization.Record.Arguments
import Authorization.Store.Column

/-!
# Texts among values

Only a text equals a text, and nothing but nothing equals nothing. Identifiers, keys and organizations
are texts, so that comparing values with them comes down to the texts themselves.
-/

namespace Authorization

namespace Value

theorem equal_str_iff (value : Value) (text : String) :
    value.equal (.str text) = true ↔ value = .str text := by
  cases value with
  | view kind entries =>
      cases kind <;> simp [equal, equal?, setMembers?, numbersEqual, complexParts?, isReal]
  | _ => simp [equal, equal?, setMembers?, entries?, numbersEqual, complexParts?, isReal]

theorem equal_null_iff (value : Value) : value.equal .null = true ↔ value = .null := by
  cases value with
  | view kind entries =>
      cases kind <;> simp [equal, equal?, setMembers?, numbersEqual, complexParts?, isReal]
  | _ => simp [equal, equal?, setMembers?, entries?, numbersEqual, complexParts?, isReal]

@[simp]
theorem str_equal_str (left right : String) :
    (Value.str left).equal (.str right) = decide (left = right) := by
  rw [Bool.eq_iff_iff, equal_str_iff, decide_eq_true_iff, Value.str.injEq]

@[simp]
theorem text_str (text : String) : (Value.str text).text = text :=
  rfl

@[simp]
theorem hashable_str (text : String) : (Value.str text).hashable = true :=
  rfl

@[simp]
theorem text?_str (text : String) : (Value.str text).text? = some text :=
  rfl

/-- Only a text that is not empty is taken where one is needed. -/
theorem nonEmptyText_eq_ok_iff {field text : String} {value : Value} :
    value.nonEmptyText field = .ok text ↔ value = .str text ∧ text.isEmpty = false := by
  cases value with
  | str given =>
      by_cases empty : given.isEmpty = true
      · have read : (Value.str given).nonEmptyText? = none := if_pos empty
        rw [nonEmptyText, read]
        simp only [reduceCtorEq, Value.str.injEq, false_iff]
        rintro ⟨rfl, notEmpty⟩
        rw [empty] at notEmpty
        cases notEmpty
      · have read : (Value.str given).nonEmptyText? = some given := if_neg empty
        rw [nonEmptyText, read]
        simp only [Except.ok.injEq, Value.str.injEq]
        exact ⟨fun equality => ⟨equality, equality ▸ Bool.eq_false_iff.2 empty⟩, And.left⟩
  | _ => simp [nonEmptyText, nonEmptyText?]

end Value

namespace Backend

@[simp]
theorem matchesText_str (backend : Backend) (kept wanted : String) :
    backend.matchesText kept (.str wanted) = decide (kept = wanted) := by
  cases backend with
  | memory => rw [matchesText, Value.str_equal_str, decide_eq_decide, eq_comm]
  | tables =>
      rw [matchesText, Value.text_str, Bool.eq_iff_iff, beq_iff_eq, decide_eq_true_iff, eq_comm]
      intro impossible
      cases impossible

/-- A value asks for one text. -/
theorem matchesText_unique {backend : Backend} {kept other : String} {wanted : Value}
    (isWanted : backend.matchesText kept wanted = true)
    (otherIsWanted : backend.matchesText other wanted = true) : kept = other := by
  cases backend with
  | memory =>
      have same := ((Value.equal_str_iff wanted kept).1 isWanted).symm.trans
        ((Value.equal_str_iff wanted other).1 otherIsWanted)
      exact Value.str.inj same
  | tables =>
      have isText {text : String} (isWanted : matchesText .tables text wanted = true) :
          wanted.text = text := by
        cases wanted with
        | null => cases isWanted
        | _ => exact beq_iff_eq.1 isWanted
      rw [← isText isWanted, isText otherIsWanted]

theorem identifier_str (backend : Backend) (text : String) :
    backend.identifier (.str text) =
      .ok (match backend with
        | .memory => some text
        | .tables => Text.Uuid.canonical? text) := by
  cases backend with
  | memory => rfl
  | tables => rw [identifier, Value.text?_str, Option.bind_some]

/-- The identifier that a text stands for. -/
def named? (backend : Backend) (given : String) : Option String :=
  match backend with
  | .memory => some given
  | .tables => Text.Uuid.canonical? given

theorem identifier_eq_named? (backend : Backend) (given : String) :
    backend.identifier (.str given) = .ok (backend.named? given) :=
  backend.identifier_str given

/-- A text is the identifier under which a store keeps a record. -/
def Keeps (backend : Backend) (id : String) : Prop :=
  backend.identifier (.str id) = .ok (some id)

theorem Keeps.identifier {backend : Backend} {id : String} (keeps : backend.Keeps id) :
    backend.identifier (.str id) = .ok (some id) :=
  keeps

theorem Keeps.eq {backend : Backend} {id known : String} (keeps : backend.Keeps id)
    (identified : backend.identifier (.str id) = .ok (some known)) : known = id :=
  Option.some.inj (Except.ok.inj (identified.symm.trans keeps))

theorem keeps_of_memory (id : String) : Keeps .memory id :=
  rfl

/-- An identifier that a value stands for stands for itself. -/
theorem keeps_of_identifier {backend : Backend} {value : Value} {id : String}
    (stands : backend.identifier value = .ok (some id)) : backend.Keeps id := by
  cases backend with
  | memory => exact keeps_of_memory id
  | tables =>
      rw [identifier, Except.ok.injEq] at stands
      obtain ⟨spelling, _, isCanonical⟩ := Option.bind_eq_some_iff.1 stands
      rw [Keeps, identifier_str]
      exact congrArg Except.ok (Text.Uuid.canonical?_idempotent isCanonical)

end Backend

end Authorization
