import Authorization.Proofs.Result
import Authorization.Proofs.Store.Document
import Authorization.Proofs.Value
import Authorization.Store.Policy

/-!
# Plain records

A column keeps a value that is already of its kind as it is. A record is plain when its fields are of the
kinds of their columns. What a store keeps of a plain record is the record itself, in memory and in tables:
a value that a document can hold is its own document.
-/

namespace Authorization

namespace Column

@[simp]
theorem text_str (given : String) : text (.str given) = .ok (.str given) := by
  rfl

/-- Texts can be written when no half of a pair stands alone in them. -/
theorem encoded_eq_ok_iff {values : List Value} :
    encoded values = .ok () ↔ ∀ text, Value.str text ∈ values → Text.holdsHalf text = false := by
  have isBroken : (values.any fun value => value.asStr?.any Text.holdsHalf) = true ↔
      ∃ text, Value.str text ∈ values ∧ Text.holdsHalf text = true := by
    rw [List.any_eq_true]
    constructor
    · rintro ⟨value, member, holds⟩
      cases value with
      | str text => exact ⟨text, member, holds⟩
      | _ => cases holds
    · rintro ⟨text, member, holds⟩
      exact ⟨.str text, member, holds⟩
  unfold encoded
  split
  · rename_i broken
    obtain ⟨text, member, holds⟩ := isBroken.1 broken
    exact ⟨nofun, fun whole => nomatch (whole text member).symm.trans holds⟩
  · rename_i notBroken
    refine ⟨fun _ text member => Bool.eq_false_iff.2 fun holds => ?_, fun _ => rfl⟩
    exact notBroken (isBroken.2 ⟨text, member, holds⟩)

/-- Columns of texts can be asked for texts that can be written, and for nothing. -/
theorem asked_texts {texts : List (Option String)}
    (whole : ∀ text, some text ∈ texts → Text.holdsHalf text = false) :
    asked (texts.map Value.ofOption) = .ok () := by
  have converted : (texts.map Value.ofOption).mapM text = .ok (texts.map Value.ofOption) := by
    induction texts with
    | nil => rfl
    | cons first rest inductionHypothesis =>
        have here : text (.ofOption first) = .ok (.ofOption first) := by
          cases first <;> rfl
        rw [List.map_cons, List.mapM_cons, here, Except.ok_bind,
          inductionHypothesis fun text member => whole text (.tail _ member)]
        rfl
  rw [asked, converted, Except.ok_bind, encoded_eq_ok_iff]
  intro text member
  obtain ⟨given, isGiven, same⟩ := List.mem_map.1 member
  cases given with
  | none => cases same
  | some given =>
      cases same
      exact whole text isGiven

@[simp]
theorem flag_bool (given : Bool) : flag (.bool given) = .ok (.bool given) := by
  have notNull : (Value.bool given).equal .null = false := by
    rw [Bool.eq_false_iff, ne_eq, Value.equal_null_iff]
    nofun
  have notText (text : String) : (Value.bool given).equal (.str text) = false := by
    rw [Bool.eq_false_iff, ne_eq, Value.equal_str_iff]
    nofun
  have sameFlag (flag : Bool) : (Value.bool given).equal (.bool flag) = (given == flag) := by
    cases given <;> cases flag <;>
      simp [Value.equal, Value.equal?, Value.numbersEqual, Value.complexParts?] <;> decide
  unfold flag
  cases given <;> simp [notNull, notText, sameFlag]

@[simp]
theorem required_bool (given : Bool) : required (.bool given) = .ok (.bool given) :=
  rfl

end Column

/-- Either backend can be asked for texts that can be written, and for nothing. -/
theorem Backend.asks_texts (backend : Backend) {texts : List (Option String)}
    (whole : ∀ text, some text ∈ texts → Text.holdsHalf text = false) :
    backend.asks (texts.map Value.ofOption) = .ok () := by
  cases backend with
  | memory => rfl
  | tables => exact Column.asked_texts whole

/-- A policy is kept as it is when its texts can be written, and its description and its flag are of the
kinds of their columns. -/
theorem PolicyStore.kept_eq_self (store : PolicyStore) {policy : Policy}
    (isText : Column.text policy.description = .ok policy.description)
    (isWhole : Column.encoded [.str policy.organization, .str policy.key, .str policy.name,
      policy.description] = .ok ()) {active : Bool}
    (isFlag : policy.active = .bool active) : store.kept policy = .ok policy := by
  unfold kept
  cases store.backend with
  | memory => rfl
  | tables =>
      dsimp only
      rw [isText, isFlag, Except.ok_bind, Column.flag_bool, Except.ok_bind, isWhole, Except.ok_bind,
        Column.required_bool, Except.ok_bind]
      exact congrArg Except.ok (congrArg (fun active => { policy with active }) isFlag.symm)

end Authorization

/-! ## What stores keep of plain records -/

namespace Authorization

namespace Value

/-- A value of the kinds that a document holds: nothing, truth values, texts, finite numbers, and lists and
mappings of such values, where the keys of a mapping are texts. -/
inductive Native : Value → Prop
  | null : Native .null
  | bool (flag : Bool) : Native (.bool flag)
  | int (number : Int) : Native (.int number)
  | float {number : Float} (isFinite : number.isFinite = true) : Native (.float number)
  | str (text : String) : Native (.str text)
  | list {items : List Value} (each : ∀ item ∈ items, Native item) : Native (.list items)
  | dict {entries : List (Value × Value)}
      (areTexts : ∀ entry ∈ entries, ∃ name, entry.1 = .str name)
      (apart : KeysApart entries) (each : ∀ entry ∈ entries, Native entry.2) : Native (.dict entries)

theorem holdsPartItems_eq_false_iff {test : Value → Bool} {items : List Value} :
    holdsPartItems test items = false ↔ ∀ item ∈ items, item.holdsPart test = false := by
  induction items with
  | nil => simp [holdsPartItems]
  | cons item rest inductionHypothesis => simp [holdsPartItems, inductionHypothesis]

theorem holdsPartEntries_eq_false_iff {test : Value → Bool} {entries : List (Value × Value)} :
    holdsPartEntries test entries = false ↔
      ∀ entry ∈ entries, entry.1.holdsPart test = false ∧ entry.2.holdsPart test = false := by
  induction entries with
  | nil => simp [holdsPartEntries]
  | cons entry rest inductionHypothesis => simp [holdsPartEntries, inductionHypothesis]

theorem KeysApart.of_append {entries found : List (Value × Value)} {name : String} {value : Value}
    (apart : KeysApart (found ++ (.str name, value) :: entries)) : name ∉ keyTexts found := by
  rw [KeysApart, keyTexts, List.filterMap_append, List.nodup_append] at apart
  intro member
  refine apart.2.2 name member name ?_ rfl
  exact List.mem_cons_self

/-- Under a new text a value is stored at the end. -/
theorem store_of_not_mem {entries : List (Value × Value)} {name : String}
    (absent : name ∉ keyTexts entries) (value : Value) :
    store (.str name) value entries = entries ++ [(.str name, value)] := by
  induction entries with
  | nil => rfl
  | cons entry rest inductionHypothesis =>
      have isOther : ¬entry.1.equal (.str name) = true := by
        intro same
        have isName := (equal_str_iff _ _).1 same
        exact absent (mem_keyTexts.2 ⟨entry.2, isName ▸ .head _⟩)
      have restAbsent : name ∉ keyTexts rest := by
        intro member
        obtain ⟨content, isThere⟩ := mem_keyTexts.1 member
        exact absent (mem_keyTexts.2 ⟨content, .tail _ isThere⟩)
      rw [store, if_neg isOther, inductionHypothesis restAbsent, List.cons_append]

end Value

/-! ### Documents of native values -/

namespace Column

theorem documentItems_eq_self {items : List Value} (each : ∀ item ∈ items, document item = .ok item) :
    documentItems items = .ok items := by
  induction items with
  | nil => rfl
  | cons item rest inductionHypothesis =>
      obtain ⟨here, others⟩ := List.forall_mem_cons.1 each
      rw [documentItems, here, Except.ok_bind, inductionHypothesis others]
      rfl

theorem documentEntries_eq_append {entries found : List (Value × Value)}
    (areTexts : ∀ entry ∈ entries, ∃ name, entry.1 = .str name)
    (apart : Value.KeysApart (found ++ entries))
    (each : ∀ entry ∈ entries, document entry.2 = .ok entry.2) :
    documentEntries entries found = .ok (found ++ entries) := by
  induction entries generalizing found with
  | nil =>
      rw [List.append_nil]
      rfl
  | cons entry rest inductionHypothesis =>
      obtain ⟨key, value⟩ := entry
      obtain ⟨⟨name, isName⟩, restTexts⟩ := List.forall_mem_cons.1 areTexts
      obtain ⟨here, others⟩ := List.forall_mem_cons.1 each
      obtain rfl : key = .str name := isName
      have grown : found ++ (.str name, value) :: rest = (found ++ [(.str name, value)]) ++ rest :=
        (List.append_assoc found [(.str name, value)] rest).symm
      have isStored := Value.store_of_not_mem apart.of_append value
      rw [grown] at apart ⊢
      rw [documentEntries, documentKey, Except.ok_bind, here, Except.ok_bind, isStored]
      exact inductionHypothesis restTexts apart others

/-- A native value that can be written is its own document. -/
theorem document_eq_self {value : Value} (native : value.Native) (isShort : value.holdsLongInt = false) :
    document value = .ok value := by
  induction native with
  | null | bool | float | str => rfl
  | int number =>
      rw [document, Value.toText, Value.text?, isShort]
      rfl
  | @list items each areDocuments =>
      have areShort := Value.holdsPartItems_eq_false_iff.1 isShort
      rw [document, documentItems_eq_self fun item member =>
        areDocuments item member (areShort item member)]
      rfl
  | @dict entries areTexts apart each areDocuments =>
      have areShort := Value.holdsPartEntries_eq_false_iff.1 isShort
      rw [document, @documentEntries_eq_append entries [] areTexts apart fun entry member =>
        areDocuments entry member (areShort entry member).2]
      rfl

theorem areFinite_of_each {items : List Value} (each : ∀ item ∈ items, isFinite item = true) :
    areFinite items = true := by
  induction items with
  | nil => rfl
  | cons item rest inductionHypothesis =>
      obtain ⟨here, others⟩ := List.forall_mem_cons.1 each
      rw [areFinite, here, Bool.true_and]
      exact inductionHypothesis others

theorem entriesAreFinite_of_each {entries : List (Value × Value)}
    (each : ∀ entry ∈ entries, isFinite entry.2 = true) : entriesAreFinite entries = true := by
  induction entries with
  | nil => rfl
  | cons entry rest inductionHypothesis =>
      obtain ⟨here, others⟩ := List.forall_mem_cons.1 each
      rw [entriesAreFinite, here, Bool.true_and]
      exact inductionHypothesis others

theorem isFinite_of_native {value : Value} (native : value.Native) : isFinite value = true := by
  induction native with
  | null | bool | int | str => rfl
  | float isFinite => exact isFinite
  | list each areAllFinite => exact areFinite_of_each areAllFinite
  | dict areTexts apart each areAllFinite => exact entriesAreFinite_of_each areAllFinite

end Column

/-! ### Records -/

/-- A policy with fields of the kinds of their columns, and texts that can be written. -/
structure Policy.Plain (policy : Policy) : Prop where
  keeps : Backend.tables.Keeps policy.id
  whole : ∀ text, .str text ∈ [Value.str policy.organization, .str policy.key, .str policy.name,
    policy.description] → Text.holdsHalf text = false
  isText : ∃ text, policy.description = .str text
  isFlag : ∃ flag, policy.active = .bool flag

/-- A rule with fields of the kinds of their columns, and texts that can be written. -/
structure PolicyRule.Typed (rule : PolicyRule) : Prop where
  keeps : Backend.tables.Keeps rule.id
  keepsPolicy : Backend.tables.Keeps rule.policyId
  whole : ∀ text, .str text ∈ [Value.str rule.name, rule.description, .str rule.type] →
    Text.holdsHalf text = false
  isText : ∃ text? : Option String, rule.description = Value.ofOption text?
  isFlag : ∃ flag, rule.active = .bool flag
  inColumn : -Column.maxInteger - 1 ≤ rule.order ∧ rule.order ≤ Column.maxInteger
  isNative : ∃ entries, rule.config = .proxy entries ∧ (Value.dict entries).Native

/-- A rule with fields of the kinds of their columns all of which can be written: no integer in its
configuration has more than 4300 digits. -/
structure PolicyRule.Plain (rule : PolicyRule) : Prop extends rule.Typed where
  isShort : rule.configCopy.holdsLongInt = false

namespace PolicyStore

variable (store : PolicyStore)

theorem kept_of_plain {policy : Policy} (plain : policy.Plain) : store.kept policy = .ok policy := by
  obtain ⟨text, isText⟩ := plain.isText
  obtain ⟨flag, isFlag⟩ := plain.isFlag
  refine store.kept_eq_self ?_ (Column.encoded_eq_ok_iff.2 plain.whole) isFlag
  rw [isText, Column.text_str]

/-- A plain rule is kept as it is. -/
theorem keptRule_of_plain {rule : PolicyRule} (plain : rule.Plain) :
    store.keptRule rule = .ok rule := by
  obtain ⟨text?, isText⟩ := plain.isText
  obtain ⟨flag, isFlag⟩ := plain.isFlag
  obtain ⟨entries, isMapping, native⟩ := plain.isNative
  have described : Column.text rule.description = .ok rule.description := by
    rw [isText]
    cases text? <;> rfl
  have copied : rule.configCopy = .dict entries := by
    rw [PolicyRule.configCopy, isMapping]
    rfl
  have isShort : (Value.dict entries).holdsLongInt = false := copied ▸ plain.isShort
  have inColumn : Column.integer rule.order = .ok rule.order := if_pos plain.inColumn
  have isFinite : Column.finite (.dict entries) = .ok (.dict entries) :=
    if_pos (Column.isFinite_of_native native)
  unfold keptRule
  cases store.backend with
  | memory => rfl
  | tables =>
      dsimp only
      rw [described, Except.ok_bind, copied, Column.document_eq_self native isShort, Except.ok_bind, isFlag,
        Column.flag_bool, Except.ok_bind, Column.encoded_eq_ok_iff.2 plain.whole, Except.ok_bind,
        inColumn, Except.ok_bind, Column.required_bool, Except.ok_bind, isFinite, Except.ok_bind]
      have same : { rule with active := .bool flag, config := .proxy entries } = rule := by
        rw [← isFlag, ← isMapping]
      exact congrArg Except.ok same

end PolicyStore

end Authorization
