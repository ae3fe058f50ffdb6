import Authorization.Proofs.Disclosure.Written
import Authorization.Value.Element

/-!
# Elements and attributes of what values disclose

An element of what a value discloses is what the element discloses, and so is an attribute whose name is
not concealed.
-/

namespace Authorization.Value

/-! ## Elements -/

theorem bound?_disclosed (value : Value) : bound? value.disclosed = bound? value := by
  cases value <;> rfl

theorem slicePositions_disclosed (length : Nat) (lower upper step : Value) :
    slicePositions length lower.disclosed upper.disclosed step.disclosed =
      slicePositions length lower upper step := by
  simp only [slicePositions, bound?_disclosed]

variable {α β : Type}

theorem itemAt_map (write : α → β) (kind : String) (items : List α) (position : Int) :
    itemAt kind (items.map write) position = (itemAt kind items position).map write := by
  simp only [itemAt, List.length_map, List.getElem?_map]
  generalize (if position < 0 then position + items.length else position) = place
  by_cases before : place < 0
  · rw [if_pos before, if_pos before]
    rfl
  · rw [if_neg before, if_neg before]
    cases items[place.toNat]? <;> rfl

theorem sliceOf_disclosed (write : α → β) (items : List α) (lower upper step : Value) :
    sliceOf (items.map write) lower.disclosed upper.disclosed step.disclosed =
      (sliceOf items lower upper step).map (List.map write) := by
  simp only [sliceOf, slicePositions_disclosed, List.length_map]
  cases slicePositions items.length lower upper step with
  | error error => rfl
  | ok positions =>
      have taken : positions.filterMap (fun position => (items.map write).toArray[position]?) =
          (positions.filterMap fun position => items.toArray[position]?).map write := by
        simp [List.map_filterMap]
      exact congrArg Except.ok taken

/-- The item of a sequence at a position, if the value that is given for one is a whole number. -/
def ofPosition (kind : String) (items : List α) (single : α → Value) (index : Value) :
    Except Error Value :=
  match index.asInt? with
  | some position => (itemAt kind items position).map single
  | none => fault .type (kind ++ " indices must be integers or slices, not " ++ index.kindName)

theorem ofPosition_disclosed (write : α → β) {single : α → Value} {other : β → Value}
    (one : ∀ item, other (write item) = (single item).disclosed)
    (kind : String) (items : List α) (index : Value) :
    ofPosition kind (items.map write) other index.disclosed =
      (ofPosition kind items single index).map disclosed := by
  unfold ofPosition
  rw [asInt?_disclosed, kindName_disclosed]
  cases index.asInt? with
  | none => rfl
  | some position =>
      simp only [itemAt_map]
      cases itemAt kind items position with
      | error error => rfl
      | ok item => exact congrArg Except.ok (one item)

theorem ofSequence_disclosed (write : α → β) {single : α → Value} {other : β → Value}
    {several : List α → Value} {others : List β → Value}
    (one : ∀ item, other (write item) = (single item).disclosed)
    (more : ∀ items : List α, others (items.map write) = (several items).disclosed)
    (kind : String) (items : List α) (index : Value) :
    ofSequence kind (items.map write) other others index.disclosed =
      (ofSequence kind items single several index).map disclosed := by
  have atPosition := ofPosition_disclosed write one kind items index
  cases index with
  | slice lower upper step =>
      rw [disclosed_slice]
      simp only [ofSequence, sliceOf_disclosed]
      cases sliceOf items lower upper step with
      | error error => rfl
      | ok found => exact congrArg Except.ok (more found)
  | _ => exact atPosition

theorem missingKey_disclosed (key : Value) : key.disclosed.missingKey = key.missingKey := by
  simp only [missingKey, holdsLongInt_disclosed, written_disclosed]

theorem entryAt_disclosed (entries : List (Value × Value)) (key : Value) :
    entryAt (entries.map disclosedEntry) key.disclosed = (entryAt entries key).map disclosed := by
  simp only [entryAt, hashable_disclosed, unhashable_disclosed, lookup?_disclosed,
    missingKey_disclosed]
  split
  · rfl
  · cases lookup? entries key <;> rfl

theorem element_disclosed (base index : Value) :
    base.disclosed.element index.disclosed = (base.element index).map disclosed := by
  cases base with
  | dict entries => simp only [disclosed_dict, element, entryAt_disclosed]
  | proxy entries => simp only [disclosed_proxy, element, entryAt_disclosed]
  | str content =>
      let single (c : Char) : Value := .str (String.singleton c)
      let several (chars : List Char) : Value := .str (String.ofList chars)
      have one (c : Char) : single (id c) = (single c).disclosed := rfl
      have more (chars : List Char) : several (chars.map id) = (several chars).disclosed := by
        rw [List.map_id]
        rfl
      have whole := ofSequence_disclosed id one more "string" content.toList index
      rwa [List.map_id] at whole
  | list elements =>
      rw [disclosed_list]
      have one (item : Value) : id item.disclosed = (id item).disclosed := rfl
      have more (items : List Value) :
      Value.list (items.map disclosed) = (Value.list items).disclosed :=
        (disclosed_list items).symm
      exact ofSequence_disclosed disclosed one more "list" elements index
  | tuple elements =>
      rw [disclosed_tuple]
      have one (item : Value) : id item.disclosed = (id item).disclosed := rfl
      have more (items : List Value) :
          Value.tuple (items.map disclosed) = (Value.tuple items).disclosed :=
        (disclosed_tuple items).symm
      exact ofSequence_disclosed disclosed one more "tuple" elements index
  | view kind entries => cases kind <;> rfl
  | _ => rfl

/-! ## Attributes -/

theorem lookup_disclosedField (fields : List (String × Value)) (name : String) :
    (fields.map disclosedField).lookup name = (fields.lookup name).map disclosed := by
  induction fields with
  | nil => rfl
  | cons field rest inductionHypothesis =>
      obtain ⟨other, value⟩ := field
      simp only [List.map_cons, disclosedField, List.lookup_cons]
      cases name == other with
      | true => rfl
      | false => exact inductionHypothesis

/-- An object keeps the attributes that are not concealed. -/
theorem lookup_disclosedAttributes (attributes : List (String × Value)) {name : String}
    (isOpen : isConcealed name = false) :
    (disclosedAttributes attributes).lookup name = (attributes.lookup name).map disclosed := by
  induction attributes with
  | nil => rfl
  | cons first rest inductionHypothesis =>
      obtain ⟨other, value⟩ := first
      rw [disclosedAttributes, List.lookup_cons]
      by_cases same : name = other
      · subst same
        simp [isOpen]
      · have differs : (name == other) = false := beq_eq_false_iff_ne.2 same
        rw [differs]
        split
        · exact inductionHypothesis
        · rw [List.lookup_cons, differs]
          exact inductionHypothesis

theorem operations_disclosed (value : Value) : value.disclosed.operations = value.operations := by
  cases value with
  | set frozen members => cases frozen <;> rfl
  | view kind entries => cases kind <;> rfl
  | _ => rfl

/-- Apart from objects, a value has the same properties as what it discloses. -/
theorem properties_disclosed {value : Value}
    (notObject : ∀ tag attributes, value ≠ .object tag attributes) :
    value.disclosed.properties = value.properties.map disclosedField := by
  cases value with
  | object tag attributes => exact absurd rfl (notObject tag attributes)
  | record kind fields =>
      rw [disclosed_record]
      cases kind with
      | permission =>
          have wildcard : ((fields.map disclosedField).lookup "action").any (equal (.str wildcardAction)) =
              (fields.lookup "action").any (equal (.str wildcardAction)) := by
            rw [lookup_disclosedField, Option.any_map]
            exact congrArg (fun test => Option.any test (fields.lookup "action"))
              (funext fun action => equal_disclosed (.str wildcardAction) action)
          simp only [properties, wildcard, List.map_append, List.map_cons, List.map_nil]
          rfl
      | _ => rfl
  | view kind entries =>
      rw [disclosed_view]
      simp [properties, disclosedField]
  | instant time =>
      cases offset : time.offset with
      | none => simp [properties, disclosed, disclosedField, offset]
      | some distance => simp [properties, disclosed, disclosedField, offset]
  | _ => rfl

theorem lookup_properties_disclosed (value : Value) {name : String}
    (isOpen : isConcealed name = false) :
    value.disclosed.properties.lookup name = (value.properties.lookup name).map disclosed := by
  by_cases isObject : ∃ tag attributes, value = .object tag attributes
  · obtain ⟨tag, attributes, rfl⟩ := isObject
    rw [disclosed_object]
    exact lookup_disclosedAttributes attributes isOpen
  · rw [properties_disclosed fun tag attributes same => isObject ⟨tag, attributes, same⟩,
      lookup_disclosedField]

/-- An attribute of what a value discloses is what the attribute discloses. -/
theorem attribute?_disclosed (value : Value) {name : String} (isOpen : isConcealed name = false) :
    value.disclosed.attribute? name = (value.attribute? name).map disclosed := by
  unfold attribute?
  rw [lookup_properties_disclosed value isOpen, operations_disclosed]
  cases value.properties.lookup name with
  | some found => rfl
  | none =>
      simp only [Option.map_none]
      split <;> rfl

end Authorization.Value
