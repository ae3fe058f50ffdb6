import Authorization.Error.Basic
import Authorization.Proofs.Disclosure.Value
import Authorization.Value.Order
import Mathlib.Data.List.InsertIdx

/-!
# Equality of what values disclose

Objects are equal when they are one object, whatever attributes they have, so that two values are equal
exactly when what they disclose is. The same goes for keys and members.
-/

namespace Authorization.Value

/-! ## Numbers and sets -/

theorem isReal_disclosed (value : Value) : value.disclosed.isReal = value.isReal := by
  cases value <;> rfl

theorem compareNumbers?_disclosed (a b : Value) :
    compareNumbers? a.disclosed b.disclosed = compareNumbers? a b := by
  cases a <;> first | rfl | (cases b <;> rfl)

theorem setMembers?_disclosed (value : Value) :
    value.disclosed.setMembers? = value.setMembers?.map (List.map disclosed) := by
  cases value with
  | view kind entries => cases kind <;> simp [setMembers?, disclosedEntry, Function.comp_def]
  | _ => simp [setMembers?, disclosed, disclosedItems_eq]

theorem isItemView_disclosed (value : Value) : value.disclosed.isItemView = value.isItemView := by
  cases value with
  | view kind entries => cases kind <;> rfl
  | _ => rfl

/-! ## Hashable values -/

mutual

theorem hashable_disclosed (value : Value) : value.disclosed.hashable = value.hashable := by
  cases value with
  | tuple items => simp [hashable, hashableItems_disclosed items]
  | record kind fields => simp [hashable, hashableFields_disclosed fields]
  | _ => simp [hashable, disclosed]

theorem hashableItems_disclosed (items : List Value) :
    hashableItems (items.map disclosed) = hashableItems items := by
  cases items with
  | nil => rfl
  | cons item rest =>
      simp [hashableItems, hashable_disclosed item, hashableItems_disclosed rest]

theorem hashableFields_disclosed (fields : List (String × Value)) :
    hashableFields (fields.map disclosedField) = hashableFields fields := by
  cases fields with
  | nil => rfl
  | cons field rest =>
      obtain ⟨name, value⟩ := field
      simp [hashableFields, disclosedField, hashable_disclosed value, hashableFields_disclosed rest]

end

/-! ## Equality -/

theorem anyOf_map {α β : Type} (write : α → β) (values : List α) (test : β → Option Bool) :
    anyOf (values.map write) test = anyOf values fun value => test (write value) := by
  rw [anyOf, List.foldl_map, anyOf]

mutual

/-- Values are equal exactly when what they disclose is. -/
theorem equal?_disclosed (a b : Value) : equal? a.disclosed b.disclosed = equal? a b := by
  have members := setMembers?_disclosed b
  have others := entries?_disclosed b
  rw [equal?.eq_def a.disclosed, equal?.eq_def a]
  cases a with
  | list as =>
      cases b with
      | list bs => simp only [disclosed_list, List.length_map, equalItems?_disclosed as bs]
      | _ => rfl
  | tuple as =>
      cases b with
      | tuple bs => simp only [disclosed_tuple, equalItems?_disclosed as bs]
      | _ => rfl
  | set frozen as =>
      -- A set is compared to the members of the other side, but to the pairs of an item view.
      have amongMembers :
          (match b.disclosed.setMembers? with
            | some found =>
              if (as.map disclosed).length = found.length then areAmong? (as.map disclosed) found
              else some false
            | none => some false) =
            match b.setMembers? with
            | some found => if as.length = found.length then areAmong? as found else some false
            | none => some false := by
        rw [members]
        cases b.setMembers? with
        | none => rfl
        | some found => simp only [Option.map_some, List.length_map, areAmong?_disclosed as found]
      rw [disclosed_set]
      cases b with
      | view kind entries =>
          cases kind with
          | items =>
              have pair (entry : Value × Value) :
                  Value.tuple [entry.1.disclosed, entry.2.disclosed] =
                    (Value.tuple [entry.1, entry.2]).disclosed := by
                rw [disclosed_tuple, List.map_cons, List.map_cons, List.map_nil]
              simp only [disclosed_view, List.length_map, List.foldl_map, disclosedEntry,
                hashable_disclosed, pair, isAmong?_disclosed as]
          | keys => exact amongMembers
          | values => exact amongMembers
      | _ => exact amongMembers
  | view kind entries =>
      rw [disclosed_view]
      cases kind with
      | keys =>
          simp only [members]
          cases b.setMembers? with
          | none => rfl
          | some found => simp only [Option.map_some, List.length_map, keysAmong?_disclosed entries found]
      | items =>
          simp only [members, isItemView_disclosed]
          cases b.setMembers? with
          | none => rfl
          | some found =>
              simp only [Option.map_some, List.length_map, pairsAmong?_disclosed _ entries found]
      | values => cases b <;> rfl
  | dict entries =>
      simp only [disclosed_dict, others]
      cases b.entries? with
      | none => rfl
      | some found =>
          simp only [Option.map_some, List.length_map, entriesAmong?_disclosed entries found]
  | proxy entries =>
      simp only [disclosed_proxy, others]
      cases b.entries? with
      | none => rfl
      | some found =>
          simp only [Option.map_some, List.length_map, entriesAmong?_disclosed entries found]
  | slice lower upper step =>
      cases b with
      | slice lower' upper' step' =>
          simp only [disclosed_slice, equal?_disclosed lower, equal?_disclosed upper,
            equal?_disclosed step]
      | _ => rfl
  | record kind fields =>
      cases b with
      | record kind' fields' => simp only [disclosed_record, equalFields?_disclosed fields fields']
      | _ => rfl
  | _ => cases b <;> rfl
termination_by structural a

theorem equalItems?_disclosed (as bs : List Value) :
    equalItems? (as.map disclosed) (bs.map disclosed) = equalItems? as bs := by
  cases as with
  | nil => cases bs <;> simp [equalItems?]
  | cons a as =>
      cases bs with
      | nil => simp [equalItems?]
      | cons b bs => simp [equalItems?, equal?_disclosed a b, equalItems?_disclosed as bs]
termination_by structural as

theorem isAmong?_disclosed (as : List Value) (b : Value) :
    isAmong? (as.map disclosed) b.disclosed = isAmong? as b := by
  cases as with
  | nil => simp [isAmong?]
  | cons a as => simp [isAmong?, equal?_disclosed a b, isAmong?_disclosed as b]
termination_by structural as

theorem areAmong?_disclosed (as bs : List Value) :
    areAmong? (as.map disclosed) (bs.map disclosed) = areAmong? as bs := by
  cases as with
  | nil => simp [areAmong?]
  | cons a as => simp [areAmong?, anyOf_map, equal?_disclosed a, areAmong?_disclosed as bs]
termination_by structural as

theorem keysAmong?_disclosed (entries : List (Value × Value)) (bs : List Value) :
    keysAmong? (entries.map disclosedEntry) (bs.map disclosed) = keysAmong? entries bs := by
  cases entries with
  | nil => simp [keysAmong?]
  | cons entry rest =>
      obtain ⟨key, value⟩ := entry
      simp [keysAmong?, disclosedEntry, anyOf_map, equal?_disclosed key, keysAmong?_disclosed rest bs]
termination_by structural entries

theorem pairsAmong?_disclosed (amongItems : Bool) (entries : List (Value × Value))
    (bs : List Value) :
    pairsAmong? amongItems (entries.map disclosedEntry) (bs.map disclosed) =
      pairsAmong? amongItems entries bs := by
  cases entries with
  | nil => simp [pairsAmong?]
  | cons entry rest =>
      obtain ⟨key, value⟩ := entry
      have found : ∀ b : Value,
          (match b.disclosed with
            | .tuple [key', value'] =>
              also (equal? key.disclosed key') fun _ => equal? value.disclosed value'
            | _ => some false) =
            match b with
            | .tuple [key', value'] => also (equal? key key') fun _ => equal? value value'
            | _ => some false := by
        intro b
        cases b with
        | tuple items =>
            match items with
            | [] | [_] => rfl
            | [first, second] => simp [equal?_disclosed key, equal?_disclosed value]
            | _ :: _ :: _ :: _ => rfl
        | _ => rfl
      simp only [List.map_cons, disclosedEntry, pairsAmong?, anyOf_map, hashable_disclosed,
        pairsAmong?_disclosed amongItems rest bs]
      exact congrArg (fun test => if !amongItems && !value.hashable then none
        else also (anyOf bs test) fun _ => pairsAmong? amongItems rest bs) (funext found)
termination_by structural entries

theorem entriesAmong?_disclosed (entries others : List (Value × Value)) :
    entriesAmong? (entries.map disclosedEntry) (others.map disclosedEntry) =
      entriesAmong? entries others := by
  cases entries with
  | nil => simp [entriesAmong?]
  | cons entry rest =>
      obtain ⟨key, value⟩ := entry
      simp [entriesAmong?, disclosedEntry, anyOf_map, equal?_disclosed key, equal?_disclosed value,
        entriesAmong?_disclosed rest others]
termination_by structural entries

theorem equalFields?_disclosed (as bs : List (String × Value)) :
    equalFields? (as.map disclosedField) (bs.map disclosedField) = equalFields? as bs := by
  cases as with
  | nil => cases bs <;> simp [equalFields?]
  | cons a as =>
      obtain ⟨name, a⟩ := a
      cases bs with
      | nil => simp [equalFields?]
      | cons b bs =>
          obtain ⟨other, b⟩ := b
          simp [equalFields?, disclosedField, equal?_disclosed a b, equalFields?_disclosed as bs]
termination_by structural as

end

theorem equal_disclosed (a b : Value) : equal a.disclosed b.disclosed = equal a b := by
  rw [equal, equal?_disclosed, equal]

theorem any_equal_disclosed (members : List Value) (item : Value) :
    (members.map disclosed).any (equal item.disclosed) = members.any (equal item) := by
  simp [Function.comp_def, equal_disclosed]

/-! ## Keys and members -/

mutual

theorem unhashablePart?_disclosed (value : Value) :
    unhashablePart? value.disclosed = (unhashablePart? value).map disclosed := by
  have whole : (if hashable value.disclosed then none else some value.disclosed) =
      (if hashable value then none else some value).map disclosed := by
    rw [hashable_disclosed]
    split <;> rfl
  rw [unhashablePart?.eq_def value.disclosed, unhashablePart?.eq_def value]
  cases value with
  | tuple items => simp only [disclosed_tuple, unhashableItem?_disclosed items]
  | record kind fields => simp only [disclosed_record, unhashableField?_disclosed fields]
  | _ => exact whole
termination_by structural value

theorem unhashableItem?_disclosed (items : List Value) :
    unhashableItem? (items.map disclosed) = (unhashableItem? items).map disclosed := by
  cases items with
  | nil => rfl
  | cons item rest =>
      simp only [List.map_cons, unhashableItem?, unhashablePart?_disclosed item,
        unhashableItem?_disclosed rest]
      cases unhashablePart? item <;> rfl
termination_by structural items

theorem unhashableField?_disclosed (fields : List (String × Value)) :
    unhashableField? (fields.map disclosedField) = (unhashableField? fields).map disclosed := by
  cases fields with
  | nil => rfl
  | cons field rest =>
      obtain ⟨name, value⟩ := field
      simp only [List.map_cons, disclosedField, unhashableField?, unhashablePart?_disclosed value,
        unhashableField?_disclosed rest]
      cases unhashablePart? value <;> rfl
termination_by structural fields

end

theorem unhashable_disclosed {α : Type} (value : Value) :
    (unhashable value.disclosed : Except Error α) = unhashable value := by
  have part : (unhashablePart? value.disclosed).getD value.disclosed =
      ((unhashablePart? value).getD value).disclosed := by
    rw [unhashablePart?_disclosed]
    cases unhashablePart? value <;> rfl
  rw [unhashable, part, kindName_disclosed, unhashable]

theorem lookup?_disclosed (entries : List (Value × Value)) (key : Value) :
    lookup? (entries.map disclosedEntry) key.disclosed = (lookup? entries key).map disclosed := by
  induction entries with
  | nil => rfl
  | cons entry rest inductionHypothesis =>
      unfold lookup? at inductionHypothesis ⊢
      rw [List.map_cons, List.find?_cons, List.find?_cons]
      simp only [disclosedEntry, equal_disclosed] at inductionHypothesis ⊢
      cases equal entry.1 key with
      | true => rfl
      | false => exact inductionHypothesis

theorem lookupText?_disclosed (entries : List (Value × Value)) (key : String) :
    lookupText? (entries.map disclosedEntry) key = (lookupText? entries key).map disclosed :=
  lookup?_disclosed entries (.str key)

theorem store_disclosed (key value : Value) (entries : List (Value × Value)) :
    store key.disclosed value.disclosed (entries.map disclosedEntry) =
      (store key value entries).map disclosedEntry := by
  induction entries with
  | nil => rfl
  | cons entry rest inductionHypothesis =>
      simp only [List.map_cons, store, disclosedEntry, equal_disclosed]
      split
      · rfl
      · rw [List.map_cons, ← inductionHypothesis]
        rfl

theorem distinctFrom_disclosed (seen items : List Value) :
    distinctFrom (seen.map disclosed) (items.map disclosed) =
      (distinctFrom seen items).map disclosed := by
  induction items generalizing seen with
  | nil => simp [distinctFrom]
  | cons item rest inductionHypothesis =>
      simp only [List.map_cons, distinctFrom, any_equal_disclosed]
      split
      · exact inductionHypothesis seen
      · exact inductionHypothesis (item :: seen)

theorem distinct_disclosed (items : List Value) :
    distinct (items.map disclosed) = (distinct items).map disclosed :=
  distinctFrom_disclosed [] items

end Authorization.Value

/-!
## Order of what values disclose

Objects have no order, so that values are in the order in which what they disclose is.
-/

namespace Authorization.Value

theorem isWithin?_disclosed (value : Value) (amongItems : Bool) (members : List Value) :
    isWithin? value.disclosed amongItems (members.map disclosed) =
      isWithin? value amongItems members := by
  cases value with
  | set frozen own => simp only [disclosed_set, isWithin?, areAmong?_disclosed]
  | view kind entries =>
      cases kind with
      | keys => simp only [disclosed_view, isWithin?, keysAmong?_disclosed]
      | items => simp only [disclosed_view, isWithin?, pairsAmong?_disclosed]
      | values => rfl
  | _ => rfl

theorem relateSets?_disclosed (relation : Relation) (a b : Value) (own others : List Value) :
    relateSets? relation a.disclosed b.disclosed (own.map disclosed) (others.map disclosed) =
      relateSets? relation a b own others := by
  unfold relateSets?
  simp only [isItemView_disclosed, isWithin?_disclosed, List.length_map]

mutual

/-- Values are in the order in which what they disclose is. -/
theorem related?_disclosed (relation : Relation) (a b : Value) :
    related? relation a.disclosed b.disclosed = related? relation a b := by
  have others :
      (match setMembers? a.disclosed, setMembers? b.disclosed with
        | some own, some others => relateSets? relation a.disclosed b.disclosed own others
        | _, _ =>
          if a.disclosed.isReal && b.disclosed.isReal then
            some (match compareNumbers? a.disclosed b.disclosed with
              | some outcome => relation.holds outcome
              | none => false)
          else none) =
        match setMembers? a, setMembers? b with
        | some own, some others => relateSets? relation a b own others
        | _, _ =>
          if a.isReal && b.isReal then
            some (match compareNumbers? a b with
              | some outcome => relation.holds outcome
              | none => false)
          else none := by
    rw [setMembers?_disclosed, setMembers?_disclosed, isReal_disclosed, isReal_disclosed,
      compareNumbers?_disclosed]
    cases setMembers? a with
    | none => rfl
    | some own =>
        cases setMembers? b with
        | none => rfl
        | some members => exact relateSets?_disclosed relation a b own members
  rw [related?.eq_def relation a.disclosed, related?.eq_def relation a]
  cases a with
  | list as =>
      cases b with
      | list bs => simp only [disclosed_list, relatedItems?_disclosed relation as bs]
      | _ => exact others
  | tuple as =>
      cases b with
      | tuple bs => simp only [disclosed_tuple, relatedItems?_disclosed relation as bs]
      | _ => exact others
  | str _ | bytes _ | instant _ | duration _ =>
      cases b <;> rfl
  | _ => exact others
termination_by structural a

theorem relatedItems?_disclosed (relation : Relation) (as bs : List Value) :
    relatedItems? relation (as.map disclosed) (bs.map disclosed) = relatedItems? relation as bs := by
  cases as with
  | nil => cases bs <;> rfl
  | cons a as =>
      cases bs with
      | nil => rfl
      | cons b bs =>
          simp only [List.map_cons, relatedItems?, equal?_disclosed, related?_disclosed relation a b,
            relatedItems?_disclosed relation as bs]
termination_by structural as

end

/-! ### Sorting -/

theorem insertionPoint?_disclosed (relation : Relation) (sorted : Array (Value × Value))
    (key : Value) (steps low high : Nat) :
    insertionPoint? (related? relation) (sorted.map disclosedEntry) key.disclosed steps low high =
      insertionPoint? (related? relation) sorted key steps low high := by
  induction steps generalizing low high with
  | zero => rfl
  | succ steps inductionHypothesis =>
      simp only [insertionPoint?, Array.getElem?_map]
      by_cases more : low < high
      · rw [if_pos more, if_pos more]
        cases sorted[(low + high) / 2]? with
        | none => rfl
        | some middle =>
            obtain ⟨middleKey, item⟩ := middle
            simp only [Option.map_some, disclosedEntry, related?_disclosed]
            cases related? relation key middleKey with
            | none => rfl
            | some before =>
                cases before with
                | true => exact inductionHypothesis _ _
                | false => exact inductionHypothesis _ _
      · rw [if_neg more, if_neg more]

theorem map_insertIdxIfInBounds {α β : Type} (write : α → β) (items : Array α) (place : Nat)
    (item : α) :
    (items.insertIdxIfInBounds place item).map write =
      (items.map write).insertIdxIfInBounds place (write item) := by
  unfold Array.insertIdxIfInBounds
  simp only [Array.size_map]
  split
  · apply Array.toList_inj.1
    simp [List.map_insertIdx]
  · rfl

theorem insertSorted?_disclosed (relation : Relation) (sorted : Array (Value × Value))
    (entry : Value × Value) :
    insertSorted? (related? relation) (sorted.map disclosedEntry) (disclosedEntry entry) =
      (insertSorted? (related? relation) sorted entry).map (Array.map disclosedEntry) := by
  unfold insertSorted?
  have place := insertionPoint?_disclosed relation sorted entry.1 sorted.size 0 sorted.size
  simp only [disclosedEntry, Array.size_map] at place ⊢
  rw [place]
  cases insertionPoint? (related? relation) sorted entry.1 sorted.size 0 sorted.size with
  | none => rfl
  | some place => exact congrArg some (map_insertIdxIfInBounds disclosedEntry sorted place entry).symm

theorem extend_disclosed (relation : Relation) (descending : Bool) (count : Nat) (last : Value)
    (entries : List (Value × Value)) :
    leadingRun?.extend (related? relation) descending count last.disclosed
        (entries.map disclosedEntry) =
      leadingRun?.extend (related? relation) descending count last entries := by
  induction entries generalizing count last with
  | nil => rfl
  | cons next more inductionHypothesis =>
      simp only [List.map_cons, leadingRun?.extend, disclosedEntry, related?_disclosed]
      cases related? relation next.1 last with
      | none => rfl
      | some down =>
          dsimp only
          split
          · exact inductionHypothesis _ _
          · rfl

theorem leadingRun?_disclosed (relation : Relation) (entries : List (Value × Value)) :
    leadingRun? (related? relation) (entries.map disclosedEntry) =
      leadingRun? (related? relation) entries := by
  cases entries using Arguments.upToOne with
  | none | one => rfl
  | more a b rest =>
      simp only [List.map_cons, leadingRun?, disclosedEntry, related?_disclosed]
      cases related? relation b.1 a.1 with
      | none => rfl
      | some descending => exact extend_disclosed relation descending 2 b.1 rest

theorem foldlM_insertSorted?_disclosed (relation : Relation) (sorted : Array (Value × Value))
    (entries : List (Value × Value)) :
    (entries.map disclosedEntry).foldlM (insertSorted? (related? relation))
        (sorted.map disclosedEntry) =
      (entries.foldlM (insertSorted? (related? relation)) sorted).map (Array.map disclosedEntry) := by
  induction entries generalizing sorted with
  | nil => rfl
  | cons entry rest inductionHypothesis =>
      rw [List.map_cons, List.foldlM_cons, List.foldlM_cons, insertSorted?_disclosed]
      cases insertSorted? (related? relation) sorted entry with
      | none => rfl
      | some next => exact inductionHypothesis next

theorem sortEntries?_disclosed (entries : List (Value × Value)) :
    sortEntries? (entries.map disclosedEntry) =
      (sortEntries? entries).map (List.map disclosedEntry) := by
  unfold sortEntries?
  simp only [leadingRun?_disclosed]
  cases leadingRun? (related? .less) entries with
  | none => rfl
  | some found =>
      obtain ⟨count, descending⟩ := found
      have start : (if descending then ((entries.map disclosedEntry).take count).reverse
          else (entries.map disclosedEntry).take count).toArray =
          (if descending then (entries.take count).reverse else entries.take count).toArray.map
            disclosedEntry := by
        cases descending <;> simp
      simp only [start, ← List.map_drop, foldlM_insertSorted?_disclosed]
      cases (entries.drop count).foldlM (insertSorted? (related? .less))
          (if descending then (entries.take count).reverse else entries.take count).toArray with
      | none => rfl
      | some sorted => simp

end Authorization.Value
