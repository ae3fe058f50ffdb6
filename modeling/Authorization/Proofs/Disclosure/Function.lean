import Authorization.Proofs.Disclosure.Arithmetic
import Authorization.Proofs.Disclosure.Element
import Authorization.Proofs.Disclosure.Equality
import Authorization.Proofs.Disclosure.Written
import Authorization.Script.Function

/-!
# Functions of what values disclose

Called with what its arguments disclose, a function gives what its result discloses. Functions that go
through an argument take as many items from it.
-/

namespace Authorization

section Mapping

variable {m : Type → Type} [Monad m] [LawfulMonad m] {α β α' β' : Type}

/-- Two operations in a row are mapped when each of them is. -/
theorem map_bind_map {first : m α} {write : α → α'} {after : β → β'} {next : α → m β}
    {other : α' → m β'} (same : ∀ found, other (write found) = after <$> next found) :
    (write <$> first) >>= other = after <$> (first >>= next) := by
  rw [bind_map_left, map_bind]
  exact bind_congr same

theorem map_bind_same {first : m α} {after : β → β'} {next : α → m β} {other : α → m β'}
    (same : ∀ found, other found = after <$> next found) :
    first >>= other = after <$> (first >>= next) := by
  rw [map_bind]
  exact bind_congr same

theorem Draw.liftM_eq_map {write : α → β} {result : Except Error α} {other : Except Error β}
    (same : other = result.map write) : (liftM other : Draw β) = write <$> liftM result := by
  rw [same]
  cases result <;> rfl

end Mapping

namespace Value

theorem nameOf_disclosed (value : Value) : nameOf value.disclosed = nameOf value := by
  cases value <;> rfl

theorem toTextBy_disclosed (value encoding treatment : Option Value) :
    toTextBy (value.map disclosed) (encoding.map disclosed) (treatment.map disclosed) =
      (toTextBy value encoding treatment).map disclosed := by
  have named (name : Option Value) : (name.map disclosed).mapM nameOf = name.mapM nameOf := by
    cases name with
    | none => rfl
    | some name => simp [nameOf_disclosed]
  unfold toTextBy
  rw [named, named]
  cases encoding.mapM nameOf with
  | error error => rfl
  | ok encoding =>
      cases treatment.mapM nameOf with
      | error error => rfl
      | ok treatment =>
          cases value with
          | none => rfl
          | some value =>
              have plain : (do return .str (← value.disclosed.toText) : Except Error Value) =
                  Except.map disclosed (do return .str (← value.toText)) := by
                rw [toText_disclosed]
                cases value.toText <;> rfl
              rcases encoding with _ | encoding <;> rcases treatment with _ | treatment
              · exact plain
              all_goals
                cases value with
                | bytes octets =>
                    simp only [Option.map_some, disclosed_bytes, bind, Except.bind]
                    split <;> rfl
                | view kind entries => cases kind <;> rfl
                | _ => rfl

end Value

namespace Builtin

open Value

theorem wrongArguments_eq_map (f : Builtin) :
    (wrongArguments f : Draw Value) = disclosed <$> wrongArguments f :=
  rfl

theorem size_disclosed (value : Value) : size value.disclosed = size value := by
  unfold size
  rw [length?_disclosed, kindName_disclosed]

/-! ## Conversions -/

theorem literal?_disclosed (value : Value) : literal? value.disclosed = literal? value := by
  cases value <;> rfl

theorem map_readWhole (base : Nat) (text : Option String) :
    (readWhole base text).map disclosed = readWhole base text := by
  unfold readWhole
  split <;> rfl

theorem wholeOf_disclosed (value : Value) :
    wholeOf value.disclosed = (wholeOf value).map disclosed := by
  cases value with
  | float x =>
      simp only [disclosed_float, wholeOf]
      split
      · rfl
      · split <;> rfl
  | str content => exact (map_readWhole 10 (some content)).symm
  | bytes octets => exact (map_readWhole 10 (plainText? octets)).symm
  | view kind entries => cases kind <;> rfl
  | _ => rfl

theorem wholeInBase_disclosed (value base : Value) :
    wholeInBase value.disclosed base.disclosed = (wholeInBase value base).map disclosed := by
  unfold wholeInBase
  rw [asInt?_disclosed, literal?_disclosed]
  cases base.asInt? with
  | none => rfl
  | some n =>
      dsimp only
      split
      · cases literal? value with
        | none => rfl
        | some text => exact (map_readWhole n.toNat text).symm
      · rfl

/-- The number that a text is read as, if it is one. -/
def readReal (text? : Option String) : Except Error Value :=
  match text?.bind Number.readFloat? with
  | some x => .ok (.float x)
  | none => fault .value "could not convert string to float"

theorem readReal_disclosed (text? : Option String) :
    readReal text? = (readReal text?).map disclosed := by
  unfold readReal
  cases text?.bind Number.readFloat? <;> rfl

theorem realOf_disclosed (value : Value) :
    realOf value.disclosed = (realOf value).map disclosed := by
  have ofWhole (n : Int) :
      ((doubleOf n).map .float : Except Error Value) =
        Except.map disclosed ((doubleOf n).map .float) := by
    cases doubleOf n <;> rfl
  cases value with
  | str content => exact readReal_disclosed (some content)
  | bytes octets => exact readReal_disclosed (plainText? octets)
  | int n => exact ofWhole n
  | bool flag => exact ofWhole _
  | view kind entries => cases kind <;> rfl
  | _ => rfl

theorem pairOf_disclosed (place : Nat) (value : Value) :
    pairOf place value.disclosed = disclosedEntry <$> pairOf place value := by
  unfold pairOf
  rw [iteration?_disclosed, items_disclosed]
  cases value.iteration? with
  | none => rfl
  | some walk =>
      refine map_bind_map fun found => ?_
      cases found using Arguments.upToTwo with
      | none | one | two | more => rfl

theorem storePairs_disclosed (entries : List (Value × Value)) (place : Nat) (items : List Value) :
    storePairs (entries.map disclosedEntry) place (items.map disclosed) =
      List.map disclosedEntry <$> storePairs entries place items := by
  induction items generalizing entries place with
  | nil => rfl
  | cons item rest inductionHypothesis =>
      rw [List.map_cons, storePairs, pairOf_disclosed, storePairs]
      refine map_bind_map fun found => ?_
      simp only [disclosedEntry, hashable_disclosed, store_disclosed, unhashable_disclosed]
      split
      · exact inductionHypothesis _ _
      · rfl

theorem entriesOf_disclosed (value : Value) :
    entriesOf value.disclosed = List.map disclosedEntry <$> entriesOf value := by
  unfold entriesOf
  rw [entries?_disclosed, items_disclosed]
  cases value.entries? with
  | some entries => rfl
  | none => exact map_bind_map fun found => storePairs_disclosed [] 0 found

theorem bounds_disclosed (values : List Value) : bounds (values.map disclosed) = bounds values := by
  induction values with
  | nil => rfl
  | cons value rest inductionHypothesis =>
      rw [List.map_cons, bounds, bounds, asInt?_disclosed, kindName_disclosed, inductionHypothesis]

theorem map_rangeOf (start stop step : Int) :
    (rangeOf start stop step).map disclosed = rangeOf start stop step := by
  unfold rangeOf
  split <;> rfl

/-! ## Aggregation -/

section Keys

variable {key other : Value → Draw Value}
    (sameKey : ∀ item, other item.disclosed = disclosed <$> key item)

include sameKey

theorem extreme_disclosed (relation : Relation) (best : Value × Value) (items : List Value) :
    extreme relation other (disclosedEntry best) (items.map disclosed) =
      disclosed <$> extreme relation key best items := by
  induction items generalizing best with
  | nil => rfl
  | cons item rest inductionHypothesis =>
      rw [List.map_cons, extreme, sameKey, extreme]
      refine map_bind_map fun first => ?_
      simp only [disclosedEntry, related?_disclosed]
      cases related? relation first best.1 with
      | none =>
          simp only [comparisonFault, kindName_disclosed]
          rfl
      | some isBetter =>
          cases isBetter with
          | true => exact inductionHypothesis (first, item)
          | false => exact inductionHypothesis best

theorem keyed_disclosed (items : List Value) :
    keyed other (items.map disclosed) = List.map disclosedEntry <$> keyed key items := by
  induction items with
  | nil => rfl
  | cons item rest inductionHypothesis =>
      rw [List.map_cons, keyed, sameKey, keyed]
      refine map_bind_map fun first => ?_
      rw [inductionHypothesis]
      exact map_bind_map fun found => rfl

theorem best_disclosed (relation : Relation) (default? : Option Value) (items : List Value) :
    best relation other (default?.map disclosed) (items.map disclosed) =
      disclosed <$> best relation key default? items := by
  cases items with
  | nil => cases default? <;> rfl
  | cons first rest =>
      simp only [List.map_cons, best, sameKey]
      exact map_bind_map fun found => extreme_disclosed sameKey relation (found, first) rest

theorem bestOf_disclosed (f : Builtin) (relation : Relation) (default? : Option Value)
    (values : List Value) :
    bestOf f relation other (default?.map disclosed) (values.map disclosed) =
      disclosed <$> bestOf f relation key default? values := by
  cases values using Arguments.upToOne with
  | none => rfl
  | one only =>
      simp only [List.map_cons, List.map_nil, bestOf, items_disclosed]
      exact map_bind_map fun found => best_disclosed sameKey relation default? found
  | more first second rest =>
      have several := best_disclosed sameKey relation none (first :: second :: rest)
      simp only [List.map_cons, bestOf, Option.isSome_map] at several ⊢
      split
      · rfl
      · exact several

end Keys

theorem sortedEntries_disclosed (reverse : Bool) (entries : List (Value × Value)) :
    sortedEntries reverse (entries.map disclosedEntry) =
      (sortedEntries reverse entries).map disclosed := by
  have given : (if reverse then (entries.map disclosedEntry).reverse
      else entries.map disclosedEntry) =
      (if reverse then entries.reverse else entries).map disclosedEntry := by
    cases reverse <;> simp
  have results (ordered : List (Value × Value)) :
      ((if reverse then (ordered.map disclosedEntry).reverse
        else ordered.map disclosedEntry).map Prod.snd) =
        ((if reverse then ordered.reverse else ordered).map Prod.snd).map disclosed := by
    cases reverse <;> simp [disclosedEntry, Function.comp_def]
  unfold sortedEntries
  simp only [given, sortEntries?_disclosed]
  cases sortEntries? (if reverse then entries.reverse else entries) with
  | none => rfl
  | some ordered => simp only [Option.map_some, results, Except.map, disclosed_list]

theorem sumOf_disclosed (total : Value) (items : List Value) :
    sumOf total.disclosed (items.map disclosed) = (sumOf total items).map disclosed := by
  induction items generalizing total with
  | nil => rfl
  | cons item rest inductionHypothesis =>
      rw [List.map_cons, sumOf, add_disclosed, sumOf]
      cases total.add item with
      | error error => rfl
      | ok next => exact inductionHypothesis next

theorem sumFrom_disclosed (start : Value) (items : List Value) :
    sumFrom start.disclosed (items.map disclosed) = (sumFrom start items).map disclosed := by
  have whole := sumOf_disclosed start items
  cases start with
  | str content => rfl
  | bytes octets => rfl
  | _ => exact whole

theorem rounded_disclosed (value places : Value) :
    rounded value.disclosed places.disclosed = (rounded value places).map disclosed := by
  have toPlaces (n digits : Int) :
      (if digits ≥ 0 then .ok (.int n)
        else if digits.natAbs > n.natAbs.log2 + 1 then .ok (.int 0)
        else .ok (.int (Number.roundIntTo n digits.natAbs)) : Except Error Value) =
        Except.map disclosed (if digits ≥ 0 then .ok (.int n)
          else if digits.natAbs > n.natAbs.log2 + 1 then .ok (.int 0)
          else .ok (.int (Number.roundIntTo n digits.natAbs))) := by
    split
    · rfl
    · split <;> rfl
  cases value with
  | float x =>
      cases places with
      | null =>
          simp only [disclosed_float, disclosed_null, rounded]
          split
          · rfl
          · split <;> rfl
      | int _ | bool _ =>
          simp only [disclosed_float, disclosed_int, disclosed_bool, rounded, asInt?]
          split <;> rfl
      | view kind entries => cases kind <;> rfl
      | _ => rfl
  | int _ | bool _ =>
      cases places with
      | int _ | bool _ => exact toPlaces _ _
      | view kind entries => cases kind <;> rfl
      | _ => rfl
  | view kind entries => cases kind <;> rfl
  | _ => rfl

/-! ## Calls -/

theorem range_disclosed (values : List Value) :
    applyPlain .range (values.map disclosed) = disclosed <$> applyPlain .range values := by
  have lifted (start stop step : Int) : (liftM (rangeOf start stop step) : Draw Value) =
      disclosed <$> liftM (rangeOf start stop step) :=
    Draw.liftM_eq_map (map_rangeOf start stop step).symm
  simp only [applyPlain, bounds_disclosed]
  refine map_bind_same fun found => ?_
  cases found using Arguments.upToThree with
  | none => rfl
  | one stop => exact lifted 0 stop 1
  | two start stop => exact lifted start stop 1
  | three start stop step => exact lifted start stop step
  | more => rfl

/-- A call with positional arguments discloses what the call with what they disclose does. -/
theorem applyPlain_disclosed (f : Builtin) (arguments : List Value) :
    applyPlain f (arguments.map disclosed) = disclosed <$> applyPlain f arguments := by
  have walked (value : Value) {next other : List Value → Draw Value}
      (same : ∀ found, other (found.map disclosed) = disclosed <$> next found) :
      value.disclosed.items >>= other = disclosed <$> (value.items >>= next) := by
    rw [items_disclosed]
    exact map_bind_map same
  cases f with
  | len =>
      cases arguments using Arguments.upToOne with
      | one value =>
          simp only [List.map_cons, List.map_nil, applyPlain, size_disclosed]
          exact map_bind_same fun found => rfl
      | none | more => rfl
  | str =>
      cases arguments using Arguments.upToThree with
      | none => rfl
      | one value => exact Draw.liftM_eq_map (toTextBy_disclosed (some value) none none)
      | two value encoding =>
          exact Draw.liftM_eq_map (toTextBy_disclosed (some value) (some encoding) none)
      | three value encoding treatment =>
          exact Draw.liftM_eq_map (toTextBy_disclosed (some value) (some encoding) (some treatment))
      | more => rfl
  | int =>
      cases arguments using Arguments.upToTwo with
      | none => rfl
      | one value => exact Draw.liftM_eq_map (wholeOf_disclosed value)
      | two value base => exact Draw.liftM_eq_map (wholeInBase_disclosed value base)
      | more => rfl
  | float =>
      cases arguments using Arguments.upToOne with
      | none => rfl
      | one value => exact Draw.liftM_eq_map (realOf_disclosed value)
      | more => rfl
  | bool =>
      cases arguments using Arguments.upToOne with
      | none => rfl
      | one value => simp [applyPlain]
      | more => rfl
  | abs =>
      cases arguments using Arguments.upToOne with
      | one value => exact Draw.liftM_eq_map (magnitude_disclosed value)
      | none | more => rfl
  | min => exact bestOf_disclosed (fun _ => rfl) .min .less none arguments
  | max => exact bestOf_disclosed (fun _ => rfl) .max .greater none arguments
  | sum =>
      cases arguments using Arguments.upToTwo with
      | one value =>
          exact walked value fun found => Draw.liftM_eq_map (sumFrom_disclosed (.int 0) found)
      | two value start =>
          exact walked value fun found => Draw.liftM_eq_map (sumFrom_disclosed start found)
      | none | more => rfl
  | any =>
      cases arguments using Arguments.upToOne with
      | one value => exact walked value fun found => by simp [Function.comp_def]
      | none | more => rfl
  | all =>
      cases arguments using Arguments.upToOne with
      | one value => exact walked value fun found => by simp [Function.comp_def]
      | none | more => rfl
  | sorted =>
      cases arguments using Arguments.upToOne with
      | one value =>
          refine walked value fun found => Draw.liftM_eq_map ?_
          rw [← sortedEntries_disclosed, List.map_map, List.map_map]
          rfl
      | none | more => rfl
  | round =>
      cases arguments using Arguments.upToTwo with
      | one value => exact Draw.liftM_eq_map (rounded_disclosed value .null)
      | two value places => exact Draw.liftM_eq_map (rounded_disclosed value places)
      | none | more => rfl
  | list =>
      cases arguments using Arguments.upToOne with
      | none => rfl
      | one value => exact walked value fun found => by simp
      | more => rfl
  | tuple =>
      cases arguments using Arguments.upToOne with
      | none => rfl
      | one value => exact walked value fun found => by simp
      | more => rfl
  | set =>
      cases arguments using Arguments.upToOne with
      | none => rfl
      | one value =>
          simp only [List.map_cons, List.map_nil, applyPlain, takeMembers_disclosed]
          exact map_bind_map fun found => by simp [distinct_disclosed]
      | more => rfl
  | dict =>
      cases arguments using Arguments.upToOne with
      | none => rfl
      | one value =>
          simp only [List.map_cons, List.map_nil, applyPlain, entriesOf_disclosed]
          exact map_bind_map fun found => by simp
      | more => rfl
  | range => exact range_disclosed arguments

theorem keyFunction_disclosed (key item : Value) :
    keyFunction key.disclosed item.disclosed = disclosed <$> keyFunction key item := by
  cases key with
  | builtin f => exact applyPlain_disclosed f [item]
  | view kind entries => cases kind <;> rfl
  | _ => rfl

theorem onlyNamed_disclosed (known : List String) (named : List (String × Value)) :
    onlyNamed known (named.map disclosedField) = onlyNamed known named := by
  unfold onlyNamed
  rw [List.all_map]
  rfl

theorem lookup_getD_disclosed (named : List (String × Value)) (name : String) (default : Value) :
    ((named.map disclosedField).lookup name).getD default.disclosed =
      ((named.lookup name).getD default).disclosed := by
  rw [lookup_disclosedField]
  cases named.lookup name <;> rfl

theorem sortedBy_disclosed (value : Value) (named : List (String × Value)) :
    sortedBy value.disclosed (named.map disclosedField) = disclosed <$> sortedBy value named := by
  have key := lookup_getD_disclosed named "key" .null
  have direction := congrArg asInt? (lookup_getD_disclosed named "reverse" (.bool false))
  rw [asInt?_disclosed] at direction
  simp only [disclosed_null, disclosed_bool] at key direction
  simp only [sortedBy, items_disclosed, key, direction]
  refine map_bind_map fun found => ?_
  cases ((named.lookup "reverse").getD (.bool false)).asInt? with
  | none => rfl
  | some n =>
      dsimp only
      split
      · rfl
      · rw [keyed_disclosed (keyFunction_disclosed _)]
        exact map_bind_map fun pairs => Draw.liftM_eq_map (sortedEntries_disclosed _ pairs)

theorem extremeBy_disclosed (f : Builtin) (relation : Relation) (values : List Value)
    (named : List (String × Value)) :
    extremeBy f relation (values.map disclosed) (named.map disclosedField) =
      disclosed <$> extremeBy f relation values named := by
  have key := lookup_getD_disclosed named "key" .null
  rw [disclosed_null] at key
  simp only [extremeBy, key]
  rw [lookup_disclosedField]
  exact bestOf_disclosed (keyFunction_disclosed _) f relation _ values

theorem withNamed_disclosed (parameters : List String) (arguments : List Value)
    (named : List (String × Value)) :
    withNamed parameters (arguments.map disclosed) (named.map disclosedField) =
      (withNamed parameters arguments named).map (List.map disclosed) := by
  simp only [withNamed, List.length_map, lookup_disclosedField, Option.isSome_map]
  split
  · simp [List.map_filterMap]
  · rfl

theorem foldl_store_disclosed (named : List (String × Value)) (entries : List (Value × Value)) :
    (named.map disclosedField).foldl (fun found entry => store (.str entry.1) entry.2 found)
        (entries.map disclosedEntry) =
      (named.foldl (fun found entry => store (.str entry.1) entry.2 found) entries).map
        disclosedEntry := by
  induction named generalizing entries with
  | nil => rfl
  | cons entry rest inductionHypothesis =>
      have stored := store_disclosed (.str entry.1) entry.2 entries
      rw [disclosed_str] at stored
      rw [List.map_cons, List.foldl_cons, List.foldl_cons, ← inductionHypothesis]
      simp only [disclosedField, stored]

/-- A call with named arguments discloses what the call with what they disclose does. -/
theorem applyNamed_disclosed (f : Builtin) (arguments : List Value)
    (named : List (String × Value)) :
    applyNamed f (arguments.map disclosed) (named.map disclosedField) =
      disclosed <$> applyNamed f arguments named := by
  cases f with
  | sorted =>
      cases arguments using Arguments.upToOne with
      | one value =>
          simp only [List.map_cons, List.map_nil, applyNamed, onlyNamed_disclosed]
          split
          · exact sortedBy_disclosed value named
          · rfl
      | none | more => rfl
  | min =>
      simp only [applyNamed, onlyNamed_disclosed]
      split
      · exact extremeBy_disclosed .min .less arguments named
      · rfl
  | max =>
      simp only [applyNamed, onlyNamed_disclosed]
      split
      · exact extremeBy_disclosed .max .greater arguments named
      · rfl
  | sum =>
      cases arguments using Arguments.upToOne with
      | one value =>
          match named with
          | [] => rfl
          | _ :: _ :: _ => simp [applyNamed, ← wrongArguments_eq_map]
          | [(name, start)] =>
              by_cases isStart : name = "start"
              · subst isStart
                simp only [List.map_cons, List.map_nil, disclosedField, applyNamed, items_disclosed]
                exact map_bind_map fun found =>
                  Draw.liftM_eq_map (sumFrom_disclosed start found)
              · simp [disclosedField, applyNamed, isStart, ← wrongArguments_eq_map]
      | none | more => rfl
  | round =>
      simp only [applyNamed, withNamed_disclosed]
      cases withNamed ["number", "ndigits"] arguments named with
      | none => rfl
      | some values => exact applyPlain_disclosed .round values
  | int =>
      cases arguments using Arguments.upToOne with
      | one value =>
          match named with
          | [] => rfl
          | _ :: _ :: _ => simp [applyNamed, ← wrongArguments_eq_map]
          | [(name, base)] =>
              by_cases isBase : name = "base"
              · subst isBase
                exact Draw.liftM_eq_map (wholeInBase_disclosed value base)
              · simp [disclosedField, applyNamed, isBase, ← wrongArguments_eq_map]
      | none | more => rfl
  | str =>
      have parameter (position : Nat) (name : String) :
          ((arguments.map disclosed)[position]? <|> (named.map disclosedField).lookup name) =
            (arguments[position]? <|> named.lookup name).map disclosed := by
        rw [List.getElem?_map, lookup_disclosedField]
        cases arguments[position]? <;> rfl
      simp only [applyNamed, onlyNamed_disclosed, List.length_map, parameter]
      split
      · exact Draw.liftM_eq_map (toTextBy_disclosed _ _ _)
      · rfl
  | dict =>
      have filled (entries : List (Value × Value)) :
          Value.dict ((named.map disclosedField).foldl
              (fun found entry => store (.str entry.1) entry.2 found) (entries.map disclosedEntry)) =
            (Value.dict (named.foldl
              (fun found entry => store (.str entry.1) entry.2 found) entries)).disclosed := by
        rw [foldl_store_disclosed, disclosed_dict]
      cases arguments using Arguments.upToOne with
      | none =>
          simp only [List.map_nil, applyNamed, pure_bind, map_pure]
          exact congrArg pure (filled [])
      | one value =>
          simp only [List.map_cons, List.map_nil, applyNamed, entriesOf_disclosed]
          exact map_bind_map fun found => congrArg pure (filled found)
      | more => rfl
  | _ => rfl

theorem apply_disclosed (f : Builtin) (arguments : List Value) (named : List (String × Value)) :
    f.apply (arguments.map disclosed) (named.map disclosedField) =
      disclosed <$> f.apply arguments named := by
  unfold apply
  rw [List.isEmpty_map]
  split
  · exact applyPlain_disclosed f arguments
  · exact applyNamed_disclosed f arguments named

end Builtin

end Authorization
