import Authorization.Proofs.Disclosure.Function
import Authorization.Script.Method

/-!
# Methods of what values disclose

Called on what a value discloses, with what its arguments disclose, a method gives what its result
discloses.
-/

namespace Authorization.Method

open Value

/-! ## Texts -/

theorem stripped_disclosed (strip : (Char → Bool) → List Char → List Char) (content : String)
    (drop : Value) :
    stripped strip content drop.disclosed = (stripped strip content drop).map disclosed := by
  cases drop <;> rfl

theorem partBound_disclosed (default : Int) (value : Value) :
    partBound default value.disclosed = partBound default value := by
  cases value <;> rfl

theorem partOf_disclosed (content : String) (bounds : List Value) :
    partOf content (bounds.map disclosed) = partOf content bounds := by
  cases bounds using Arguments.upToTwo with
  | one start => simp only [List.map_cons, List.map_nil, partOf, partBound_disclosed]
  | two start stop => simp only [List.map_cons, List.map_nil, partOf, partBound_disclosed]
  | none | more => rfl

theorem anyAffix_disclosed (test : List Char → List Char → Bool)
    (part : Option (Nat × List Char)) (affixes : List Value) :
    anyAffix test part (affixes.map disclosed) = anyAffix test part affixes := by
  induction affixes with
  | nil => rfl
  | cons affix rest inductionHypothesis =>
      cases affix with
      | str content => simp only [List.map_cons, disclosed_str, anyAffix, inductionHypothesis]
      | _ => rfl

theorem hasAffix_disclosed (test : List Char → List Char → Bool) (content : String)
    (affix : Value) (bounds : List Value) :
    hasAffix test content affix.disclosed (bounds.map disclosed) =
      (hasAffix test content affix bounds).map disclosed := by
  unfold hasAffix
  rw [partOf_disclosed]
  cases partOf content bounds with
  | error error => rfl
  | ok part =>
      cases affix with
      | tuple found =>
          simp only [disclosed_tuple, anyAffix_disclosed, bind, Except.bind]
          cases anyAffix test part found <;> rfl
      | _ => rfl

theorem found_disclosed (content : String) (word : Value) (bounds : List Value) :
    found content word.disclosed (bounds.map disclosed) =
      (found content word bounds).map disclosed := by
  cases word with
  | str word =>
      simp only [disclosed_str, found, partOf_disclosed]
      rcases partOf content bounds with error | _ | ⟨start, part⟩
      · rfl
      · rfl
      · simp only [bind, Except.bind]
        split <;> rfl
  | _ => rfl

theorem counted_disclosed (content : String) (word : Value) (bounds : List Value) :
    counted content word.disclosed (bounds.map disclosed) =
      (counted content word bounds).map disclosed := by
  cases word with
  | str word =>
      simp only [disclosed_str, counted, partOf_disclosed]
      rcases partOf content bounds with error | _ | ⟨start, part⟩ <;> rfl
  | _ => rfl

theorem disclosed_texts (parts : List (List Char)) : (texts parts).disclosed = texts parts := by
  simp [texts, Function.comp_def]

theorem split_disclosed (content : String) (separator most : Value) :
    split content separator.disclosed most.disclosed =
      (split content separator most).map disclosed := by
  unfold split
  rw [asInt?_disclosed]
  cases most.asInt? with
  | none => rfl
  | some n =>
      cases separator with
      | null => simp only [disclosed_null, Except.map, disclosed_texts]
      | str word =>
          simp only [disclosed_str]
          split
          · rfl
          · simp only [Except.map, disclosed_texts]
      | _ => rfl

theorem splitBy_disclosed (content : String) (arguments : List Value)
    (named : List (String × Value)) :
    splitBy content (arguments.map disclosed) (named.map disclosedField) =
      (splitBy content arguments named).map disclosed := by
  have allNamed : (named.map disclosedField).all
      (fun argument => argument.1 == "sep" || argument.1 == "maxsplit") =
      named.all (fun argument => argument.1 == "sep" || argument.1 == "maxsplit") := by
    rw [List.all_map]
    rfl
  have either (position? : Option Value) (name : String) (default : Value) :
      (position?.map disclosed <|> (named.map disclosedField).lookup name).getD default.disclosed =
        ((position? <|> named.lookup name).getD default).disclosed := by
    rw [lookup_disclosedField]
    cases position? with
    | some value => rfl
    | none => cases named.lookup name <;> rfl
  have given : ((named.map disclosedField).lookup "sep").isSome =
      (named.lookup "sep").isSome := by
    rw [lookup_disclosedField, Option.isSome_map]
  have separator := either arguments.head? "sep" .null
  have most := either arguments[1]? "maxsplit" (.int (-1))
  rw [disclosed_null] at separator
  rw [disclosed_int] at most
  unfold splitBy
  simp only [List.length_map, allNamed, List.isEmpty_map, given, List.head?_map,
    List.getElem?_map, separator, most]
  split
  · rfl
  · split
    · rfl
    · exact split_disclosed content _ _

theorem textParts_disclosed (parts : List Value) :
    textParts (parts.map disclosed) = textParts parts := by
  induction parts with
  | nil => rfl
  | cons part rest inductionHypothesis =>
      cases part with
      | str content => simp only [List.map_cons, disclosed_str, textParts, inductionHypothesis]
      | _ => rfl

theorem onText_disclosed (content name : String) (arguments : List Value) :
    onText content name (arguments.map disclosed) =
      disclosed <$> onText content name arguments := by
  fun_cases onText content name arguments
  case case6 drop => exact Draw.liftM_eq_map (stripped_disclosed Text.trimBoth content drop)
  case case8 drop => exact Draw.liftM_eq_map (stripped_disclosed Text.trimLeft content drop)
  case case10 drop => exact Draw.liftM_eq_map (stripped_disclosed Text.trimRight content drop)
  case case11 affix bounds =>
    exact Draw.liftM_eq_map (hasAffix_disclosed List.isPrefixOf content affix bounds)
  case case12 affix bounds =>
    exact Draw.liftM_eq_map (hasAffix_disclosed List.isSuffixOf content affix bounds)
  case case13 word bounds => exact Draw.liftM_eq_map (found_disclosed content word bounds)
  case case14 word bounds => exact Draw.liftM_eq_map (counted_disclosed content word bounds)
  case case15 parts =>
    simp only [List.map_cons, List.map_nil, onText, items_disclosed]
    refine map_bind_map fun found => ?_
    rw [textParts_disclosed]
    exact map_bind_same fun texts => rfl
  case case19 =>
    -- No method of this name takes so many arguments: each name is refused on both sides.
    cases arguments using Arguments.upToOne with
    | none | one | more =>
        simp_all [onText]
        rfl
  all_goals rfl

/-! ## Lists and tuples -/

theorem position?_disclosed (value : Value) : position? value.disclosed = position? value := by
  rw [position?, asInt?_disclosed, position?]

theorem placeOf?_disclosed (value : Value) (place : Nat) (items : List Value) :
    placeOf? value.disclosed place (items.map disclosed) = placeOf? value place items := by
  induction items generalizing place with
  | nil => rfl
  | cons item rest inductionHypothesis =>
      simp only [List.map_cons, placeOf?, equal?_disclosed, inductionHypothesis]

theorem countOf?_disclosed (value : Value) (items : List Value) :
    countOf? value.disclosed (items.map disclosed) = countOf? value items := by
  unfold countOf?
  rw [List.foldlM_map]
  simp only [equal?_disclosed]

theorem indexOf_disclosed (items : List Value) (value : Value) (start stop : Int) :
    indexOf (items.map disclosed) value.disclosed start stop =
      (indexOf items value start stop).map disclosed := by
  unfold indexOf
  simp only [List.length_map, ← List.map_take, ← List.map_drop, placeOf?_disclosed,
    written_disclosed]
  split <;> rfl

theorem onSequence_disclosed (items : List Value) (name : String) (arguments : List Value) :
    onSequence (items.map disclosed) name (arguments.map disclosed) =
      (onSequence items name arguments).map disclosed := by
  fun_cases onSequence items name arguments
  case case1 value =>
    simp only [List.map_cons, List.map_nil, onSequence, countOf?_disclosed]
    cases compared (countOf? value items) <;> rfl
  case case2 value =>
    simp only [List.map_cons, List.map_nil, onSequence, indexOf_disclosed, List.length_map]
  case case3 value start =>
    simp only [List.map_cons, List.map_nil, onSequence, indexOf_disclosed, List.length_map,
      position?_disclosed]
    cases position? start <;> rfl
  case case4 value start stop =>
    simp only [List.map_cons, List.map_nil, onSequence, indexOf_disclosed, position?_disclosed]
    cases position? start with
    | error error => rfl
    | ok first => cases position? stop <;> rfl
  case case5 notCount notIndex notFrom notBetween =>
    cases arguments using Arguments.upToThree with
    | three value start stop =>
        have isOther : name ≠ "index" := fun isIndex => notBetween value start stop isIndex rfl
        simp [onSequence, isOther]
        rfl
    | none | one | two | more =>
        simp_all [onSequence]
        rfl

/-! ## Mappings -/

theorem stored_disclosed (entries : List (Value × Value)) (key default : Value) :
    stored (entries.map disclosedEntry) key.disclosed default.disclosed =
      (stored entries key default).map disclosed := by
  unfold stored
  rw [hashable_disclosed, lookup?_disclosed, unhashable_disclosed]
  split
  · cases lookup? entries key <;> rfl
  · rfl

theorem onMapping_disclosed (entries : List (Value × Value)) (name : String)
    (arguments : List Value) :
    onMapping (entries.map disclosedEntry) name (arguments.map disclosed) =
      (onMapping entries name arguments).map disclosed := by
  have looked (kind : ViewKind) : (Except.ok (Value.view kind (entries.map disclosedEntry)) :
      Except Error Value) = Except.map disclosed (.ok (.view kind entries)) := by
    rw [Except.map, disclosed_view]
  fun_cases onMapping entries name arguments
  case case1 key => exact stored_disclosed entries key .null
  case case2 key default => exact stored_disclosed entries key default
  case case3 => exact looked .keys
  case case4 => exact looked .values
  case case5 => exact looked .items
  case case6 =>
    cases arguments using Arguments.upToTwo with
    | none | one | two | more =>
        simp_all [onMapping]
        rfl

/-! ## Sets -/

theorem isIn_disclosed (items : List Value) (value : Value) :
    isIn (items.map disclosed) value.disclosed = isIn items value :=
  any_equal_disclosed items value

theorem filter_isIn_disclosed (own others : List Value) :
    (own.map disclosed).filter (isIn (others.map disclosed)) =
      (own.filter (isIn others)).map disclosed := by
  rw [List.filter_map]
  simp only [Function.comp_def, isIn_disclosed]

theorem united_disclosed (own others : List Value) :
    united (own.map disclosed) (others.map disclosed) =
      List.map disclosed <$> united own others := by
  induction others generalizing own with
  | nil => simp [united, distinct_disclosed]
  | cons other rest inductionHypothesis =>
      rw [List.map_cons, united, takeMembers_disclosed, united]
      refine map_bind_map fun found => ?_
      rw [← List.map_append]
      exact inductionHypothesis (own ++ found)

theorem common_disclosed (own : List Value) (other : Value) (found : List Value) :
    common (own.map disclosed) other.disclosed (found.map disclosed) =
      (common own other found).map disclosed := by
  have several : distinct ((found.map disclosed).filter (isIn (own.map disclosed))) =
      (distinct (found.filter (isIn own))).map disclosed := by
    rw [filter_isIn_disclosed, distinct_disclosed]
  cases other with
  | set frozen members =>
      simp only [disclosed_set, common, List.length_map, filter_isIn_disclosed]
      split <;> rfl
  | _ => exact several

theorem shared_disclosed (own others : List Value) :
    shared (own.map disclosed) (others.map disclosed) =
      List.map disclosed <$> shared own others := by
  induction others generalizing own with
  | nil => rfl
  | cons other rest inductionHypothesis =>
      rw [List.map_cons, shared, takeMembers_disclosed, shared]
      refine map_bind_map fun found => ?_
      rw [common_disclosed]
      exact inductionHypothesis (common own other found)

theorem remaining_disclosed (own others : List Value) :
    remaining (own.map disclosed) (others.map disclosed) =
      List.map disclosed <$> remaining own others := by
  induction others generalizing own with
  | nil => rfl
  | cons other rest inductionHypothesis =>
      rw [List.map_cons, remaining, takeMembers_disclosed, remaining]
      refine map_bind_map fun found => ?_
      have kept : (own.map disclosed).filter (fun member => !isIn (found.map disclosed) member) =
          (own.filter fun member => !isIn found member).map disclosed :=
        filter_disclosed own found
      rw [kept]
      exact inductionHypothesis _

theorem covers_disclosed (own : List Value) (value : Value) :
    covers (own.map disclosed) value.disclosed = covers own value := by
  have foreign (item : Value) :
      (if item.disclosed.hashable then some (!isIn (own.map disclosed) item.disclosed) else none) =
        if item.hashable then some (!isIn own item) else none := by
    rw [hashable_disclosed, isIn_disclosed]
  unfold covers
  rw [iteration_disclosed]
  cases value.iteration with
  | error error => rfl
  | ok walk =>
      have same : walk.disclosed.find? (fun item =>
            if item.hashable then some (!isIn (own.map disclosed) item) else none) =
          walk.find? (fun item => if item.hashable then some (!isIn own item) else none) :=
        funext fun cursors => Iteration.find?_disclosed foreign cursors walk
      exact congrArg (fun search => (do return !(← compared (← modifyGet search)) : Draw Bool)) same

theorem onSet_disclosed (frozen : Bool) (own : List Value) (name : String)
    (arguments : List Value) :
    onSet frozen (own.map disclosed) name (arguments.map disclosed) =
      disclosed <$> onSet frozen own name arguments := by
  fun_cases onSet frozen own name arguments
  case case1 =>
    simp only [onSet, united_disclosed]
    exact map_bind_map fun found => by simp
  case case2 =>
    simp only [onSet, shared_disclosed]
    exact map_bind_map fun found => by simp
  case case3 =>
    simp only [onSet, remaining_disclosed]
    exact map_bind_map fun found => by simp
  case case4 other =>
    simp only [List.map_cons, List.map_nil, onSet, takeMembers_disclosed]
    refine map_bind_map fun found => ?_
    have within : (own.map disclosed).all (isIn (found.map disclosed)) = own.all (isIn found) := by
      rw [List.all_map]
      simp only [Function.comp_def, isIn_disclosed]
    rw [within]
    rfl
  case case5 other =>
    simp only [List.map_cons, List.map_nil, onSet, covers_disclosed]
    exact map_bind_same fun found => rfl
  case case6 =>
    cases arguments using Arguments.upToOne with
    | none | one | more =>
        simp_all [onSet]
        rfl

theorem listed_disclosed (value : Value) : listed value.disclosed = listed value := by
  cases value <;> rfl

/-- A method called on what a value discloses gives what its result discloses. -/
theorem apply_disclosed (base : Value) (name : String) (arguments : List Value)
    (named : List (String × Value)) :
    apply base.disclosed name (arguments.map disclosed) (named.map disclosedField) =
      disclosed <$> apply base name arguments named := by
  let refusal : Draw Value := liftM (wrongArguments name : Except Error Value)
  have refused : refusal = disclosed <$> refusal := rfl
  have unnamed {plain other : Draw Value} (same : other = disclosed <$> plain) :
      (if !(named.map disclosedField).isEmpty then refusal else other) =
        disclosed <$> (if !named.isEmpty then refusal else plain) := by
    rw [List.isEmpty_map]
    split
    · exact refused
    · exact same
  cases base with
  | str content =>
      simp only [disclosed_str, apply, List.isEmpty_map]
      split
      · exact Draw.liftM_eq_map (splitBy_disclosed content arguments named)
      · split
        · exact onText_disclosed content name arguments
        · exact refused
  | list items =>
      rw [disclosed_list]
      exact unnamed (Draw.liftM_eq_map (onSequence_disclosed items name arguments))
  | tuple items =>
      rw [disclosed_tuple]
      exact unnamed (Draw.liftM_eq_map (onSequence_disclosed items name arguments))
  | dict entries =>
      rw [disclosed_dict]
      exact unnamed (Draw.liftM_eq_map (onMapping_disclosed entries name arguments))
  | set frozen own =>
      rw [disclosed_set]
      exact unnamed (onSet_disclosed frozen own name arguments)
  | _ => exact unnamed refused

end Authorization.Method
