import Authorization.Proofs.Script.Parts

/-!
# What the results of operations are made of

Operators, elements, functions and methods put together parts of their operands with plain values, small
integers and times. An integer that they compute may be of any size until it is checked; none of that kind
ends up within a larger result.
-/

namespace Authorization

namespace Value

open Draw

variable {p : Value → Prop}

/-- A result before its size is checked: made of what operations may make, or an integer of any size. -/
def Unchecked (p : Value → Prop) (value : Value) : Prop :=
  value.MadeOf p ∨ ∃ n, value = .int n

theorem MadeOf.unchecked {value : Value} (made : value.MadeOf p) : value.Unchecked p :=
  .inl made

theorem unchecked_int (n : Int) : (int n).Unchecked p :=
  .inr ⟨n, rfl⟩

theorem Unchecked.madeOf {value : Value} (unchecked : value.Unchecked p)
    (notInt : ∀ n, value ≠ .int n) : value.MadeOf p := by
  obtain made | ⟨n, same⟩ := unchecked
  · exact made
  · exact absurd same (notInt n)

variable (lasting : Lasting p)

include lasting

/-! ## Times -/

theorem madeOf_spanOf {micros : Int} {value : Value} (made : spanOf micros = .ok value) :
    value.MadeOf p := by
  unfold spanOf at made
  split at made
  · rename_i span isSpan
    cases made
    exact madeOf_leaf (lasting.span isSpan) rfl
  · cases made

theorem madeOf_movedBy {time : Time.Instant} {micros : Int} {value : Value}
    (own : p (.instant time)) (made : movedBy time micros = .ok value) : value.MadeOf p := by
  unfold movedBy at made
  split at made
  · rename_i later isLater
    cases made
    exact madeOf_leaf (lasting.moved own isLater) rfl
  · cases made

theorem madeOf_roundedSpan {numerator denominator : Int} {value : Value}
    (made : roundedSpan numerator denominator = .ok value) : value.MadeOf p := by
  unfold roundedSpan at made
  split at made
  · cases made
  · exact madeOf_spanOf lasting made

theorem madeOf_addTimes? {left right value : Value} (first : left.Unchecked p)
    (second : right.MadeOf p) (made : addTimes? left right = some (.ok value)) :
    value.MadeOf p := by
  unfold addTimes? at made
  split at made
  · have time := first.madeOf fun _ same => (nomatch same)
    exact madeOf_movedBy lasting time.own (Option.some.inj made)
  · exact madeOf_movedBy lasting second.own (Option.some.inj made)
  · exact madeOf_spanOf lasting (Option.some.inj made)
  · cases made

theorem madeOf_subtractTimes? {left right value : Value} (first : left.MadeOf p)
    (second : right.MadeOf p) (made : subtractTimes? left right = some (.ok value)) :
    value.MadeOf p := by
  unfold subtractTimes? at made
  split at made
  · have difference := Option.some.inj made
    split at difference
    · rename_i span isSpan
      cases difference
      exact madeOf_leaf (lasting.since first.own second.own isSpan) rfl
    · cases difference
  · exact madeOf_movedBy lasting first.own (Option.some.inj made)
  · exact madeOf_spanOf lasting (Option.some.inj made)
  · cases made

theorem madeOf_multipleOf {span : Time.Duration} {factor value : Value}
    (made : multipleOf span factor = some (.ok value)) : value.MadeOf p := by
  unfold multipleOf at made
  split at made
  · obtain ⟨ratio, -, rounded⟩ := Except.bind_eq_ok_iff.1 (Option.some.inj made)
    exact madeOf_roundedSpan lasting rounded
  · obtain ⟨n, -, multiple⟩ := Option.map_eq_some_iff.1 made
    exact madeOf_spanOf lasting multiple

theorem madeOf_multiplyTimes? {left right value : Value}
    (made : multiplyTimes? left right = some (.ok value)) : value.MadeOf p := by
  unfold multiplyTimes? at made
  split at made
  · exact madeOf_multipleOf lasting made
  · exact madeOf_multipleOf lasting made
  · cases made

theorem madeOf_divideTimes? {left right value : Value}
    (made : divideTimes? left right = some (.ok value)) : value.MadeOf p := by
  unfold divideTimes? at made
  split at made
  · have quotient := Option.some.inj made
    split at quotient
    · cases quotient
    · split at quotient
      · cases quotient
        exact lasting.madeOf_float _
      · cases quotient
  · obtain ⟨ratio, -, rounded⟩ := Except.bind_eq_ok_iff.1 (Option.some.inj made)
    exact madeOf_roundedSpan lasting rounded
  · obtain ⟨n, -, part⟩ := Option.map_eq_some_iff.1 made
    exact madeOf_roundedSpan lasting part
  · cases made

theorem unchecked_floorDivideTimes? {left right value : Value}
    (made : floorDivideTimes? left right = some (.ok value)) : value.Unchecked p := by
  unfold floorDivideTimes? at made
  split at made
  · have quotient := Option.some.inj made
    split at quotient
    · cases quotient
    · cases quotient
      exact unchecked_int _
  · obtain ⟨n, -, part⟩ := Option.map_eq_some_iff.1 made
    split at part
    · cases part
    · exact (madeOf_spanOf lasting part).unchecked
  · cases made

theorem madeOf_moduloTimes? {left right value : Value}
    (made : moduloTimes? left right = some (.ok value)) : value.MadeOf p := by
  unfold moduloTimes? at made
  split at made
  · have rest := Option.some.inj made
    split at rest
    · cases rest
    · exact madeOf_spanOf lasting rest
  · cases made

theorem madeOf_negateTime? {value result : Value} (made : negateTime? value = some (.ok result)) :
    result.MadeOf p := by
  unfold negateTime? at made
  split at made
  · exact madeOf_spanOf lasting (Option.some.inj made)
  · cases made

theorem madeOf_magnitudeOfTime? {value result : Value}
    (made : magnitudeOfTime? value = some (.ok result)) : result.MadeOf p := by
  unfold magnitudeOfTime? at made
  split at made
  · exact madeOf_spanOf lasting (Option.some.inj made)
  · cases made

/-! ## Operators -/

theorem madeOf_inexact {value : Value} (isInexact : value.IsInexact) : value.MadeOf p := by
  cases isInexact with
  | float x => exact lasting.madeOf_float x
  | complex re im => exact lasting.leaf trivial rfl

theorem unchecked_number {value : Value} (isNumber : value.IsNumber) : value.Unchecked p := by
  cases isNumber with
  | int n => exact unchecked_int n
  | inexact isInexact => exact (madeOf_inexact lasting isInexact).unchecked

theorem unchecked_add {left right value : Value} (first : left.Unchecked p)
    (second : right.MadeOf p) (made : left.add right = .ok value) : value.Unchecked p := by
  obtain ⟨a, b, rfl, rfl, rfl⟩ | ⟨a, b, rfl, rfl, rfl⟩ | ⟨a, b, rfl, rfl, rfl⟩ |
    ⟨a, b, rfl, rfl, rfl⟩ | isNumber | times := add_cases made
  · exact (lasting.madeOf_str _).unchecked
  · exact .inl (lasting.leaf trivial rfl)
  · have items := first.madeOf fun _ same => (nomatch same)
    exact .inl (lasting.madeOf_list (List.forall_mem_append.2
      ⟨fun _ member => items.part member, fun _ member => second.part member⟩))
  · have items := first.madeOf fun _ same => (nomatch same)
    exact .inl (lasting.madeOf_tuple (List.forall_mem_append.2
      ⟨fun _ member => items.part member, fun _ member => second.part member⟩))
  · exact unchecked_number lasting isNumber
  · exact (madeOf_addTimes? lasting first second times).unchecked

omit lasting in
theorem mem_of_mem_repeated {α : Type} {items result : List α} {count : Int} {item : α}
    (made : repeated items count = .ok result) (member : item ∈ result) : item ∈ items := by
  unfold repeated at made
  split at made
  · cases made
  · split at made
    · cases made
      cases member
    · split at made
      · cases made
      · split at made
        · cases made
        · cases made
          obtain ⟨copy, isCopy, member⟩ := List.mem_flatten.1 member
          rwa [List.eq_of_mem_replicate isCopy] at member

theorem madeOf_repeatedValue? {sequence value : Value} {count : Int} (given : sequence.MadeOf p)
    (made : repeatedValue? sequence count = some (.ok value)) : value.MadeOf p := by
  unfold repeatedValue? at made
  split at made
  · obtain ⟨chars, -, rfl⟩ := Except.map_eq_ok_iff.1 (Option.some.inj made)
    exact lasting.madeOf_str _
  · obtain ⟨octets, -, rfl⟩ := Except.map_eq_ok_iff.1 (Option.some.inj made)
    exact lasting.leaf trivial rfl
  · obtain ⟨items, isRepeated, rfl⟩ := Except.map_eq_ok_iff.1 (Option.some.inj made)
    exact lasting.madeOf_list fun _ member => given.part (mem_of_mem_repeated isRepeated member)
  · obtain ⟨items, isRepeated, rfl⟩ := Except.map_eq_ok_iff.1 (Option.some.inj made)
    exact lasting.madeOf_tuple fun _ member => given.part (mem_of_mem_repeated isRepeated member)
  · cases made

theorem unchecked_multiply {left right value : Value} (first : left.MadeOf p)
    (second : right.MadeOf p) (made : left.multiply right = .ok value) : value.Unchecked p := by
  obtain ⟨n, -, several⟩ | ⟨n, -, -, several⟩ | isNumber | times := multiply_cases made
  · exact (madeOf_repeatedValue? lasting first several).unchecked
  · exact (madeOf_repeatedValue? lasting second several).unchecked
  · exact unchecked_number lasting isNumber
  · exact (madeOf_multiplyTimes? lasting times).unchecked

theorem unchecked_subtractPlain {left right value : Value} (first : left.MadeOf p)
    (second : right.MadeOf p) (made : left.subtractPlain right = .ok value) :
    value.Unchecked p := by
  unfold subtractPlain at made
  split at made
  · obtain ⟨pair, -, difference⟩ := Except.bind_eq_ok_iff.1 made
    cases pair with
    | whole n m =>
        cases difference
        exact unchecked_int _
    | real x y =>
        cases difference
        exact (lasting.madeOf_float _).unchecked
    | complex z w =>
        cases difference
        exact .inl (lasting.leaf trivial rfl)
  · split at made
    · cases made
      exact .inl (lasting.madeOf_set fun _ member => first.part (List.mem_filter.1 member).1)
    · exact .inl (madeOf_subtractTimes? lasting first second (ok_of_getD_noOperation made))

omit lasting in
theorem mem_of_mem_distinctFrom {seen items : List Value} {item : Value}
    (member : item ∈ distinctFrom seen items) : item ∈ seen ∨ item ∈ items := by
  induction items generalizing seen with
  | nil => exact .inl (List.mem_reverse.1 member)
  | cons first rest inductionHypothesis =>
      unfold distinctFrom at member
      split at member
      · exact (inductionHypothesis member).imp_right (List.mem_cons_of_mem first)
      · obtain old | new := inductionHypothesis member
        · obtain rfl | old := List.mem_cons.1 old
          · exact .inr (List.mem_cons_self ..)
          · exact .inl old
        · exact .inr (List.mem_cons_of_mem first new)

omit lasting in
theorem mem_of_mem_distinct {items : List Value} {item : Value} (member : item ∈ distinct items) :
    item ∈ items :=
  (mem_of_mem_distinctFrom member).resolve_left List.not_mem_nil

theorem gives_subtract {left right : Value} (first : left.MadeOf p) (second : right.MadeOf p) :
    Gives p (Unchecked p) (left.subtract right) := by
  refine .ite (fun _ => ?_) fun _ => gives_liftM fun _ made =>
    unchecked_subtractPlain lasting first second made
  refine (gives_takeMembers lasting first).bind fun members isMade => ?_
  refine (gives_takeMembers lasting second).bind fun others _ => gives_pure (.inl ?_)
  exact lasting.madeOf_set fun _ member =>
    isMade _ (mem_of_mem_distinct (List.mem_filter.1 member).1)

theorem unchecked_divide {left right value : Value} (made : left.divide right = .ok value) :
    value.Unchecked p := by
  unfold divide at made
  split at made
  · exact (madeOf_divideTimes? lasting (ok_of_getD_noOperation made)).unchecked
  · obtain ⟨pair, -, quotient⟩ := Except.bind_eq_ok_iff.1 made
    cases pair with
    | whole n m =>
        dsimp only at quotient
        split at quotient
        · cases quotient
        · split at quotient
          · cases quotient
            exact (lasting.madeOf_float _).unchecked
          · cases quotient
    | real x y =>
        dsimp only at quotient
        split at quotient
        · cases quotient
        · cases quotient
          exact (lasting.madeOf_float _).unchecked
    | complex z w =>
        dsimp only at quotient
        split at quotient
        · cases quotient
        · cases quotient
          exact .inl (lasting.leaf trivial rfl)

theorem unchecked_floorDivide {left right value : Value}
    (made : left.floorDivide right = .ok value) : value.Unchecked p := by
  unfold floorDivide at made
  split at made
  · exact unchecked_floorDivideTimes? lasting (ok_of_getD_noOperation made)
  · obtain ⟨pair, -, quotient⟩ := Except.bind_eq_ok_iff.1 made
    cases pair with
    | whole n m =>
        dsimp only at quotient
        split at quotient
        · cases quotient
        · cases quotient
          exact unchecked_int _
    | real x y =>
        dsimp only at quotient
        split at quotient
        · cases quotient
        · cases quotient
          exact (lasting.madeOf_float _).unchecked
    | complex z w => cases quotient

theorem unchecked_modulo {left right value : Value} (made : left.modulo right = .ok value) :
    value.Unchecked p := by
  unfold modulo at made
  split at made
  · split at made
    · obtain ⟨octets, -, rfl⟩ := Except.map_eq_ok_iff.1 made
      exact .inl (lasting.leaf trivial rfl)
    · exact (madeOf_moduloTimes? lasting (ok_of_getD_noOperation made)).unchecked
  · obtain ⟨pair, -, rest⟩ := Except.bind_eq_ok_iff.1 made
    cases pair with
    | whole n m =>
        dsimp only at rest
        split at rest
        · cases rest
        · cases rest
          exact unchecked_int _
    | real x y =>
        dsimp only at rest
        split at rest
        · cases rest
        · cases rest
          exact (lasting.madeOf_float _).unchecked
    | complex z w => cases rest

theorem unchecked_power {left right value : Value} (made : left.power right = .ok value) :
    value.Unchecked p := by
  obtain ⟨base, exponent, -, -, -, rfl⟩ | isInexact := power_cases made
  · exact unchecked_int _
  · exact (madeOf_inexact lasting isInexact).unchecked

/-! ## Signs -/

/-- The integer of a value that counts as one. -/
theorem own_of_asInt? {value : Value} {n : Int} (made : value.MadeOf p)
    (isWhole : value.asInt? = some n) : p (.int n) := by
  cases value with
  | int number =>
      cases isWhole
      exact made.own
  | bool flag =>
      cases isWhole
      cases flag with
      | false => exact lasting.int (by decide)
      | true => exact lasting.int (by decide)
  | _ => cases isWhole

omit lasting in
theorem asInt?_of_numeric? {value : Value} {n : Int} (isWhole : numeric? value = some (.whole n)) :
    value.asInt? = some n := by
  cases value with
  | int number =>
      cases isWhole
      rfl
  | bool flag =>
      cases isWhole
      rfl
  | _ => cases isWhole

/-- The sign of a number is changed without a check of its size, which stays the same. -/
theorem madeOf_negate {value result : Value} (given : value.MadeOf p)
    (made : value.negate = .ok result) : result.MadeOf p := by
  unfold negate at made
  split at made
  · rename_i n isWhole
    cases made
    have own := own_of_asInt? lasting given (asInt?_of_numeric? isWhole)
    exact madeOf_leaf (lasting.negated own) rfl
  · cases made
    exact lasting.madeOf_float _
  · cases made
    exact lasting.leaf trivial rfl
  · cases found : negateTime? value with
    | none =>
        rw [found] at made
        cases made
    | some negated =>
        rw [found, Option.getD_some] at made
        exact madeOf_negateTime? lasting (found.trans (congrArg some made))

theorem madeOf_affirm {value result : Value} (given : value.MadeOf p)
    (made : value.affirm = .ok result) : result.MadeOf p := by
  unfold affirm at made
  split at made
  · rename_i n isWhole
    cases made
    exact madeOf_leaf (own_of_asInt? lasting given (asInt?_of_numeric? isWhole)) rfl
  · cases made
    exact given
  · split at made
    · cases made
      exact given
    · cases made

theorem unchecked_magnitude {value result : Value} (made : value.magnitude = .ok result) :
    result.Unchecked p := by
  unfold magnitude at made
  split at made
  · cases made
    exact unchecked_int _
  · cases made
    exact (lasting.madeOf_float _).unchecked
  · split at made
    · cases made
    · cases made
      exact (lasting.madeOf_float _).unchecked
  · cases found : magnitudeOfTime? value with
    | none =>
        rw [found] at made
        cases made
    | some magnitude =>
        rw [found, Option.getD_some] at made
        exact (madeOf_magnitudeOfTime? lasting (found.trans (congrArg some made))).unchecked

/-! ## Elements and attributes -/

omit lasting in
theorem madeOf_lookup? {entries : List (Value × Value)} {key value : Value}
    (each : EntriesMadeOf p entries) (found : lookup? entries key = some value) :
    value.MadeOf p := by
  obtain ⟨entry, isFound, rfl⟩ := Option.map_eq_some_iff.1 found
  exact (each entry (List.mem_of_find?_eq_some isFound)).2

omit lasting in
theorem mem_of_itemAt {α : Type} {kind : String} {items : List α} {position : Int} {item : α}
    (found : itemAt kind items position = .ok item) : item ∈ items := by
  unfold itemAt at found
  dsimp only at found
  generalize (if position < 0 then position + items.length else position) = place at found
  by_cases isBefore : place < 0
  · rw [if_pos isBefore] at found
    cases found
  · rw [if_neg isBefore] at found
    split at found
    · rename_i here
      cases found
      exact List.mem_of_getElem? here
    · cases found

omit lasting in
theorem mem_of_mem_sliceOf {α : Type} {items result : List α} {lower upper step : Value} {item : α}
    (made : sliceOf items lower upper step = .ok result) (member : item ∈ result) :
    item ∈ items := by
  obtain ⟨positions, -, taken⟩ := Except.bind_eq_ok_iff.1 made
  cases taken
  obtain ⟨position, -, here⟩ := List.mem_filterMap.1 member
  rw [List.getElem?_toArray] at here
  exact List.mem_of_getElem? here

omit lasting in
/-- An item or a slice of a sequence, put together by its kind. -/
theorem madeOf_ofSequence {α : Type} {kind : String} {items : List α} {single : α → Value}
    {several : List α → Value} {index value : Value}
    (one : ∀ item ∈ items, (single item).MadeOf p)
    (many : ∀ found, (∀ item ∈ found, item ∈ items) → (several found).MadeOf p)
    (made : ofSequence kind items single several index = .ok value) : value.MadeOf p := by
  unfold ofSequence at made
  split at made
  · obtain ⟨found, isSlice, rfl⟩ := Except.map_eq_ok_iff.1 made
    exact many found fun _ member => mem_of_mem_sliceOf isSlice member
  · split at made
    · obtain ⟨item, isItem, rfl⟩ := Except.map_eq_ok_iff.1 made
      exact one item (mem_of_itemAt isItem)
    · cases made

theorem madeOf_element {base index value : Value} (given : base.MadeOf p)
    (made : base.element index = .ok value) : value.MadeOf p := by
  have entry {entries : List (Value × Value)} (each : EntriesMadeOf p entries)
      (found : entryAt entries index = .ok value) : value.MadeOf p := by
    unfold entryAt at found
    split at found
    · cases found
    · split at found
      · rename_i isThere
        cases found
        exact madeOf_lookup? each isThere
      · cases found
  cases base with
  | dict entries | proxy entries => exact entry (given.entries rfl) made
  | str content =>
      exact madeOf_ofSequence (fun _ _ => lasting.madeOf_str _)
        (fun _ _ => lasting.madeOf_str _) made
  | list items =>
      exact madeOf_ofSequence (fun _ member => given.part member)
        (fun _ within => lasting.madeOf_list fun _ member => given.part (within _ member)) made
  | tuple items =>
      exact madeOf_ofSequence (fun _ member => given.part member)
        (fun _ within => lasting.madeOf_tuple fun _ member => given.part (within _ member)) made
  | _ => cases made

omit lasting in
theorem mem_of_lookup {α : Type} {fields : List (String × α)} {name : String} {value : α}
    (found : fields.lookup name = some value) : (name, value) ∈ fields := by
  induction fields with
  | nil => cases found
  | cons field rest inductionHypothesis =>
      obtain ⟨key, first⟩ := field
      rw [List.lookup_cons] at found
      split at found
      · rename_i same
        rw [beq_iff_eq.1 same]
        cases found
        exact List.mem_cons_self ..
      · exact List.mem_cons_of_mem _ (inductionHypothesis found)

omit lasting in
/-- The properties of a number or a time consist of nothing else. -/
theorem parts_of_mem_properties {value : Value} (leaf : value.parts = []) :
    ∀ field ∈ value.properties, field.2.parts = [] := by
  have none {fields : List (String × Value)} (same : fields.map Prod.snd = []) : fields = [] :=
    List.map_eq_nil_iff.1 same
  cases value with
  | object tag fields => simp [properties, none leaf]
  | record kind fields =>
      cases kind with
      | permission => simp [properties, none leaf, parts]
      | _ => simp [properties, none leaf]
  | view kind entries => exact List.forall_mem_singleton.2 leaf
  | slice lower upper step => cases leaf
  | instant time =>
      have zone : ((time.offset.map Value.zone).getD .null).parts = [] := by
        cases time.offset <;> rfl
      simp only [properties, List.forall_mem_cons]
      exact ⟨rfl, rfl, rfl, rfl, rfl, rfl, rfl, rfl, zone, rfl, rfl, rfl, List.forall_mem_nil _⟩
  | _ => simp [properties, parts]

theorem madeOf_properties {value : Value} (made : value.MadeOf p) :
    ∀ field ∈ value.properties, field.2.MadeOf p := by
  have own {fields : List (String × Value)} (same : value.parts = fields.map Prod.snd) :
      ∀ field ∈ fields, field.2.MadeOf p := fun field member =>
    made.part (same ▸ List.mem_map_of_mem member)
  have shown (leaf : value.parts = []) (field : String × Value) (member : field ∈ value.properties) :
      field.2.MadeOf p :=
    madeOf_leaf (lasting.shown made.own leaf field member) (parts_of_mem_properties leaf field member)
  cases value with
  | object tag fields => exact own rfl
  | record kind fields =>
      cases kind with
      | permission =>
          refine List.forall_mem_append.2 ⟨own rfl, List.forall_mem_singleton.2 ?_⟩
          exact lasting.madeOf_bool _
      | _ => exact own rfl
  | view kind entries =>
      exact List.forall_mem_singleton.2 (lasting.madeOf_proxy (made.entries rfl))
  | slice lower upper step => exact own rfl
  | bool flag | int n | float x | complex re im | range start stop step | instant time | duration span
  | zone offset => exact shown rfl
  | _ => exact List.forall_mem_nil _

theorem madeOf_attribute? {value found : Value} {name : String} (made : value.MadeOf p)
    (isThere : value.attribute? name = some found) : found.MadeOf p := by
  unfold attribute? at isThere
  split at isThere
  · rename_i isProperty
    cases isThere
    exact madeOf_properties lasting made _ (mem_of_lookup isProperty)
  · split at isThere
    · cases isThere
      exact lasting.leaf trivial rfl
    · cases isThere

end Value

/-! ## Functions -/

namespace Builtin

open Value Draw

variable {p : Value → Prop}

theorem gives_wrongArguments {α : Type} {post : α → Prop} (f : Builtin) :
    Gives p post (wrongArguments f : Draw α) :=
  gives_fault _ _

variable (lasting : Lasting p)

include lasting

omit lasting in
theorem unchecked_readWhole {base : Nat} {text : Option String} {value : Value}
    (made : readWhole base text = .ok value) : value.Unchecked p := by
  unfold readWhole at made
  split at made
  · cases made
    exact unchecked_int _
  · cases made

omit lasting in
theorem unchecked_wholeOf {value result : Value} (made : wholeOf value = .ok result) :
    result.Unchecked p := by
  unfold wholeOf at made
  split at made
  · split at made
    · cases made
      exact unchecked_int _
    · split at made <;> cases made
  · split at made
    · exact unchecked_readWhole made
    · cases made
      exact unchecked_int _
    · cases made

omit lasting in
theorem unchecked_wholeInBase {value base result : Value}
    (made : wholeInBase value base = .ok result) : result.Unchecked p := by
  unfold wholeInBase at made
  split at made
  · cases made
  · split at made
    · split at made
      · exact unchecked_readWhole made
      · cases made
    · cases made

theorem madeOf_realOf {value result : Value} (given : value.MadeOf p)
    (made : realOf value = .ok result) : result.MadeOf p := by
  unfold realOf at made
  split at made
  · cases made
    exact given
  · split at made
    · split at made
      · cases made
        exact lasting.madeOf_float _
      · cases made
    · obtain ⟨x, -, rfl⟩ := Except.map_eq_ok_iff.1 made
      exact lasting.madeOf_float x
    · cases made

theorem madeOf_toTextBy {value encoding treatment : Option Value} {result : Value}
    (made : toTextBy value encoding treatment = .ok result) : result.MadeOf p := by
  obtain ⟨named, -, made⟩ := Except.bind_eq_ok_iff.1 made
  obtain ⟨treated, -, made⟩ := Except.bind_eq_ok_iff.1 made
  split at made
  · cases made
    exact lasting.madeOf_str _
  · obtain ⟨text, -, made⟩ := Except.bind_eq_ok_iff.1 made
    cases made
    exact lasting.madeOf_str _
  · split at made
    · cases made
      exact lasting.madeOf_str _
    · cases made
  · cases made

/-! ### Mappings and ranges -/

theorem gives_pairOf (place : Nat) {value : Value} (given : value.MadeOf p) :
    Gives p (fun pair => pair.1.MadeOf p ∧ pair.2.MadeOf p) (pairOf place value) := by
  unfold pairOf
  split
  · exact gives_fault _ _
  · refine (gives_items lasting given).bind fun items isMade => ?_
    split
    · obtain ⟨key, others⟩ := List.forall_mem_cons.1 isMade
      exact gives_pure ⟨key, List.forall_mem_singleton.1 others⟩
    · exact gives_fault _ _

omit lasting in
theorem entriesMadeOf_store {key value : Value} {entries : List (Value × Value)}
    (isKey : key.MadeOf p) (isValue : value.MadeOf p) (each : EntriesMadeOf p entries) :
    EntriesMadeOf p (Value.store key value entries) := by
  induction entries with
  | nil => exact List.forall_mem_singleton.2 ⟨isKey, isValue⟩
  | cons entry rest inductionHypothesis =>
      obtain ⟨first, others⟩ := List.forall_mem_cons.1 each
      unfold Value.store
      split
      · exact List.forall_mem_cons.2 ⟨⟨first.1, isValue⟩, others⟩
      · exact List.forall_mem_cons.2 ⟨first, inductionHypothesis others⟩

theorem gives_storePairs {entries : List (Value × Value)} (each : EntriesMadeOf p entries)
    (place : Nat) {items : List Value} (given : ∀ item ∈ items, item.MadeOf p) :
    Gives p (EntriesMadeOf p) (storePairs entries place items) := by
  induction items generalizing entries place with
  | nil => exact gives_pure each
  | cons value rest inductionHypothesis =>
      obtain ⟨first, others⟩ := List.forall_mem_cons.1 given
      refine (gives_pairOf lasting place first).bind fun pair isMade => ?_
      refine .ite (fun _ => ?_) fun _ => gives_liftM fun _ same => (nomatch same)
      exact inductionHypothesis (entriesMadeOf_store isMade.1 isMade.2 each) (place + 1) others

theorem gives_entriesOf {value : Value} (given : value.MadeOf p) :
    Gives p (EntriesMadeOf p) (entriesOf value) := by
  unfold entriesOf
  split
  · rename_i entries isMapping
    cases value with
    | dict found | proxy found =>
        cases isMapping
        exact gives_pure (given.entries rfl)
    | _ => cases isMapping
  · exact (gives_items lasting given).bind fun items isMade =>
      gives_storePairs lasting (List.forall_mem_nil _) 0 isMade

theorem own_of_mem_bounds {values : List Value} {found : List Int}
    (given : ∀ value ∈ values, value.MadeOf p) (made : bounds values = .ok found) :
    ∀ n ∈ found, p (.int n) := by
  induction values generalizing found with
  | nil =>
      cases made
      exact List.forall_mem_nil _
  | cons value rest inductionHypothesis =>
      obtain ⟨first, others⟩ := List.forall_mem_cons.1 given
      unfold bounds at made
      split at made
      · rename_i n isWhole
        obtain ⟨more, isMore, rfl⟩ := Except.map_eq_ok_iff.1 made
        exact List.forall_mem_cons.2
          ⟨own_of_asInt? lasting first isWhole, inductionHypothesis others isMore⟩
      · cases made

theorem madeOf_rangeOf {start stop step : Int} {value : Value} (first : p (.int start))
    (last : p (.int stop)) (stride : p (.int step)) (made : rangeOf start stop step = .ok value) :
    value.MadeOf p := by
  unfold rangeOf at made
  split at made
  · cases made
  · cases made
    exact madeOf_leaf (lasting.range first last stride) rfl

/-! ### Aggregation -/

omit lasting in
/-- The extreme item is one of the items. -/
theorem gives_extreme {relation : Relation} {key : Value → Draw Value} {post : Value → Prop}
    {best : Value × Value} {items : List Value}
    (keyed : ∀ item ∈ items, Gives p (fun _ => True) (key item)) (first : post best.2)
    (given : ∀ item ∈ items, post item) : Gives p post (extreme relation key best items) := by
  induction items generalizing best with
  | nil => exact gives_pure first
  | cons item rest inductionHypothesis =>
      obtain ⟨here, others⟩ := List.forall_mem_cons.1 given
      obtain ⟨keyHere, keyOthers⟩ := List.forall_mem_cons.1 keyed
      refine keyHere.bind fun found _ => ?_
      split
      · exact gives_fault _ _
      · exact inductionHypothesis keyOthers here others
      · exact inductionHypothesis keyOthers first others

omit lasting in
theorem gives_best {relation : Relation} {key : Value → Draw Value} {post : Value → Prop}
    {default? : Option Value} {items : List Value}
    (keyed : ∀ item ∈ items, Gives p (fun _ => True) (key item))
    (given : ∀ item ∈ items, post item) (fallback : ∀ value ∈ default?, post value) :
    Gives p post (best relation key default? items) := by
  cases items with
  | nil =>
      cases default? with
      | none => exact gives_fault _ _
      | some value => exact gives_pure (fallback value rfl)
  | cons first rest =>
      obtain ⟨here, others⟩ := List.forall_mem_cons.1 given
      obtain ⟨keyHere, keyOthers⟩ := List.forall_mem_cons.1 keyed
      exact keyHere.bind fun found _ => gives_extreme keyOthers here others

theorem gives_bestOf (f : Builtin) {relation : Relation} {key : Value → Draw Value}
    {default? : Option Value} {values : List Value}
    (keyed : ∀ item, item.MadeOf p → Gives p (fun _ => True) (key item))
    (given : ∀ value ∈ values, value.MadeOf p) (fallback : ∀ value ∈ default?, value.MadeOf p) :
    Gives p (Value.MadeOf p) (bestOf f relation key default? values) := by
  unfold bestOf
  split
  · exact gives_wrongArguments f
  · exact (gives_items lasting (List.forall_mem_singleton.1 given)).bind fun items isMade =>
      gives_best (fun item member => keyed item (isMade item member)) isMade fallback
  · refine .ite (fun _ => gives_wrongArguments f) fun _ => ?_
    exact gives_best (fun item member => keyed item (given item member)) given
      fun _ same => (nomatch same)

omit lasting in
theorem mem_of_insertSorted? {less : Value → Value → Option Bool} {sorted result : Array (Value × Value)}
    {added entry : Value × Value} (made : insertSorted? less sorted added = some result)
    (member : entry ∈ result) : entry = added ∨ entry ∈ sorted := by
  obtain ⟨place, -, rfl⟩ := Option.map_eq_some_iff.1 made
  unfold Array.insertIdxIfInBounds at member
  split at member
  · exact Array.mem_insertIdx.1 member
  · exact .inr member

omit lasting in
theorem mem_of_foldlM_insertSorted? {less : Value → Value → Option Bool}
    {sorted result : Array (Value × Value)} {entries : List (Value × Value)} {entry : Value × Value}
    (made : entries.foldlM (insertSorted? less) sorted = some result) (member : entry ∈ result) :
    entry ∈ sorted ∨ entry ∈ entries := by
  induction entries generalizing sorted with
  | nil =>
      cases made
      exact .inl member
  | cons first rest inductionHypothesis =>
      rw [List.foldlM_cons] at made
      obtain ⟨next, isNext, others⟩ := Option.bind_eq_some_iff.1 made
      obtain found | found := inductionHypothesis others
      · obtain rfl | found := mem_of_insertSorted? isNext found
        · exact .inr (List.mem_cons_self ..)
        · exact .inl found
      · exact .inr (List.mem_cons_of_mem first found)

omit lasting in
/-- Sorting gives back what it was given. -/
theorem mem_of_sortEntries? {entries ordered : List (Value × Value)} {entry : Value × Value}
    (made : sortEntries? entries = some ordered) (member : entry ∈ ordered) : entry ∈ entries := by
  unfold sortEntries? at made
  dsimp only at made
  split at made
  · cases made
  · rename_i count descending isRun
    obtain ⟨result, isSorted, rfl⟩ := Option.map_eq_some_iff.1 made
    obtain found | found := mem_of_foldlM_insertSorted? isSorted (Array.mem_toList_iff.1 member)
    · have inRun : entry ∈ entries.take count := by
        cases descending <;> simpa using found
      exact List.mem_of_mem_take inRun
    · exact List.mem_of_mem_drop found

theorem madeOf_sortedEntries {reverse : Bool} {entries : List (Value × Value)} {value : Value}
    (given : ∀ entry ∈ entries, entry.2.MadeOf p) (made : sortedEntries reverse entries = .ok value) :
    value.MadeOf p := by
  unfold sortedEntries at made
  dsimp only at made
  split at made
  · cases made
  · rename_i ordered isSorted
    cases made
    refine lasting.madeOf_list (List.forall_mem_map.2 fun entry member => given entry ?_)
    cases reverse with
    | true => exact List.mem_reverse.1 (mem_of_sortEntries? isSorted (List.mem_reverse.1 member))
    | false => exact mem_of_sortEntries? isSorted member

theorem unchecked_sumOf {total value : Value} {items : List Value} (first : total.Unchecked p)
    (given : ∀ item ∈ items, item.MadeOf p) (made : sumOf total items = .ok value) :
    value.Unchecked p := by
  induction items generalizing total with
  | nil =>
      cases made
      exact first
  | cons item rest inductionHypothesis =>
      obtain ⟨here, others⟩ := List.forall_mem_cons.1 given
      obtain ⟨sum, isSum, made⟩ := Except.bind_eq_ok_iff.1 made
      exact inductionHypothesis (unchecked_add lasting first here isSum) others made

theorem unchecked_sumFrom {start value : Value} {items : List Value} (first : start.Unchecked p)
    (given : ∀ item ∈ items, item.MadeOf p) (made : sumFrom start items = .ok value) :
    value.Unchecked p := by
  unfold sumFrom at made
  split at made
  · cases made
  · cases made
  · exact unchecked_sumOf lasting first given made

theorem unchecked_rounded {value places result : Value} (made : rounded value places = .ok result) :
    result.Unchecked p := by
  unfold rounded at made
  split at made
  · split at made
    · cases made
      exact unchecked_int _
    · split at made <;> cases made
  · split at made
    · cases made
    · split at made
      · cases made
        exact (lasting.madeOf_float _).unchecked
      · cases made
  · split at made
    · cases made
    · split at made
      · cases made
        exact unchecked_int _
      · split at made
        · cases made
        · split at made
          · cases made
            exact unchecked_int _
          · split at made
            · cases made
              exact unchecked_int _
            · cases made
              exact unchecked_int _

/-! ### Calls -/

/-- A function called with positional arguments. -/
theorem gives_applyPlain (f : Builtin) {arguments : List Value}
    (given : ∀ argument ∈ arguments, argument.MadeOf p) :
    Gives p (Unchecked p) (applyPlain f arguments) := by
  have text (value encoding treatment : Option Value) :
      Gives p (Unchecked p) (liftM (toTextBy value encoding treatment) : Draw Value) :=
    gives_liftM fun _ made => (madeOf_toTextBy lasting made).unchecked
  have extreme (relation : Relation) (values : List Value)
      (made : ∀ value ∈ values, value.MadeOf p) :
      Gives p (Unchecked p) (bestOf f relation pure none values) :=
    (gives_bestOf lasting f (fun _ _ => gives_pure trivial) made
      fun value isThere => absurd isThere (Option.not_mem_none value)).mono fun _ => MadeOf.unchecked
  have items {value : Value} {others : List Value}
      (made : ∀ argument ∈ value :: others, argument.MadeOf p) :
      Gives p (fun items => ∀ item ∈ items, item.MadeOf p) value.items :=
    gives_items lasting (made value (List.mem_cons_self ..))
  unfold applyPlain
  split
  case h_1 => exact (gives_liftM fun _ _ => trivial).bind fun count _ => gives_pure (unchecked_int _)
  case h_2 => exact text none none none
  case h_3 value => exact text value none none
  case h_4 value encoding => exact text value encoding none
  case h_5 value encoding treatment => exact text value encoding treatment
  case h_6 => exact gives_pure (unchecked_int _)
  case h_7 => exact gives_liftM fun _ made => unchecked_wholeOf made
  case h_8 => exact gives_liftM fun _ made => unchecked_wholeInBase made
  case h_9 => exact gives_pure (lasting.madeOf_float _).unchecked
  case h_10 =>
    exact gives_liftM fun _ made =>
      (madeOf_realOf lasting (List.forall_mem_singleton.1 given) made).unchecked
  case h_11 => exact gives_pure (lasting.madeOf_bool _).unchecked
  case h_12 => exact gives_pure (lasting.madeOf_bool _).unchecked
  case h_13 => exact gives_liftM fun _ made => unchecked_magnitude lasting made
  case h_14 => exact extreme .less _ given
  case h_15 => exact extreme .greater _ given
  case h_16 =>
    exact (items given).bind fun found isMade => gives_liftM fun _ made =>
      unchecked_sumFrom lasting (unchecked_int 0) isMade made
  case h_17 value start =>
    have isStart := given start (by simp)
    exact (items given).bind fun found isMade => gives_liftM fun _ made =>
      unchecked_sumFrom lasting isStart.unchecked isMade made
  case h_18 => exact (items given).bind fun _ _ => gives_pure (lasting.madeOf_bool _).unchecked
  case h_19 => exact (items given).bind fun _ _ => gives_pure (lasting.madeOf_bool _).unchecked
  case h_20 =>
    refine (items given).bind fun found isMade => gives_liftM fun _ made => ?_
    exact (madeOf_sortedEntries lasting (List.forall_mem_map.2 isMade) made).unchecked
  case h_21 => exact gives_liftM fun _ made => unchecked_rounded lasting made
  case h_22 => exact gives_liftM fun _ made => unchecked_rounded lasting made
  case h_23 => exact gives_pure (lasting.madeOf_list (List.forall_mem_nil _)).unchecked
  case h_24 =>
    exact (items given).bind fun _ isMade => gives_pure (lasting.madeOf_list isMade).unchecked
  case h_25 => exact gives_pure (lasting.madeOf_tuple (List.forall_mem_nil _)).unchecked
  case h_26 =>
    exact (items given).bind fun _ isMade => gives_pure (lasting.madeOf_tuple isMade).unchecked
  case h_27 => exact gives_pure (lasting.madeOf_set (List.forall_mem_nil _)).unchecked
  case h_28 =>
    refine (gives_takeMembers lasting (List.forall_mem_singleton.1 given)).bind fun members isMade =>
      gives_pure (lasting.madeOf_set fun member isThere => ?_).unchecked
    exact isMade member (mem_of_mem_distinct isThere)
  case h_29 => exact gives_pure (lasting.madeOf_dict (List.forall_mem_nil _)).unchecked
  case h_30 =>
    exact (gives_entriesOf lasting (List.forall_mem_singleton.1 given)).bind fun _ isMade =>
      gives_pure (lasting.madeOf_dict isMade).unchecked
  case h_31 =>
    have read (values : List Value) (made : ∀ value ∈ values, value.MadeOf p) :
        Gives p (fun found => ∀ n ∈ found, p (.int n)) (liftM (bounds values) : Draw (List Int)) :=
      gives_liftM fun _ isRead => own_of_mem_bounds lasting made isRead
    refine (read _ given).bind fun found own => ?_
    have first : p (.int 0) := lasting.int (by decide)
    have stride : p (.int 1) := lasting.int (by decide)
    split
    · exact gives_liftM fun _ made =>
        (madeOf_rangeOf lasting first (own _ (by simp)) stride made).unchecked
    · exact gives_liftM fun _ made =>
        (madeOf_rangeOf lasting (own _ (by simp)) (own _ (by simp)) stride made).unchecked
    · exact gives_liftM fun _ made =>
        (madeOf_rangeOf lasting (own _ (by simp)) (own _ (by simp)) (own _ (by simp)) made).unchecked
    · exact gives_wrongArguments _
  case h_32 => exact gives_wrongArguments f

/-- The key of an item in a sorting or a search. -/
theorem gives_keyFunction (key : Value) {item : Value} (given : item.MadeOf p) :
    Gives p (fun _ => True) (keyFunction key item) := by
  unfold keyFunction
  split
  · exact gives_pure trivial
  · exact (gives_applyPlain lasting _ (List.forall_mem_singleton.2 given)).mono fun _ _ => trivial
  · exact gives_fault _ _

theorem gives_keyed (key : Value) {items : List Value} (given : ∀ item ∈ items, item.MadeOf p) :
    Gives p (fun entries => ∀ entry ∈ entries, entry.2.MadeOf p)
      (keyed (keyFunction key) items) := by
  induction items with
  | nil => exact gives_pure (List.forall_mem_nil _)
  | cons item rest inductionHypothesis =>
      obtain ⟨here, others⟩ := List.forall_mem_cons.1 given
      refine (gives_keyFunction lasting key here).bind fun first _ => ?_
      exact (inductionHypothesis others).bind fun entries isMade =>
        gives_pure (List.forall_mem_cons.2 ⟨here, isMade⟩)

/-- The values of named arguments are made of what is admitted. -/
def NamedMadeOf (p : Value → Prop) (named : List (String × Value)) : Prop :=
  ∀ argument ∈ named, argument.2.MadeOf p

omit lasting in
theorem NamedMadeOf.lookup {named : List (String × Value)} {name : String} {value : Value}
    (each : NamedMadeOf p named) (found : named.lookup name = some value) : value.MadeOf p :=
  each _ (mem_of_lookup found)

theorem gives_sortedBy {value : Value} (given : value.MadeOf p) (named : List (String × Value)) :
    Gives p (Unchecked p) (sortedBy value named) := by
  refine (gives_items lasting given).bind fun items isMade => ?_
  split
  · exact gives_fault _ _
  · refine .ite (fun _ => gives_fault _ _) fun _ => ?_
    exact (gives_keyed lasting _ isMade).bind fun entries eachMade => gives_liftM fun _ made =>
      (madeOf_sortedEntries lasting eachMade made).unchecked

theorem gives_extremeBy (f : Builtin) (relation : Relation) {values : List Value}
    {named : List (String × Value)} (given : ∀ value ∈ values, value.MadeOf p)
    (each : NamedMadeOf p named) : Gives p (Unchecked p) (extremeBy f relation values named) :=
  (gives_bestOf lasting f (fun _ isItem => gives_keyFunction lasting _ isItem) given
    fun _ found => each.lookup found).mono fun _ => MadeOf.unchecked

omit lasting in
theorem madeOf_withNamed {parameters : List String} {arguments values : List Value}
    {named : List (String × Value)} (given : ∀ argument ∈ arguments, argument.MadeOf p)
    (each : NamedMadeOf p named) (filled : withNamed parameters arguments named = some values) :
    ∀ value ∈ values, value.MadeOf p := by
  unfold withNamed at filled
  dsimp only at filled
  split at filled
  · cases filled
    refine List.forall_mem_append.2 ⟨given, fun value member => ?_⟩
    obtain ⟨parameter, -, found⟩ := List.mem_filterMap.1 member
    exact each.lookup found
  · cases filled

/-- Named arguments as further entries of a mapping. -/
theorem entriesMadeOf_foldl {named : List (String × Value)} (each : NamedMadeOf p named)
    {entries : List (Value × Value)} (made : EntriesMadeOf p entries) :
    EntriesMadeOf p
      (named.foldl (fun found entry => Value.store (.str entry.1) entry.2 found) entries) := by
  induction named generalizing entries with
  | nil => exact made
  | cons argument rest inductionHypothesis =>
      obtain ⟨first, others⟩ := List.forall_mem_cons.1 each
      exact inductionHypothesis others
        (entriesMadeOf_store (lasting.madeOf_str argument.1) first made)

theorem gives_applyNamed (f : Builtin) {arguments : List Value} {named : List (String × Value)}
    (given : ∀ argument ∈ arguments, argument.MadeOf p) (each : NamedMadeOf p named) :
    Gives p (Unchecked p) (applyNamed f arguments named) := by
  have wrong (g : Builtin) : Gives p (Unchecked p) (wrongArguments g : Draw Value) :=
    gives_wrongArguments g
  unfold applyNamed
  dsimp only
  split
  case h_1 value =>
    exact .ite (fun _ => gives_sortedBy lasting (List.forall_mem_singleton.1 given) named)
      fun _ => wrong _
  case h_2 => exact .ite (fun _ => gives_extremeBy lasting _ _ given each) fun _ => wrong _
  case h_3 => exact .ite (fun _ => gives_extremeBy lasting _ _ given each) fun _ => wrong _
  case h_4 value =>
    split
    · rename_i start
      have isStart : start.MadeOf p := each _ (List.mem_singleton_self _)
      exact (gives_items lasting (List.forall_mem_singleton.1 given)).bind fun items isMade =>
        gives_liftM fun _ made => unchecked_sumFrom lasting isStart.unchecked isMade made
    · exact wrong _
  case h_5 =>
    split
    · rename_i values filled
      exact gives_applyPlain lasting _ (madeOf_withNamed given each filled)
    · exact wrong _
  case h_6 value =>
    split
    · exact gives_liftM fun _ made => unchecked_wholeInBase made
    · exact wrong _
  case h_7 =>
    exact .ite (fun _ => gives_liftM fun _ made => (madeOf_toTextBy lasting made).unchecked)
      fun _ => wrong _
  case h_8 =>
    have filled (entries : List (Value × Value)) (made : EntriesMadeOf p entries) :
        EntriesMadeOf p
          (named.foldl (fun found entry => Value.store (.str entry.1) entry.2 found) entries) :=
      entriesMadeOf_foldl lasting each made
    split
    · exact gives_pure (lasting.madeOf_dict (filled _ (List.forall_mem_nil _))).unchecked
    · exact (gives_entriesOf lasting (List.forall_mem_singleton.1 given)).bind fun _ isMade =>
        gives_pure (lasting.madeOf_dict (filled _ isMade)).unchecked
    · have refused : Gives p (EntriesMadeOf p)
          (wrongArguments .dict : Draw (List (Value × Value))) := gives_wrongArguments _
      exact refused.bind fun _ isMade => gives_pure (lasting.madeOf_dict (filled _ isMade)).unchecked
  case h_9 => exact wrong _

/-- A function called with positional and named arguments. -/
theorem gives_apply (f : Builtin) {arguments : List Value} {named : List (String × Value)}
    (given : ∀ argument ∈ arguments, argument.MadeOf p) (each : NamedMadeOf p named) :
    Gives p (Unchecked p) (f.apply arguments named) :=
  .ite (fun _ => gives_applyPlain lasting f given) fun _ => gives_applyNamed lasting f given each

end Builtin

/-! ## Methods -/

namespace Method

open Value Draw

variable {p : Value → Prop} (lasting : Lasting p)

include lasting

theorem madeOf_stripped {strip : (Char → Bool) → List Char → List Char} {content : String}
    {drop value : Value} (made : stripped strip content drop = .ok value) : value.MadeOf p := by
  unfold stripped at made
  split at made
  · cases made
    exact lasting.madeOf_str _
  · cases made
    exact lasting.madeOf_str _
  · cases made

theorem madeOf_hasAffix {test : List Char → List Char → Bool} {content : String} {affix value : Value}
    {bounds : List Value} (made : hasAffix test content affix bounds = .ok value) :
    value.MadeOf p := by
  obtain ⟨part, -, made⟩ := Except.bind_eq_ok_iff.1 made
  split at made
  · cases made
    exact lasting.madeOf_bool _
  · obtain ⟨outcome, -, made⟩ := Except.bind_eq_ok_iff.1 made
    cases made
    exact lasting.madeOf_bool _
  · cases made

omit lasting in
theorem unchecked_found {content : String} {word value : Value} {bounds : List Value}
    (made : found content word bounds = .ok value) : value.Unchecked p := by
  unfold found at made
  split at made
  · obtain ⟨part?, -, made⟩ := Except.bind_eq_ok_iff.1 made
    split at made
    · cases made
      exact unchecked_int _
    · split at made
      · cases made
        exact unchecked_int _
      · cases made
        exact unchecked_int _
  · cases made

omit lasting in
theorem unchecked_counted {content : String} {word value : Value} {bounds : List Value}
    (made : counted content word bounds = .ok value) : value.Unchecked p := by
  unfold counted at made
  split at made
  · obtain ⟨part?, -, made⟩ := Except.bind_eq_ok_iff.1 made
    split at made
    · cases made
      exact unchecked_int _
    · cases made
      exact unchecked_int _
  · cases made

theorem madeOf_texts (found : List (List Char)) : (texts found).MadeOf p :=
  lasting.madeOf_list (List.forall_mem_map.2 fun _ _ => lasting.madeOf_str _)

theorem madeOf_split {content : String} {separator most value : Value}
    (made : split content separator most = .ok value) : value.MadeOf p := by
  unfold split at made
  split at made
  · cases made
  · dsimp only at made
    split at made
    · cases made
      exact madeOf_texts lasting _
    · split at made
      · cases made
      · cases made
        exact madeOf_texts lasting _
    · cases made

theorem madeOf_splitBy {content : String} {arguments : List Value} {named : List (String × Value)}
    {value : Value} (made : splitBy content arguments named = .ok value) : value.MadeOf p := by
  unfold splitBy at made
  split at made
  · cases made
  · split at made
    · cases made
    · exact madeOf_split lasting made

theorem gives_onText (content name : String) {arguments : List Value}
    (given : ∀ argument ∈ arguments, argument.MadeOf p) :
    Gives p (Unchecked p) (onText content name arguments) := by
  have text (found : String) : Gives p (Unchecked p) (pure (.str found) : Draw Value) :=
    gives_pure (lasting.madeOf_str found).unchecked
  have stripping {strip : (Char → Bool) → List Char → List Char} {drop : Value} :
      Gives p (Unchecked p) (liftM (stripped strip content drop) : Draw Value) :=
    gives_liftM fun _ made => (madeOf_stripped lasting made).unchecked
  have affix {test : List Char → List Char → Bool} {word : Value} {bounds : List Value} :
      Gives p (Unchecked p) (liftM (hasAffix test content word bounds) : Draw Value) :=
    gives_liftM fun _ made => (madeOf_hasAffix lasting made).unchecked
  unfold onText
  split
  case h_1 | h_2 | h_3 | h_4 => exact text _
  case h_5 | h_6 | h_7 | h_8 | h_9 | h_10 => exact stripping
  case h_11 | h_12 => exact affix
  case h_13 => exact gives_liftM fun _ made => unchecked_found made
  case h_14 => exact gives_liftM fun _ made => unchecked_counted made
  case h_15 =>
    have read (items : List Value) :
        Gives p (fun _ => True) (liftM (textParts items) : Draw (List String)) :=
      gives_liftM fun _ _ => trivial
    exact (gives_items lasting (List.forall_mem_singleton.1 given)).bind fun items _ =>
      (read items).bind fun _ _ => text _
  case h_16 | h_17 | h_18 => exact gives_pure (lasting.madeOf_bool _).unchecked
  case h_19 => exact gives_fault _ _

omit lasting in
theorem unchecked_indexOf {items : List Value} {value result : Value} {start stop : Int}
    (made : indexOf items value start stop = .ok result) : result.Unchecked p := by
  unfold indexOf at made
  dsimp only at made
  split at made
  · cases made
  · cases made
    exact unchecked_int _
  · cases made

omit lasting in
theorem unchecked_onSequence {items arguments : List Value} {name : String} {value : Value}
    (made : onSequence items name arguments = .ok value) : value.Unchecked p := by
  unfold onSequence at made
  split at made
  · obtain ⟨count, -, rfl⟩ := Except.map_eq_ok_iff.1 made
    exact unchecked_int _
  · exact unchecked_indexOf made
  · obtain ⟨start, -, made⟩ := Except.bind_eq_ok_iff.1 made
    exact unchecked_indexOf made
  · obtain ⟨first, -, made⟩ := Except.bind_eq_ok_iff.1 made
    obtain ⟨last, -, made⟩ := Except.bind_eq_ok_iff.1 made
    exact unchecked_indexOf made
  · cases made

omit lasting in
theorem madeOf_stored {entries : List (Value × Value)} {key default value : Value}
    (each : EntriesMadeOf p entries) (fallback : default.MadeOf p)
    (made : stored entries key default = .ok value) : value.MadeOf p := by
  unfold stored at made
  split at made
  · cases made
    cases found : lookup? entries key with
    | none => exact fallback
    | some value => exact madeOf_lookup? each found
  · cases made

theorem madeOf_onMapping {entries : List (Value × Value)} {name : String} {arguments : List Value}
    {value : Value} (each : EntriesMadeOf p entries)
    (given : ∀ argument ∈ arguments, argument.MadeOf p)
    (made : onMapping entries name arguments = .ok value) : value.MadeOf p := by
  unfold onMapping at made
  split at made
  · exact madeOf_stored each lasting.madeOf_null made
  · exact madeOf_stored each (given _ (by simp)) made
  · cases made
    exact lasting.madeOf_view each
  · cases made
    exact lasting.madeOf_view each
  · cases made
    exact lasting.madeOf_view each
  · cases made

theorem gives_united {own others : List Value} (isOwn : ∀ member ∈ own, member.MadeOf p)
    (given : ∀ other ∈ others, other.MadeOf p) :
    Gives p (fun members => ∀ member ∈ members, member.MadeOf p) (united own others) := by
  induction others generalizing own with
  | nil => exact gives_pure fun member isThere => isOwn member (mem_of_mem_distinct isThere)
  | cons other rest inductionHypothesis =>
      obtain ⟨here, others⟩ := List.forall_mem_cons.1 given
      exact (gives_takeMembers lasting here).bind fun found isMade =>
        inductionHypothesis (List.forall_mem_append.2 ⟨isOwn, isMade⟩) others

omit lasting in
theorem mem_of_mem_common {own found : List Value} {other member : Value}
    (isThere : member ∈ common own other found) : member ∈ own ∨ member ∈ found := by
  unfold common at isThere
  split at isThere
  · split at isThere
    · exact .inl (List.mem_filter.1 isThere).1
    · exact .inr (List.mem_filter.1 isThere).1
  · exact .inr (List.mem_filter.1 (mem_of_mem_distinct isThere)).1

theorem gives_shared {own others : List Value} (isOwn : ∀ member ∈ own, member.MadeOf p)
    (given : ∀ other ∈ others, other.MadeOf p) :
    Gives p (fun members => ∀ member ∈ members, member.MadeOf p) (shared own others) := by
  induction others generalizing own with
  | nil => exact gives_pure isOwn
  | cons other rest inductionHypothesis =>
      obtain ⟨here, others⟩ := List.forall_mem_cons.1 given
      refine (gives_takeMembers lasting here).bind fun found isMade => ?_
      refine inductionHypothesis (fun member isThere => ?_) others
      exact (mem_of_mem_common isThere).elim (isOwn member) (isMade member)

theorem gives_remaining {own others : List Value} (isOwn : ∀ member ∈ own, member.MadeOf p)
    (given : ∀ other ∈ others, other.MadeOf p) :
    Gives p (fun members => ∀ member ∈ members, member.MadeOf p) (remaining own others) := by
  induction others generalizing own with
  | nil => exact gives_pure isOwn
  | cons other rest inductionHypothesis =>
      obtain ⟨here, others⟩ := List.forall_mem_cons.1 given
      refine (gives_takeMembers lasting here).bind fun found isMade => ?_
      exact inductionHypothesis (fun member isThere => isOwn member (List.mem_filter.1 isThere).1)
        others

theorem gives_covers (own : List Value) {value : Value} (given : value.MadeOf p) :
    Gives p (fun _ => True) (covers own value) := by
  have started : Gives p (fun walk => walk.MadeOf p) (liftM value.iteration : Draw Iteration) :=
    gives_liftM fun _ isWalk => madeOf_iteration lasting given isWalk
  have told (outcome : Option Bool) :
      Gives p (fun _ => True) (liftM (compared outcome) : Draw Bool) :=
    gives_liftM fun _ _ => trivial
  exact started.bind fun walk isMade => (Iteration.gives_find? isMade _).bind fun outcome _ =>
    (told outcome).bind fun _ _ => gives_pure trivial

theorem gives_onSet (frozen : Bool) {own : List Value} (name : String) {arguments : List Value}
    (isOwn : ∀ member ∈ own, member.MadeOf p)
    (given : ∀ argument ∈ arguments, argument.MadeOf p) :
    Gives p (Unchecked p) (onSet frozen own name arguments) := by
  unfold onSet
  split
  · exact (gives_united lasting isOwn given).bind fun _ isMade =>
      gives_pure (lasting.madeOf_set isMade).unchecked
  · exact (gives_shared lasting isOwn given).bind fun _ isMade =>
      gives_pure (lasting.madeOf_set isMade).unchecked
  · exact (gives_remaining lasting isOwn given).bind fun _ isMade =>
      gives_pure (lasting.madeOf_set isMade).unchecked
  · exact (gives_takeMembers lasting (List.forall_mem_singleton.1 given)).bind fun _ _ =>
      gives_pure (lasting.madeOf_bool _).unchecked
  · exact (gives_covers lasting own (List.forall_mem_singleton.1 given)).bind fun _ _ =>
      gives_pure (lasting.madeOf_bool _).unchecked
  · exact gives_fault _ _

/-- A method called on a value. -/
theorem gives_apply {base : Value} (name : String) {arguments : List Value}
    (named : List (String × Value)) (isBase : base.MadeOf p)
    (given : ∀ argument ∈ arguments, argument.MadeOf p) :
    Gives p (Unchecked p) (apply base name arguments named) := by
  have wrong (name : String) :
      Gives p (Unchecked p) (liftM (wrongArguments name : Except Error Value) : Draw Value) :=
    gives_fault _ _
  unfold apply
  split
  · refine .ite (fun _ => gives_liftM fun _ made => (madeOf_splitBy lasting made).unchecked)
      fun _ => .ite (fun _ => gives_onText lasting _ name given) fun _ => wrong name
  · refine .ite (fun _ => wrong name) fun _ => ?_
    split
    · exact gives_liftM fun _ made => unchecked_onSequence made
    · exact gives_liftM fun _ made => unchecked_onSequence made
    · exact gives_liftM fun _ made =>
        (madeOf_onMapping lasting (isBase.entries rfl) given made).unchecked
    · exact gives_onSet lasting _ name (fun _ member => isBase.part member) given
    · exact wrong name

end Method

end Authorization
