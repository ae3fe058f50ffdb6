import Authorization.Proofs.Decision.Steady

/-!
# Comparisons are decided

A comparison of two values comes to an end without failing unless a view of entries has to be looked up in
a set and holds a value that cannot be hashed. So a field comparison answers with a truth value, and of an
operator and its opposite exactly one holds: whether values are equal, whether a value is in a list, and
whether a container contains a value that can be sought in it. A value that cannot be hashed cannot be
sought in a set, and then neither operator answers.
-/

namespace Authorization

namespace Value

/-! ## Comparisons that do not fail -/

/-- A view of entries holds values that can be hashed. -/
def ShowsHashable : Value → Prop
  | .view .items entries => ∀ entry ∈ entries, entry.2.hashable = true
  | _ => True

/-- Every view of entries in a value, at any depth, holds values that can be hashed. -/
def Comparable (value : Value) : Prop :=
  value.MadeOf ShowsHashable

theorem isSome_also {first : Option Bool} {second : Unit → Option Bool}
    (firstDecided : first.isSome = true) (secondDecided : (second ()).isSome = true) :
    (also first second).isSome = true := by
  rcases first with _ | _ | _
  · cases firstDecided
  · rfl
  · exact secondDecided

theorem isSome_either {first : Option Bool} {second : Unit → Option Bool}
    (firstDecided : first.isSome = true) (secondDecided : (second ()).isSome = true) :
    (either first second).isSome = true := by
  rcases first with _ | _ | _
  · cases firstDecided
  · exact secondDecided
  · rfl

theorem isSome_anyOf {α : Type} {values : List α} {test : α → Option Bool}
    (decided : ∀ value ∈ values, (test value).isSome = true) : (anyOf values test).isSome = true := by
  unfold anyOf
  have start : (some false : Option Bool).isSome = true := rfl
  generalize some false = found at start
  induction values generalizing found with
  | nil => exact start
  | cons value rest inductionHypothesis =>
      obtain ⟨here, others⟩ := List.forall_mem_cons.1 decided
      exact inductionHypothesis others _ (isSome_either start here)

theorem isSome_foldl_also {α : Type} {values : List α} {test : α → Option Bool}
    {found : Option Bool} (start : found.isSome = true)
    (decided : ∀ value ∈ values, (test value).isSome = true) :
    (values.foldl (fun found value => also found fun _ => test value) found).isSome = true := by
  induction values generalizing found with
  | nil => exact start
  | cons value rest inductionHypothesis =>
      obtain ⟨here, others⟩ := List.forall_mem_cons.1 decided
      exact inductionHypothesis (isSome_also start here) others

theorem Comparable.entry {key value : Value} (keyComparable : key.Comparable)
    (valueComparable : value.Comparable) : (Value.tuple [key, value]).Comparable := by
  refine .intro trivial fun part member => ?_
  simp only [parts, List.mem_cons, List.not_mem_nil, or_false] at member
  obtain rfl | rfl := member
  · exact keyComparable
  · exact valueComparable

/-- The members of what behaves as a set are comparable. -/
theorem Comparable.setMembers {value : Value} {members : List Value} (comparable : value.Comparable)
    (areMembers : value.setMembers? = some members) : ∀ member ∈ members, member.Comparable := by
  cases value with
  | set frozen items =>
      cases areMembers
      exact fun _ member => comparable.part member
  | view kind entries =>
      have each := MadeOf.entries comparable rfl
      cases kind with
      | keys =>
          cases areMembers
          exact List.forall_mem_map.2 fun entry member => (each entry member).1
      | items =>
          cases areMembers
          exact List.forall_mem_map.2 fun entry member =>
            Comparable.entry (each entry member).1 (each entry member).2
      | values => cases areMembers
  | _ => cases areMembers

theorem Comparable.entries {value : Value} {entries : List (Value × Value)}
    (comparable : value.Comparable) (isMapping : value.entries? = some entries) :
    EntriesMadeOf ShowsHashable entries := by
  cases value with
  | dict | proxy =>
      cases isMapping
      exact MadeOf.entries comparable rfl
  | _ => cases isMapping

mutual

/-- Comparable values are compared without failing. -/
theorem isSome_equal? (a b : Value) (left : a.Comparable) (right : b.Comparable) :
    (equal? a b).isSome = true := by
  rw [equal?.eq_def a]
  cases a with
  | list as =>
      cases b with
      | list bs =>
          dsimp only
          split
          · exact isSome_equalItems? as bs (fun _ member => left.part member)
              fun _ member => right.part member
          · rfl
      | _ => rfl
  | tuple as =>
      cases b with
      | tuple bs =>
          exact isSome_equalItems? as bs (fun _ member => left.part member)
            fun _ member => right.part member
      | _ => rfl
  | set frozen as =>
      have members : ∀ member ∈ as, member.Comparable := fun _ member => left.part member
      have amongMembers : (match b.setMembers? with
          | some found => if as.length = found.length then areAmong? as found else some false
          | none => some false : Option Bool).isSome = true := by
        rcases found : b.setMembers? with _ | others
        · rfl
        · dsimp only
          split
          · exact isSome_areAmong? as others members (right.setMembers found)
          · rfl
      cases b with
      | view kind entries =>
          cases kind with
          | items =>
              have each := MadeOf.entries right rfl
              dsimp only
              split
              · refine isSome_foldl_also rfl fun entry member => ?_
                rw [if_pos (right.own entry member)]
                exact isSome_isAmong? as _ members
                  (Comparable.entry (each entry member).1 (each entry member).2)
              · rfl
          | keys => exact amongMembers
          | values => exact amongMembers
      | _ => exact amongMembers
  | view kind entries =>
      cases kind with
      | keys =>
          dsimp only
          rcases found : b.setMembers? with _ | others
          · rfl
          · dsimp only
            split
            · exact isSome_keysAmong? entries others (MadeOf.entries left rfl) (right.setMembers found)
            · rfl
      | items =>
          dsimp only
          rcases found : b.setMembers? with _ | others
          · rfl
          · dsimp only
            split
            · exact isSome_pairsAmong? _ entries others left.own (MadeOf.entries left rfl)
                (right.setMembers found)
            · rfl
      | values => cases b <;> rfl
  | dict entries =>
      dsimp only
      rcases found : b.entries? with _ | others
      · rfl
      · dsimp only
        split
        · exact isSome_entriesAmong? entries others (MadeOf.entries left rfl) (right.entries found)
        · rfl
  | proxy entries =>
      dsimp only
      rcases found : b.entries? with _ | others
      · rfl
      · dsimp only
        split
        · exact isSome_entriesAmong? entries others (MadeOf.entries left rfl) (right.entries found)
        · rfl
  | slice lower upper step =>
      cases b with
      | slice lower' upper' step' =>
          have own {part : Value} (member : part ∈ [lower, upper, step]) := left.part member
          have other {part : Value} (member : part ∈ [lower', upper', step']) := right.part member
          exact isSome_also (isSome_also
            (isSome_equal? lower lower' (own (.head _)) (other (.head _)))
            (isSome_equal? upper upper' (own (.tail _ (.head _))) (other (.tail _ (.head _)))))
            (isSome_equal? step step' (own (.tail _ (.tail _ (.head _))))
              (other (.tail _ (.tail _ (.head _)))))
      | _ => rfl
  | record kind fields =>
      cases b with
      | record kind' fields' =>
          dsimp only
          split
          · exact isSome_equalFields? fields fields' (fun _ member => left.part member)
              fun _ member => right.part member
          · rfl
      | _ => rfl
  | _ => cases b <;> rfl
termination_by structural a

theorem isSome_equalItems? (as bs : List Value) (left : ∀ item ∈ as, item.Comparable)
    (right : ∀ item ∈ bs, item.Comparable) : (equalItems? as bs).isSome = true := by
  cases as with
  | nil => cases bs <;> simp [equalItems?]
  | cons a as =>
      cases bs with
      | nil => simp [equalItems?]
      | cons b bs =>
          obtain ⟨here, others⟩ := List.forall_mem_cons.1 left
          obtain ⟨there, otherwise⟩ := List.forall_mem_cons.1 right
          rw [equalItems?]
          exact isSome_also (isSome_equal? a b here there)
            (isSome_equalItems? as bs others otherwise)
termination_by structural as

theorem isSome_isAmong? (as : List Value) (b : Value) (left : ∀ item ∈ as, item.Comparable)
    (right : b.Comparable) : (isAmong? as b).isSome = true := by
  cases as with
  | nil => simp [isAmong?]
  | cons a as =>
      obtain ⟨here, others⟩ := List.forall_mem_cons.1 left
      rw [isAmong?]
      exact isSome_either (isSome_equal? a b here right) (isSome_isAmong? as b others right)
termination_by structural as

theorem isSome_areAmong? (as bs : List Value) (left : ∀ item ∈ as, item.Comparable)
    (right : ∀ item ∈ bs, item.Comparable) : (areAmong? as bs).isSome = true := by
  cases as with
  | nil => simp [areAmong?]
  | cons a as =>
      obtain ⟨here, others⟩ := List.forall_mem_cons.1 left
      rw [areAmong?]
      exact isSome_also (isSome_anyOf fun b member => isSome_equal? a b here (right b member))
        (isSome_areAmong? as bs others right)
termination_by structural as

theorem isSome_keysAmong? (entries : List (Value × Value)) (bs : List Value)
    (left : EntriesMadeOf ShowsHashable entries) (right : ∀ item ∈ bs, item.Comparable) :
    (keysAmong? entries bs).isSome = true := by
  cases entries with
  | nil => simp [keysAmong?]
  | cons entry rest =>
      obtain ⟨key, value⟩ := entry
      obtain ⟨here, others⟩ := List.forall_mem_cons.1 left
      rw [keysAmong?]
      exact isSome_also (isSome_anyOf fun b member => isSome_equal? key b here.1 (right b member))
        (isSome_keysAmong? rest bs others right)
termination_by structural entries

theorem isSome_pairsAmong? (amongItems : Bool) (entries : List (Value × Value)) (bs : List Value)
    (hashable : ∀ entry ∈ entries, entry.2.hashable = true)
    (left : EntriesMadeOf ShowsHashable entries) (right : ∀ item ∈ bs, item.Comparable) :
    (pairsAmong? amongItems entries bs).isSome = true := by
  cases entries with
  | nil => simp [pairsAmong?]
  | cons entry rest =>
      obtain ⟨key, value⟩ := entry
      obtain ⟨isHashable, othersHashable⟩ := List.forall_mem_cons.1 hashable
      obtain ⟨here, others⟩ := List.forall_mem_cons.1 left
      dsimp only at isHashable here
      rw [pairsAmong?, isHashable, Bool.not_true, Bool.and_false, if_neg Bool.false_ne_true]
      refine isSome_also (isSome_anyOf fun b member => ?_)
        (isSome_pairsAmong? amongItems rest bs othersHashable others right)
      have comparable := right b member
      cases b with
      | tuple items =>
          match items with
          | [] | [_] | _ :: _ :: _ :: _ => rfl
          | [key', value'] =>
              exact isSome_also (isSome_equal? key key' here.1 (comparable.part (.head _)))
                (isSome_equal? value value' here.2 (comparable.part (.tail _ (.head _))))
      | _ => rfl
termination_by structural entries

theorem isSome_entriesAmong? (entries others : List (Value × Value))
    (left : EntriesMadeOf ShowsHashable entries) (right : EntriesMadeOf ShowsHashable others) :
    (entriesAmong? entries others).isSome = true := by
  cases entries with
  | nil => simp [entriesAmong?]
  | cons entry rest =>
      obtain ⟨key, value⟩ := entry
      obtain ⟨here, further⟩ := List.forall_mem_cons.1 left
      rw [entriesAmong?]
      refine isSome_also (isSome_anyOf fun other member => ?_)
        (isSome_entriesAmong? rest others further right)
      obtain ⟨otherKey, otherValue⟩ := right other member
      exact isSome_also (isSome_equal? key other.1 here.1 otherKey)
        (isSome_equal? value other.2 here.2 otherValue)
termination_by structural entries

theorem isSome_equalFields? (as bs : List (String × Value))
    (left : ∀ item ∈ as.map Prod.snd, item.Comparable)
    (right : ∀ item ∈ bs.map Prod.snd, item.Comparable) : (equalFields? as bs).isSome = true := by
  cases as with
  | nil => cases bs <;> simp [equalFields?]
  | cons a as =>
      obtain ⟨name, a⟩ := a
      cases bs with
      | nil => simp [equalFields?]
      | cons b bs =>
          obtain ⟨other, b⟩ := b
          obtain ⟨here, others⟩ := List.forall_mem_cons.1 left
          obtain ⟨there, otherwise⟩ := List.forall_mem_cons.1 right
          rw [equalFields?]
          exact isSome_also (isSome_equal? a b here there)
            (isSome_equalFields? as bs others otherwise)
termination_by structural as

end

/-! ## At most one direction -/

/-- No outcome of a comparison is less and greater. -/
theorem Relation.not_less_of_greater {outcome : Ordering}
    (isGreater : Relation.greater.holds outcome = true) : Relation.less.holds outcome ≠ true := by
  cases outcome with
  | gt => decide
  | _ => cases isGreater

theorem relateSets?_ne {a b : Value} {own others : List Value}
    (isGreater : relateSets? .greater a b own others = some true) :
    relateSets? .less a b own others ≠ some true := by
  unfold relateSets? at isGreater ⊢
  dsimp only at isGreater ⊢
  split at isGreater
  · rename_i larger
    rw [if_neg larger.asymm]
    exact nofun
  · cases isGreater

theorem numbers_less_ne {a b : Value}
    (isGreater : (if a.isReal && b.isReal then
        some (match compareNumbers? a b with
          | some outcome => Relation.greater.holds outcome
          | none => false)
      else none) = some true) :
    (if a.isReal && b.isReal then
        some (match compareNumbers? a b with
          | some outcome => Relation.less.holds outcome
          | none => false)
      else none) ≠ some true := by
  split at isGreater
  · rename_i areReal
    rw [if_pos areReal]
    intro isLess
    rcases compared : compareNumbers? a b with _ | outcome
    · rw [compared] at isGreater
      cases isGreater
    · rw [compared] at isGreater isLess
      exact Relation.not_less_of_greater (Option.some.inj isGreater) (Option.some.inj isLess)
  · cases isGreater

mutual

/-- A value that is greater than another one is not less than it. -/
theorem related?_less_ne (a b : Value) (isGreater : related? .greater a b = some true) :
    related? .less a b ≠ some true := by
  have others (isGreater : (match setMembers? a, setMembers? b with
        | some own, some others => relateSets? .greater a b own others
        | _, _ =>
          if a.isReal && b.isReal then
            some (match compareNumbers? a b with
              | some outcome => Relation.greater.holds outcome
              | none => false)
          else none) = some true) :
      (match setMembers? a, setMembers? b with
        | some own, some others => relateSets? .less a b own others
        | _, _ =>
          if a.isReal && b.isReal then
            some (match compareNumbers? a b with
              | some outcome => Relation.less.holds outcome
              | none => false)
          else none) ≠ some true := by
    revert isGreater
    rcases setMembers? a with _ | own
    · exact numbers_less_ne
    · rcases setMembers? b with _ | members
      · exact numbers_less_ne
      · exact relateSets?_ne
  rw [related?.eq_def .greater a] at isGreater
  rw [related?.eq_def .less a]
  cases a with
  | list as =>
      cases b with
      | list bs => exact relatedItems?_less_ne as bs isGreater
      | _ => exact others isGreater
  | tuple as =>
      cases b with
      | tuple bs => exact relatedItems?_less_ne as bs isGreater
      | _ => exact others isGreater
  | str a =>
      cases b with
      | str b =>
        intro isLess
        exact Relation.not_less_of_greater (Option.some.inj isGreater) (Option.some.inj isLess)
      | _ => exact others isGreater
  | bytes a =>
      cases b with
      | bytes b =>
        intro isLess
        exact Relation.not_less_of_greater (Option.some.inj isGreater) (Option.some.inj isLess)
      | _ => exact others isGreater
  | duration a =>
      cases b with
      | duration b =>
        intro isLess
        exact Relation.not_less_of_greater (Option.some.inj isGreater) (Option.some.inj isLess)
      | _ => exact others isGreater
  | instant a =>
      cases b with
      | instant b =>
        dsimp only at isGreater ⊢
        intro isLess
        obtain ⟨span, isSpan, greater⟩ := Option.map_eq_some_iff.1 isGreater
        obtain ⟨other, isOther, less⟩ := Option.map_eq_some_iff.1 isLess
        rw [isSpan] at isOther
        cases isOther
        exact Relation.not_less_of_greater greater less
      | _ => exact others isGreater
  | _ => exact others isGreater
termination_by structural a

theorem relatedItems?_less_ne (as bs : List Value)
    (isGreater : relatedItems? .greater as bs = some true) :
    relatedItems? .less as bs ≠ some true := by
  cases as with
  | nil => cases bs <;> simp [relatedItems?, Relation.holds] at isGreater
  | cons a as =>
      cases bs with
      | nil => simp [relatedItems?, Relation.holds]
      | cons b bs =>
          rw [relatedItems?] at isGreater ⊢
          rcases same : equal? a b with _ | _ | _
          · rw [same] at isGreater
            cases isGreater
          · rw [same] at isGreater
            exact related?_less_ne a b isGreater
          · rw [same] at isGreater
            exact relatedItems?_less_ne as bs isGreater
termination_by structural as

end

/-! ## Looking values up -/

theorem exists_compared {α : Type} {outcome : Option α} (decided : outcome.isSome = true) :
    ∃ found, compared outcome = .ok found := by
  obtain ⟨found, rfl⟩ := Option.isSome_iff_exists.1 decided
  exact ⟨found, rfl⟩

theorem isSome_search {test : Value → Option Bool} {items : List Value}
    (decided : ∀ item ∈ items, (test item).isSome = true) :
    (Iteration.search test items).2.isSome = true := by
  induction items with
  | nil => rfl
  | cons item rest inductionHypothesis =>
      obtain ⟨here, others⟩ := List.forall_mem_cons.1 decided
      unfold Iteration.search
      rcases found : test item with _ | _ | _
      · rw [found] at here
        cases here
      · exact inductionHypothesis others
      · rfl

/-- A comparable value is found among comparable ones, or is not. -/
theorem exists_search {value : Value} {items : List Value} (comparable : value.Comparable)
    (areComparable : ∀ item ∈ items, item.Comparable) :
    ∃ found, compared (Iteration.search (equal? value) items).2 = .ok found :=
  exists_compared (isSome_search fun item member =>
    isSome_equal? value item comparable (areComparable item member))

/-- A container in which a field comparison looks for a value. -/
def isContainer : Value → Bool
  | .str _ | .list _ | .tuple _ | .set .. | .view .keys _ | .view .items _ => true
  | _ => false

/-- A value can be looked up in a set: it can be hashed, or is a set of values that can be. -/
def canBeMember : Value → Bool
  | .set _ members => hashableItems members
  | value => value.hashable

theorem amongMembers_eq (value : Value) (members : List Value) :
    amongMembers value members =
      if value.canBeMember = true then .ok (members.any (equal value)) else unhashable value := by
  cases value <;> rfl

/-- A value can be looked up in a container: sets and views of keys look for values that can be hashed,
views of entries for entries with keys that can be hashed. -/
def CanBeSought (container value : Value) : Prop :=
  match container, value with
  | .set .., value => value.canBeMember = true
  | .view .keys _, value => value.hashable = true
  | .view .items _, .tuple [key, _] => key.hashable = true
  | _, _ => True

/-- What it comes to when a value is looked up in a container, with which it may share an undefined
number. -/
def contained (isOne : Bool) (container value : Value) : Except Error Bool :=
  let orShares (found : Bool) : Bool := found || share isOne value container
  match container with
  | .str content => .ok (match value with
    | .str word => Text.occursIn word.toList content.toList
    | _ => false)
  | .list items | .tuple items => (compared (Iteration.search (equal? value) items).2).map orShares
  | .set _ members => (amongMembers value members).map orShares
  | .view .keys entries => (amongKeys value (entries.map Prod.fst)).map orShares
  | .view .items entries => (amongEntries value entries).map orShares
  | _ => .ok false

theorem exists_map {α β : Type} {result : Except Error α} {write : α → β}
    (comesTo : ∃ found, result = .ok found) : ∃ found, result.map write = .ok found := by
  obtain ⟨found, rfl⟩ := comesTo
  exact ⟨write found, rfl⟩

theorem exists_contained (isOne : Bool) {container value : Value}
    (canBeSought : CanBeSought container value)
    (comparable : container.Comparable) (valueComparable : value.Comparable) :
    ∃ found, contained isOne container value = .ok found := by
  cases container with
  | str content => exact ⟨_, rfl⟩
  | list items =>
      exact exists_map (exists_search valueComparable fun _ member => comparable.part member)
  | tuple items =>
      exact exists_map (exists_search valueComparable fun _ member => comparable.part member)
  | set frozen members =>
      exact exists_map ⟨_, (amongMembers_eq value members).trans (if_pos canBeSought)⟩
  | view kind entries =>
      cases kind with
      | keys => exact exists_map ⟨_, if_pos canBeSought⟩
      | values => exact ⟨_, rfl⟩
      | items =>
          refine exists_map ?_
          cases value with
          | tuple items =>
              match items with
              | [] | [_] | _ :: _ :: _ :: _ => exact ⟨_, rfl⟩
              | [key, item] =>
                  have isKey : key.Comparable := valueComparable.part (.head _)
                  have isItem : item.Comparable := valueComparable.part (.tail _ (.head _))
                  have decided : ∀ entry ∈ entries, (also (equal? key entry.1) fun _ =>
                      equal? item entry.2).isSome = true := by
                    intro entry member
                    obtain ⟨entryKey, entryValue⟩ := MadeOf.entries comparable rfl entry member
                    exact isSome_also (isSome_equal? key entry.1 isKey entryKey)
                      (isSome_equal? item entry.2 isItem entryValue)
                  obtain ⟨found, isFound⟩ := exists_compared (isSome_anyOf decided)
                  exact ⟨found, (if_pos canBeSought).trans isFound⟩
          | _ => exact ⟨_, rfl⟩
  | _ => exact ⟨_, rfl⟩

/-- To look for a value that cannot be looked up fails. -/
theorem contained_of_not_canBeSought (isOne : Bool) {container value : Value}
    (cannotBeSought : ¬CanBeSought container value) :
    ∃ detail, contained isOne container value = .error (.operation .type detail) := by
  cases container with
  | set frozen members =>
      exact ⟨_, Except.map_eq_error_iff.2 ((amongMembers_eq value members).trans (if_neg cannotBeSought))⟩
  | view kind entries =>
      cases kind with
      | keys => exact ⟨_, Except.map_eq_error_iff.2 (if_neg cannotBeSought)⟩
      | values => exact absurd trivial cannotBeSought
      | items =>
          cases value with
          | tuple items =>
              match items with
              | [] | [_] | _ :: _ :: _ :: _ => exact absurd trivial cannotBeSought
              | [key, item] => exact ⟨_, Except.map_eq_error_iff.2 (if_neg cannotBeSought)⟩
          | _ => exact absurd trivial cannotBeSought
  | _ => exact absurd trivial cannotBeSought

end Value

/-! ## What operations come to -/

namespace Draw

variable {α β : Type} {draw : Draw α} {result : Except Error α}

/-- An operation takes nothing and comes to one result, whatever has been taken. -/
def ComesTo (draw : Draw α) (result : Except Error α) : Prop :=
  ∀ cursors, Id.run (draw.run.run cursors) = (result, cursors)

theorem comesTo_pure (value : α) : ComesTo (pure value) (.ok value) :=
  fun _ => rfl

theorem comesTo_liftM (result : Except Error α) : ComesTo (liftM result) result := by
  cases result with
  | error error => exact fun _ => rfl
  | ok value => exact fun _ => rfl

theorem ComesTo.map (comesTo : ComesTo draw result) (write : α → β) :
    ComesTo (do return write (← draw)) (result.map write) := by
  intro cursors
  rw [run_bind, comesTo cursors]
  cases result <;> rfl

end Draw

open Draw Value

namespace Comparison

variable {value container : Value}

theorem comesTo_isMember {items : List Value} (areItems : Check.membersOf? container = some items) :
    ComesTo (value.isMember container) (compared (Iteration.search (equal? value) items).2) := by
  have listed := comesTo_liftM (compared (Iteration.search (equal? value) items).2)
  cases container with
  | list => exact Option.some.inj areItems ▸ listed
  | tuple => exact Option.some.inj areItems ▸ listed
  | _ => cases areItems

/-- What cannot be found for its undefined numbers is found for the one that it shares. -/
theorem comesTo_isMemberOrShares (isOne : Bool) {result : Except Error Bool}
    (comesTo : ComesTo (value.isMember container) result) :
    ComesTo (value.isMemberOrShares isOne container)
      (result.map fun found => found || share isOne value container) :=
  comesTo.map fun found => found || share isOne value container

theorem comesTo_containment (isContainer : container.isContainer = true) (isOne : Bool)
    (value : Value) :
    ComesTo (containment isOne container value) ((contained isOne container value).map some) := by
  cases container with
  | str content => exact comesTo_pure _
  | list items => exact (comesTo_isMemberOrShares isOne (comesTo_isMember rfl)).map some
  | tuple items => exact (comesTo_isMemberOrShares isOne (comesTo_isMember rfl)).map some
  | set frozen members => exact (comesTo_isMemberOrShares isOne (comesTo_liftM _)).map some
  | view kind entries =>
      cases kind with
      | keys => exact (comesTo_isMemberOrShares isOne (comesTo_liftM _)).map some
      | items => exact (comesTo_isMemberOrShares isOne (comesTo_liftM _)).map some
      | values => cases isContainer
  | _ => cases isContainer

theorem comesTo_containment_of_not (noContainer : container.isContainer = false) (isOne : Bool)
    (value : Value) :
    ComesTo (containment isOne container value) (.ok none) := by
  cases container with
  | str | list | tuple | set => cases noContainer
  | view kind entries =>
      cases kind with
      | keys => cases noContainer
      | items => cases noContainer
      | values => exact comesTo_pure _
  | _ => exact comesTo_pure _

end Comparison

/-! ## Field comparisons -/

namespace FieldComparison

variable {comparison : FieldComparison} {attributes : DecisionAttributes} {field : Value}
  {operator : Comparison}

/-- The check of a comparison by an operator in place of its own. -/
def checkBy (comparison : FieldComparison) (operator : Comparison) : Check :=
  .field { comparison with operator }

/-- The comparison by an operator answers with a truth value, whatever has been logged and taken, and
leaves the journal as it was. -/
def Says [Host] (comparison : FieldComparison) (attributes : DecisionAttributes) (operator : Comparison)
    (truth : Bool) : Prop :=
  ∀ journal, Id.run (((comparison.checkBy operator).evaluate attributes).run journal) =
    (.ok (.bool truth), journal)

/-- The comparison by an operator fails because something is not of a kind that it takes. -/
def Fails [Host] (comparison : FieldComparison) (attributes : DecisionAttributes) (operator : Comparison) :
    Prop :=
  ∃ detail, ∀ journal,
    Id.run (((comparison.checkBy operator).evaluate attributes).run journal) =
      (.error (.operation .type detail), journal)

theorem evaluate_run [Host] {result : Except Error Bool}
    (comesTo : ComesTo (FieldComparison.holds { comparison with operator } attributes) result)
    (journal : Journal) :
    Id.run (((comparison.checkBy operator).evaluate attributes).run journal) =
      (result.map Value.bool, journal) := by
  have run : Id.run (((comparison.checkBy operator).evaluate attributes).run journal) =
      Id.run (StateT.run (ExceptT.bindCont (fun truth => pure (Value.bool truth))
        (Id.run ((FieldComparison.holds { comparison with operator } attributes).run.run
          journal.cursors)).1 : Journaled (Except Error Value))
        { journal with cursors :=
          (Id.run ((FieldComparison.holds { comparison with operator } attributes).run.run
            journal.cursors)).2 }) := rfl
  rw [run, comesTo journal.cursors]
  cases result <;> rfl

theorem says_of_not_found [Host] (isMissing : comparison.found attributes = none) (operator : Comparison) :
    comparison.Says attributes operator false := by
  have comesTo : ComesTo (FieldComparison.holds { comparison with operator } attributes)
      (.ok false) := by
    have stillMissing : FieldComparison.found { comparison with operator } attributes = none :=
      isMissing
    unfold FieldComparison.holds
    rw [stillMissing]
    exact comesTo_pure _
  exact evaluate_run comesTo

section Found

variable (found : comparison.found attributes = some field)

include found

theorem comesTo_holds [Host] {result : Except Error Bool}
    (comesTo : ComesTo (operator.holds (Host.shares comparison.path comparison.value) field
      comparison.value) result) :
    ComesTo (FieldComparison.holds { comparison with operator } attributes) result := by
  have stillFound : FieldComparison.found { comparison with operator } attributes = some field := found
  unfold FieldComparison.holds
  rw [stillFound]
  exact comesTo

theorem says_of_comesTo [Host] {result : Except Error Bool} {truth : Bool}
    (comesTo : ComesTo (operator.holds (Host.shares comparison.path comparison.value) field
      comparison.value) result)
    (isTruth : result = .ok truth) :
    comparison.Says attributes operator truth := by
  subst isTruth
  exact evaluate_run (comesTo_holds found comesTo)

theorem fails_of_comesTo [Host] {result : Except Error Bool} {detail : String}
    (comesTo : ComesTo (operator.holds (Host.shares comparison.path comparison.value) field
      comparison.value) result)
    (isFault : result = .error (.operation .type detail)) :
    comparison.Fails attributes operator := by
  subst isFault
  exact ⟨detail, evaluate_run (comesTo_holds found comesTo)⟩

end Found

/-- What a comparison says of the value that its field has, by each of the operators. -/
structure Decided [Host] (comparison : FieldComparison) (attributes : DecisionAttributes) (field : Value) :
    Prop where
  equality : field.Comparable → comparison.value.Comparable → ∃ truth,
    comparison.Says attributes .equals truth ∧ comparison.Says attributes .notEquals (!truth)
  membership : field.Comparable → comparison.value.Comparable →
    (Check.membersOf? comparison.value).isSome = true → ∃ truth,
      comparison.Says attributes .isIn truth ∧ comparison.Says attributes .isNotIn (!truth)
  order : ∃ greater less, comparison.Says attributes .greaterThan greater ∧
    comparison.Says attributes .lessThan less ∧ ¬(greater = true ∧ less = true)
  texts : ∀ word, comparison.value = .str word → ∃ starts ends,
    comparison.Says attributes .startsWith starts ∧ comparison.Says attributes .endsWith ends
  containment : field.isContainer = true → field.Comparable → comparison.value.Comparable →
    CanBeSought field comparison.value → ∃ truth,
      comparison.Says attributes .contains truth ∧ comparison.Says attributes .notContains (!truth)
  unsought : field.isContainer = true → ¬CanBeSought field comparison.value →
    comparison.Fails attributes .contains ∧ comparison.Fails attributes .notContains
  noContainer : field.isContainer = false →
    comparison.Says attributes .contains false ∧ comparison.Says attributes .notContains false

/-- A field comparison answers with a truth value and leaves no trace. Where its field is missing, the
answer is no by every operator. Where the field has a value, exactly one of equals and not-equals holds,
exactly one of in and not-in, at most one of greater and less, and exactly one of contains and
not-contains when the value is a container and none of them when it is not; except that neither contains
nor not-contains answers when what is sought in a set cannot be looked up there, and that views of entries
which hold values that cannot be hashed need not be comparable. -/
theorem comparisons_are_decided [Host] (comparison : FieldComparison) (attributes : DecisionAttributes) :
    (comparison.found attributes = none →
      ∀ operator, comparison.Says attributes operator false) ∧
    ∀ field, comparison.found attributes = some field → comparison.Decided attributes field := by
  refine ⟨says_of_not_found, fun field found => ?_⟩
  refine ⟨?equality, ?membership, ?order, ?texts, ?containment, ?unsought, ?noContainer⟩
  case equality =>
    intro fieldComparable valueComparable
    have decided : (equalOrShare? (Host.shares comparison.path comparison.value) field
        comparison.value).isSome = true :=
      Option.isSome_map.trans (isSome_equal? field comparison.value fieldComparable valueComparable)
    obtain ⟨truth, isDecided⟩ := exists_compared decided
    have comesTo := comesTo_liftM (compared (equalOrShare? (Host.shares comparison.path comparison.value)
      field comparison.value))
    refine ⟨truth, says_of_comesTo found comesTo isDecided,
      says_of_comesTo found (comesTo.map (! ·)) ?_⟩
    rw [isDecided]
    rfl
  case membership =>
    intro fieldComparable valueComparable areMembers
    obtain ⟨members, areMembers⟩ := Option.isSome_iff_exists.1 areMembers
    have areComparable : ∀ member ∈ members, member.Comparable := by
      intro member isMember
      refine valueComparable.part ?_
      cases isList : comparison.value with
      | list => exact Option.some.inj (isList ▸ areMembers) ▸ isMember
      | tuple => exact Option.some.inj (isList ▸ areMembers) ▸ isMember
      | _ =>
          rw [isList] at areMembers
          cases areMembers
    obtain ⟨isFound, isDecided⟩ := exists_search fieldComparable areComparable
    have comesTo : ComesTo (field.isMemberOrShares (Host.shares comparison.path comparison.value)
        comparison.value) _ :=
      Comparison.comesTo_isMemberOrShares _ (Comparison.comesTo_isMember areMembers)
    rw [isDecided] at comesTo
    exact ⟨_, says_of_comesTo found comesTo rfl, says_of_comesTo found (comesTo.map (! ·)) rfl⟩
  case order =>
    refine ⟨_, _, says_of_comesTo found (comesTo_pure _) rfl,
      says_of_comesTo found (comesTo_pure _) rfl, ?_⟩
    rintro ⟨isGreater, isLess⟩
    have isGreater : related? .greater field comparison.value = some true :=
      (Option.getD_eq_iff.1 isGreater).resolve_right fun ⟨_, absent⟩ => Bool.noConfusion absent
    have isLess : related? .less field comparison.value = some true :=
      (Option.getD_eq_iff.1 isLess).resolve_right fun ⟨_, absent⟩ => Bool.noConfusion absent
    exact related?_less_ne field comparison.value isGreater isLess
  case texts =>
    intro word isText
    exact ⟨_, _, says_of_comesTo found (comesTo_pure _) rfl,
      says_of_comesTo found (comesTo_pure _) rfl⟩
  case containment =>
    intro isContainer fieldComparable valueComparable canBeSought
    let isOne := Host.shares comparison.path comparison.value
    obtain ⟨truth, isDecided⟩ := exists_contained isOne canBeSought fieldComparable valueComparable
    have comesTo := Comparison.comesTo_containment isContainer isOne comparison.value
    rw [isDecided] at comesTo
    exact ⟨truth, says_of_comesTo found (comesTo.map (·.getD false)) rfl,
      says_of_comesTo found (comesTo.map fun answer => (answer.map (! ·)).getD false) rfl⟩
  case unsought =>
    intro isContainer cannotBeSought
    let isOne := Host.shares comparison.path comparison.value
    obtain ⟨detail, isFault⟩ := contained_of_not_canBeSought isOne cannotBeSought
    have comesTo := Comparison.comesTo_containment isContainer isOne comparison.value
    rw [isFault] at comesTo
    exact ⟨fails_of_comesTo found (comesTo.map (·.getD false)) rfl,
      fails_of_comesTo found (comesTo.map fun answer => (answer.map (! ·)).getD false) rfl⟩
  case noContainer =>
    intro noContainer
    have comesTo := Comparison.comesTo_containment_of_not noContainer
      (Host.shares comparison.path comparison.value) comparison.value
    exact ⟨says_of_comesTo found (comesTo.map (·.getD false)) rfl,
      says_of_comesTo found (comesTo.map fun answer => (answer.map (! ·)).getD false) rfl⟩

/-- Whether a list of one is among the tags. -/
def tagsComparison : FieldComparison :=
  ⟨.resource, "tags", .contains, .list [.int 1]⟩

def taggedAttributes : DecisionAttributes :=
  ⟨⟨"visitor", "user", none, [], []⟩, .dict [(.str "tags", .set false [.str "a"])], .str "view", []⟩

open scoped Host in
theorem comparisons_are_decided_tags :
    tagsComparison.found taggedAttributes = some (.set false [.str "a"]) ∧
      (∃ truth, tagsComparison.Says taggedAttributes .equals truth ∧
        tagsComparison.Says taggedAttributes .notEquals (!truth)) ∧
      tagsComparison.Fails taggedAttributes .contains := by
  have found : tagsComparison.found taggedAttributes = some (.set false [.str "a"]) := by
    with_unfolding_all rfl
  have decided := (comparisons_are_decided tagsComparison taggedAttributes).2 _ found
  have fieldComparable : (Value.set false [.str "a"]).Comparable := by
    refine .intro trivial fun part member => ?_
    obtain rfl := List.mem_singleton.1 member
    exact .intro trivial nofun
  have valueComparable : (Value.list [.int 1]).Comparable := by
    refine .intro trivial fun part member => ?_
    obtain rfl := List.mem_singleton.1 member
    exact .intro trivial nofun
  exact ⟨found, decided.equality fieldComparable valueComparable,
    (decided.unsought rfl nofun).1⟩

end FieldComparison

end Authorization
