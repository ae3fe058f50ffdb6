import Authorization.Proofs.Disclosure.Written
import Authorization.Value.Cursor

/-!
# Items of what values disclose

Going through what a value discloses gives what its items disclose, one after the other, and takes as
many from one-shot sequences.
-/

namespace Authorization

namespace Draw

variable {α β : Type}

theorem ext {a b : Draw α}
    (same : ∀ cursors, Id.run (a.run.run cursors) = Id.run (b.run.run cursors)) : a = b :=
  funext same

theorem run_map (write : α → β) (draw : Draw α) (cursors : Cursors) :
    Id.run ((write <$> draw).run.run cursors) =
      ((Id.run (draw.run.run cursors)).1.map write, (Id.run (draw.run.run cursors)).2) := by
  rw [ExceptT.run_map, StateT.run_map]
  rfl

end Draw

namespace Iteration

open Value

def disclosed : Iteration → Iteration
  | .listed items => .listed (items.map Value.disclosed)
  | .counting next step count => .counting next step count
  | .shared tag items => .shared tag (items.map Value.disclosed)

theorem next?_disclosed (cursors : Cursors) (walk : Iteration) :
    walk.disclosed.next? cursors =
      ((walk.next? cursors).1.map fun found => (found.1.disclosed, found.2.disclosed),
        (walk.next? cursors).2) := by
  cases walk with
  | listed items => cases items <;> rfl
  | counting next step count => cases count <;> rfl
  | shared tag items =>
      simp only [disclosed, next?, List.getElem?_map]
      cases items[cursors.position tag]? <;> rfl

theorem map_disclosed_countUp (step next : Int) (count : Nat) :
    (countUp step next count).map Value.disclosed = countUp step next count := by
  induction count generalizing next with
  | zero => rfl
  | succ count inductionHypothesis => simp [countUp, inductionHypothesis]

theorem all_disclosed (cursors : Cursors) (walk : Iteration) :
    walk.disclosed.all cursors =
      ((walk.all cursors).1.map Value.disclosed, (walk.all cursors).2) := by
  cases walk with
  | listed items => rfl
  | counting next step count => simp only [disclosed, all, map_disclosed_countUp]
  | shared tag items => simp only [disclosed, all, List.map_drop, List.length_map]

theorem skip_disclosed (count : Nat) (cursors : Cursors) (walk : Iteration) :
    walk.disclosed.skip count cursors = walk.skip count cursors := by
  cases walk with
  | shared tag items => simp only [disclosed, skip, List.length_map]
  | _ => rfl

theorem search_disclosed {test other : Value → Option Bool}
    (same : ∀ item, other item.disclosed = test item) (items : List Value) :
    search other (items.map Value.disclosed) = search test items := by
  induction items with
  | nil => rfl
  | cons item rest inductionHypothesis =>
      simp only [List.map_cons, search, same, inductionHypothesis]

theorem find?_disclosed {test other : Value → Option Bool}
    (same : ∀ item, other item.disclosed = test item) (cursors : Cursors) (walk : Iteration) :
    walk.disclosed.find? other cursors = walk.find? test cursors := by
  unfold find?
  simp only [all_disclosed, search_disclosed same, skip_disclosed]

end Iteration

namespace Value

theorem map_fst_disclosed (entries : List (Value × Value)) :
    (entries.map disclosedEntry).map Prod.fst = (entries.map Prod.fst).map disclosed := by
  simp [disclosedEntry, Function.comp_def]

theorem iteration?_disclosed (value : Value) :
    value.disclosed.iteration? = value.iteration?.map Iteration.disclosed := by
  cases value with
  | view kind entries =>
      cases kind <;> simp [iteration?, Iteration.disclosed, disclosedEntry, Function.comp_def]
  | str text => simp [iteration?, Iteration.disclosed, Function.comp_def]
  | bytes octets => simp [iteration?, Iteration.disclosed, Function.comp_def]
  | list items | tuple items | set frozen items | oneShot tag items =>
      simp [iteration?, Iteration.disclosed]
  | dict entries | proxy entries =>
      simp [iteration?, Iteration.disclosed, disclosedEntry, Function.comp_def]
  | _ => rfl

theorem iteration_disclosed (value : Value) :
    value.disclosed.iteration = value.iteration.map Iteration.disclosed := by
  rw [iteration, iteration?_disclosed, kindName_disclosed, iteration]
  cases value.iteration? <;> rfl

theorem items_disclosed (value : Value) :
    value.disclosed.items = List.map disclosed <$> value.items := by
  unfold items
  rw [iteration_disclosed]
  cases value.iteration with
  | error error => rfl
  | ok walk =>
      have taken : (modifyGet walk.disclosed.all : Draw (List Value)) =
          List.map disclosed <$> modifyGet walk.all := by
        funext cursors
        exact congrArg (fun found : List Value × Cursors => (Except.ok found.1, found.2))
          (walk.all_disclosed cursors)
      exact taken

theorem takeWhile_hashable_disclosed (items : List Value) :
    (items.map disclosed).takeWhile hashable = (items.takeWhile hashable).map disclosed := by
  simp [List.takeWhile_map, Function.comp_def, hashable_disclosed]

/-- The items that are left of a walk, if all are hashable, and the items that have been taken then. -/
def membersLeft (walk : Iteration) (cursors : Cursors) : Except Error (List Value) × Cursors :=
  let found := (walk.all cursors).1
  match found.drop (found.takeWhile hashable).length with
  | [] => (.ok found, walk.skip found.length cursors)
  | item :: _ => (unhashable item, walk.skip ((found.takeWhile hashable).length + 1) cursors)

theorem takeMembers_of_iteration {value : Value} {walk : Iteration}
    (isWalk : value.iteration = .ok walk) (cursors : Cursors) :
    Id.run (value.takeMembers.run.run cursors) = membersLeft walk cursors := by
  unfold takeMembers membersLeft
  rw [isWalk]
  have shape : ∀ tail : List Value, Id.run (StateT.run (ExceptT.run (match tail with
      | [] => do
        modify (walk.skip (walk.all cursors).1.length)
        return (walk.all cursors).1
      | item :: _ => do
        modify (walk.skip (((walk.all cursors).1.takeWhile hashable).length + 1))
        unhashable item : Draw (List Value))) cursors) =
      match tail with
      | [] => (.ok (walk.all cursors).1, walk.skip (walk.all cursors).1.length cursors)
      | item :: _ => (unhashable item,
          walk.skip (((walk.all cursors).1.takeWhile hashable).length + 1) cursors) := by
    intro tail
    cases tail <;> rfl
  exact shape _

theorem membersLeft_disclosed (walk : Iteration) (cursors : Cursors) :
    membersLeft walk.disclosed cursors =
      ((membersLeft walk cursors).1.map (List.map disclosed), (membersLeft walk cursors).2) := by
  unfold membersLeft
  simp only [walk.all_disclosed, takeWhile_hashable_disclosed, List.length_map, ← List.map_drop,
    walk.skip_disclosed]
  cases (walk.all cursors).1.drop ((walk.all cursors).1.takeWhile hashable).length with
  | nil => rfl
  | cons item rest =>
      simp only [List.map_cons, unhashable_disclosed]
      rfl

theorem takeMembers_disclosed (value : Value) :
    value.disclosed.takeMembers = List.map disclosed <$> value.takeMembers := by
  cases isWalk : value.iteration with
  | error error =>
      have isError : value.disclosed.iteration = .error error := by
        rw [iteration_disclosed, isWalk]
        rfl
      unfold takeMembers
      rw [isError, isWalk]
      rfl
  | ok walk =>
      have isDisclosed : value.disclosed.iteration = .ok walk.disclosed := by
        rw [iteration_disclosed, isWalk]
        rfl
      refine Draw.ext fun cursors => ?_
      rw [takeMembers_of_iteration isDisclosed, Draw.run_map, takeMembers_of_iteration isWalk,
        membersLeft_disclosed]

theorem wholeNumber?_disclosed (value : Value) :
    wholeNumber? value.disclosed = wholeNumber? value := by
  cases value <;> rfl

theorem amongKeys_disclosed (value : Value) (keys : List Value) :
    amongKeys value.disclosed (keys.map disclosed) = amongKeys value keys := by
  simp only [amongKeys, hashable_disclosed, any_equal_disclosed, unhashable_disclosed]

theorem amongMembers_disclosed (value : Value) (members : List Value) :
    amongMembers value.disclosed (members.map disclosed) = amongMembers value members := by
  have whole := amongKeys_disclosed value members
  have found := any_equal_disclosed members value
  have refused := unhashable_disclosed (α := Bool) value
  cases value with
  | set frozen own =>
      rw [disclosed_set] at found refused ⊢
      simp only [amongMembers, hashableItems_disclosed, found, refused]
  | _ => exact whole

theorem amongEntries_disclosed (value : Value) (entries : List (Value × Value)) :
    amongEntries value.disclosed (entries.map disclosedEntry) = amongEntries value entries := by
  cases value with
  | tuple items =>
      cases items using Arguments.upToTwo with
      | two key item =>
          simp [amongEntries, hashable_disclosed, anyOf_map, disclosedEntry, equal?_disclosed,
            unhashable_disclosed]
      | none | one | more => rfl
  | _ => rfl

/-- A value is among the items of a container that is gone through. -/
def isAmongItems (value container : Value) : Draw Bool :=
  match container.iteration? with
  | some walk => do compared (← modifyGet (walk.find? (equal? value)))
  | none => fault .type ("argument of type '" ++ container.kindName ++ "' is not iterable")

theorem isAmongItems_disclosed (value container : Value) :
    isAmongItems value.disclosed container.disclosed = isAmongItems value container := by
  unfold isAmongItems
  rw [iteration?_disclosed, kindName_disclosed]
  cases container.iteration? with
  | none => rfl
  | some walk =>
      have same : walk.disclosed.find? (equal? value.disclosed) = walk.find? (equal? value) :=
        funext fun cursors => Iteration.find?_disclosed (equal?_disclosed value) cursors walk
      simp only [Option.map_some, same]

/-- A value is in a container exactly when what it discloses is in what the container discloses. -/
theorem isMember_disclosed (value container : Value) :
    value.disclosed.isMember container.disclosed = value.isMember container := by
  have walked := isAmongItems_disclosed value container
  cases container with
  | str content =>
      cases value with
      | view kind entries => cases kind <;> rfl
      | _ => rfl
  | bytes octets =>
      cases value with
      | view kind entries => cases kind <;> rfl
      | _ => rfl
  | set frozen members => simp only [disclosed_set, isMember, amongMembers_disclosed]
  | dict entries => simp only [disclosed_dict, isMember, map_fst_disclosed, amongKeys_disclosed]
  | proxy entries => simp only [disclosed_proxy, isMember, map_fst_disclosed, amongKeys_disclosed]
  | view kind entries =>
      cases kind with
      | keys => simp only [disclosed_view, isMember, map_fst_disclosed, amongKeys_disclosed]
      | items => simp only [disclosed_view, isMember, amongEntries_disclosed]
      | values => exact walked
  | range start stop step =>
      have whole := wholeNumber?_disclosed value
      simp only [disclosed, isMember, whole]
  | _ => exact walked

/-- Whether two values are one object can be told from what they disclose, and from what is said where they
leave it open. -/
theorem identical_disclosed (isOne : Bool) (a b : Value) :
    identical isOne a.disclosed b.disclosed = identical isOne a b := by
  have left := kindName_disclosed a
  have right := kindName_disclosed b
  have otherwise : (a.disclosed.kindName == b.disclosed.kindName && isOne) =
      (a.kindName == b.kindName && isOne) := by rw [left, right]
  cases a with
  | tuple as =>
      cases b with
      | tuple bs => cases as <;> cases bs <;> rfl
      | _ => cases as <;> exact otherwise
  | _ => cases b <;> first | rfl | exact otherwise

theorem isUndefined_disclosed (value : Value) : value.disclosed.isUndefined = value.isUndefined := by
  cases value <;> rfl

theorem share_disclosed (isOne : Bool) (a b : Value) :
    share isOne a.disclosed b.disclosed = share isOne a b := by
  simp only [share, holdsUndefined_disclosed]

theorem equalOrShare?_disclosed (isOne : Bool) (a b : Value) :
    equalOrShare? isOne a.disclosed b.disclosed = equalOrShare? isOne a b := by
  simp only [equalOrShare?, equal?_disclosed, share_disclosed, isUndefined_disclosed]

theorem isMemberOrShares_disclosed (isOne : Bool) (value container : Value) :
    isMemberOrShares isOne value.disclosed container.disclosed =
      isMemberOrShares isOne value container := by
  simp only [isMemberOrShares, isMember_disclosed, share_disclosed]

end Value

end Authorization
