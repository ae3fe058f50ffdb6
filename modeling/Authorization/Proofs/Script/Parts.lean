import Authorization.Proofs.Disclosure.Iteration
import Authorization.Proofs.Script.Lengths

/-!
# What values are made of

A value is made of the values in it, at any depth. Operations put together what they are given with
plain values, small integers and times; larger integers come out of arithmetic and of numerals alone, and
the size of every such result is checked. A condition on values that goes with all of this holds
throughout the results of operations when it holds throughout their operands.

Where no operand holds a one-shot sequence, an operation takes no items from any, and its result is the
same whatever has been taken.
-/

namespace Authorization

namespace Value

/-- The values that a value directly consists of. -/
def parts : Value → List Value
  | .list items | .tuple items | .set _ items | .oneShot _ items => items
  | .dict entries | .proxy entries | .view _ entries =>
    entries.flatMap fun entry => [entry.1, entry.2]
  | .slice lower upper step => [lower, upper, step]
  | .object _ fields | .record _ fields => fields.map Prod.snd
  | _ => []

/-- A condition holds of a value and of all values that it consists of, at any depth. -/
inductive MadeOf (p : Value → Prop) : Value → Prop
  | intro {value : Value} (own : p value) (parts : ∀ part ∈ value.parts, MadeOf p part) :
      MadeOf p value

/-- A value that is neither an integer or a time nor anything that operations cannot make. -/
def IsPlain : Value → Prop
  | .int _ | .range .. | .instant _ | .duration _ | .zone _ => False
  | .object .. | .record .. | .oneShot .. => False
  | _ => True

/-- A condition on single values that goes with how operations make values. -/
structure Lasting (p : Value → Prop) : Prop where
  plain {value : Value} : value.IsPlain → p value
  int {n : Int} : Number.bitLength n ≤ maxIntBits → p (.int n)
  negated {n : Int} : p (.int n) → p (.int (-n))
  range {start stop step : Int} :
    p (.int start) → p (.int stop) → p (.int step) → p (.range start stop step)
  member {start stop step : Int} {i : Nat} : p (.range start stop step) →
    i < rangeLength start stop step → p (.int (start + step * i))
  span {micros : Int} {span : Time.Duration} :
    Time.Duration.ofMicros? micros = some span → p (.duration span)
  moved {time later : Time.Instant} {micros : Int} : p (.instant time) →
    time.addMicros? micros = some later → p (.instant later)
  since {later earlier : Time.Instant} {span : Time.Duration} : p (.instant later) →
    p (.instant earlier) → later.since? earlier = some span → p (.duration span)
  shown {value : Value} : p value → value.parts = [] → ∀ field ∈ value.properties, p field.2

/-- No one-shot sequence satisfies a condition. -/
def ExcludesShared (p : Value → Prop) : Prop :=
  ∀ tag items, ¬ p (.oneShot tag items)

variable {p : Value → Prop}

theorem MadeOf.own {value : Value} (made : value.MadeOf p) : p value := by
  cases made with
  | intro own parts => exact own

theorem MadeOf.part {value part : Value} (made : value.MadeOf p) (member : part ∈ value.parts) :
    part.MadeOf p := by
  cases made with
  | intro own parts => exact parts part member

theorem madeOf_leaf {value : Value} (own : p value) (leaf : value.parts = []) : value.MadeOf p := by
  refine .intro own fun part member => ?_
  rw [leaf] at member
  cases member

theorem mem_parts_of_mem_entries {entries : List (Value × Value)} {entry : Value × Value}
    (member : entry ∈ entries) :
    entry.1 ∈ (dict entries).parts ∧ entry.2 ∈ (dict entries).parts := by
  have pair (part : Value) (isPart : part ∈ [entry.1, entry.2]) : part ∈ (dict entries).parts :=
    List.mem_flatMap.2 ⟨entry, member, isPart⟩
  exact ⟨pair _ (by simp), pair _ (by simp)⟩

/-- What is asked of the entries of a mapping. -/
def EntriesMadeOf (p : Value → Prop) (entries : List (Value × Value)) : Prop :=
  ∀ entry ∈ entries, entry.1.MadeOf p ∧ entry.2.MadeOf p

theorem MadeOf.entries {value : Value} {entries : List (Value × Value)} (made : value.MadeOf p)
    (same : value.parts = (dict entries).parts) : EntriesMadeOf p entries := by
  intro entry member
  obtain ⟨isKey, isItem⟩ := mem_parts_of_mem_entries member
  exact ⟨made.part (same ▸ isKey), made.part (same ▸ isItem)⟩

theorem EntriesMadeOf.parts {entries : List (Value × Value)} (made : EntriesMadeOf p entries) :
    ∀ part ∈ (dict entries).parts, part.MadeOf p := by
  intro part member
  obtain ⟨entry, isEntry, isPart⟩ := List.mem_flatMap.1 member
  obtain ⟨key, item⟩ := made entry isEntry
  simp only [List.mem_cons, List.not_mem_nil, or_false] at isPart
  obtain rfl | rfl := isPart
  · exact key
  · exact item

namespace Lasting

variable (lasting : Lasting p)

include lasting

theorem leaf {value : Value} (isPlain : value.IsPlain) (leaf : value.parts = []) :
    value.MadeOf p :=
  madeOf_leaf (lasting.plain isPlain) leaf

theorem madeOf_null : Value.null.MadeOf p :=
  lasting.leaf trivial rfl

theorem madeOf_bool (flag : Bool) : (Value.bool flag).MadeOf p :=
  lasting.leaf trivial rfl

theorem madeOf_float (x : Float) : (Value.float x).MadeOf p :=
  lasting.leaf trivial rfl

theorem madeOf_str (text : String) : (Value.str text).MadeOf p :=
  lasting.leaf trivial rfl

theorem madeOf_int {n : Int} (small : Number.bitLength n ≤ maxIntBits) : (Value.int n).MadeOf p :=
  madeOf_leaf (lasting.int small) rfl

theorem madeOf_list {items : List Value} (made : ∀ item ∈ items, item.MadeOf p) :
    (Value.list items).MadeOf p :=
  .intro (lasting.plain trivial) made

theorem madeOf_tuple {items : List Value} (made : ∀ item ∈ items, item.MadeOf p) :
    (Value.tuple items).MadeOf p :=
  .intro (lasting.plain trivial) made

theorem madeOf_set {frozen : Bool} {members : List Value}
    (made : ∀ member ∈ members, member.MadeOf p) : (Value.set frozen members).MadeOf p :=
  .intro (lasting.plain trivial) made

theorem madeOf_dict {entries : List (Value × Value)} (made : EntriesMadeOf p entries) :
    (Value.dict entries).MadeOf p :=
  .intro (lasting.plain trivial) made.parts

theorem madeOf_proxy {entries : List (Value × Value)} (made : EntriesMadeOf p entries) :
    (Value.proxy entries).MadeOf p :=
  .intro (lasting.plain trivial) made.parts

theorem madeOf_view {kind : ViewKind} {entries : List (Value × Value)}
    (made : EntriesMadeOf p entries) : (Value.view kind entries).MadeOf p :=
  .intro (lasting.plain trivial) made.parts

theorem madeOf_slice {lower upper step : Value} (first : lower.MadeOf p) (last : upper.MadeOf p)
    (stride : step.MadeOf p) : (Value.slice lower upper step).MadeOf p := by
  refine .intro (lasting.plain trivial) fun part member => ?_
  simp only [parts, List.mem_cons, List.not_mem_nil, or_false] at member
  obtain rfl | rfl | rfl := member
  · exact first
  · exact last
  · exact stride

end Lasting

end Value

open Value

/-! ## Operations that may take items -/

namespace Draw

variable {α β : Type} {p : Value → Prop}

theorem run_bind (draw : Draw α) (next : α → Draw β) (cursors : Cursors) :
    Id.run ((draw >>= next).run.run cursors) =
      match Id.run (draw.run.run cursors) with
      | (.ok value, after) => Id.run ((next value).run.run after)
      | (.error error, after) => (.error error, after) := by
  have shape : Id.run ((draw >>= next).run.run cursors) =
      Id.run (StateT.run (ExceptT.bindCont next (Id.run (draw.run.run cursors)).1)
        (Id.run (draw.run.run cursors)).2) := rfl
  rw [shape]
  rcases Id.run (draw.run.run cursors) with ⟨_ | value, after⟩ <;> rfl

/-- An operation takes nothing, and comes to the same whatever has been taken. -/
def Steady (draw : Draw α) : Prop :=
  ∃ result, ∀ cursors, Id.run (draw.run.run cursors) = (result, cursors)

theorem steady_pure (value : α) : Steady (pure value) :=
  ⟨.ok value, fun _ => rfl⟩

theorem steady_liftM (result : Except Error α) : Steady (liftM result) := by
  cases result with
  | error error => exact ⟨.error error, fun _ => rfl⟩
  | ok value => exact ⟨.ok value, fun _ => rfl⟩

theorem Steady.bind {draw : Draw α} {next : α → Draw β} (steady : Steady draw)
    (rest : ∀ {cursors after : Cursors} {value : α},
      Id.run (draw.run.run cursors) = (.ok value, after) → Steady (next value)) :
    Steady (draw >>= next) := by
  obtain ⟨result, taken⟩ := steady
  cases result with
  | error error =>
      refine ⟨.error error, fun cursors => ?_⟩
      rw [run_bind, taken cursors]
  | ok value =>
      obtain ⟨final, others⟩ := rest (taken {})
      refine ⟨final, fun cursors => ?_⟩
      rw [run_bind, taken cursors]
      exact others cursors

/-- What an operation gives satisfies a condition. The operation is steady where one-shot sequences are
excluded. -/
structure Gives (p : Value → Prop) (post : α → Prop) (draw : Draw α) : Prop where
  post {cursors after : Cursors} {value : α} :
    Id.run (draw.run.run cursors) = (.ok value, after) → post value
  steady : ExcludesShared p → Steady draw

theorem gives_pure {post : α → Prop} {value : α} (holds : post value) :
    Gives p post (pure value) where
  post same := by
    cases same
    exact holds
  steady _ := steady_pure value

theorem gives_liftM {post : α → Prop} {result : Except Error α}
    (holds : ∀ value, result = .ok value → post value) : Gives p post (liftM result) := by
  cases result with
  | ok value => exact gives_pure (holds value rfl)
  | error error => exact ⟨fun same => (nomatch same), fun _ => steady_liftM (.error error)⟩

theorem gives_fault {post : α → Prop} (kind : FaultKind) (detail : String) :
    Gives p post (liftM (fault kind detail : Except Error α)) :=
  gives_liftM fun _ same => (nomatch same)

theorem Gives.mono {post weaker : α → Prop} {draw : Draw α} (gives : Gives p post draw)
    (implies : ∀ value, post value → weaker value) : Gives p weaker draw :=
  ⟨fun same => implies _ (gives.post same), gives.steady⟩

theorem Gives.bind {post : α → Prop} {final : β → Prop} {draw : Draw α} {next : α → Draw β}
    (gives : Gives p post draw) (rest : ∀ value, post value → Gives p final (next value)) :
    Gives p final (draw >>= next) := by
  constructor
  · intro cursors after value same
    rw [run_bind] at same
    generalize taken : Id.run (draw.run.run cursors) = ending at same
    obtain ⟨_ | first, between⟩ := ending
    · cases same
    · exact (rest first (gives.post taken)).post same
  · intro excluded
    exact (gives.steady excluded).bind fun taken => (rest _ (gives.post taken)).steady excluded

theorem Gives.ite {post : α → Prop} {condition : Prop} [Decidable condition] {draw other : Draw α}
    (gives : condition → Gives p post draw) (givesOther : ¬ condition → Gives p post other) :
    Gives p post (if condition then draw else other) := by
  split
  · exact gives ‹_›
  · exact givesOther ‹_›

end Draw

/-! ## Going through values -/

namespace Iteration

variable {p : Value → Prop}

/-- What is left of a walk is made of values that satisfy a condition. -/
def MadeOf (p : Value → Prop) : Iteration → Prop
  | .listed items => ∀ item ∈ items, item.MadeOf p
  | .counting next step count => ∀ i : Nat, i < count → p (.int (next + step * i))
  | .shared tag items => (Value.oneShot tag items).MadeOf p

theorem madeOf_rest {next step : Int} {count : Nat}
    (made : (counting next step (count + 1)).MadeOf p) :
    (counting (next + step) step count).MadeOf p := by
  intro i inCount
  have further := made (i + 1) (Nat.succ_lt_succ inCount)
  rwa [Int.natCast_add, Int.natCast_one, Int.mul_add, Int.mul_one, Int.add_comm (step * i) step,
    ← Int.add_assoc] at further

theorem madeOf_first {next step : Int} {count : Nat}
    (made : (counting next step (count + 1)).MadeOf p) : (Value.int next).MadeOf p := by
  have first := made 0 (Nat.succ_pos count)
  rw [Int.natCast_zero, Int.mul_zero, Int.add_zero] at first
  exact madeOf_leaf first rfl

theorem madeOf_countUp {next step : Int} {count : Nat} (made : (counting next step count).MadeOf p) :
    ∀ item ∈ countUp step next count, item.MadeOf p := by
  induction count generalizing next with
  | zero =>
      intro item member
      cases member
  | succ count inductionHypothesis =>
      exact List.forall_mem_cons.2 ⟨madeOf_first made, inductionHypothesis (madeOf_rest made)⟩

/-- The next item and what comes after it. -/
theorem madeOf_next? {walk rest : Iteration} {cursors after : Cursors} {item : Value}
    (made : walk.MadeOf p) (taken : walk.next? cursors = (some (item, rest), after)) :
    item.MadeOf p ∧ rest.MadeOf p := by
  cases walk with
  | listed items =>
      cases items with
      | nil => cases taken
      | cons first others =>
          cases taken
          exact List.forall_mem_cons.1 made
  | counting next step count =>
      cases count with
      | zero => cases taken
      | succ count =>
          cases taken
          exact ⟨madeOf_first made, madeOf_rest made⟩
  | shared tag items =>
      unfold next? at taken
      dsimp only at taken
      split at taken
      · rename_i first found
        cases taken
        exact ⟨made.part (List.mem_of_getElem? found), made⟩
      · cases taken

theorem madeOf_all {walk : Iteration} (made : walk.MadeOf p) (cursors : Cursors) :
    ∀ item ∈ (walk.all cursors).1, item.MadeOf p := by
  cases walk with
  | listed items => exact made
  | counting next step count => exact madeOf_countUp made
  | shared tag items => exact fun item member => made.part (List.mem_of_mem_drop member)

/-! A walk that is not through a one-shot sequence leaves the cursors alone. -/

/-- A walk whose items are not taken once and for all. -/
def IsOwn : Iteration → Prop
  | .shared .. => False
  | _ => True

theorem isOwn_of_madeOf {walk : Iteration} (excluded : ExcludesShared p) (made : walk.MadeOf p) :
    walk.IsOwn := by
  cases walk with
  | shared tag items => exact excluded tag items made.own
  | _ => trivial

theorem IsOwn.exists_next? {walk : Iteration} (own : walk.IsOwn) :
    ∃ found, ∀ cursors, walk.next? cursors = (found, cursors) := by
  cases walk with
  | listed items =>
      cases items with
      | nil => exact ⟨none, fun _ => rfl⟩
      | cons first rest => exact ⟨some (first, .listed rest), fun _ => rfl⟩
  | counting next step count =>
      cases count with
      | zero => exact ⟨none, fun _ => rfl⟩
      | succ count => exact ⟨some (.int next, .counting (next + step) step count), fun _ => rfl⟩
  | shared tag items => cases own

theorem IsOwn.exists_all {walk : Iteration} (own : walk.IsOwn) :
    ∃ items, ∀ cursors, walk.all cursors = (items, cursors) := by
  cases walk with
  | listed items => exact ⟨items, fun _ => rfl⟩
  | counting next step count => exact ⟨countUp step next count, fun _ => rfl⟩
  | shared tag items => cases own

theorem IsOwn.skip {walk : Iteration} (own : walk.IsOwn) (count : Nat) (cursors : Cursors) :
    walk.skip count cursors = cursors := by
  cases walk with
  | shared tag items => cases own
  | _ => rfl

theorem gives_find? {walk : Iteration} (isMade : walk.MadeOf p) (test : Value → Option Bool) :
    Draw.Gives p (fun _ => True) (modifyGet (walk.find? test) : Draw (Option Bool)) := by
  refine ⟨fun _ => trivial, fun excluded => ?_⟩
  have own := isOwn_of_madeOf excluded isMade
  obtain ⟨items, taken⟩ := own.exists_all
  refine ⟨.ok (search test items).2, fun cursors => ?_⟩
  have shape : Id.run ((modifyGet (walk.find? test) : Draw (Option Bool)).run.run cursors) =
      (.ok (walk.find? test cursors).1, (walk.find? test cursors).2) := rfl
  rw [shape, Iteration.find?]
  simp only [taken, own.skip]

end Iteration

namespace Value

open Draw Iteration

variable {p : Value → Prop} (lasting : Lasting p)

include lasting

theorem madeOf_octet (octet : UInt8) : (int octet.toNat).MadeOf p := by
  refine lasting.madeOf_int (Nat.le_trans (m := 8) ?_ (by decide))
  rw [Number.bitLength_le_iff, Int.natAbs_natCast]
  exact octet.toNat_lt

theorem madeOf_iteration? {value : Value} {walk : Iteration} (made : value.MadeOf p)
    (isWalk : value.iteration? = some walk) : walk.MadeOf p := by
  have keys {entries : List (Value × Value)} (each : EntriesMadeOf p entries) :
      ∀ item ∈ entries.map Prod.fst, item.MadeOf p :=
    List.forall_mem_map.2 fun entry member => (each entry member).1
  cases value with
  | str text =>
      cases isWalk
      exact List.forall_mem_map.2 fun c _ => lasting.madeOf_str _
  | bytes octets =>
      cases isWalk
      exact List.forall_mem_map.2 fun octet _ => madeOf_octet lasting octet
  | list items | tuple items | set frozen items =>
      cases isWalk
      exact fun item member => made.part member
  | dict entries | proxy entries =>
      cases isWalk
      exact keys (made.entries rfl)
  | view kind entries =>
      have each : EntriesMadeOf p entries := made.entries rfl
      cases kind with
      | keys =>
          cases isWalk
          exact keys each
      | values =>
          cases isWalk
          exact List.forall_mem_map.2 fun entry member => (each entry member).2
      | items =>
          cases isWalk
          refine List.forall_mem_map.2 fun entry member => lasting.madeOf_tuple ?_
          exact List.forall_mem_cons.2 ⟨(each entry member).1,
            List.forall_mem_singleton.2 (each entry member).2⟩
  | range start stop step =>
      cases isWalk
      exact fun i inRange => lasting.member made.own inRange
  | oneShot tag items =>
      cases isWalk
      exact made
  | _ => cases isWalk

theorem madeOf_iteration {value : Value} {walk : Iteration} (made : value.MadeOf p)
    (isWalk : value.iteration = .ok walk) : walk.MadeOf p := by
  unfold iteration at isWalk
  split at isWalk
  · cases isWalk
    exact madeOf_iteration? lasting made ‹_›
  · cases isWalk

/-- All items of a value. -/
theorem gives_items {value : Value} (made : value.MadeOf p) :
    Gives p (fun items => ∀ item ∈ items, item.MadeOf p) value.items := by
  have started : Gives p (fun walk => walk.MadeOf p) (liftM value.iteration : Draw Iteration) :=
    gives_liftM fun _ isWalk => madeOf_iteration lasting made isWalk
  refine started.bind fun walk isMade => ⟨?_, fun excluded => ?_⟩
  · intro cursors after items same
    cases same
    exact madeOf_all isMade cursors
  · obtain ⟨items, taken⟩ := (isOwn_of_madeOf excluded isMade).exists_all
    refine ⟨.ok items, fun cursors => ?_⟩
    have shape : Id.run ((modifyGet walk.all : Draw (List Value)).run.run cursors) =
        (.ok (walk.all cursors).1, (walk.all cursors).2) := rfl
    rw [shape, taken]

/-- All items of a value that can be members of a set. -/
theorem gives_takeMembers {value : Value} (made : value.MadeOf p) :
    Gives p (fun members => ∀ member ∈ members, member.MadeOf p) value.takeMembers := by
  cases isWalk : value.iteration with
  | error error =>
      have fails : value.takeMembers = liftM (.error error : Except Error (List Value)) := by
        unfold takeMembers
        rw [isWalk]
        rfl
      rw [fails]
      exact gives_liftM fun _ same => (nomatch same)
  | ok walk =>
      have isMade := madeOf_iteration lasting made isWalk
      constructor
      · intro cursors after members same
        rw [takeMembers_of_iteration isWalk, membersLeft] at same
        split at same
        · cases same
          exact madeOf_all isMade cursors
        · cases same
      · intro excluded
        have own := isOwn_of_madeOf excluded isMade
        obtain ⟨items, taken⟩ := own.exists_all
        refine ⟨(membersLeft walk {}).1, fun cursors => ?_⟩
        rw [takeMembers_of_iteration isWalk]
        unfold membersLeft
        simp only [taken, own.skip]
        split
        · rfl
        · rfl

theorem gives_isMember (value : Value) {container : Value} (made : container.MadeOf p) :
    Gives p (fun _ => True) (value.isMember container) := by
  have lifted (result : Except Error Bool) : Gives p (fun _ => True) (liftM result : Draw Bool) :=
    gives_liftM fun _ _ => trivial
  have walked : Gives p (fun _ => True) (isAmongItems value container) := by
    unfold isAmongItems
    split
    · rename_i walk isWalk
      exact (gives_find? (madeOf_iteration? lasting made isWalk) _).bind fun _ _ => lifted _
    · exact lifted _
  cases container with
  | str content =>
      cases value with
      | str word => exact gives_pure trivial
      | _ => exact lifted _
  | bytes octets =>
      cases value with
      | bytes word => exact gives_pure trivial
      | int n => exact .ite (fun _ => gives_pure trivial) fun _ => lifted _
      | bool flag => exact .ite (fun _ => gives_pure trivial) fun _ => lifted _
      | _ => exact lifted _
  | set frozen members => exact lifted _
  | dict entries | proxy entries => exact lifted _
  | view kind entries =>
      cases kind with
      | keys => exact lifted _
      | items => exact lifted _
      | values => exact walked
  | range start stop step => exact gives_pure trivial
  | _ => exact walked

theorem gives_isMemberOrShares (isOne : Bool) (value : Value) {container : Value}
    (made : container.MadeOf p) : Gives p (fun _ => True) (isMemberOrShares isOne value container) :=
  (gives_isMember lasting value made).bind fun _ _ => gives_pure trivial

end Value

end Authorization
