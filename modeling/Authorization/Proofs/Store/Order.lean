import Authorization.Store.Order
import Mathlib.Data.List.InsertIdx
import Mathlib.Data.List.Lex
import Mathlib.Data.List.Perm.Basic
import Mathlib.Data.Prod.Lex

/-!
# Sorted records

The order of texts is the lexicographic order of their code points, and texts with the same code points
are equal. Sorting by a key that tells records apart gives one list, whatever order the records come in:
a sorted list is a function of the set of its records.
-/

namespace Authorization

/-! ## Texts -/

/-- The code points of a text. -/
def codesOf (text : String) : List Nat :=
  text.toList.map Text.codeOf

/-- No character is half of a pair. -/
theorem toNat_not_half (c : Char) : c.toNat < 0xD800 ∨ 0xDFFF < c.toNat := by
  have valid : c.toNat < 0xD800 ∨ 0xDFFF < c.toNat ∧ c.toNat < 0x110000 := c.valid
  exact valid.imp_right And.left

theorem codeOf_injective : Function.Injective Text.codeOf := by
  intro left right same
  have leftCode := toNat_not_half left
  have rightCode := toNat_not_half right
  have codes : left.toNat = right.toNat := by
    unfold Text.codeOf Text.isHalf Text.isHalfCode Text.halfDistance at same
    simp only [Bool.and_eq_true, decide_eq_true_eq] at same
    split at same <;> split at same <;> omega
  exact Char.ext (UInt32.toNat_inj.1 codes)

theorem codesOf_injective : Function.Injective codesOf := by
  intro left right same
  exact String.toList_injective (List.map_injective_iff.2 codeOf_injective same)

theorem compareLists_iff (left right : List Char) :
    (Value.compareLists (fun c d => compare (Text.codeOf c) (Text.codeOf d)) left right = .lt ↔
        left.map Text.codeOf < right.map Text.codeOf) ∧
      (Value.compareLists (fun c d => compare (Text.codeOf c) (Text.codeOf d)) left right = .eq ↔
        left.map Text.codeOf = right.map Text.codeOf) := by
  induction left generalizing right with
  | nil => cases right <;> simp [Value.compareLists]
  | cons first rest inductionHypothesis =>
      cases right with
      | nil => simp [Value.compareLists]
      | cons other others =>
          obtain ⟨less, equal⟩ := inductionHypothesis others
          rw [Value.compareLists, Ordering.then_eq_lt, Ordering.then_eq_eq, less, equal]
          simp [List.cons_lt_cons_iff, Nat.compare_eq_lt]

theorem compareTexts_lt_iff (left right : String) :
    Value.compareTexts left right = .lt ↔ codesOf left < codesOf right :=
  (compareLists_iff left.toList right.toList).1

theorem compareTexts_eq_iff (left right : String) :
    Value.compareTexts left right = .eq ↔ left = right := by
  rw [← codesOf_injective.eq_iff]
  exact (compareLists_iff left.toList right.toList).2

/-- A comparison of texts that is neither less nor equal is greater. -/
theorem compareTexts_gt_iff (left right : String) :
    Value.compareTexts left right = .gt ↔ codesOf right < codesOf left := by
  rcases outcome : Value.compareTexts left right with _ | _ | _
  · have less := (compareTexts_lt_iff left right).1 outcome
    simp [less.le]
  · have equal := (compareTexts_eq_iff left right).1 outcome
    simp [equal]
  · have notLess : ¬codesOf left < codesOf right := by
      rw [← compareTexts_lt_iff, outcome]
      intro impossible
      cases impossible
    have notEqual : codesOf left ≠ codesOf right := by
      intro same
      rw [(compareTexts_eq_iff left right).2 (codesOf_injective same)] at outcome
      cases outcome
    exact ⟨fun _ => lt_of_le_of_ne (not_lt.1 notLess) notEqual.symm, fun _ => rfl⟩

theorem textsInOrder_iff (left right : String) :
    textsInOrder left right = true ↔ codesOf left ≤ codesOf right := by
  rw [textsInOrder, bne_iff_ne, ne_eq, compareTexts_gt_iff, not_lt]

/-- Lists of texts stand in order by their first difference. -/
theorem keysInOrder_iff (left right : List String) :
    keysInOrder left right = true ↔ ¬right.map codesOf < left.map codesOf := by
  induction left generalizing right with
  | nil => simp [keysInOrder]
  | cons first rest inductionHypothesis =>
      cases right with
      | nil => simp [keysInOrder]
      | cons other others =>
          rw [keysInOrder, List.map_cons, List.map_cons, List.cons_lt_cons_iff]
          rcases outcome : Value.compareTexts first other with _ | _ | _
          · have less := (compareTexts_lt_iff first other).1 outcome
            simp [less.not_gt, less.ne']
          · have equal := (compareTexts_eq_iff first other).1 outcome
            simp [equal, inductionHypothesis]
          · have greater := (compareTexts_gt_iff first other).1 outcome
            simp [greater]

/-! ## Sorting by a key -/

section Sorting

variable {α β : Type} [LinearOrder β] {inOrder : α → α → Bool}

/-- A sorted list is in the order of the keys. -/
theorem pairwise_mergeSort_of_key {key : α → β} (isOrder : ∀ a b, inOrder a b = true ↔ key a ≤ key b)
    (records : List α) : (records.mergeSort inOrder).Pairwise fun a b => key a ≤ key b := by
  have sorted : (records.mergeSort inOrder).Pairwise fun a b => inOrder a b = true :=
    List.pairwise_mergeSort
    (fun a b c first second => (isOrder a c).2 (((isOrder a b).1 first).trans ((isOrder b c).1 second)))
    (fun a b => by
      rw [Bool.or_eq_true, isOrder, isOrder]
      exact le_total (key a) (key b)) records
  exact sorted.imp fun {a b} ordered => (isOrder a b).1 ordered

/-- A list that is in order, with the same records, is the sorted list, where the keys tell records
apart. -/
theorem eq_of_pairwise_key (key : α → β) {left right : List α}
    (apart : ∀ a ∈ left, ∀ b ∈ left, key a = key b → a = b)
    (leftOrder : left.Pairwise fun a b => key a ≤ key b)
    (rightOrder : right.Pairwise fun a b => key a ≤ key b) (perm : left.Perm right) :
    left = right :=
  perm.eq_of_pairwise
    (fun a b aMember bMember first second =>
      apart a aMember b (perm.mem_iff.2 bMember) (le_antisymm first second))
    leftOrder rightOrder

/-- There is one list of given records that is strictly in order. -/
theorem eq_of_pairwise_lt {key : α → β} {left right : List α}
    (leftOrder : left.Pairwise fun a b => key a < key b)
    (rightOrder : right.Pairwise fun a b => key a < key b)
    (same : ∀ record, record ∈ left ↔ record ∈ right) : left = right := by
  have nodup {records : List α} (order : records.Pairwise fun a b => key a < key b) :
      records.Nodup :=
    List.Pairwise.imp (S := (· ≠ ·)) (fun {_ _} less same => less.ne (congrArg key same)) order
  have perm : left.Perm right :=
    (List.perm_ext_iff_of_nodup (nodup leftOrder) (nodup rightOrder)).2 same
  exact perm.eq_of_pairwise (fun _ _ _ _ less greater => absurd less greater.asymm)
    leftOrder rightOrder

/-- Sorting forgets the order in which records come. -/
theorem mergeSort_eq_of_perm (key : α → β) (isOrder : ∀ a b, inOrder a b = true ↔ key a ≤ key b)
    {left right : List α} (apart : ∀ a ∈ left, ∀ b ∈ left, key a = key b → a = b)
    (perm : left.Perm right) : left.mergeSort inOrder = right.mergeSort inOrder := by
  have leftPerm := List.mergeSort_perm left inOrder
  refine eq_of_pairwise_key key ?apart (pairwise_mergeSort_of_key isOrder left)
    (pairwise_mergeSort_of_key isOrder right)
    (leftPerm.trans (perm.trans (List.mergeSort_perm right inOrder).symm))
  case apart =>
    intro a aMember b bMember same
    exact apart a (leftPerm.mem_iff.1 aMember) b (leftPerm.mem_iff.1 bMember) same

end Sorting

theorem mem_sortedBy {α : Type} {key : α → List String} {records : List α} {record : α} :
    record ∈ sortedBy key records ↔ record ∈ records :=
  (List.mergeSort_perm records _).mem_iff

/-- Sorting by texts is a function of the set of the records, where the texts tell them apart. -/
theorem sortedBy_eq_of_perm {α : Type} {key : α → List String} {left right : List α}
    (apart : ∀ a ∈ left, ∀ b ∈ left, key a = key b → a = b) (perm : left.Perm right) :
    sortedBy key left = sortedBy key right := by
  refine mergeSort_eq_of_perm (fun record => (key record).map codesOf)
    (fun a b => (keysInOrder_iff (key a) (key b)).trans not_lt) ?_ perm
  intro a aMember b bMember same
  exact apart a aMember b bMember (List.map_injective_iff.2 codesOf_injective same)

/-! ## Rules -/

namespace PolicyRule

/-- The place of a rule among the rules of its policy: by number, then by identifier. -/
def place (rule : PolicyRule) : ℤ ×ₗ List ℕ :=
  toLex (rule.order, codesOf rule.id)

theorem id_eq_of_place_eq {left right : PolicyRule} (same : left.place = right.place) :
    left.id = right.id :=
  codesOf_injective (congrArg (fun place => (ofLex place).2) same)

theorem inOrder_iff (left right : PolicyRule) :
    inOrder left right = true ↔ left.place ≤ right.place := by
  rw [inOrder, place, place, Prod.Lex.toLex_le_toLex]
  simp only [Bool.or_eq_true, Bool.and_eq_true, decide_eq_true_eq, beq_iff_eq, textsInOrder_iff]

/-- The place of a rule among all rules: by policy first. -/
def placeOfAll (rule : PolicyRule) : List ℕ ×ₗ ℤ ×ₗ List ℕ :=
  toLex (codesOf rule.policyId, rule.place)

theorem sorted_order_iff (left right : PolicyRule) :
    (match Value.compareTexts left.policyId right.policyId with
      | .lt => true
      | .eq => inOrder left right
      | .gt => false) = true ↔ left.placeOfAll ≤ right.placeOfAll := by
  rw [placeOfAll, placeOfAll, Prod.Lex.toLex_le_toLex]
  rcases outcome : Value.compareTexts left.policyId right.policyId with _ | _ | _
  · simp [(compareTexts_lt_iff _ _).1 outcome]
  · simp [(compareTexts_eq_iff _ _).1 outcome, inOrder_iff]
  · have greater := (compareTexts_gt_iff _ _).1 outcome
    simp [greater.not_gt, greater.ne']

theorem mem_sorted {rules : List PolicyRule} {rule : PolicyRule} :
    rule ∈ sorted rules ↔ rule ∈ rules :=
  (List.mergeSort_perm rules _).mem_iff

/-- Rules with identifiers of their own are sorted in one way. -/
theorem sorted_eq_of_perm {left right : List PolicyRule}
    (apart : ∀ a ∈ left, ∀ b ∈ left, a.id = b.id → a = b) (perm : left.Perm right) :
    sorted left = sorted right := by
  refine mergeSort_eq_of_perm placeOfAll sorted_order_iff ?_ perm
  intro a aMember b bMember same
  exact apart a aMember b bMember
    (id_eq_of_place_eq (congrArg (fun place => (ofLex place).2) same))

end PolicyRule

end Authorization

/-!
## Sorting by insertion

Entries are sorted by their keys: the leading run stays together, and every further entry is put where a
search by halves finds a place for it. Where the keys compare as the places of their entries do in some
order, sorting never fails, and it gives the same entries in that order. Texts compare as their code points.
-/

namespace Authorization

/-- A list is its part before a place and its part from there on, and what is inserted comes between. -/
theorem insertIdx_eq_append {α : Type} (item : α) {place : Nat} {items : List α}
    (isWithin : place ≤ items.length) :
    items.insertIdx place item = items.take place ++ item :: items.drop place := by
  induction items generalizing place with
  | nil =>
      rw [Nat.le_zero.1 isWithin]
      rfl
  | cons first rest inductionHypothesis =>
      cases place with
      | zero => rfl
      | succ place =>
          rw [List.insertIdx_succ_cons, List.take_succ_cons, List.drop_succ_cons,
            inductionHypothesis (Nat.le_of_succ_le_succ isWithin)]
          rfl

namespace Value

variable {β : Type} [LinearOrder β] {less : Value → Value → Option Bool} {place : Value × Value → β}
  {among : Value × Value → Prop}

/-- The keys of some entries compare as the places of the entries do. -/
def ComparesBy (less : Value → Value → Option Bool) (place : Value × Value → β)
    (among : Value × Value → Prop) : Prop :=
  ∀ entry other, among entry → among other →
    less entry.1 other.1 = some (decide (place entry < place other))

/-- Entries stand in the order of their places. -/
abbrev InOrderBy (place : Value × Value → β) (entries : List (Value × Value)) : Prop :=
  entries.Pairwise fun entry later => place entry ≤ place later

/-! ### Finding a place -/

section

variable {sorted : List (Value × Value)} {item entry : Value × Value} {middle : Nat}

/-- What comes up to an item that is not above an entry is not above it either. -/
theorem le_of_mem_take (ordered : InOrderBy place sorted) (isThere : sorted[middle]? = some item)
    (notAbove : place item ≤ place entry) :
    ∀ other ∈ sorted.take (middle + 1), place other ≤ place entry := by
  intro other member
  have early : InOrderBy place (sorted.take (middle + 1)) := ordered.sublist (List.take_sublist _ _)
  rw [List.take_add_one, isThere, Option.toList_some] at early member
  rcases List.mem_append.1 member with before | isItem
  · exact ((List.pairwise_append.1 early).2.2 other before item (.head _)).trans notAbove
  · exact List.mem_singleton.1 isItem ▸ notAbove

/-- What comes from an item on that is above an entry is above it, too. -/
theorem lt_of_mem_drop (ordered : InOrderBy place sorted) (isThere : sorted[middle]? = some item)
    (above : place entry < place item) :
    ∀ other ∈ sorted.drop middle, place entry < place other := by
  intro other member
  obtain ⟨isWithin, isItem⟩ := List.getElem?_eq_some_iff.1 isThere
  have late : InOrderBy place (sorted.drop middle) := ordered.sublist (List.drop_sublist _ _)
  rw [List.drop_eq_getElem_cons isWithin, isItem] at late member
  rcases List.mem_cons.1 member with rfl | after
  · exact above
  · exact above.trans_le ((List.pairwise_cons.1 late).1 other after)

end

/-- The search by halves keeps what comes before its lower end at most the entry, and what comes from its
upper end on above it, until the ends meet. -/
theorem exists_insertionPoint? (compares : ComparesBy less place among)
    {sorted : Array (Value × Value)} {entry : Value × Value}
    (known : ∀ item ∈ sorted.toList, among item) (isKnown : among entry)
    (ordered : InOrderBy place sorted.toList) {steps low high : Nat} (enough : high ≤ low + steps)
    (lowHigh : low ≤ high) (isWithin : high ≤ sorted.size)
    (before : ∀ item ∈ sorted.toList.take low, place item ≤ place entry)
    (after : ∀ item ∈ sorted.toList.drop high, place entry < place item) :
    ∃ found, insertionPoint? less sorted entry.1 steps low high = some found ∧
      found ≤ sorted.size ∧ (∀ item ∈ sorted.toList.take found, place item ≤ place entry) ∧
        ∀ item ∈ sorted.toList.drop found, place entry < place item := by
  induction steps generalizing low high with
  | zero =>
      obtain rfl : low = high := Nat.le_antisymm lowHigh enough
      exact ⟨low, rfl, isWithin, before, after⟩
  | succ steps inductionHypothesis =>
      unfold insertionPoint?
      by_cases isOpen : low < high
      · have middleWithin : (low + high) / 2 < sorted.size := by omega
        have isThere : sorted[(low + high) / 2]? = some sorted[(low + high) / 2] :=
          Array.getElem?_eq_getElem middleWithin
        have member : sorted[(low + high) / 2] ∈ sorted.toList :=
          Array.mem_toList_iff.2 (Array.getElem_mem middleWithin)
        have isListed : sorted.toList[(low + high) / 2]? = some sorted[(low + high) / 2] := by
          rw [Array.getElem?_toList, isThere]
        rw [if_pos isOpen]
        dsimp only
        rw [isThere]
        dsimp only
        rw [compares entry _ isKnown (known _ member)]
        by_cases isBelow : place entry < place sorted[(low + high) / 2]
        · rw [decide_eq_true isBelow]
          exact inductionHypothesis (by omega) (by omega) (by omega) before
            (lt_of_mem_drop ordered isListed isBelow)
        · rw [decide_eq_false isBelow]
          exact inductionHypothesis (by omega) (by omega) isWithin
            (le_of_mem_take ordered isListed (not_lt.1 isBelow)) after
      · obtain rfl : low = high := Nat.le_antisymm lowHigh (not_lt.1 isOpen)
        rw [if_neg isOpen]
        exact ⟨low, rfl, isWithin, before, after⟩

/-! ### Inserting -/

/-- An entry is inserted among sorted ones so that they stay sorted. -/
theorem exists_insertSorted? (compares : ComparesBy less place among)
    {sorted : Array (Value × Value)} {entry : Value × Value}
    (known : ∀ item ∈ sorted.toList, among item) (isKnown : among entry)
    (ordered : InOrderBy place sorted.toList) :
    ∃ next, insertSorted? less sorted entry = some next ∧
      next.toList.Perm (entry :: sorted.toList) ∧ InOrderBy place next.toList := by
  obtain ⟨found, isFound, isWithin, before, after⟩ :=
    @exists_insertionPoint? β _ less place among compares sorted entry known isKnown ordered
      sorted.size 0 sorted.size (Nat.zero_add _).ge (Nat.zero_le _) le_rfl nofun
      (by rw [← Array.length_toList, List.drop_length]; exact nofun)
  refine ⟨sorted.insertIdxIfInBounds found entry, by rw [insertSorted?, isFound]; rfl, ?_⟩
  unfold Array.insertIdxIfInBounds
  rw [dif_pos isWithin, Array.toList_insertIdx]
  refine ⟨List.perm_insertIdx entry _ isWithin, ?_⟩
  rw [insertIdx_eq_append entry isWithin]
  refine List.pairwise_append.2 ⟨ordered.sublist (List.take_sublist _ _),
    List.pairwise_cons.2 ⟨fun item member => (after item member).le,
      ordered.sublist (List.drop_sublist _ _)⟩, fun earlier earlierMember later laterMember => ?_⟩
  rcases List.mem_cons.1 laterMember with rfl | isLater
  · exact before earlier earlierMember
  · exact (before earlier earlierMember).trans (after later isLater).le

/-- Entries that are inserted one after the other among sorted ones come to be sorted with them. -/
theorem exists_insertEach (compares : ComparesBy less place among) {entries : List (Value × Value)}
    {sorted : Array (Value × Value)} (known : ∀ item ∈ sorted.toList, among item)
    (areKnown : ∀ entry ∈ entries, among entry) (ordered : InOrderBy place sorted.toList) :
    ∃ next, entries.foldlM (insertSorted? less) sorted = some next ∧
      next.toList.Perm (entries ++ sorted.toList) ∧ InOrderBy place next.toList := by
  induction entries generalizing sorted with
  | nil => exact ⟨sorted, rfl, .rfl, ordered⟩
  | cons entry rest inductionHypothesis =>
      obtain ⟨isKnown, restKnown⟩ := List.forall_mem_cons.1 areKnown
      obtain ⟨middle, isMiddle, samePart, middleOrdered⟩ :=
        exists_insertSorted? compares known isKnown ordered
      have middleKnown : ∀ item ∈ middle.toList, among item := fun item member =>
        List.forall_mem_cons.2 ⟨isKnown, known⟩ item (samePart.mem_iff.1 member)
      obtain ⟨next, isNext, same, nextOrdered⟩ :=
        inductionHypothesis middleKnown restKnown middleOrdered
      refine ⟨next, ?_, same.trans ((samePart.append_left rest).trans List.perm_middle),
        nextOrdered⟩
      rw [List.foldlM_cons, isMiddle]
      exact isNext

/-! ### The leading run -/

/-- A later entry descends from an earlier one, or does not. -/
abbrev Runs (place : Value × Value → β) (descending : Bool) (entry later : Value × Value) : Prop :=
  decide (place later < place entry) = descending

/-- A run is extended as far as it goes on in its direction. -/
theorem exists_extend (compares : ComparesBy less place among) (descending : Bool) (count : Nat)
    {last : Value × Value} {entries : List (Value × Value)} (isKnown : among last)
    (known : ∀ entry ∈ entries, among entry) :
    ∃ length, leadingRun?.extend less descending count last.1 entries =
        some (count + length, descending) ∧
      (last :: entries.take length).IsChain (Runs place descending) := by
  induction entries generalizing count last with
  | nil => exact ⟨0, rfl, .singleton last⟩
  | cons next rest inductionHypothesis =>
      obtain ⟨nextKnown, restKnown⟩ := List.forall_mem_cons.1 known
      unfold leadingRun?.extend
      rw [compares next last nextKnown isKnown]
      dsimp only
      by_cases goesOn : Runs place descending last next
      · obtain ⟨length, isRun, isChain⟩ := inductionHypothesis (count + 1) nextKnown restKnown
        rw [if_pos (beq_iff_eq.2 goesOn)]
        refine ⟨length + 1, ?_, .cons_cons goesOn isChain⟩
        rw [isRun, Nat.add_assoc, Nat.add_comm 1]
      · rw [if_neg (beq_iff_eq.not.2 goesOn)]
        exact ⟨0, rfl, .singleton last⟩

theorem exists_leadingRun? (compares : ComparesBy less place among) {entries : List (Value × Value)}
    (known : ∀ entry ∈ entries, among entry) :
    ∃ length descending, leadingRun? less entries = some (length, descending) ∧
      (entries.take length).IsChain (Runs place descending) := by
  match entries with
  | [] => exact ⟨0, false, rfl, .nil⟩
  | [entry] => exact ⟨1, false, rfl, .singleton entry⟩
  | first :: second :: rest =>
      have firstKnown := known first (.head _)
      have secondKnown := known second (.tail _ (.head _))
      obtain ⟨length, isRun, isChain⟩ := exists_extend compares (decide (place second < place first)) 2
        secondKnown fun entry member => known entry (.tail _ (.tail _ member))
      refine ⟨2 + length, decide (place second < place first), ?_, ?_⟩
      · unfold leadingRun?
        dsimp only
        rw [compares second first secondKnown firstKnown]
        exact isRun
      · rw [Nat.add_comm, List.take_succ_cons, List.take_succ_cons]
        exact .cons_cons rfl isChain

/-- A run is sorted, once it is turned round where it descends. -/
theorem inOrderBy_run {descending : Bool} {run : List (Value × Value)}
    (isChain : run.IsChain (Runs place descending)) :
    InOrderBy place (if descending then run.reverse else run) := by
  cases descending with
  | false =>
      have ascends : run.IsChain fun entry later => place entry ≤ place later :=
        isChain.imp fun entry later goesOn => not_lt.1 (of_decide_eq_false goesOn)
      exact List.isChain_iff_pairwise.1 ascends
  | true =>
      have descends : run.IsChain fun entry later => place entry ≥ place later :=
        isChain.imp fun entry later goesOn => (of_decide_eq_true goesOn).le
      rw [if_pos rfl]
      exact List.pairwise_reverse.2 (List.isChain_iff_pairwise.1 descends)

/-! ### Sorting -/

/-- Entries whose keys compare as their places are sorted by their places. -/
theorem exists_sortEntries? (compares : ComparesBy (related? .less) place among)
    {entries : List (Value × Value)} (known : ∀ entry ∈ entries, among entry) :
    ∃ sorted, sortEntries? entries = some sorted ∧ sorted.Perm entries ∧ InOrderBy place sorted := by
  obtain ⟨length, descending, isRun, isChain⟩ := exists_leadingRun? compares known
  have sameRun : (if descending then (entries.take length).reverse else entries.take length).Perm
      (entries.take length) := by
    split
    · exact List.reverse_perm _
    · exact .rfl
  obtain ⟨sorted, isSorted, same, ordered⟩ := @exists_insertEach β _ _ place among compares
    (entries.drop length)
    (if descending then (entries.take length).reverse else entries.take length).toArray
    (fun item member => known item (List.mem_of_mem_take (sameRun.mem_iff.1 member)))
    (fun entry member => known entry (List.mem_of_mem_drop member)) (inOrderBy_run isChain)
  refine ⟨sorted.toList, ?_, ?_, ordered⟩
  · unfold sortEntries?
    dsimp only
    rw [isRun]
    dsimp only
    rw [isSorted]
    rfl
  · refine same.trans ((sameRun.append_left _).trans ?_)
    exact List.perm_append_comm.trans (.of_eq (List.take_append_drop length entries))

theorem related?_less_str (left right : String) :
    related? .less (.str left) (.str right) = some (decide (codesOf left < codesOf right)) := by
  have compared : related? .less (.str left) (.str right) =
      some (Relation.holds .less (compareTexts left right)) := by
    simp only [related?]
  rw [compared, Option.some.injEq, Bool.eq_iff_iff, decide_eq_true_iff, ← compareTexts_lt_iff]
  exact beq_iff_eq

/-- Different texts are sorted strictly by their code points. -/
theorem exists_sortEntries?_texts {texts : List String} (apart : texts.Nodup) :
    ∃ sorted : List String,
      sortEntries? (texts.map fun text => (.str text, .str text)) =
        some (sorted.map fun text => (.str text, .str text)) ∧
      sorted.Perm texts ∧ sorted.Pairwise fun text later => codesOf text < codesOf later := by
  have compares : ComparesBy (related? .less) (fun entry => codesOf entry.1.text)
      fun entry => ∃ text, entry = (.str text, .str text) := by
    rintro _ _ ⟨text, rfl⟩ ⟨other, rfl⟩
    exact (related?_less_str text other).trans (congrArg some (decide_eq_decide.2 .rfl))
  have known : ∀ entry ∈ texts.map (fun text => (Value.str text, Value.str text)),
      ∃ text, entry = (.str text, .str text) :=
    List.forall_mem_map.2 fun text _ => ⟨text, rfl⟩
  obtain ⟨entries, isSorted, same, ordered⟩ := exists_sortEntries? compares known
  have areTexts : entries = (entries.map fun entry => entry.1.text).map
      fun text => (.str text, .str text) := by
    rw [List.map_map]
    refine (List.map_id entries).symm.trans (List.map_congr_left fun entry member => ?_)
    obtain ⟨text, rfl⟩ := known entry (same.mem_iff.1 member)
    rfl
  have sameTexts : (entries.map fun entry => entry.1.text).Perm texts := by
    refine (same.map _).trans (.of_eq ?_)
    rw [List.map_map]
    exact List.map_id texts
  have inOrder : (entries.map fun entry => entry.1.text).Pairwise
      fun text later => codesOf text ≤ codesOf later := List.pairwise_map.2 ordered
  refine ⟨_, areTexts ▸ isSorted, sameTexts, ?_⟩
  exact (inOrder.and (sameTexts.nodup_iff.2 apart)).imp fun together =>
    lt_of_le_of_ne together.1 (codesOf_injective.ne together.2)

end Value

end Authorization
