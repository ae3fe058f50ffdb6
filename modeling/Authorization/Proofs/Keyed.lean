import Authorization.Keyed
import Mathlib.Data.List.Nodup

/-!
# Records under their own keys

A store keeps each record under the record's own identifier, and no two under one. Then a record is
stored exactly when it is the one under its identifier, and putting records in and leaving them out keeps
this so.
-/

namespace Authorization.Keyed

variable {κ α : Type} {ownKey : α → κ} {entries : Keyed κ α} {key : κ} {value : α}

/-- Records stand under their own keys, each key once. -/
structure Indexed (ownKey : α → κ) (entries : Keyed κ α) : Prop where
  distinct : (entries.map Prod.fst).Nodup
  own : ∀ entry ∈ entries, entry.1 = ownKey entry.2

theorem Indexed.nil : Indexed ownKey ([] : Keyed κ α) :=
  ⟨List.nodup_nil, fun _ member => by cases member⟩

theorem Indexed.tail {entry : κ × α} (indexed : Indexed ownKey (entry :: entries)) :
    Indexed ownKey entries :=
  ⟨(List.nodup_cons.1 indexed.distinct).2, fun other member => indexed.own other (.tail _ member)⟩

theorem Indexed.nodup_keys (indexed : Indexed ownKey entries) :
    (entries.values.map ownKey).Nodup := by
  have keys : entries.values.map ownKey = entries.map Prod.fst := by
    rw [values, List.map_map]
    exact List.map_congr_left fun entry member => (indexed.own entry member).symm
  rw [keys]
  exact indexed.distinct

theorem Indexed.nodup_values (indexed : Indexed ownKey entries) : entries.values.Nodup :=
  indexed.nodup_keys.of_map ownKey

variable [DecidableEq κ]

theorem get?_cons (key other : κ) (value : α) (rest : Keyed κ α) :
    get? ((key, value) :: rest) other = if key = other then some value else get? rest other := by
  by_cases same : key = other <;> simp [get?, same]

theorem mem_of_get? {entries : Keyed κ α} {key : κ} {value : α}
    (found : entries.get? key = some value) : (key, value) ∈ entries := by
  obtain ⟨entry, isFirst, rfl⟩ := Option.map_eq_some_iff.1 found
  have sameKey := List.find?_some isFirst
  rw [← of_decide_eq_true sameKey]
  exact List.mem_of_find?_eq_some isFirst

theorem mem_values_of_get? {entries : Keyed κ α} {key : κ} {value : α}
    (found : entries.get? key = some value) : value ∈ entries.values :=
  List.mem_map_of_mem (mem_of_get? found)

theorem has_iff {entries : Keyed κ α} {key : κ} :
    entries.has key = true ↔ ∃ value, entries.get? key = some value :=
  Option.isSome_iff_exists

theorem has_iff_mem_keys {entries : Keyed κ α} {key : κ} :
    entries.has key = true ↔ key ∈ entries.map Prod.fst := by
  rw [has, get?, Option.isSome_map, List.find?_isSome, List.mem_map]
  exact exists_congr fun entry => and_congr_right fun _ => decide_eq_true_iff

/-- A record is stored exactly when it is found under its own key. -/
theorem Indexed.mem_values_iff (indexed : Indexed ownKey entries) :
    value ∈ entries.values ↔ entries.get? (ownKey value) = some value := by
  refine ⟨fun member => ?_, mem_values_of_get?⟩
  induction entries with
  | nil => cases member
  | cons entry rest inductionHypothesis =>
      obtain ⟨here, stored⟩ := entry
      have isOwn : here = ownKey stored := indexed.own (here, stored) (.head _)
      rw [get?_cons]
      rcases List.mem_cons.1 member with same | member
      · have sameValue : value = stored := same
        rw [if_pos (sameValue ▸ isOwn), sameValue]
      · have found := inductionHypothesis indexed.tail member
        have apart : here ≠ ownKey value := by
          intro equality
          obtain ⟨entry, isFirst, isValue⟩ := Option.map_eq_some_iff.1 found
          have stands : entry.1 = ownKey value := by
            simpa using List.find?_some isFirst
          refine (List.nodup_cons.1 indexed.distinct).1 ?_
          have member : entry.1 ∈ rest.map Prod.fst :=
            List.mem_map_of_mem (List.mem_of_find?_eq_some isFirst)
          rw [stands, ← equality] at member
          exact member
        rw [if_neg apart, found]

/-- What is found under a key has that key. -/
theorem Indexed.key_eq (indexed : Indexed ownKey entries) (found : entries.get? key = some value) :
    ownKey value = key := by
  obtain ⟨entry, isFirst, rfl⟩ := Option.map_eq_some_iff.1 found
  have stands : entry.1 = key := by
    simpa using List.find?_some isFirst
  rw [← stands, indexed.own entry (List.mem_of_find?_eq_some isFirst)]

theorem Indexed.get?_eq_some_iff (indexed : Indexed ownKey entries) :
    entries.get? key = some value ↔ value ∈ entries.values ∧ ownKey value = key := by
  rw [indexed.mem_values_iff]
  constructor
  · intro found
    have isKey := indexed.key_eq found
    exact ⟨isKey.symm ▸ found, isKey⟩
  · rintro ⟨found, rfl⟩
    exact found

/-- Of the records that pass a test, two collections that hold the same of them find the same. -/
theorem Indexed.filter_get?_eq {others : Keyed κ α} (indexed : Indexed ownKey entries)
    (otherIndexed : Indexed ownKey others) {test : α → Bool}
    (same : ∀ value, test value = true → (value ∈ entries.values ↔ value ∈ others.values))
    (key : κ) : (entries.get? key).filter test = (others.get? key).filter test := by
  refine Option.ext fun value => ?_
  rw [Option.filter_eq_some_iff, Option.filter_eq_some_iff, indexed.get?_eq_some_iff,
    otherIndexed.get?_eq_some_iff]
  exact and_congr_left fun passes => and_congr_left' (same value passes)

/-- Two collections that hold the same records of a key find the same under it. -/
theorem Indexed.get?_eq {next : Keyed κ α} (indexed : Indexed ownKey entries)
    (nextIndexed : Indexed ownKey next)
    (same : ∀ value, ownKey value = key → (value ∈ next.values ↔ value ∈ entries.values)) :
    next.get? key = entries.get? key := by
  refine Option.ext fun value => ?_
  rw [nextIndexed.get?_eq_some_iff, indexed.get?_eq_some_iff]
  exact and_congr_left (same value)

/-- Stored records with one key are one record. -/
theorem Indexed.eq_of_key_eq (indexed : Indexed ownKey entries) {other : α}
    (member : value ∈ entries.values) (otherMember : other ∈ entries.values)
    (same : ownKey value = ownKey other) : value = other := by
  have found := indexed.mem_values_iff.1 member
  rw [same, indexed.mem_values_iff.1 otherMember] at found
  exact (Option.some.inj found).symm

theorem Indexed.has_iff (indexed : Indexed ownKey entries) :
    entries.has key = true ↔ ∃ value ∈ entries.values, ownKey value = key := by
  rw [Keyed.has_iff]
  constructor
  · rintro ⟨value, found⟩
    exact ⟨value, mem_values_of_get? found, indexed.key_eq found⟩
  · rintro ⟨value, member, rfl⟩
    exact ⟨value, indexed.mem_values_iff.1 member⟩

/-! ## Changes -/

theorem keys_put (entries : Keyed κ α) (key : κ) (value : α) :
    (put key value entries).map Prod.fst =
      if key ∈ entries.map Prod.fst then entries.map Prod.fst else entries.map Prod.fst ++ [key] := by
  induction entries with
  | nil => rfl
  | cons entry rest inductionHypothesis =>
      by_cases same : entry.1 = key
      · simp [put, same]
      · have apart : key ≠ entry.1 := fun equality => same equality.symm
        rw [put, if_neg same, List.map_cons, inductionHypothesis, List.map_cons]
        by_cases member : key ∈ rest.map Prod.fst
        · rw [if_pos member, if_pos (.tail _ member)]
        · rw [if_neg member, if_neg (by simpa [apart] using member), List.cons_append]

theorem mem_of_mem_put {entry : κ × α} (member : entry ∈ put key value entries) :
    entry = (key, value) ∨ entry ∈ entries := by
  induction entries with
  | nil => exact .inl (List.mem_singleton.1 member)
  | cons first rest inductionHypothesis =>
      by_cases same : first.1 = key
      · rw [put, if_pos same] at member
        exact (List.mem_cons.1 member).imp_right (.tail _)
      · rw [put, if_neg same] at member
        rcases List.mem_cons.1 member with rfl | member
        · exact .inr (.head _)
        · exact (inductionHypothesis member).imp_right (.tail _)

theorem Indexed.put (indexed : Indexed ownKey entries) (value : α) :
    Indexed ownKey (put (ownKey value) value entries) := by
  refine ⟨?_, fun entry member => ?_⟩
  · rw [keys_put]
    split
    · exact indexed.distinct
    · rename_i isNew
      exact List.nodup_append_comm.1 (List.nodup_cons.2 ⟨isNew, indexed.distinct⟩)
  · rcases mem_of_mem_put member with rfl | old
    · rfl
    · exact indexed.own entry old

theorem Indexed.erase (indexed : Indexed ownKey entries) (key : κ) :
    Indexed ownKey (entries.erase key) :=
  ⟨indexed.distinct.sublist (List.filter_sublist.map _),
    fun entry member => indexed.own entry (List.mem_of_mem_filter member)⟩

/-- An entry under a new key comes last. -/
theorem put_of_absent (absent : entries.has key = false) (value : α) :
    put key value entries = entries ++ [(key, value)] := by
  have isNew : key ∉ entries.map Prod.fst := by
    rw [← has_iff_mem_keys, absent]
    exact Bool.false_ne_true
  clear absent
  induction entries with
  | nil => rfl
  | cons entry rest inductionHypothesis =>
      obtain ⟨apart, restNew⟩ := not_or.1 (List.mem_cons.not.1 isNew)
      rw [put, if_neg fun same => apart same.symm, inductionHypothesis restNew, List.cons_append]

theorem Indexed.append (indexed : Indexed ownKey entries) (value : α)
    (isNew : entries.has (ownKey value) = false) :
    Indexed ownKey (entries ++ [(ownKey value, value)]) := by
  rw [← put_of_absent isNew]
  exact indexed.put value

theorem Indexed.mem_values_put (indexed : Indexed ownKey entries) {other : α} :
    other ∈ values (Keyed.put (ownKey value) value entries) ↔
      other = value ∨ (other ∈ entries.values ∧ ownKey other ≠ ownKey value) := by
  rw [(indexed.put value).mem_values_iff, get?_put]
  split
  · rename_i same
    rw [Option.some.injEq]
    exact ⟨fun equality => .inl equality.symm, fun either =>
      (either.resolve_right fun old => old.2 same).symm⟩
  · rename_i apart
    rw [← indexed.mem_values_iff]
    exact ⟨fun member => .inr ⟨member, apart⟩, fun either =>
      (either.resolve_left fun equality => apart (equality ▸ rfl)).1⟩

theorem Indexed.mem_values_erase (indexed : Indexed ownKey entries) {other : α} :
    other ∈ values (entries.erase key) ↔ other ∈ entries.values ∧ ownKey other ≠ key := by
  rw [(indexed.erase key).mem_values_iff, get?_erase, indexed.mem_values_iff]
  by_cases same : ownKey other = key
  · simp [same]
  · simp [same]

theorem erase_of_not_has (absent : entries.has key = false) : entries.erase key = entries := by
  rw [erase, List.filter_eq_self]
  intro entry member
  rw [decide_eq_true_iff]
  intro same
  have isThere : entries.has key = true := by
    rw [has, get?, Option.isSome_map, List.find?_isSome]
    exact ⟨entry, member, decide_eq_true same⟩
  rw [absent] at isThere
  cases isThere

/-- An entry that has been put in under a new key can be left out again. -/
theorem erase_put (absent : entries.has key = false) (value : α) :
    (put key value entries).erase key = entries := by
  have last : Keyed.erase [(key, value)] key = [] := by
    simp [erase]
  rw [put_of_absent absent, erase, List.filter_append]
  exact (congrArg₂ _ (erase_of_not_has absent) last).trans (List.append_nil _)

/-! ## One entry in place of another -/

/-- Under one key, what was there is exchanged for what is there now, be it a record or nothing. Under all
other keys there is what was there before. -/
structure Exchanged (entries next : Keyed κ α) (key : κ) (before now : Option α) : Prop where
  before : entries.get? key = before
  now : next.get? key = now
  others : ∀ other, other ≠ key → next.get? other = entries.get? other

theorem exchanged_put {before : Option α} (found : entries.get? key = before) (value : α) :
    Exchanged entries (put key value entries) key before (some value) := by
  refine ⟨found, ?_, fun other apart => ?_⟩
  · rw [get?_put, if_pos rfl]
  · rw [get?_put, if_neg apart]

theorem exchanged_erase {before : Option α} (found : entries.get? key = before) :
    Exchanged entries (entries.erase key) key before none := by
  refine ⟨found, ?_, fun other apart => ?_⟩
  · rw [get?_erase, if_pos rfl]
  · rw [get?_erase, if_neg apart]

/-! ## Many entries at once -/

section Puts

variable {item : Type} {test : item → Bool} {place : item → κ} {content : item → α}

/-- Puts in an entry for every item that passes a test. -/
def puts (test : item → Bool) (place : item → κ) (content : item → α) (items : List item)
    (entries : Keyed κ α) : Keyed κ α :=
  items.foldl (fun found one => if test one then Keyed.put (place one) (content one) found else found)
    entries

/-- A key that no item has keeps its entry. -/
theorem get?_puts_of_not {items : List item} {other : κ}
    (none : ∀ one ∈ items, test one = true → place one ≠ other) (entries : Keyed κ α) :
    get? (puts test place content items entries) other = get? entries other := by
  induction items generalizing entries with
  | nil => rfl
  | cons one rest inductionHypothesis =>
      rw [puts, List.foldl_cons, ← puts,
        inductionHypothesis fun another member => none another (.tail _ member)]
      split
      · rename_i passes
        rw [get?_put, if_neg fun same => none one (.head _) passes same.symm]
      · rfl

/-- The entry of an item that passes is there, where the items have keys of their own. -/
theorem get?_puts_of_mem {items : List item}
    (apart : items.Pairwise fun one another => place one ≠ place another) {one : item}
    (member : one ∈ items) (passes : test one = true) (entries : Keyed κ α) :
    get? (puts test place content items entries) (place one) = some (content one) := by
  induction items generalizing entries with
  | nil => cases member
  | cons first rest inductionHypothesis =>
      obtain ⟨firstApart, restApart⟩ := List.pairwise_cons.1 apart
      rw [puts, List.foldl_cons, ← puts]
      rcases List.mem_cons.1 member with rfl | member
      · rw [get?_puts_of_not fun another anotherMember _ => (firstApart another anotherMember).symm,
          if_pos passes, get?_put, if_pos rfl]
      · exact inductionHypothesis restApart member _

/-- Under a key there is the entry of one of the items that have it, or what was there when none has. -/
theorem get?_puts_cases (items : List item) (entries : Keyed κ α) (key : κ) :
    (∃ one ∈ items, test one = true ∧ place one = key ∧
      get? (puts test place content items entries) key = some (content one)) ∨
    ((∀ one ∈ items, test one = true → place one ≠ key) ∧
      get? (puts test place content items entries) key = get? entries key) := by
  induction items generalizing entries with
  | nil => exact .inr ⟨List.forall_mem_nil _, rfl⟩
  | cons first rest inductionHypothesis =>
      rw [puts, List.foldl_cons, ← puts]
      rcases inductionHypothesis (if test first then Keyed.put (place first) (content first) entries
        else entries) with ⟨one, member, passes, isKey, found⟩ | ⟨noneLater, same⟩
      · exact .inl ⟨one, .tail _ member, passes, isKey, found⟩
      · rw [same]
        by_cases isFirst : test first = true ∧ place first = key
        · obtain ⟨passes, isKey⟩ := isFirst
          refine .inl ⟨first, .head _, passes, isKey, ?_⟩
          rw [if_pos passes, get?_put, if_pos isKey.symm]
        · refine .inr ⟨List.forall_mem_cons.2 ⟨fun passes isKey => isFirst ⟨passes, isKey⟩,
            noneLater⟩, ?_⟩
          split
          · rename_i passes
            rw [get?_put, if_neg fun isKey => isFirst ⟨passes, isKey.symm⟩]
          · rfl

/-- Entries that are put in under keys that are there leave the keys as they are. -/
theorem keys_puts_of_mem {items : List item} {entries : Keyed κ α}
    (known : ∀ one ∈ items, place one ∈ entries.map Prod.fst) :
    (puts test place content items entries).map Prod.fst = entries.map Prod.fst := by
  induction items generalizing entries with
  | nil => rfl
  | cons one rest inductionHypothesis =>
      obtain ⟨here, others⟩ := List.forall_mem_cons.1 known
      have same : (if test one then Keyed.put (place one) (content one) entries else entries).map
          Prod.fst = entries.map Prod.fst := by
        split
        · rw [keys_put, if_pos here]
        · rfl
      rw [puts, List.foldl_cons, ← puts, inductionHypothesis (same.symm ▸ others), same]

/-- Entries under new keys, no two under one, come last in the order of their items. -/
theorem puts_of_new {items : List item} {entries : Keyed κ α} (passes : ∀ one ∈ items, test one = true)
    (isNew : ∀ one ∈ items, entries.has (place one) = false)
    (apart : items.Pairwise fun one another => place one ≠ place another) :
    puts test place content items entries =
      entries ++ items.map fun one => (place one, content one) := by
  induction items generalizing entries with
  | nil => exact (List.append_nil entries).symm
  | cons one rest inductionHypothesis =>
      obtain ⟨firstPasses, restPass⟩ := List.forall_mem_cons.1 passes
      obtain ⟨firstNew, restNew⟩ := List.forall_mem_cons.1 isNew
      obtain ⟨firstApart, restApart⟩ := List.pairwise_cons.1 apart
      have stillNew : ∀ another ∈ rest,
          Keyed.has (Keyed.put (place one) (content one) entries) (place another) = false := by
        intro another member
        rw [has, get?_put, if_neg (firstApart another member).symm]
        exact restNew another member
      rw [puts, List.foldl_cons, ← puts, if_pos firstPasses,
        inductionHypothesis restPass stillNew restApart, put_of_absent firstNew, List.map_cons,
        List.append_assoc, List.singleton_append]

/-- Every entry is an earlier one or that of an item. -/
theorem mem_values_puts {items : List item} {entries : Keyed κ α}
    (member : value ∈ values (puts test place content items entries)) :
    value ∈ entries.values ∨ ∃ one ∈ items, value = content one := by
  induction items generalizing entries with
  | nil => exact .inl member
  | cons one rest inductionHypothesis =>
      rw [puts, List.foldl_cons, ← puts] at member
      rcases inductionHypothesis member with old | ⟨another, isThere, rfl⟩
      · split at old
        · obtain ⟨entry, entryMember, rfl⟩ := List.mem_map.1 old
          rcases mem_of_mem_put entryMember with rfl | earlier
          · exact .inr ⟨one, .head _, rfl⟩
          · exact .inl (List.mem_map_of_mem earlier)
        · exact .inl old
      · exact .inr ⟨another, .tail _ isThere, rfl⟩

end Puts

end Authorization.Keyed
