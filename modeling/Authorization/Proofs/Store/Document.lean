import Authorization.Proofs.Number
import Authorization.Proofs.Result
import Authorization.Proofs.Value
import Authorization.Store.Column

/-!
# Documents

A mapping is read by text keys, and no two of its keys are the same text. As a document it has the same
texts as keys, with what stands under them as documents: no other key becomes a word, since other keys
are written as numbers or as words of their own.
-/

namespace Authorization

namespace Value

theorem str_equal_iff (text : String) (value : Value) :
    (Value.str text).equal value = true ↔ value = .str text := by
  cases value with
  | str other => rw [str_equal_str, decide_eq_true_iff, Value.str.injEq, eq_comm]
  | view kind entries => cases kind <;> simp [equal, equal?, numbersEqual, complexParts?, isReal]
  | _ => simp [equal, equal?, numbersEqual, complexParts?, isReal]

/-! ## Text keys -/

variable {entries : List (Value × Value)} {key value : Value} {name : String}

theorem lookupText?_cons_self (entries : List (Value × Value)) (value : Value) (name : String) :
    lookupText? ((.str name, value) :: entries) name = some value := by
  have same : (Value.str name).equal (.str name) = true := (equal_str_iff _ _).2 rfl
  simp only [lookupText?, lookup?, List.find?_cons, same, Option.map_some]

theorem lookupText?_cons_of_ne (isOther : key ≠ .str name) (value : Value) :
    lookupText? ((key, value) :: entries) name = lookupText? entries name := by
  have differ : key.equal (.str name) = false := by
    rw [Bool.eq_false_iff, ne_eq, equal_str_iff]
    exact isOther
  simp only [lookupText?, lookup?, List.find?_cons, differ]

theorem lookupText?_store_self (entries : List (Value × Value)) (value : Value) (name : String) :
    lookupText? (store (.str name) value entries) name = some value := by
  induction entries with
  | nil => exact lookupText?_cons_self [] value name
  | cons entry rest inductionHypothesis =>
      rw [store]
      by_cases same : entry.1.equal (.str name) = true
      · rw [if_pos same, (equal_str_iff _ _).1 same]
        exact lookupText?_cons_self rest value name
      · rw [if_neg same, lookupText?_cons_of_ne fun equal => same ((equal_str_iff _ _).2 equal)]
        exact inductionHypothesis

theorem lookupText?_store_of_ne (isOther : key ≠ .str name) (value : Value)
    (entries : List (Value × Value)) :
    lookupText? (store key value entries) name = lookupText? entries name := by
  induction entries with
  | nil => exact lookupText?_cons_of_ne isOther value
  | cons entry rest inductionHypothesis =>
      obtain ⟨own, content⟩ := entry
      rw [store]
      by_cases isName : own = .str name
      · have differ : ¬own.equal key = true := by
          rw [isName]
          exact fun same => isOther ((str_equal_iff _ _).1 same)
        rw [if_neg differ, isName, lookupText?_cons_self, lookupText?_cons_self]
      · rw [lookupText?_cons_of_ne isName]
        split
        · exact lookupText?_cons_of_ne isName value
        · rw [lookupText?_cons_of_ne isName]
          exact inductionHypothesis

/-- The texts among the keys of a mapping. -/
def keyTexts (entries : List (Value × Value)) : List String :=
  entries.filterMap fun entry => entry.1.asStr?

/-- No two keys of a mapping are the same text. -/
def KeysApart (entries : List (Value × Value)) : Prop :=
  (keyTexts entries).Nodup

theorem keysApart_nil : KeysApart [] :=
  List.nodup_nil

theorem asStr?_eq_some_iff : key.asStr? = some name ↔ key = .str name := by
  cases key <;> simp [asStr?]

theorem keyTexts_cons (key value : Value) (rest : List (Value × Value)) :
    keyTexts ((key, value) :: rest) = key.asStr?.toList ++ keyTexts rest := by
  unfold keyTexts
  rw [List.filterMap_cons]
  dsimp only
  rcases key.asStr? with _ | text <;> rfl

theorem mem_keyTexts : name ∈ keyTexts entries ↔ ∃ value, (.str name, value) ∈ entries := by
  rw [keyTexts, List.mem_filterMap]
  constructor
  · rintro ⟨⟨key, value⟩, member, isText⟩
    exact ⟨value, asStr?_eq_some_iff.1 isText ▸ member⟩
  · rintro ⟨value, member⟩
    exact ⟨_, member, rfl⟩

/-- A text that is no key has nothing under it. -/
theorem lookupText?_eq_none (absent : name ∉ keyTexts entries) :
    lookupText? entries name = none := by
  induction entries with
  | nil => rfl
  | cons entry rest inductionHypothesis =>
      obtain ⟨key, value⟩ := entry
      have isOther : key ≠ .str name := by
        rintro rfl
        exact absent (mem_keyTexts.2 ⟨value, .head _⟩)
      rw [lookupText?_cons_of_ne isOther]
      refine inductionHypothesis fun member => absent ?_
      obtain ⟨content, isThere⟩ := mem_keyTexts.1 member
      exact mem_keyTexts.2 ⟨content, .tail _ isThere⟩

/-- Storing a value adds at most its key, and no text that is a key already. -/
theorem keyTexts_store (key value : Value) (entries : List (Value × Value)) :
    keyTexts (store key value entries) = keyTexts entries ∨
      keyTexts (store key value entries) = keyTexts entries ++ key.asStr?.toList ∧
        ∀ name, key = .str name → name ∉ keyTexts entries := by
  induction entries with
  | nil =>
      refine .inr ⟨?_, fun _ _ => List.not_mem_nil⟩
      cases key <;> rfl
  | cons entry rest inductionHypothesis =>
      obtain ⟨own, content⟩ := entry
      rw [store]
      by_cases same : own.equal key = true
      · rw [if_pos same]
        exact .inl rfl
      · rw [if_neg same]
        rw [keyTexts_cons, keyTexts_cons]
        rcases inductionHypothesis with unchanged | ⟨added, isNew⟩
        · rw [unchanged]
          exact .inl rfl
        · rw [added, List.append_assoc]
          refine .inr ⟨rfl, fun name isText member => ?_⟩
          rcases List.mem_append.1 member with isOwn | isOther
          · have isName : own = .str name := asStr?_eq_some_iff.1 (Option.mem_toList.1 isOwn)
            exact same (isText ▸ (equal_str_iff _ _).2 isName)
          · exact isNew name isText isOther

theorem KeysApart.tail {rest : List (Value × Value)} (apart : KeysApart ((key, value) :: rest)) :
    KeysApart rest ∧ ∀ name, key = .str name → name ∉ keyTexts rest := by
  rw [KeysApart, keyTexts_cons] at apart
  obtain ⟨_, others, differ⟩ := List.nodup_append.1 apart
  refine ⟨others, fun name isText member => differ name ?_ name member rfl⟩
  rw [isText]
  exact List.mem_singleton_self name

theorem KeysApart.store (apart : KeysApart entries) (key value : Value) :
    KeysApart (store key value entries) := by
  rcases keyTexts_store key value entries with unchanged | ⟨added, isNew⟩
  · rwa [KeysApart, unchanged]
  · rw [KeysApart, added]
    cases isText : key.asStr? with
    | none =>
        rw [Option.toList_none, List.append_nil]
        exact apart
    | some name =>
        rw [Option.toList_some, List.nodup_append]
        refine ⟨apart, List.pairwise_singleton _ _, fun text member other isName => ?_⟩
        rw [List.mem_singleton.1 isName]
        rintro rfl
        exact isNew _ (asStr?_eq_some_iff.1 isText) member

theorem keysApart_foldl_store (given : List (Value × Value)) (apart : KeysApart entries) :
    KeysApart (given.foldl (fun found entry => Value.store entry.1 entry.2 found) entries) := by
  induction given generalizing entries with
  | nil => exact apart
  | cons entry rest inductionHypothesis => exact inductionHypothesis (apart.store entry.1 entry.2)

end Value

/-! ## Documents of mappings -/

namespace Column

variable {entries found result : List (Value × Value)} {key value content : Value} {name : String}

/-- The words under which rules look into their configurations. -/
def words : List String :=
  ["roles", "field", "operator", "value", "code"]

theorem not_isNumeral_of_mem_words (isWord : name ∈ words) : ¬Number.IsNumeral name := by
  have noneIsNumeral : words.all (fun word => !decide (Number.IsNumeral word)) = true := by decide
  have isOther := List.all_eq_true.1 noneIsNumeral name isWord
  rwa [Bool.not_eq_true', decide_eq_false_iff_not] at isOther

theorem toText_int {number : Int} {text : String} (written : Value.toText (.int number) = .ok text) :
    text = Number.intText number := by
  unfold Value.toText at written
  rcases isWritten : (Value.int number).text? with _ | found
  · rw [isWritten] at written
    cases written
  · rw [isWritten] at written
    cases written
    unfold Value.text? at isWritten
    split at isWritten
    · cases isWritten
    · exact (Option.some.inj isWritten).symm

/-- Only a word itself becomes a word. -/
theorem eq_str_of_documentKey (isKey : documentKey key = .ok name) (isWord : name ∈ words) :
    key = .str name := by
  cases key with
  | str text =>
      cases isKey
      rfl
  | null =>
      cases isKey
      exact absurd isWord (by decide)
  | bool flag =>
      cases isKey
      cases flag
      · exact absurd isWord (by decide)
      · exact absurd isWord (by decide)
  | int number =>
      rw [documentKey] at isKey
      have isText := toText_int isKey
      rw [isText] at isWord
      exact absurd (Number.isNumeral_intText number) (not_isNumeral_of_mem_words isWord)
  | float number =>
      cases isKey
      unfold floatKey at isWord
      split at isWord
      · exact absurd isWord (by decide)
      · split at isWord
        · exact absurd isWord (by decide)
        · exact absurd isWord (by decide)
      · rename_i isFinite
        exact absurd (Number.isNumeral_floatText isFinite) (not_isNumeral_of_mem_words isWord)
  | _ => cases isKey

/-- The keys of a document of a mapping are different texts. -/
theorem keysApart_documentEntries (apart : Value.KeysApart found)
    (made : documentEntries entries found = .ok result) : Value.KeysApart result := by
  induction entries generalizing found with
  | nil =>
      cases made
      exact apart
  | cons entry rest inductionHypothesis =>
      obtain ⟨key, value⟩ := entry
      rw [documentEntries] at made
      obtain ⟨name, _, made⟩ := Except.bind_eq_ok_iff.1 made
      obtain ⟨content, _, made⟩ := Except.bind_eq_ok_iff.1 made
      exact inductionHypothesis (apart.store _ content) made

theorem keysApart_document (isDocument : document value = .ok content)
    (isMapping : content.entries? = some entries) : Value.KeysApart entries := by
  cases value with
  | dict own =>
      rw [document] at isDocument
      obtain ⟨kept, made, rfl⟩ := Except.map_eq_ok_iff.1 isDocument
      cases isMapping
      exact keysApart_documentEntries Value.keysApart_nil made
  | int _ | list _ | tuple _ =>
      rw [document] at isDocument
      obtain ⟨_, _, rfl⟩ := Except.map_eq_ok_iff.1 isDocument
      cases isMapping
  | _ => cases isDocument <;> cases isMapping

/-- What stands under a word in a document of a mapping. -/
theorem lookupText?_documentEntries (apart : Value.KeysApart entries) (isWord : name ∈ words)
    (made : documentEntries entries found = .ok result) :
    match Value.lookupText? entries name with
    | some value => ∃ content, document value = .ok content ∧
        Value.lookupText? result name = some content
    | none => Value.lookupText? result name = Value.lookupText? found name := by
  induction entries generalizing found with
  | nil =>
      cases made
      rfl
  | cons entry rest inductionHypothesis =>
      obtain ⟨key, value⟩ := entry
      rw [documentEntries] at made
      obtain ⟨text, isKey, made⟩ := Except.bind_eq_ok_iff.1 made
      obtain ⟨content, isContent, made⟩ := Except.bind_eq_ok_iff.1 made
      obtain ⟨restApart, isOnly⟩ := apart.tail
      have later := inductionHypothesis restApart made
      by_cases isName : key = .str name
      · subst isName
        have sameText : text = name := (Except.ok.inj isKey).symm
        rw [Value.lookupText?_eq_none (isOnly name rfl), sameText,
          Value.lookupText?_store_self] at later
        rw [Value.lookupText?_cons_self]
        exact ⟨content, isContent, later⟩
      · have isOther : Value.str text ≠ .str name := by
          intro same
          rw [Value.str.inj same] at isKey
          exact isName (eq_str_of_documentKey isKey isWord)
        rw [Value.lookupText?_store_of_ne isOther] at later
        rw [Value.lookupText?_cons_of_ne isName]
        exact later

end Column

end Authorization
