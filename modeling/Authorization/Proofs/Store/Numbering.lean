import Authorization.Proofs.Store.Plain
import Authorization.Proofs.Store.Workable

/-!
# Rules with new numbers

Tables keep a document of the configuration of a rule, and a document is its own document. So what tables
have kept of a rule is kept as it is when it is saved again, and a store whose stored rules are saved with
new numbers holds the same rules as before, in memory and in tables, under numbers of which nothing is
said.
-/

namespace Authorization

/-! ## Documents of documents -/

namespace Column

variable {entries found result : List (Value × Value)} {key value content : Value} {name : String}

/-- Entries that a document of a mapping may have: texts, and documents under them. -/
structure AreDocuments (entries : List (Value × Value)) : Prop where
  texts : ∀ entry ∈ entries, ∃ name, entry.1 = .str name
  each : ∀ entry ∈ entries, document entry.2 = .ok entry.2

theorem areDocuments_nil : AreDocuments [] :=
  ⟨List.forall_mem_nil _, List.forall_mem_nil _⟩

theorem AreDocuments.store (areDocuments : AreDocuments entries) (name : String)
    (isDocument : document value = .ok value) :
    AreDocuments (Value.store (.str name) value entries) := by
  induction entries with
  | nil => exact ⟨List.forall_mem_singleton.2 ⟨name, rfl⟩, List.forall_mem_singleton.2 isDocument⟩
  | cons entry rest inductionHypothesis =>
      obtain ⟨isText, restTexts⟩ := List.forall_mem_cons.1 areDocuments.texts
      obtain ⟨here, others⟩ := List.forall_mem_cons.1 areDocuments.each
      unfold Value.store
      split
      · exact ⟨List.forall_mem_cons.2 ⟨isText, restTexts⟩,
          List.forall_mem_cons.2 ⟨isDocument, others⟩⟩
      · obtain ⟨texts, each⟩ := inductionHypothesis ⟨restTexts, others⟩
        exact ⟨List.forall_mem_cons.2 ⟨isText, texts⟩, List.forall_mem_cons.2 ⟨here, each⟩⟩

/-- A mapping that holds documents under different texts is its own document. -/
theorem AreDocuments.document_dict (areDocuments : AreDocuments entries)
    (apart : Value.KeysApart entries) : document (.dict entries) = .ok (.dict entries) := by
  have same : documentEntries entries [] = .ok entries :=
    @documentEntries_eq_append entries [] areDocuments.texts apart areDocuments.each
  rw [document, same]
  rfl

mutual

/-- A document is its own document. -/
theorem document_idempotent (value : Value) {content : Value}
    (isDocument : document value = .ok content) : document content = .ok content := by
  cases value with
  | int number =>
      have written := isDocument
      rw [document] at written
      obtain ⟨_, _, rfl⟩ := Except.map_eq_ok_iff.1 written
      exact isDocument
  | list items =>
      rw [document] at isDocument
      obtain ⟨contents, areContents, rfl⟩ := Except.map_eq_ok_iff.1 isDocument
      have each := documentItems_idempotent items areContents
      rw [document, documentItems_eq_self each]
      rfl
  | tuple items =>
      rw [document] at isDocument
      obtain ⟨contents, areContents, rfl⟩ := Except.map_eq_ok_iff.1 isDocument
      have each := documentItems_idempotent items areContents
      rw [document, documentItems_eq_self each]
      rfl
  | dict entries =>
      rw [document] at isDocument
      obtain ⟨kept, made, rfl⟩ := Except.map_eq_ok_iff.1 isDocument
      have areDocuments := areDocuments_documentEntries entries areDocuments_nil made
      exact areDocuments.document_dict (keysApart_documentEntries Value.keysApart_nil made)
  | null | bool | float | str =>
      cases isDocument
      rfl
  | _ => cases isDocument
termination_by structural value

theorem documentItems_idempotent (items : List Value) {contents : List Value}
    (areContents : documentItems items = .ok contents) :
    ∀ content ∈ contents, document content = .ok content := by
  cases items with
  | nil =>
      cases areContents
      exact List.forall_mem_nil _
  | cons item rest =>
      rw [documentItems] at areContents
      obtain ⟨first, isFirst, areContents⟩ := Except.bind_eq_ok_iff.1 areContents
      obtain ⟨others, areOthers, areContents⟩ := Except.bind_eq_ok_iff.1 areContents
      cases areContents
      exact List.forall_mem_cons.2 ⟨document_idempotent item isFirst,
        documentItems_idempotent rest areOthers⟩
termination_by structural items

theorem areDocuments_documentEntries (entries : List (Value × Value))
    {found result : List (Value × Value)} (areDocuments : AreDocuments found)
    (made : documentEntries entries found = .ok result) : AreDocuments result := by
  cases entries with
  | nil =>
      cases made
      exact areDocuments
  | cons entry rest =>
      obtain ⟨key, value⟩ := entry
      rw [documentEntries] at made
      obtain ⟨name, _, made⟩ := Except.bind_eq_ok_iff.1 made
      obtain ⟨content, isContent, made⟩ := Except.bind_eq_ok_iff.1 made
      exact areDocuments_documentEntries rest
        (areDocuments.store name (document_idempotent value isContent)) made
termination_by structural entries

end

theorem text_idempotent {given : Value} (isText : text given = .ok content) :
    text content = .ok content := by
  unfold text at isText
  split at isText
  · cases isText
    rfl
  · obtain ⟨written, _, rfl⟩ := Except.map_eq_ok_iff.1 isText
    exact text_str written

/-- What a column of flags takes where there must be one is a truth value. -/
theorem exists_bool_of_required {given flag active : Value} (isFlag : Column.flag given = .ok flag)
    (isActive : Column.required flag = .ok active) : ∃ truth, active = .bool truth := by
  unfold Column.flag at isFlag
  split at isFlag
  · cases isFlag
    cases isActive
  · split at isFlag
    · cases isFlag
      exact ⟨true, (Except.ok.inj isActive).symm⟩
    · split at isFlag
      · cases isFlag
        exact ⟨false, (Except.ok.inj isActive).symm⟩
      · cases isFlag

end Column

/-! ## Rules that tables have kept -/

namespace PolicyStore

variable {store next last : PolicyStore}

/-- Tables hold what they have kept of rules; in memory every rule is kept as it is. -/
def HoldsKept (store : PolicyStore) : Prop :=
  store.backend = .tables → ∀ rule ∈ store.rules.values, ∃ given, store.keptRule given = .ok rule

theorem keptRule_congr (sameBackend : next.backend = store.backend) (rule : PolicyRule) :
    next.keptRule rule = store.keptRule rule := by
  unfold keptRule
  rw [sameBackend]

/-- A store holds what is kept when its rules come from one that does. -/
theorem HoldsKept.of_subset (holdsKept : store.HoldsKept) (sameBackend : next.backend = store.backend)
    (subset : ∀ rule ∈ next.rules.values, rule ∈ store.rules.values) : next.HoldsKept := by
  intro isTables rule member
  obtain ⟨given, isKept⟩ := holdsKept (sameBackend ▸ isTables) rule (subset rule member)
  exact ⟨given, (keptRule_congr sameBackend given).trans isKept⟩

theorem HoldsKept.saveRule (holdsKept : store.HoldsKept) {rule : PolicyRule}
    (saved : store.saveRule rule = .ok next) : next.HoldsKept := by
  obtain ⟨kept, _, _, isKept, _, rfl⟩ := saveRule_eq_ok saved
  intro isTables other member
  obtain ⟨entry, entryMember, rfl⟩ := List.mem_map.1 member
  rcases Keyed.mem_of_mem_put entryMember with rfl | old
  · exact ⟨_, isKept⟩
  · exact holdsKept isTables _ (List.mem_map_of_mem old)

/-- Every operation leaves what has been kept. -/
theorem HoldsKept.step (holdsKept : store.HoldsKept) (step : store.Step next) : next.HoldsKept := by
  cases step with
  | savePolicy saved =>
      obtain ⟨_, _, _, _, _, _, _, rfl⟩ := savePolicy_eq_ok saved
      exact holdsKept.of_subset rfl fun _ member => member
  | deletePolicy deleted =>
      rcases deletePolicy_eq_ok deleted with ⟨_, rfl, _⟩ | ⟨_, _, _, rfl, _⟩
      · exact holdsKept
      · exact holdsKept.of_subset rfl fun _ member => member
  | saveRules saved =>
      rw [saveRules_eq_foldlM] at saved
      exact foldlM_keeps (fun holdsKept stepped => holdsKept.saveRule stepped) holdsKept saved
  | saveRuleValues saved =>
      refine foldlM_keeps (fun holdsKept stepped => ?_) holdsKept saved
      obtain ⟨_, _, stepped⟩ := Except.bind_eq_ok_iff.1 stepped
      exact holdsKept.saveRule stepped
  | deleteRule deleted =>
      rcases deleteRule_eq_ok deleted with ⟨_, rfl, _⟩ | ⟨known, _, rfl, _⟩
      · exact holdsKept
      · refine holdsKept.of_subset rfl fun rule member => ?_
        obtain ⟨entry, entryMember, rfl⟩ := List.mem_map.1 member
        exact List.mem_map_of_mem (List.mem_of_mem_filter entryMember)

/-! ## Saving rules with new numbers -/

/-- A rule is stored under some number. -/
def Holds (store : PolicyStore) (rule : PolicyRule) : Prop :=
  ∃ order, { rule with order } ∈ store.rules.values

/-- Two stores hold the same policies, and the same rules under whatever numbers. -/
structure Renumbers (store next : PolicyStore) : Prop where
  backend : next.backend = store.backend
  policies : next.policies = store.policies
  rules : ∀ rule, next.Holds rule ↔ store.Holds rule

theorem Renumbers.refl (store : PolicyStore) : store.Renumbers store :=
  ⟨rfl, rfl, fun _ => .rfl⟩

theorem Renumbers.symm (renumbers : store.Renumbers next) : next.Renumbers store :=
  ⟨renumbers.backend.symm, renumbers.policies.symm, fun rule => (renumbers.rules rule).symm⟩

theorem Renumbers.trans (first : store.Renumbers next) (second : next.Renumbers last) :
    store.Renumbers last :=
  ⟨second.backend.trans first.backend, second.policies.trans first.policies,
    fun rule => (second.rules rule).trans (first.rules rule)⟩

end PolicyStore

end Authorization
