import Authorization.Proofs.Administration.Failure
import Authorization.Proofs.Administration.PolicyEffects
import Authorization.Proofs.Administration.RoleEffects
import Authorization.Proofs.Store.Saving

/-!
# When a duplicate is told

An administrator is told of a duplicate when another policy of the organization has the key, or another
role the slug, and also when tables refuse the record: whatever value error a store raises at saving is
told as a duplicate.
-/

namespace Authorization

/-! ## Keys -/

namespace Key

theorem mem_withoutLineFeed {text : List Char} {c : Char} (member : c ∈ text) :
    c ∈ withoutLineFeed text ∨ c = '\n' := by
  unfold withoutLineFeed
  split
  · rename_i isLast
    have nonempty : text ≠ [] := List.ne_nil_of_mem member
    rw [← List.dropLast_concat_getLast nonempty, List.mem_append, List.mem_singleton] at member
    rw [List.getLast?_eq_some_getLast nonempty, Option.some.injEq] at isLast
    rwa [isLast] at member
  · exact .inl member

/-- The key of a policy is whole. -/
theorem holdsHalf_of_isPolicyKey {key : String} (isKey : isPolicyKey key = true) :
    Text.holdsHalf key = false := by
  obtain ⟨⟨resource, action⟩, isCut, areRuns⟩ := (Option.any_eq_true _ _).1 isKey
  obtain ⟨resourceIsRun, actionIsRun⟩ := Bool.and_eq_true_iff.1 areRuns
  refine holdsHalf_of_toNat_le fun c member => ?_
  rcases mem_withoutLineFeed member with member | rfl
  · rw [eq_of_cut? isCut, List.mem_append, List.mem_cons] at member
    rcases member with member | rfl | member
    · exact toNat_le_of_isRun resourceIsRun c member
    · decide
    · exact toNat_le_of_isRun actionIsRun c member
  · decide

end Key

namespace Cleaning

theorem holdsHalf_of_key {value : Value} {key : String} (isClean : Cleaning.key value = .ok key) :
    Text.holdsHalf key = false :=
  Key.holdsHalf_of_isPolicyKey (PolicyAdministration.isPolicyKey_of_clean isClean)

theorem holdsHalf_of_slug {value : Value} {slug : String} (isClean : Cleaning.slug value = .ok slug) :
    Text.holdsHalf slug = false :=
  Key.holdsHalf_of_isRun (isRun_of_slug isClean)

variable {α β : Type} {changes : Bindings} {field : String}

/-- A field that has been replaced is what the change, if there is one, has made of it. -/
theorem exists_change_of_replaced {clean : Value → Except Error α} {before now : α}
    (replaced : Replaced changes field clean before now) :
    ∃ found, change changes field clean = .ok found ∧ found.getD before = now := by
  cases replaced with
  | kept isMissing =>
      refine ⟨none, ?_, rfl⟩
      rw [change, isMissing]
  | given isGiven isClean =>
      refine ⟨some now, ?_, rfl⟩
      rw [change, isGiven]
      exact Except.map_eq_ok_iff.2 ⟨now, isClean, rfl⟩

/-- A field that has been replaced has what it had before or what something is cleaned to. -/
theorem eq_or_clean_of_replaced {clean : Value → Except Error α} {before now : α}
    (replaced : Replaced changes field clean before now) :
    now = before ∨ ∃ value, clean value = .ok now := by
  cases replaced with
  | kept isMissing => exact .inl rfl
  | given isGiven isClean => exact .inr ⟨_, isClean⟩

theorem exists_change_of_map {clean : Value → Except Error α} {write : α → β} {found : Option β}
    (changed : change changes field (fun value => (clean value).map write) = .ok found) :
    ∃ given, change changes field clean = .ok given ∧ given.map write = found := by
  unfold change at changed ⊢
  split at changed
  · cases changed
    exact ⟨none, rfl, rfl⟩
  · obtain ⟨written, isWritten, rfl⟩ := Except.map_eq_ok_iff.1 changed
    obtain ⟨now, isClean, rfl⟩ := Except.map_eq_ok_iff.1 isWritten
    exact ⟨some now, Except.map_eq_ok_iff.2 ⟨now, isClean, rfl⟩, rfl⟩

theorem knownFields_of_mem {known : List String} (areKnown : ∀ given ∈ changes, given.1 ∈ known) :
    knownFields changes known = .ok () := by
  have none : ((changes.map Prod.fst).filter fun name => !known.contains name) = [] := by
    refine List.filter_eq_nil_iff.2 fun name member => ?_
    obtain ⟨given, isGiven, rfl⟩ := List.mem_map.1 member
    simpa using areKnown given isGiven
  unfold knownFields
  rw [none]
  dsimp only
  rw [List.mergeSort_nil]

end Cleaning

/-! ## Telling -/

namespace Service

variable {α β : Type} {action : Service α} {next : α → Service β} {system after : System}

/-- A service tells of a duplicate when it fails with an error of this class. -/
def TellsDuplicate (action : Service α) (system : System) : Prop :=
  ∃ error, (exec action system).1 = .error error ∧ error.label = "DuplicateError"

theorem tellsDuplicate_of_error {error : Error} (fails : exec action system = (.error error, after)) :
    TellsDuplicate action system ↔ error.label = "DuplicateError" := by
  unfold TellsDuplicate
  rw [fails]
  exact ⟨fun ⟨_, same, told⟩ => Except.error.inj same ▸ told, fun told => ⟨error, rfl, told⟩⟩

theorem not_tellsDuplicate_of_ok {value : α} (succeeds : exec action system = (.ok value, after)) :
    ¬ TellsDuplicate action system := by
  rintro ⟨error, fails, _⟩
  rw [succeeds] at fails
  cases fails

theorem tellsDuplicate_bind_of_ok {value : α} (succeeds : exec action system = (.ok value, after)) :
    TellsDuplicate (action >>= next) system ↔ TellsDuplicate (next value) after := by
  unfold TellsDuplicate
  rw [exec_bind_of_ok succeeds]

theorem tellsDuplicate_bind_of_error {error : Error}
    (fails : exec action system = (.error error, after)) :
    TellsDuplicate (action >>= next) system ↔ error.label = "DuplicateError" :=
  tellsDuplicate_of_error (exec_bind_of_error fails)

/-- What follows does not tell of a duplicate where it never does by itself. -/
theorem tellsDuplicate_bind (silent : ∀ value after, ¬ TellsDuplicate (next value) after) :
    TellsDuplicate (action >>= next) system ↔ TellsDuplicate action system := by
  rcases executed : exec action system with ⟨error | value, after⟩
  · rw [tellsDuplicate_bind_of_error executed, tellsDuplicate_of_error executed]
  · rw [tellsDuplicate_bind_of_ok executed]
    exact iff_of_false (silent value after) (not_tellsDuplicate_of_ok executed)

theorem label_of_toText {value : Value} {error : Error} (fails : value.toText = .error error) :
    error.label = "ValueError" := by
  unfold Value.toText at fails
  split at fails
  · cases fails
  · cases fails
    rfl

/-- To log a change and to answer with it is no reason to tell of a duplicate. -/
theorem not_tellsDuplicate_noteChange (message : String) (organization actor : Value) (answer : α) :
    ¬ TellsDuplicate (do
      noteChange message organization actor
      return answer) system := by
  rw [tellsDuplicate_bind fun _ _ => not_tellsDuplicate_of_ok (exec_pure _ _)]
  unfold noteChange
  cases isWritten : actor.toText with
  | error error =>
      rw [tellsDuplicate_bind_of_error (exec_orFail _ _), label_of_toText isWritten]
      decide
  | ok written =>
      rw [tellsDuplicate_bind_of_ok (exec_orFail _ _)]
      exact not_tellsDuplicate_of_ok (exec_note _ _ _ _)

end Service

/-- To be asked for texts that it cannot hold is no reason for tables to tell of a duplicate. -/
theorem Backend.label_of_asks {backend : Backend} {first second : String} {error : Error}
    (fails : backend.asks [.str first, .str second] = .error error) :
    error.label ≠ "DuplicateError" := by
  cases backend with
  | memory => cases fails
  | tables =>
      have unwritten : Column.encoded [.str first, .str second] = .error error := fails
      unfold Column.encoded at unwritten
      split at unwritten
      · cases unwritten
        decide
      · cases unwritten

/-- Only tables have to write what they are asked for. -/
theorem Backend.asks_eq_ok_iff {backend : Backend} {first second : String}
    (firstWhole : Text.holdsHalf first = false) :
    backend.asks [.str first, .str second] = .ok () ↔
      (backend = .tables → Text.holdsHalf second = false) := by
  cases backend with
  | memory => exact iff_of_true rfl nofun
  | tables =>
      refine Column.encoded_eq_ok_iff.trans ?_
      simp [firstWhole]

/-! ## Policies -/

theorem PolicyStore.policyByKey?_str_iff {store : PolicyStore} {key organization : String} :
    (store.policyByKey? (.str key) (.str organization)).isSome = true ↔
      ∃ other ∈ store.policies.values, other.key = key ∧ other.organization = organization := by
  unfold PolicyStore.policyByKey?
  rw [List.find?_isSome]
  simp only [Bool.and_eq_true, Backend.matchesText_str, decide_eq_true_eq]

theorem PolicyStore.of_policyByKey?_str {store : PolicyStore} {key organization : String}
    {policy : Policy} (found : store.policyByKey? (.str key) (.str organization) = some policy) :
    policy ∈ store.policies.values ∧ policy.key = key ∧ policy.organization = organization := by
  have matched := List.find?_some found
  rw [Bool.and_eq_true, Backend.matchesText_str, Backend.matchesText_str] at matched
  exact ⟨List.mem_of_find?_eq_some found, of_decide_eq_true matched.1, of_decide_eq_true matched.2⟩

namespace PolicyAdministration

open Service

variable {catalog : RuleCatalog} {fixed : Keyed String PolicyChain} {system : System}
  {organization id actor : Value} {changes : Bindings} {policy updated : Policy}

/-- Saving a policy and logging it tells of a duplicate when another policy of the organization has the key,
or when tables refuse it. -/
theorem tellsDuplicate_save [Host] (orderly : system.Orderly catalog fixed) {record : Policy}
    {message : String} (isMade : record = policy) (fits : system.policies.backend = .tables → policy.Fits)
    (keyWhole : system.policies.backend = .tables → Text.holdsHalf policy.key = false)
    (askable : system.policies.backend = .tables → Text.holdsHalf policy.organization = false) :
    TellsDuplicate (do
        save record
        noteChange message organization actor
        return record) system ↔
      (∃ id, system.policies.backend.identifier (.str policy.id) = .ok (some id) ∧
        system.policies.hasClash { policy with id } = true) ∨
      system.policies.backend.Refuses policy.organization policy.id
        [.str policy.name, policy.description] := by
  rw [isMade, tellsDuplicate_bind fun _ _ => not_tellsDuplicate_noteChange _ _ _ _,
    ← PolicyStore.savePolicy_fails_iff fits keyWhole askable]
  obtain ⟨after, executed, _⟩ := exec_savePolicy orderly policy
  unfold save TellsDuplicate
  rw [exec_outcome_bind executed]
  cases saved : system.policies.savePolicy policy with
  | ok next => exact ⟨fun ⟨_, fails, _⟩ => (nomatch fails), fun ⟨_, fails⟩ => (nomatch fails)⟩
  | error error =>
      have isValueError := PolicyStore.isValueError_of_savePolicy fits saved
      dsimp only [Except.map]
      rw [if_pos isValueError]
      exact ⟨fun _ => ⟨error, rfl⟩, fun _ => ⟨_, rfl, rfl⟩⟩

/-- A policy with clean fields is of the kinds of the columns. -/
theorem IsCreated.fits {name key description active : Value}
    (isCreated : IsCreated organization name key description active policy) : policy.Fits := by
  obtain ⟨described, _, isDescription⟩ := Except.map_eq_ok_iff.1 isCreated.description
  obtain ⟨flag, _, isFlag⟩ := Except.map_eq_ok_iff.1 isCreated.active
  refine ⟨?_, flag, isFlag.symm⟩
  rw [← isDescription]
  exact Column.text_str _

/-- Creating a policy tells of a duplicate when a policy of the organization has the key, or when tables
refuse the new one. -/
theorem tellsDuplicate_create [Host] (orderly : system.Orderly catalog fixed)
    (faithful : system.policies.Faithful) {name key description active : Value}
    (isCreated : IsCreated organization name key description active policy)
    (isDue : policy.id = system.ids.spell (system.ids.drawn + 1)) :
    TellsDuplicate (create organization name key description active actor) system ↔
      (∃ other ∈ system.policies.policies.values,
        other.key = policy.key ∧ other.organization = policy.organization) ∨
      system.policies.backend.Refuses policy.organization policy.id
        [.str policy.name, policy.description] := by
  obtain ⟨described, isDescribed, isDescription⟩ := Except.map_eq_ok_iff.1 isCreated.description
  obtain ⟨flag, isFlag, isActive⟩ := Except.map_eq_ok_iff.1 isCreated.active
  have keyWhole := Cleaning.holdsHalf_of_key isCreated.key
  unfold create
  rw [isCreated.organization, tellsDuplicate_bind_of_ok (exec_orFail _ _), isCreated.name,
    tellsDuplicate_bind_of_ok (exec_orFail _ _), isCreated.key,
    tellsDuplicate_bind_of_ok (exec_orFail _ _), isDescribed,
    tellsDuplicate_bind_of_ok (exec_orFail _ _), isFlag,
    tellsDuplicate_bind_of_ok (exec_orFail _ _)]
  have looking := exec_policyByKey? orderly.unplanned (.str policy.key) (.str policy.organization)
  cases asked : system.policies.backend.asks [.str policy.key, .str policy.organization] with
  | ok done =>
    have askable := (Backend.asks_eq_ok_iff keyWhole).1 asked
    rw [asked] at looking
    rw [tellsDuplicate_bind_of_ok looking]
    split
    · rename_i isTaken
      rw [tellsDuplicate_bind_of_error (exec_throw _ _)]
      exact iff_of_true rfl (.inl (PolicyStore.policyByKey?_str_iff.1 isTaken))
    · rename_i notTaken
      dsimp only
      rw [tellsDuplicate_bind_of_ok (exec_newId _)]
      have laterOrderly := System.ofStores_orderly.others system system.loader system.accessLog
        system.clock { system.ids with drawn := system.ids.drawn + 1 } system.counted system.journal
        orderly
      rw [tellsDuplicate_save laterOrderly ?made (fun _ => isCreated.fits)
        (fun _ => keyWhole) askable]
      case made => rw [← isDue, isDescription, isActive]
      refine or_congr_left ?_
      have noOther := mt PolicyStore.policyByKey?_str_iff.2 notTaken
      refine iff_of_false (fun ⟨id, _, clashes⟩ => noOther ?_) noOther
      obtain ⟨other, member, _, sameKey, isOwn⟩ := PolicyStore.hasClash_iff.1 clashes
      exact ⟨other, member, sameKey, isOwn⟩
  | error error =>
    rw [asked] at looking
    rw [tellsDuplicate_bind_of_error looking]
    refine iff_of_false (Backend.label_of_asks asked) ?_
    have unaskable : ¬ (system.policies.backend = .tables →
        Text.holdsHalf policy.organization = false) := fun askable => by
      rw [(Backend.asks_eq_ok_iff keyWhole).2 askable] at asked
      cases asked
    rintro (⟨other, member, _, isOwn⟩ | refuses)
    · exact unaskable fun isTables => isOwn ▸ (faithful.fits member isTables).2.1
    · exact unaskable fun _ => refuses.askable

/-- A new key of a policy that is found right is asked for unless it is the one that it has. -/
theorem exec_newKey (unplanned : system.plans = []) {key? : Option String}
    (askable : system.policies.backend = .tables → Text.holdsHalf policy.organization = false)
    (isKey : Cleaning.change changes "key" Cleaning.key = .ok key?) :
    (exec (newKey (.str policy.organization) policy changes) system = (.ok key?, system)) ∨
      ((∃ other ∈ system.policies.policies.values, other.id ≠ policy.id ∧
          other.key = key?.getD policy.key ∧ other.organization = policy.organization) ∧
        exec (newKey (.str policy.organization) policy changes) system =
          (.error (.duplicate .policy "key" (key?.getD policy.key) policy.organization), system)) := by
  unfold newKey
  unfold Cleaning.change at isKey
  cases isGiven : changes.lookup "key" with
  | none =>
      rw [isGiven] at isKey
      cases isKey
      exact .inl (exec_pure _ _)
  | some given =>
      rw [isGiven] at isKey
      obtain ⟨key, isClean, rfl⟩ := Except.map_eq_ok_iff.1 isKey
      dsimp only
      rw [isClean, exec_orFail_ok]
      by_cases same : key = policy.key
      · rw [if_neg (by simpa using same)]
        exact .inl (exec_pure _ _)
      · rw [if_pos (by simpa using same)]
        have looking := exec_policyByKey? unplanned (.str key) (.str policy.organization)
        rw [(Backend.asks_eq_ok_iff (Cleaning.holdsHalf_of_key isClean)).2 askable] at looking
        rw [exec_bind_of_ok looking]
        cases found : system.policies.policyByKey? (.str key) (.str policy.organization) with
        | none => exact .inl (exec_pure _ _)
        | some other =>
            dsimp only
            split
            · rename_i isOther
              obtain ⟨member, sameKey, isOwn⟩ := PolicyStore.of_policyByKey?_str found
              exact .inr ⟨⟨other, member, bne_iff_ne.1 isOther, sameKey, isOwn⟩,
                exec_bind_of_error (exec_throw _ _)⟩
            · exact .inl (exec_pure _ _)

/-- A policy that is found is a stored one of the organization. -/
theorem stored_of_find (unplanned : system.plans = [])
    (found : exec (find organization id) system = (.ok policy, system)) :
    policy ∈ system.policies.policies.values ∧ organization = .str policy.organization := by
  unfold find at found
  obtain ⟨looked?, isLooked, found⟩ := exec_read (exec_policy? unplanned id) found
  cases looked? with
  | none => cases found
  | some looked =>
      dsimp only at found
      split at found
      · rename_i isHere
        cases found
        obtain ⟨known, _, isThere⟩ := Except.bind_eq_ok_iff.1 isLooked
        obtain ⟨key, _, isStored⟩ := Option.bind_eq_some_iff.1 (Except.ok.inj isThere)
        exact ⟨Keyed.mem_values_of_get? isStored, (Value.equal_str_iff _ _).1 isHere⟩
      · cases found

/-- A policy with cleaned changes is of the kinds of the columns when the one that it was is. -/
theorem IsUpdated.fits (isUpdated : IsUpdated changes policy updated) (fits : policy.Fits) :
    updated.Fits := by
  constructor
  · rcases Cleaning.eq_or_clean_of_replaced isUpdated.description with same | ⟨_, isClean⟩
    · rw [same, fits.isText]
    · obtain ⟨_, _, isWritten⟩ := Except.map_eq_ok_iff.1 isClean
      rw [← isWritten]
      exact Column.text_str _
  · rcases Cleaning.eq_or_clean_of_replaced isUpdated.active with same | ⟨_, isClean⟩
    · rw [same]
      exact fits.isFlag
    · obtain ⟨flag, _, isWritten⟩ := Except.map_eq_ok_iff.1 isClean
      exact ⟨flag, isWritten.symm⟩


/-- Changing a policy tells of a duplicate when another policy of the organization has the key, or when
tables refuse what it is changed to. -/
theorem tellsDuplicate_update [Host] (orderly : system.Orderly catalog fixed)
    (faithful : system.policies.Faithful)
    (found : exec (find organization id) system = (.ok policy, system))
    (isUpdated : IsUpdated changes policy updated) :
    TellsDuplicate (update organization id actor changes) system ↔
      (∃ other ∈ system.policies.policies.values, other.id ≠ updated.id ∧
        other.key = updated.key ∧ other.organization = updated.organization) ∨
      system.policies.backend.Refuses updated.organization updated.id
        [.str updated.name, updated.description] := by
  obtain ⟨member, rfl⟩ := stored_of_find orderly.unplanned found
  have isFitting := fun isTables => isUpdated.fits (faithful.fits member isTables).1
  have askable := fun isTables => (faithful.fits member isTables).2.1
  have keyWhole : system.policies.backend = .tables → Text.holdsHalf updated.key = false := by
    intro isTables
    rcases Cleaning.eq_or_clean_of_replaced isUpdated.key with same | ⟨_, isClean⟩
    · rw [same]
      exact (faithful.fits member isTables).2.2
    · exact Cleaning.holdsHalf_of_key isClean
  obtain ⟨name?, isName, sameName⟩ := Cleaning.exists_change_of_replaced isUpdated.name
  obtain ⟨key?, isKey, sameKey⟩ := Cleaning.exists_change_of_replaced isUpdated.key
  obtain ⟨_, isWritten, sameDescription⟩ :=
    Cleaning.exists_change_of_replaced isUpdated.description
  obtain ⟨description?, isDescription, rfl⟩ := Cleaning.exists_change_of_map isWritten
  obtain ⟨_, isFlag, sameActive⟩ := Cleaning.exists_change_of_replaced isUpdated.active
  obtain ⟨active?, isActive, rfl⟩ := Cleaning.exists_change_of_map isFlag
  unfold update
  rw [Cleaning.knownFields_of_mem isUpdated.known, tellsDuplicate_bind_of_ok (exec_orFail _ _),
    tellsDuplicate_bind_of_ok found, isName, tellsDuplicate_bind_of_ok (exec_orFail _ _),
    isDescription, tellsDuplicate_bind_of_ok (exec_orFail _ _), isActive,
    tellsDuplicate_bind_of_ok (exec_orFail _ _)]
  rcases exec_newKey orderly.unplanned askable isKey with keying | ⟨taken, keying⟩
  · rw [tellsDuplicate_bind_of_ok keying]
    rw [tellsDuplicate_save orderly ?made isFitting keyWhole
      (isUpdated.organization ▸ askable)]
    case made =>
      rw [← isUpdated.id, ← isUpdated.organization, sameName, sameKey, sameActive]
      cases description? <;>
        exact congrArg (fun description => { updated with description }) sameDescription
    refine or_congr_left ?_
    rw [isUpdated.id, (orderly.policies.keptPolicies policy member).identifier]
    simp only [Except.ok.injEq, Option.some.injEq, exists_eq_left']
    exact PolicyStore.hasClash_iff
  · rw [tellsDuplicate_bind_of_error keying]
    refine iff_of_true rfl (.inl ?_)
    rwa [isUpdated.id, isUpdated.organization, ← sameKey]

end PolicyAdministration

/-! ## Roles -/

theorem RoleStore.roleBySlug?_str_iff {store : RoleStore} {slug organization : String} :
    (store.roleBySlug? (.str slug) (.str organization)).isSome = true ↔
      ∃ other ∈ store.roles.values, other.slug = slug ∧ other.organization = organization := by
  unfold RoleStore.roleBySlug?
  rw [List.find?_isSome]
  simp only [Bool.and_eq_true, Backend.matchesText_str, decide_eq_true_eq]

theorem RoleStore.of_roleBySlug?_str {store : RoleStore} {slug organization : String} {role : Role}
    (found : store.roleBySlug? (.str slug) (.str organization) = some role) :
    role ∈ store.roles.values ∧ role.slug = slug ∧ role.organization = organization := by
  have matched := List.find?_some found
  rw [Bool.and_eq_true, Backend.matchesText_str, Backend.matchesText_str] at matched
  exact ⟨List.mem_of_find?_eq_some found, of_decide_eq_true matched.1, of_decide_eq_true matched.2⟩

namespace RoleAdministration

open Service

variable {system : System} {organization id actor : Value} {changes : Bindings} {role updated : Role}

/-- Saving a role and logging it tells of a duplicate when another role of the organization has the slug, or
when tables refuse it. -/
theorem tellsDuplicate_save (unplanned : system.plans = []) {record : Role} {message : String}
    (isMade : record = role) (fits : system.roles.backend = .tables → role.Fits)
    (slugWhole : system.roles.backend = .tables → Text.holdsHalf role.slug = false)
    (askable : system.roles.backend = .tables → Text.holdsHalf role.organization = false) :
    TellsDuplicate (do
        save record
        noteChange message organization actor
        return record) system ↔
      (∃ id, system.roles.backend.identifier (.str role.id) = .ok (some id) ∧
        system.roles.hasClash { role with id } = true) ∨
      system.roles.backend.Refuses role.organization role.id
        (.str role.name :: role.description :: role.permissions.map .str) := by
  rw [isMade, tellsDuplicate_bind fun _ _ => not_tellsDuplicate_noteChange _ _ _ _,
    ← RoleStore.saveRole_fails_iff fits slugWhole askable]
  unfold save Service.saveRole TellsDuplicate
  rw [exec_outcome_bind (exec_performedValue unplanned _ _ _), exec_changeRoles]
  cases saved : system.roles.saveRole role with
  | ok next => exact ⟨fun ⟨_, fails, _⟩ => (nomatch fails), fun ⟨_, fails⟩ => (nomatch fails)⟩
  | error error =>
      have isValueError := RoleStore.isValueError_of_saveRole fits saved
      dsimp only [Except.map, answered]
      rw [if_pos isValueError]
      exact ⟨fun _ => ⟨error, rfl⟩, fun _ => ⟨_, rfl, rfl⟩⟩

/-- A role with clean fields is of the kinds of the columns. -/
theorem IsCreated.fits {name slug permissions description isDefault : Value}
    (isCreated : IsCreated system organization name slug permissions description isDefault role) :
    role.Fits := by
  obtain ⟨described, _, isDescription⟩ := Except.map_eq_ok_iff.1 isCreated.description
  obtain ⟨flag, _, isFlag⟩ := Except.map_eq_ok_iff.1 isCreated.isDefault
  refine ⟨?_, flag, isFlag.symm⟩
  rw [← isDescription]
  cases described <;> rfl

/-- A role that is found is a stored one of the organization. -/
theorem stored_of_find (unplanned : system.plans = [])
    (found : exec (find organization id) system = (.ok role, system)) :
    role ∈ system.roles.roles.values ∧ organization = .str role.organization := by
  rcases find_cases unplanned organization id with ⟨error, fails⟩ | ⟨other, member, ⟨_, isOwn⟩, isFound⟩
  · rw [fails] at found
    cases found
  · rw [isFound] at found
    cases found
    exact ⟨member, isOwn⟩

/-- Permissions that are found right leave a system as it was, but for its journal. -/
theorem exists_exec_permissionsOf (unplanned : system.plans = []) {slugs : Value}
    {granted : List String} (areGranted : (exec (permissionsOf slugs) system).1 = .ok granted) :
    ∃ journal, exec (permissionsOf slugs) system = (.ok granted, { system with journal }) := by
  have resolved : exec (permissionsOf slugs) system = (.ok granted, _) := Prod.ext areGranted rfl
  obtain ⟨journal, sameOthers⟩ := logged_of_exec resolved unplanned fun base =>
    keeps_permissionsOf base.ofUnplanned_onlyLogs slugs
  exact ⟨journal, sameOthers ▸ resolved⟩

/-- Creating a role tells of a duplicate when a role of the organization has the slug, or when tables refuse
the new one. -/
theorem tellsDuplicate_create (unplanned : system.plans = []) (faithful : system.roles.Faithful)
    {name slug permissions description isDefault : Value}
    (isCreated : IsCreated system organization name slug permissions description isDefault role)
    (isDue : role.id = system.ids.spell (system.ids.drawn + 1)) :
    TellsDuplicate (create organization name slug permissions description isDefault actor) system ↔
      (∃ other ∈ system.roles.roles.values,
        other.slug = role.slug ∧ other.organization = role.organization) ∨
      system.roles.backend.Refuses role.organization role.id
        (.str role.name :: role.description :: role.permissions.map .str) := by
  obtain ⟨described, isDescribed, isDescription⟩ := Except.map_eq_ok_iff.1 isCreated.description
  obtain ⟨flag, isFlag, isDefaulted⟩ := Except.map_eq_ok_iff.1 isCreated.isDefault
  have slugWhole := Cleaning.holdsHalf_of_slug isCreated.slug
  obtain ⟨journal, resolved⟩ := exists_exec_permissionsOf unplanned isCreated.permissions
  unfold create
  rw [isCreated.organization, tellsDuplicate_bind_of_ok (exec_orFail _ _), isCreated.name,
    tellsDuplicate_bind_of_ok (exec_orFail _ _), isCreated.slug,
    tellsDuplicate_bind_of_ok (exec_orFail _ _), isDescribed,
    tellsDuplicate_bind_of_ok (exec_orFail _ _), isFlag,
    tellsDuplicate_bind_of_ok (exec_orFail _ _), tellsDuplicate_bind_of_ok resolved]
  have looking := @exec_roleBySlug? { system with journal } unplanned (.str role.slug)
    (.str role.organization)
  cases asked : system.roles.backend.asks [.str role.slug, .str role.organization] with
  | ok done =>
    have askable := (Backend.asks_eq_ok_iff slugWhole).1 asked
    rw [asked] at looking
    rw [tellsDuplicate_bind_of_ok looking]
    split
    · rename_i isTaken
      rw [tellsDuplicate_bind_of_error (exec_throw _ _)]
      exact iff_of_true rfl (.inl (RoleStore.roleBySlug?_str_iff.1 isTaken))
    · rename_i notTaken
      dsimp only
      have laterUnplanned : { system with
          ids := { system.ids with drawn := system.ids.drawn + 1 }, journal }.plans = [] := unplanned
      rw [tellsDuplicate_bind_of_ok (exec_newId _)]
      rw [tellsDuplicate_save laterUnplanned ?made (fun _ => isCreated.fits) (fun _ => slugWhole)
        askable]
      case made => rw [← isDue, isDescription, isDefaulted]
      refine or_congr_left ?_
      have noOther := mt RoleStore.roleBySlug?_str_iff.2 notTaken
      refine iff_of_false (fun ⟨id, _, clashes⟩ => noOther ?_) noOther
      obtain ⟨other, member, _, sameSlug, isOwn⟩ := RoleStore.hasClash_iff.1 clashes
      exact ⟨other, member, sameSlug, isOwn⟩
  | error error =>
    rw [asked] at looking
    rw [tellsDuplicate_bind_of_error looking]
    refine iff_of_false (Backend.label_of_asks asked) ?_
    have unaskable : ¬ (system.roles.backend = .tables →
        Text.holdsHalf role.organization = false) := fun askable => by
      rw [(Backend.asks_eq_ok_iff slugWhole).2 askable] at asked
      cases asked
    rintro (⟨other, member, _, isOwn⟩ | refuses)
    · exact unaskable fun isTables => isOwn ▸ (faithful.fits member isTables).2.1
    · exact unaskable fun _ => refuses.askable

/-- A new slug of a role that is found right is asked for unless it is the one that it has. -/
theorem exec_newSlug (unplanned : system.plans = []) {slug? : Option String}
    (askable : system.roles.backend = .tables → Text.holdsHalf role.organization = false)
    (isSlug : Cleaning.change changes "slug" Cleaning.slug = .ok slug?) :
    (exec (newSlug (.str role.organization) role changes) system = (.ok slug?, system)) ∨
      ((∃ other ∈ system.roles.roles.values, other.id ≠ role.id ∧
          other.slug = slug?.getD role.slug ∧ other.organization = role.organization) ∧
        exec (newSlug (.str role.organization) role changes) system =
          (.error (.duplicate .role "slug" (slug?.getD role.slug) role.organization), system)) := by
  unfold newSlug
  unfold Cleaning.change at isSlug
  cases isGiven : changes.lookup "slug" with
  | none =>
      rw [isGiven] at isSlug
      cases isSlug
      exact .inl (exec_pure _ _)
  | some given =>
      rw [isGiven] at isSlug
      obtain ⟨slug, isClean, rfl⟩ := Except.map_eq_ok_iff.1 isSlug
      dsimp only
      rw [isClean, exec_orFail_ok]
      by_cases same : slug = role.slug
      · rw [if_neg (by simpa using same)]
        exact .inl (exec_pure _ _)
      · rw [if_pos (by simpa using same)]
        have looking := exec_roleBySlug? unplanned (.str slug) (.str role.organization)
        rw [(Backend.asks_eq_ok_iff (Cleaning.holdsHalf_of_slug isClean)).2 askable] at looking
        rw [exec_bind_of_ok looking]
        cases found : system.roles.roleBySlug? (.str slug) (.str role.organization) with
        | none => exact .inl (exec_pure _ _)
        | some other =>
            dsimp only
            split
            · rename_i isOther
              obtain ⟨member, sameSlug, isOwn⟩ := RoleStore.of_roleBySlug?_str found
              exact .inr ⟨⟨other, member, bne_iff_ne.1 isOther, sameSlug, isOwn⟩,
                exec_bind_of_error (exec_throw _ _)⟩
            · exact .inl (exec_pure _ _)

/-- A role with cleaned changes is of the kinds of the columns when the one that it was is. -/
theorem IsUpdated.fits (isUpdated : IsUpdated system changes role updated) (fits : role.Fits) :
    updated.Fits := by
  constructor
  · rcases Cleaning.eq_or_clean_of_replaced isUpdated.description with same | ⟨_, isClean⟩
    · rw [same, fits.isText]
    · obtain ⟨described, _, isWritten⟩ := Except.map_eq_ok_iff.1 isClean
      rw [← isWritten]
      cases described <;> rfl
  · rcases Cleaning.eq_or_clean_of_replaced isUpdated.isDefault with same | ⟨_, isClean⟩
    · rw [same]
      exact fits.isFlag
    · obtain ⟨flag, _, isWritten⟩ := Except.map_eq_ok_iff.1 isClean
      exact ⟨flag, isWritten.symm⟩

/-- Finding a new slug for a role and saving what the role is made with it tells of a duplicate when another
role of the organization has the slug, or when tables refuse what it is changed to. -/
theorem tellsDuplicate_newSlug (unplanned : system.plans = []) (sound : system.roles.Sound)
    (faithful : system.roles.Faithful) (member : role ∈ system.roles.roles.values)
    {slug? : Option String} (isSlug : Cleaning.change changes "slug" Cleaning.slug = .ok slug?)
    {make : Option String → Role} {message : String} (isMade : make slug? = updated)
    (sameSlug : slug?.getD role.slug = updated.slug) {started : System}
    (isUpdated : IsUpdated started changes role updated) :
    TellsDuplicate (do
        let slug ← newSlug (.str role.organization) role changes
        save (make slug)
        noteChange message (.str role.organization) actor
        return make slug) system ↔
      (∃ other ∈ system.roles.roles.values, other.id ≠ updated.id ∧
        other.slug = updated.slug ∧ other.organization = updated.organization) ∨
      system.roles.backend.Refuses updated.organization updated.id
        (.str updated.name :: updated.description :: updated.permissions.map .str) := by
  have isFitting := fun isTables => isUpdated.fits (faithful.fits member isTables).1
  have askable := fun isTables => (faithful.fits member isTables).2.1
  have slugWhole : system.roles.backend = .tables → Text.holdsHalf updated.slug = false := by
    intro isTables
    rcases Cleaning.eq_or_clean_of_replaced isUpdated.slug with same | ⟨_, isClean⟩
    · rw [same]
      exact (faithful.fits member isTables).2.2
    · exact Cleaning.holdsHalf_of_slug isClean
  rcases exec_newSlug unplanned askable isSlug with slugging | ⟨taken, slugging⟩
  · rw [tellsDuplicate_bind_of_ok slugging,
      tellsDuplicate_save unplanned isMade isFitting slugWhole (isUpdated.organization ▸ askable)]
    refine or_congr_left ?_
    rw [isUpdated.id, (sound.kept role member).identifier]
    simp only [Except.ok.injEq, Option.some.injEq, exists_eq_left']
    exact RoleStore.hasClash_iff
  · rw [tellsDuplicate_bind_of_error slugging]
    refine iff_of_true rfl (.inl ?_)
    rwa [isUpdated.id, isUpdated.organization, ← sameSlug]

/-- Changing a role tells of a duplicate when another role of the organization has the slug, or when tables
refuse what it is changed to. -/
theorem tellsDuplicate_update (unplanned : system.plans = []) (sound : system.roles.Sound)
    (faithful : system.roles.Faithful)
    (found : exec (find organization id) system = (.ok role, system))
    (isUpdated : IsUpdated system changes role updated) :
    TellsDuplicate (update organization id actor changes) system ↔
      (∃ other ∈ system.roles.roles.values, other.id ≠ updated.id ∧
        other.slug = updated.slug ∧ other.organization = updated.organization) ∨
      system.roles.backend.Refuses updated.organization updated.id
        (.str updated.name :: updated.description :: updated.permissions.map .str) := by
  obtain ⟨member, rfl⟩ := stored_of_find unplanned found
  obtain ⟨name?, isName, sameName⟩ := Cleaning.exists_change_of_replaced isUpdated.name
  obtain ⟨slug?, isSlug, sameSlug⟩ := Cleaning.exists_change_of_replaced isUpdated.slug
  obtain ⟨permissions?, areGranted, samePermissions⟩ :=
    Cleaning.exists_change_of_replaced isUpdated.permissions
  obtain ⟨_, isWritten, sameDescription⟩ :=
    Cleaning.exists_change_of_replaced isUpdated.description
  obtain ⟨description?, isDescription, rfl⟩ := Cleaning.exists_change_of_map isWritten
  obtain ⟨_, isFlag, sameDefault⟩ := Cleaning.exists_change_of_replaced isUpdated.isDefault
  obtain ⟨isDefault?, isDefault, rfl⟩ := Cleaning.exists_change_of_map isFlag
  have isMade : ({ role with
      name := name?.getD role.name
      slug := slug?.getD role.slug
      permissions := permissions?.getD role.permissions
      isDefault := (isDefault?.map Value.bool).getD role.isDefault
      description := (description?.map Value.ofOption).getD role.description } : Role) = updated := by
    rw [← isUpdated.id, ← isUpdated.organization, sameName, sameSlug, samePermissions, sameDefault,
      sameDescription]
  unfold update
  rw [Cleaning.knownFields_of_mem isUpdated.known, tellsDuplicate_bind_of_ok (exec_orFail _ _),
    tellsDuplicate_bind_of_ok found, isName, tellsDuplicate_bind_of_ok (exec_orFail _ _),
    isDescription, tellsDuplicate_bind_of_ok (exec_orFail _ _), isDefault,
    tellsDuplicate_bind_of_ok (exec_orFail _ _)]
  dsimp only
  unfold Cleaning.change at areGranted
  cases isGiven : changes.lookup "permissions" with
  | none =>
      rw [isGiven] at areGranted
      cases areGranted
      dsimp only
      rw [tellsDuplicate_bind_of_ok (exec_pure _ _)]
      exact tellsDuplicate_newSlug unplanned sound faithful member isSlug isMade sameSlug isUpdated
  | some slugs =>
      rw [isGiven] at areGranted
      obtain ⟨granted, isGranted, rfl⟩ := Except.map_eq_ok_iff.1 areGranted
      obtain ⟨journal, resolved⟩ := exists_exec_permissionsOf unplanned isGranted
      have granting := exec_map some (permissionsOf slugs) system
      rw [resolved] at granting
      dsimp only
      rw [tellsDuplicate_bind_of_ok granting]
      exact @tellsDuplicate_newSlug { system with journal } _ _ _ _ unplanned sound faithful member
        _ isSlug _ _ isMade sameSlug _ isUpdated

end RoleAdministration

/-! ## Systems in use -/

namespace System

open Service

/-- Of a duplicate is told at creating and at changing policies and roles with clean fields when another
record of the organization has the key or the slug, and when tables refuse the record. -/
structure TellsDuplicates [Host] (system : System) : Prop where
  createPolicy {organization name key description active actor : Value} {policy : Policy} :
    PolicyAdministration.IsCreated organization name key description active policy →
    policy.id = system.ids.spell (system.ids.drawn + 1) →
    (TellsDuplicate (PolicyAdministration.create organization name key description active actor)
        system ↔
      (∃ other ∈ system.policies.policies.values,
        other.key = policy.key ∧ other.organization = policy.organization) ∨
      system.policies.backend.Refuses policy.organization policy.id
        [.str policy.name, policy.description])
  updatePolicy {organization id actor : Value} {changes : Bindings} {policy updated : Policy} :
    exec (PolicyAdministration.find organization id) system = (.ok policy, system) →
    PolicyAdministration.IsUpdated changes policy updated →
    (TellsDuplicate (PolicyAdministration.update organization id actor changes) system ↔
      (∃ other ∈ system.policies.policies.values, other.id ≠ updated.id ∧
        other.key = updated.key ∧ other.organization = updated.organization) ∨
      system.policies.backend.Refuses updated.organization updated.id
        [.str updated.name, updated.description])
  createRole {organization name slug permissions description isDefault actor : Value} {role : Role} :
    RoleAdministration.IsCreated system organization name slug permissions description isDefault
      role →
    role.id = system.ids.spell (system.ids.drawn + 1) →
    (TellsDuplicate (RoleAdministration.create organization name slug permissions description isDefault
        actor) system ↔
      (∃ other ∈ system.roles.roles.values,
        other.slug = role.slug ∧ other.organization = role.organization) ∨
      system.roles.backend.Refuses role.organization role.id
        (.str role.name :: role.description :: role.permissions.map .str))
  updateRole {organization id actor : Value} {changes : Bindings} {role updated : Role} :
    exec (RoleAdministration.find organization id) system = (.ok role, system) →
    RoleAdministration.IsUpdated system changes role updated →
    (TellsDuplicate (RoleAdministration.update organization id actor changes) system ↔
      (∃ other ∈ system.roles.roles.values, other.id ≠ updated.id ∧
        other.slug = updated.slug ∧ other.organization = updated.organization) ∨
      system.roles.backend.Refuses updated.organization updated.id
        (.str updated.name :: updated.description :: updated.permissions.map .str))

/-- Stores that keep what they hold as it is do so after any calls. -/
theorem Reaches.faithful [Host] {parts : Parts} {start system : System} (roles : parts.roles.Accepted)
    (policies : parts.policies.Accepted) (rolesFaithful : parts.roles.Faithful)
    (policiesFaithful : parts.policies.Faithful) (assembled : assemble parts = .ok start)
    (ids : IdSource) (reaches : Reaches { start with ids } system) :
    system.Storing (fun store => store.Sound ∧ store.Faithful)
      fun store => store.Sound ∧ store.Faithful := by
  have roleSteps (store next : RoleStore) (holds : store.Sound ∧ store.Faithful)
      (step : store.Step next) : next.Sound ∧ next.Faithful :=
    ⟨holds.1.step step, holds.2.step holds.1 step⟩
  have policySteps (store next : PolicyStore) (holds : store.Sound ∧ store.Faithful)
      (step : store.Step next) : next.Sound ∧ next.Faithful :=
    ⟨holds.1.step step, holds.2.step holds.1 step⟩
  have started := @Storing.of_assemble _ (fun store => store.Sound ∧ store.Faithful) roleSteps _ _ _
    ⟨roles.sound, rolesFaithful⟩ ⟨policies.sound, policiesFaithful⟩ assembled
  exact reaches.keeps (Storing.lasting roleSteps policySteps)
    ⟨started.unplanned, started.closed, started.roles, started.policies⟩

/-- In a system in use, of a duplicate is told if and only if there is one, but for records that tables
refuse. -/
theorem duplicates_are_told [Host] {parts : Parts} {start system : System} (roles : parts.roles.Accepted)
    (policies : parts.policies.Accepted) (rolesFaithful : parts.roles.Faithful)
    (policiesFaithful : parts.policies.Faithful) (assembled : assemble parts = .ok start)
    (ids : IdSource) (reaches : Reaches { start with ids } system) : system.TellsDuplicates := by
  obtain ⟨catalog, fixed, orderly⟩ := reaches.exists_orderly roles policies assembled ids
  have storing := reaches.faithful roles policies rolesFaithful policiesFaithful assembled ids
  obtain ⟨roleSound, rolesFaithful⟩ := storing.roles
  have policiesFaithful := storing.policies.2
  exact ⟨PolicyAdministration.tellsDuplicate_create orderly policiesFaithful,
    PolicyAdministration.tellsDuplicate_update orderly policiesFaithful,
    RoleAdministration.tellsDuplicate_create storing.unplanned rolesFaithful,
    RoleAdministration.tellsDuplicate_update storing.unplanned roleSound rolesFaithful⟩

open AdminRequest in
open scoped Host in
/-- The key of the policy is taken. Another key is not, but the second identifier is no universally unique
one, and the tables refuse the policy. -/
theorem duplicates_are_told_updates : ∃ start, assemble partsOfUpdates = .ok start ∧
    TellsDuplicate (PolicyAdministration.create (.str "acme") (.str "Again") (.str "customer:update")
      .null (.bool true) .null) { start with ids := mixedIds } ∧
    TellsDuplicate (PolicyAdministration.create (.str "acme") (.str "Reads") (.str "customer:read")
      .null (.bool true) .null) { start with ids := { mixedIds with drawn := 1 } } := by
  obtain ⟨start, registry, counted, journal, assembled, isStart⟩ := exists_systemOfUpdates
  have isKept : partsOfUpdates.policies.kept updatesOfCustomers = .ok updatesOfCustomers :=
    PolicyStore.kept_eq_self _ (Column.text_str _) rfl rfl
  have told (ids : IdSource) : TellsDuplicates { start with ids } :=
    duplicates_are_told accepted_partsOfUpdates.1 accepted_partsOfUpdates.2 (List.forall_mem_nil _)
      (List.forall_mem_singleton.2 isKept) assembled ids .refl
  have samePolicies (ids : IdSource) : { start with ids }.policies = partsOfUpdates.policies :=
    congrArg System.policies isStart
  have again : PolicyAdministration.IsCreated (.str "acme") (.str "Again") (.str "customer:update")
      .null (.bool true) ⟨mixedIds.spell 1, "customer:update", "Again", "acme",
        .str (Policy.defaultDescription "customer:update"), .bool true⟩ :=
    ⟨rfl, rfl, rfl, rfl, rfl⟩
  have reads : PolicyAdministration.IsCreated (.str "acme") (.str "Reads") (.str "customer:read")
      .null (.bool true) ⟨mixedIds.spell 2, "customer:read", "Reads", "acme",
        .str (Policy.defaultDescription "customer:read"), .bool true⟩ :=
    ⟨rfl, rfl, rfl, rfl, rfl⟩
  refine ⟨start, assembled, ((told _).createPolicy again rfl).2 (.inl ?_),
    ((told _).createPolicy reads rfl).2 (.inr ?_)⟩
  · rw [samePolicies]
    exact ⟨updatesOfCustomers, .head _, rfl, rfl⟩
  · rw [samePolicies]
    exact ⟨rfl, by decide, .inl rfl⟩

end System

end Authorization
