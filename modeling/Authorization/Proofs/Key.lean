import Authorization.Proofs.Text.Case
import Mathlib.Data.List.Basic
import Mathlib.Data.List.TakeWhile

/-!
# Keys and their parts

A key is cut at its first separator. When neither part holds a separator and neither is empty, the key
tells its parts, so that no two pairs have one key; every other key is malformed. The texts of slugs and
of the keys of policies are checked by patterns that let one line feed pass at the very end.
-/

namespace Authorization.Key

/-! ## Cutting and joining -/

/-- A text that can stand on either side of a key. -/
structure IsSide (text : String) : Prop where
  nonEmpty : text ≠ ""
  plain : separator ∉ text.toList

instance : DecidablePred IsSide := fun text =>
  decidable_of_iff (text ≠ "" ∧ separator ∉ text.toList)
    ⟨fun ⟨nonEmpty, plain⟩ => ⟨nonEmpty, plain⟩, fun isSide => ⟨isSide.nonEmpty, isSide.plain⟩⟩

variable {key resource action : String}

theorem toList_join (resource action : String) :
    (join resource action).toList = resource.toList ++ separator :: action.toList := by
  have colon : ":".toList = [separator] := rfl
  rw [join, String.toList_append, String.toList_append, colon, List.append_assoc,
    List.singleton_append]

theorem eq_of_cut? {key resource action : List Char} (cut : cut? key = some (resource, action)) :
    key = resource ++ separator :: action := by
  have whole := List.takeWhile_append_dropWhile (p := (· != separator)) (l := key)
  unfold cut? at cut
  rcases rest : key.dropWhile (· != separator) with _ | ⟨mark, after⟩
  · rw [rest] at cut
    cases cut
  · rw [rest] at cut whole
    have isMark : mark = separator := by
      have stops := List.head?_dropWhile_not (· != separator) key
      rw [rest] at stops
      simpa using stops
    cases cut
    rw [isMark] at whole
    exact whole.symm

theorem not_mem_of_cut? {key resource action : List Char} (cut : cut? key = some (resource, action)) :
    separator ∉ resource := by
  unfold cut? at cut
  split at cut
  · cases cut
  · cases cut
    exact fun member => absurd (List.mem_takeWhile_imp member) (by decide)

/-- A key is cut at its first separator. -/
theorem cut?_append {before : List Char} (plain : separator ∉ before) (after : List Char) :
    cut? (before ++ separator :: after) = some (before, after) := by
  have passes : ∀ c ∈ before, (c != separator) = true := by
    intro c member
    exact bne_iff_ne.2 fun isMark => plain (isMark ▸ member)
  rw [cut?, List.dropWhile_append_of_pos passes, List.takeWhile_append_of_pos passes]
  simp

/-- A key whose parts hold no separator is the key of no other pair. -/
theorem eq_of_append_eq {before after other rest : List Char} (plain : separator ∉ before)
    (plainAfter : separator ∉ after)
    (same : other ++ separator :: rest = before ++ separator :: after) :
    other = before ∧ rest = after := by
  rcases List.append_eq_append_iff.1 same with ⟨more, longer, same⟩ | ⟨more, longer, same⟩
  · cases more with
    | nil =>
        rw [List.append_nil] at longer
        exact ⟨longer.symm, (List.cons.inj same).2⟩
    | cons mark more =>
        rw [← (List.cons.inj same).1] at longer
        exact absurd (longer ▸ List.mem_append_right other (.head more)) plain
  · cases more with
    | nil =>
        rw [List.append_nil] at longer
        exact ⟨longer, (List.cons.inj same).2.symm⟩
    | cons mark more =>
        have isMember : separator ∈ after := by
          rw [(List.cons.inj same).2]
          exact List.mem_append_right more (.head rest)
        exact absurd isMember plainAfter

theorem eq_of_join_eq {other rest : String} (isResource : IsSide resource) (isAction : IsSide action)
    (same : join other rest = join resource action) : other = resource ∧ rest = action := by
  have sameText := congrArg String.toList same
  rw [toList_join, toList_join] at sameText
  obtain ⟨sameResource, sameAction⟩ := eq_of_append_eq isResource.plain isAction.plain sameText
  exact ⟨String.toList_inj.1 sameResource, String.toList_inj.1 sameAction⟩

/-! ## Splitting -/

theorem split?_join (isResource : IsSide resource) (isAction : IsSide action) :
    split? (join resource action) = some (resource, action) := by
  have isThere : resource.toList.isEmpty = false :=
    List.isEmpty_eq_false_iff.2 (mt String.toList_eq_nil_iff.1 isResource.nonEmpty)
  have isThereToo : action.toList.isEmpty = false :=
    List.isEmpty_eq_false_iff.2 (mt String.toList_eq_nil_iff.1 isAction.nonEmpty)
  have isPlain : action.toList.contains separator = false :=
    Bool.eq_false_iff.2 (mt List.contains_iff_mem.1 isAction.plain)
  rw [split?, toList_join, cut?_append isResource.plain, Option.bind_some]
  dsimp only
  rw [isThere, isThereToo, isPlain, String.ofList_toList, String.ofList_toList]
  rfl

theorem isSide_of_split? (parts : split? key = some (resource, action)) :
    join resource action = key ∧ IsSide resource ∧ IsSide action := by
  obtain ⟨⟨before, after⟩, cut, named⟩ := Option.bind_eq_some_iff.1 parts
  dsimp only at named
  split at named
  · cases named
  · rename_i isMalformed
    cases named
    rw [Bool.or_eq_true, Bool.or_eq_true, not_or, not_or, List.isEmpty_iff, List.isEmpty_iff,
      List.contains_iff_mem] at isMalformed
    obtain ⟨⟨isThere, isThereToo⟩, plain⟩ := isMalformed
    refine ⟨?_, ⟨mt String.ofList_eq_empty_iff.1 isThere, ?_⟩,
      ⟨mt String.ofList_eq_empty_iff.1 isThereToo, ?_⟩⟩
    · rw [← String.toList_inj, toList_join, String.toList_ofList, String.toList_ofList,
        eq_of_cut? cut]
    · rw [String.toList_ofList]
      exact not_mem_of_cut? cut
    · rw [String.toList_ofList]
      exact plain

/-- A key is split into the parts that it is joined of. -/
theorem split_eq_ok_iff : split key = .ok (resource, action) ↔
    join resource action = key ∧ IsSide resource ∧ IsSide action := by
  have isSplit : split key = .ok (resource, action) ↔ split? key = some (resource, action) := by
    unfold split
    cases split? key <;> simp
  rw [isSplit]
  constructor
  · exact isSide_of_split?
  · rintro ⟨rfl, isResource, isAction⟩
    exact split?_join isResource isAction

/-- A key that is not split is malformed. -/
theorem split_eq_error (apart : ¬ (IsSide resource ∧ IsSide action)) :
    split (join resource action) =
      .error (.inadmissible (.malformedKey (join resource action))) := by
  unfold split
  rcases isSplit : split? (join resource action) with _ | ⟨other, rest⟩
  · rfl
  · obtain ⟨same, isOther, isRest⟩ := isSide_of_split? isSplit
    obtain ⟨rfl, rfl⟩ := eq_of_join_eq isOther isRest same.symm
    exact absurd ⟨isOther, isRest⟩ apart

/-! ## Runs and slugs -/

/-- The characters of slugs. -/
def alphabet : List Char := "abcdefghijklmnopqrstuvwxyz0123456789_".toList

/-- A run of characters of slugs, and nothing else. -/
structure IsRun (text : String) : Prop where
  nonEmpty : text ≠ ""
  inAlphabet : ∀ c ∈ text.toList, c ∈ alphabet

theorem isRun_def (text : String) : IsRun text ↔ text ≠ "" ∧ ∀ c ∈ text.toList, c ∈ alphabet :=
  ⟨fun isRun => ⟨isRun.nonEmpty, isRun.inAlphabet⟩, fun given => ⟨given.1, given.2⟩⟩

instance : DecidablePred IsRun := fun text =>
  decidable_of_iff (text ≠ "" ∧ (text.toList.all alphabet.contains) = true) <| by
    rw [List.all_eq_true]
    simp only [List.contains_iff_mem]
    exact (isRun_def text).symm

theorem isSlugChar_ofNat : ∀ code ≤ 'z'.toNat,
    (isSlugChar (Char.ofNat code) = true ↔ Char.ofNat code ∈ alphabet) := by
  decide +kernel

theorem toNat_le_of_mem_alphabet : ∀ c ∈ alphabet, c.toNat ≤ 'z'.toNat := by
  have areSmall : (alphabet.all fun c => decide (c.toNat ≤ 'z'.toNat)) = true := by decide
  exact fun c member => of_decide_eq_true (List.all_eq_true.1 areSmall c member)

theorem isSlugChar_iff {c : Char} : isSlugChar c = true ↔ c ∈ alphabet := by
  by_cases isSmall : c.toNat ≤ 'z'.toNat
  · have isHere := isSlugChar_ofNat c.toNat isSmall
    rwa [Char.ofNat_toNat] at isHere
  · exact iff_of_false (mt toNat_le_of_isSlugChar isSmall) (mt (toNat_le_of_mem_alphabet c) isSmall)

theorem isRun_iff {text : String} : isRun text.toList = true ↔ IsRun text := by
  simp only [isRun, Bool.and_eq_true, Bool.not_eq_true', List.isEmpty_eq_false_iff, ne_eq,
    String.toList_eq_nil_iff, List.all_eq_true, isSlugChar_iff]
  exact (isRun_def text).symm

theorem IsRun.isSide {text : String} (isRun : IsRun text) : IsSide text := by
  have apart : separator ∉ alphabet := by decide
  exact ⟨isRun.nonEmpty, fun member => apart (isRun.inAlphabet _ member)⟩

theorem IsSide.concat {text other : String} (isSide : IsSide text)
    (plain : separator ∉ other.toList) : IsSide (text ++ other) := by
  refine ⟨fun isEmpty => isSide.nonEmpty (String.append_eq_empty_iff.1 isEmpty).1, ?_⟩
  rw [String.toList_append, List.mem_append, not_or]
  exact ⟨isSide.plain, plain⟩

theorem eq_withoutLineFeed (text : List Char) :
    text = withoutLineFeed text ∨ text = withoutLineFeed text ++ ['\n'] := by
  unfold withoutLineFeed
  split
  · rename_i isLast
    exact .inr (List.dropLast_append_getLast? '\n' isLast).symm
  · exact .inl rfl

theorem withoutLineFeed_append (before after : List Char) :
    withoutLineFeed (before ++ separator :: after) =
      before ++ separator :: withoutLineFeed after := by
  have isMark : separator ≠ '\n' := by decide
  unfold withoutLineFeed
  cases after with
  | nil => simp [isMark]
  | cons first rest =>
      rw [List.getLast?_append_cons, List.getLast?_cons_cons]
      split
      · rw [List.dropLast_append_cons, List.dropLast_cons_cons]
      · rfl

theorem withoutLineFeed_of_isRun {text : List Char} (isRun : isRun text = true) :
    withoutLineFeed text = text := by
  unfold withoutLineFeed
  split
  · rename_i isLast
    rw [Key.isRun, Bool.and_eq_true, List.all_eq_true] at isRun
    exact absurd (isRun.2 _ (List.mem_of_getLast? isLast)) (by decide)
  · rfl

theorem withoutLineFeed_concat (text : List Char) : withoutLineFeed (text ++ ['\n']) = text := by
  rw [withoutLineFeed, List.getLast?_concat, if_pos rfl, List.dropLast_concat]

/-- A slug is a run, after which one line feed may stand. -/
theorem isSlug_iff {text : String} :
    isSlug text = true ↔ ∃ run, IsRun run ∧ (text = run ∨ text = run ++ "\n") := by
  have lineFeed : "\n".toList = ['\n'] := rfl
  constructor
  · intro isSlug
    refine ⟨String.ofList (withoutLineFeed text.toList), ?_, ?_⟩
    · rw [← isRun_iff, String.toList_ofList]
      exact isSlug
    · rw [← String.toList_inj, ← String.toList_inj, String.toList_append, String.toList_ofList,
        lineFeed]
      exact eq_withoutLineFeed text.toList
  · rintro ⟨run, isRun, rfl | rfl⟩
    · have isPlain := isRun_iff.2 isRun
      rw [isSlug, withoutLineFeed_of_isRun isPlain]
      exact isPlain
    · rw [isSlug, String.toList_append, lineFeed, withoutLineFeed_concat]
      exact isRun_iff.2 isRun

theorem join_concat (resource action : String) (text : String) :
    join resource action ++ text = join resource (action ++ text) := by
  rw [join, join, String.append_assoc]

/-- The key of a policy is joined of two runs, after which one line feed may stand. -/
theorem isPolicyKey_iff {key : String} : isPolicyKey key = true ↔
    ∃ resource action, IsRun resource ∧ IsRun action ∧
      (key = join resource action ∨ key = join resource action ++ "\n") := by
  have lineFeed : "\n".toList = ['\n'] := rfl
  constructor
  · intro isKey
    obtain ⟨⟨before, after⟩, isCut, areRuns⟩ := (Option.any_eq_true _ _).1 isKey
    obtain ⟨isResource, isAction⟩ := Bool.and_eq_true_iff.1 areRuns
    have isWhole := eq_withoutLineFeed key.toList
    refine ⟨String.ofList before, String.ofList after, ?_, ?_, ?_⟩
    · rw [← isRun_iff, String.toList_ofList]
      exact isResource
    · rw [← isRun_iff, String.toList_ofList]
      exact isAction
    · rw [← String.toList_inj, ← String.toList_inj, String.toList_append, toList_join,
        String.toList_ofList, String.toList_ofList, lineFeed, ← eq_of_cut? isCut]
      exact isWhole
  · rintro ⟨resource, action, isResource, isAction, isKey⟩
    have isRead : withoutLineFeed key.toList = resource.toList ++ separator :: action.toList := by
      rcases isKey with rfl | rfl
      · rw [toList_join, withoutLineFeed_append, withoutLineFeed_of_isRun (isRun_iff.2 isAction)]
      · rw [String.toList_append, toList_join, lineFeed, withoutLineFeed_concat]
    rw [isPolicyKey, isRead, cut?_append isResource.isSide.plain, Option.any_some,
      Bool.and_eq_true]
    exact ⟨isRun_iff.2 isResource, isRun_iff.2 isAction⟩

end Authorization.Key
