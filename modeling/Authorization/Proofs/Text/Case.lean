import Authorization.Key
import Authorization.Text.Case

/-!
# Small letters at the end of a text

A trimmed text does not end with white space. In lower case it still does not end with a line feed, since
no other character becomes one and none vanishes. So a slug that is read from it is a plain run.
-/

namespace Authorization.Text

/-! ## Trimming -/

theorem trimBoth_sublist (drop : Char → Bool) (text : List Char) :
    (trimBoth drop text).Sublist text := by
  have fromRight := (List.dropWhile_sublist (l := (trimLeft drop text).reverse) drop).reverse
  rw [List.reverse_reverse] at fromRight
  exact fromRight.trans (List.dropWhile_sublist drop)

/-- What is dropped at the ends does not stand at the right end. -/
theorem not_drop_of_getLast?_trimBoth {drop : Char → Bool} {text : List Char} {c : Char}
    (isLast : (trimBoth drop text).getLast? = some c) : drop c = false := by
  rw [trimBoth, trimRight, List.getLast?_reverse] at isLast
  have notDropped := List.head?_dropWhile_not drop (trimLeft drop text).reverse
  rw [isLast] at notDropped
  exact notDropped

/-- A text that is whole is whole without the white space around it. -/
theorem holdsHalf_trim {text : String} (whole : holdsHalf text = false) :
    holdsHalf (trim text) = false := by
  rw [holdsHalf, List.any_eq_false] at whole ⊢
  intro c member
  rw [trim, String.toList_ofList] at member
  exact whole c ((trimBoth_sublist isBlank text.toList).subset member)

/-! ## Lower case -/

namespace Case

theorem ofNat_ne_lineFeed {code : Nat} (beyond : 10 < code) : Char.ofNat code ≠ '\n' := by
  intro isLineFeed
  by_cases isValid : code.isValidChar
  · have sameCode : (Char.ofNat code).toNat = code := by
      rw [Char.ofNat, dif_pos isValid]
      rfl
    rw [isLineFeed] at sameCode
    exact Nat.ne_of_gt beyond sameCode.symm
  · rw [Char.ofNat, dif_neg isValid] at isLineFeed
    have notSame : Char.ofNatAux 0 (by decide) ≠ '\n' := by decide
    exact notSame isLineFeed

/-- No run leads to a line feed. -/
theorem beyond_lowerRuns : ∀ run ∈ lowerRuns, 10 < (run.first : Int) + run.shift := by
  decide +kernel

theorem beyond_lowerExpansions : ∀ expansion ∈ lowerExpansions,
    expansion.2 ≠ [] ∧ ∀ code ∈ expansion.2, 10 < code := by
  decide

theorem shiftedBy_lowerRuns_ne {c : Char} (notHere : c ≠ '\n') : shiftedBy lowerRuns c ≠ '\n' := by
  unfold shiftedBy
  split
  · rename_i run found
    have beyond := beyond_lowerRuns run (List.mem_of_find?_eq_some found)
    have within := List.find?_some found
    simp only [Bool.and_eq_true, decide_eq_true_eq] at within
    refine ofNat_ne_lineFeed ?_
    omega
  · exact notHere

/-- In lower case a character becomes one or more, and none of them a line feed unless it is one. -/
theorem lowerChar_ne {c : Char} (notHere : c ≠ '\n') (before after : List Char) :
    lowerChar before c after ≠ [] ∧ '\n' ∉ lowerChar before c after := by
  unfold lowerChar mapped
  split
  · split <;> exact ⟨List.cons_ne_nil _ _, by decide⟩
  · split
    · rename_i codes found
      obtain ⟨earlier, later, isListed, _⟩ := List.lookup_eq_some_iff.1 found
      have member : (c.toNat, codes) ∈ lowerExpansions := by
        rw [isListed]
        exact List.mem_append_right _ (.head _)
      obtain ⟨nonEmpty, beyond⟩ := beyond_lowerExpansions (c.toNat, codes) member
      refine ⟨mt List.map_eq_nil_iff.1 nonEmpty, fun member => ?_⟩
      obtain ⟨code, codeMember, same⟩ := List.mem_map.1 member
      exact ofNat_ne_lineFeed (beyond code codeMember) same
    · refine ⟨List.cons_ne_nil _ _, fun member => ?_⟩
      exact shiftedBy_lowerRuns_ne notHere (List.mem_singleton.1 member).symm

theorem lowerFrom_ne_nil {text : List Char} (nonEmpty : text ≠ []) (before : List Char) :
    lowerFrom before text ≠ [] := by
  cases text with
  | nil => exact absurd rfl nonEmpty
  | cons c after =>
      have isThere : lowerChar before c after ≠ [] := by
        by_cases isHere : c = '\n'
        · rw [isHere]
          exact List.cons_ne_nil _ _
        · exact (lowerChar_ne isHere before after).1
      exact List.append_ne_nil_of_left_ne_nil isThere _

/-- A text that does not end with a line feed does not end with one in lower case. -/
theorem getLast?_lowerFrom {text : List Char} (notLast : text.getLast? ≠ some '\n')
    (before : List Char) : (lowerFrom before text).getLast? ≠ some '\n' := by
  induction text generalizing before with
  | nil => exact nofun
  | cons c after inductionHypothesis =>
      rw [lowerFrom]
      cases after with
      | nil =>
          have notHere : c ≠ '\n' := fun isHere => notLast (congrArg some isHere)
          rw [lowerFrom, List.append_nil]
          intro isLast
          exact (lowerChar_ne notHere before []).2 (List.mem_of_getLast? isLast)
      | cons next rest =>
          rw [List.getLast?_cons_cons] at notLast
          have isThere := lowerFrom_ne_nil (List.cons_ne_nil next rest) (c :: before)
          obtain ⟨last, isLast⟩ := Option.isSome_iff_exists.1 (List.getLast?_isSome.2 isThere)
          rw [List.getLast?_append, isLast, Option.some_or, ← isLast]
          exact inductionHypothesis notLast (c :: before)

end Case

/-- A trimmed text does not end with a line feed in lower case. -/
theorem getLast?_lower_trim (text : String) : (lower (trim text)).toList.getLast? ≠ some '\n' := by
  rw [lower, String.toList_ofList, trim, String.toList_ofList]
  refine Case.getLast?_lowerFrom (fun isLast => ?_) []
  have isBlank : isBlank '\n' = true := by decide
  rw [not_drop_of_getLast?_trimBoth isLast] at isBlank
  cases isBlank

end Authorization.Text

namespace Authorization.Key

/-- Only the line feed at its end keeps a slug from being a run. -/
theorem isRun_of_isSlug {text : String} (isSlug : isSlug text = true)
    (notLast : text.toList.getLast? ≠ some '\n') : isRun text.toList = true := by
  rw [Key.isSlug, withoutLineFeed, if_neg notLast] at isSlug
  exact isSlug

theorem toNat_le_of_isSlugChar {c : Char} (isSlugChar : isSlugChar c = true) : c.toNat ≤ 'z'.toNat := by
  simp only [Key.isSlugChar, Bool.or_eq_true, Bool.and_eq_true, decide_eq_true_eq, beq_iff_eq]
    at isSlugChar
  rcases isSlugChar with (⟨_, below⟩ | ⟨_, below⟩) | rfl
  · exact below
  · exact Nat.le_trans below (by decide)
  · decide

/-- A text of characters up to the last small letter is whole. -/
theorem holdsHalf_of_toNat_le {text : String} (small : ∀ c ∈ text.toList, c.toNat ≤ 'z'.toNat) :
    Text.holdsHalf text = false := by
  rw [Text.holdsHalf, List.any_eq_false]
  intro c member isHalf
  have isNone : c.toNat - Text.halfDistance = 0 :=
    Nat.sub_eq_zero_of_le (Nat.le_trans (small c member) (by decide))
  rw [Text.isHalf, isNone] at isHalf
  cases isHalf

theorem toNat_le_of_isRun {text : List Char} (isRun : isRun text = true) :
    ∀ c ∈ text, c.toNat ≤ 'z'.toNat := by
  rw [Key.isRun, Bool.and_eq_true, List.all_eq_true] at isRun
  exact fun c member => toNat_le_of_isSlugChar (isRun.2 c member)

/-- A run is whole. -/
theorem holdsHalf_of_isRun {text : String} (isRun : isRun text.toList = true) :
    Text.holdsHalf text = false :=
  holdsHalf_of_toNat_le (toNat_le_of_isRun isRun)

end Authorization.Key
