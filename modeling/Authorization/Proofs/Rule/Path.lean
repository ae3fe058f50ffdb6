import Authorization.Rule.Comparison

/-!
# Paths compose

A path is cut at its separators and nowhere else. So the segments of two paths with a separator between
them are the segments of the one and then those of the other, and what lies at the end of such a path is
what the second one finds in what the first one has found. Nothing lies at the end of a path that leads
over a name with an underscore before it.
-/

namespace Authorization

namespace Path

/-! ## Segments -/

theorem cut_eq_splitOn (text : List Char) : cut text = text.splitOn separator := by
  induction text with
  | nil => rfl
  | cons c rest inductionHypothesis =>
      rw [cut, inductionHypothesis, List.splitOn_cons_eq_if_modifyHead]
      by_cases isSeparator : c = separator
      · rw [if_pos isSeparator, if_pos (beq_iff_eq.2 isSeparator)]
      · rw [if_neg isSeparator, if_neg (mt beq_iff_eq.1 isSeparator)]
        cases segments : rest.splitOn separator with
        | nil => exact absurd segments (List.splitOn_ne_nil _ _)
        | cons first more => rfl

theorem cut_append (text more : List Char) :
    cut (text ++ separator :: more) = cut text ++ cut more := by
  simp only [cut_eq_splitOn]
  exact List.splitOn_append_cons_self text more

theorem separator_notMem_of_mem_cut {text segment : List Char} (member : segment ∈ cut text) :
    separator ∉ segment := by
  induction text generalizing segment with
  | nil =>
      rw [List.mem_singleton.1 member]
      exact List.not_mem_nil
  | cons c rest inductionHypothesis =>
      rw [cut] at member
      split at member
      · obtain rfl | member := List.mem_cons.1 member
        · exact List.not_mem_nil
        · exact inductionHypothesis member
      · rename_i isOther
        have notHere : separator ∉ [c] := fun isHere => isOther (List.mem_singleton.1 isHere).symm
        split at member
        · rw [List.mem_singleton.1 member]
          exact notHere
        · rename_i first more segments
          obtain rfl | member := List.mem_cons.1 member
          · have inFirst := inductionHypothesis (segments ▸ List.mem_cons_self)
            exact fun isThere => (List.mem_cons.1 isThere).elim (fun same => isOther same.symm) inFirst
          · exact inductionHypothesis (segments ▸ List.mem_cons_of_mem _ member)

/-- The segments of two paths, one after the other. -/
theorem segments_append (path more : String) :
    segments (path ++ "." ++ more) = segments path ++ segments more := by
  have joined : (path ++ "." ++ more).toList = path.toList ++ separator :: more.toList := by
    simp [separator]
  rw [segments, joined, cut_append, List.map_append]
  rfl

/-- Texts are what a path is cut into: they hold no separators, and with separators between them they
are the path. -/
structure IsCut (path : String) (segments : List String) : Prop where
  nonempty : segments ≠ []
  apart : ∀ segment ∈ segments, separator ∉ segment.toList
  joined : ".".intercalate segments = path

/-- A path is cut in one way only. -/
theorem isCut_iff {path : String} {parts : List String} :
    IsCut path parts ↔ segments path = parts := by
  have written : String.ofList ∘ String.toList = id := funext fun _ => String.ofList_toList
  have read : String.toList ∘ String.ofList = id := funext fun _ => String.toList_ofList
  constructor
  · intro isCut
    have joined : path.toList = [separator].intercalate (parts.map String.toList) := by
      rw [← isCut.joined, String.toList_intercalate]
      rfl
    have apart : ∀ segment ∈ parts.map String.toList, separator ∉ segment :=
      List.forall_mem_map.2 isCut.apart
    have nonempty : parts.map String.toList ≠ [] := mt List.map_eq_nil_iff.1 isCut.nonempty
    rw [segments, cut_eq_splitOn, joined, List.splitOn_intercalate separator apart nonempty,
      List.map_map, written, List.map_id]
  · rintro rfl
    refine ⟨?_, List.forall_mem_map.2 fun segment member => ?_, String.toList_inj.1 ?_⟩
    · rw [segments, cut_eq_splitOn]
      exact mt List.map_eq_nil_iff.1 (List.splitOn_ne_nil _ _)
    · rw [String.toList_ofList]
      exact separator_notMem_of_mem_cut member
    · rw [String.toList_intercalate, segments, List.map_map, read, List.map_id, cut_eq_splitOn]
      exact List.intercalate_splitOn separator

theorem segments_of_notMem {name : String} (isName : separator ∉ name.toList) :
    segments name = [name] :=
  isCut_iff.1 ⟨List.cons_ne_nil _ _, List.forall_mem_singleton.2 isName,
    String.intercalate_singleton⟩

end Path

namespace Value

/-! ## Following a path -/

theorem follow_append (source : Value) (segments more : List String) :
    source.follow (segments ++ more) = (source.follow segments).bind (·.follow more) :=
  List.foldlM_append

theorem resolve_append (source : Value) (path more : String) :
    source.resolve (path ++ "." ++ more) = (source.resolve path).bind (·.resolve more) := by
  rw [resolve, Path.segments_append, follow_append]
  rfl

theorem shown?_of_isHidden (source : Value) {name : String} (hidden : isHidden name = true) :
    source.shown? name = none :=
  if_pos hidden

/-- Nothing is found behind a hidden name. -/
theorem follow_of_hidden (source : Value) {segments : List String} {name : String}
    (member : name ∈ segments) (hidden : isHidden name = true) : source.follow segments = none := by
  obtain ⟨before, after, rfl⟩ := List.append_of_mem member
  rw [follow_append]
  cases source.follow before with
  | none => rfl
  | some found =>
      have gone : found.follow (name :: after) = (found.shown? name).bind (·.follow after) := rfl
      rw [Option.bind_some, gone, shown?_of_isHidden found hidden]
      rfl

/-- Paths compose. A path without a separator is a name, and shows what the source shows under it; a path
that goes on after a separator is followed from what its first part has found, and from nothing where
that has found nothing. No path is found that has a segment with an underscore before it. -/
theorem paths_compose (source : Value) :
    (∀ name : String, Path.separator ∉ name.toList → source.resolve name = source.shown? name) ∧
      (∀ path more : String,
        source.resolve (path ++ "." ++ more) = match source.resolve path with
          | some found => found.resolve more
          | none => none) ∧
      ∀ (path : String) (segments : List String), Path.IsCut path segments →
        ∀ segment ∈ segments, segment.toList.head? = some '_' → source.resolve path = none := by
  refine ⟨fun name isName => ?_, fun path more => ?_, ?_⟩
  · rw [resolve, Path.segments_of_notMem isName]
    exact bind_pure _
  · rw [resolve_append]
    cases source.resolve path <;> rfl
  · intro path segments isCut segment member begins
    rw [resolve, Path.isCut_iff.1 isCut]
    exact follow_of_hidden source member (beq_iff_eq.2 begins)

/-- A house with an owner, as a resource of a rule. -/
def ownedHouse : Value :=
  .dict [(.str "owner", .dict [(.str "id", .str "u1"), (.str "_key", .str "k1")])]

theorem paths_compose_owner :
    ownedHouse.resolve "owner.id" = some (.str "u1") ∧ ownedHouse.resolve "owner._key" = none := by
  obtain ⟨ofName, compose, hidden⟩ := paths_compose ownedHouse
  have owner : ownedHouse.resolve "owner" =
      some (.dict [(.str "id", .str "u1"), (.str "_key", .str "k1")]) :=
    (ofName "owner" (by decide)).trans (by with_unfolding_all rfl)
  constructor
  · have joined : "owner" ++ "." ++ "id" = "owner.id" := by decide
    rw [← joined, compose, owner]
    with_unfolding_all rfl
  · exact hidden "owner._key" ["owner", "_key"] ⟨by decide, by decide, by decide⟩ "_key" (by decide)
      (by decide)

end Value

end Authorization
