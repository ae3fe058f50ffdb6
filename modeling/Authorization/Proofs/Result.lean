import Mathlib.Data.List.Forall2

/-!
# Results that may fail

When a chain of steps that may fail succeeds, every step has, and conversely.
-/

/-- Every item of a list has one in a list that is related to it item by item. -/
theorem List.Forall₂.exists_of_mem {α β : Type} {related : α → β → Prop} {items : List α}
    {others : List β} (each : List.Forall₂ related items others) {item : α} (member : item ∈ items) :
    ∃ other ∈ others, related item other := by
  induction each with
  | nil => cases member
  | cons here _ inductionHypothesis =>
      rcases List.mem_cons.1 member with rfl | member
      · exact ⟨_, .head _, here⟩
      · obtain ⟨other, otherMember, isRelated⟩ := inductionHypothesis member
        exact ⟨other, .tail _ otherMember, isRelated⟩

/-- Where every item of a list is related to something, the list is related to one item by item. -/
theorem List.exists_forall₂ {α β : Type} {related : α → β → Prop} {items : List α}
    (each : ∀ item ∈ items, ∃ other, related item other) :
    ∃ others, List.Forall₂ related items others := by
  induction items with
  | nil => exact ⟨[], .nil⟩
  | cons item rest inductionHypothesis =>
      obtain ⟨⟨first, isRelated⟩, each⟩ := List.forall_mem_cons.1 each
      obtain ⟨others, areRelated⟩ := inductionHypothesis each
      exact ⟨first :: others, .cons isRelated areRelated⟩

namespace Except

variable {ε α β α' β' : Type}

theorem bind_eq_ok_iff {result : Except ε α} {next : α → Except ε β} {final : β} :
    (result >>= next) = .ok final ↔ ∃ value, result = .ok value ∧ next value = .ok final := by
  cases result with
  | error error => simp [bind, Except.bind]
  | ok value => simp [bind, Except.bind]

theorem bind_eq_error_iff {result : Except ε α} {next : α → Except ε β} {error : ε} :
    (result >>= next) = .error error ↔
      result = .error error ∨ ∃ value, result = .ok value ∧ next value = .error error := by
  cases result with
  | error error => simp [bind, Except.bind]
  | ok value => simp [bind, Except.bind]

theorem map_eq_ok_iff {result : Except ε α} {write : α → β} {final : β} :
    result.map write = .ok final ↔ ∃ value, result = .ok value ∧ write value = final := by
  cases result <;> simp [Except.map]

theorem map_eq_error_iff {result : Except ε α} {write : α → β} {error : ε} :
    result.map write = .error error ↔ result = .error error := by
  cases result <;> simp [Except.map]

theorem ok_bind (value : α) (next : α → Except ε β) : (Except.ok value >>= next) = next value :=
  rfl

theorem error_bind (error : ε) (next : α → Except ε β) :
    ((Except.error error : Except ε α) >>= next) = .error error :=
  rfl

/-- Two results are related when they fail with one error or succeed with related values. -/
inductive Related (relation : α → β → Prop) : Except ε α → Except ε β → Prop
  | error (error : ε) : Related relation (.error error) (.error error)
  | ok {left : α} {right : β} (related : relation left right) :
      Related relation (.ok left) (.ok right)

theorem Related.same (result : Except ε α) : Related Eq result result := by
  cases result with
  | error error => exact .error error
  | ok value => exact .ok rfl

theorem Related.eq {result other : Except ε α} (related : Related Eq result other) :
    other = result := by
  cases related with
  | error error => rfl
  | ok same => rw [same]

theorem Related.mono {relation weaker : α → β → Prop} {left : Except ε α} {right : Except ε β}
    (related : Related relation left right)
    (implies : ∀ {value other}, relation value other → weaker value other) :
    Related weaker left right := by
  cases related with
  | error error => exact .error error
  | ok related => exact .ok (implies related)

theorem Related.of_map_eq {γ : Type} {write : α → γ} {result other : Except ε α}
    (same : result.map write = other.map write) :
    Related (fun value other => write value = write other) result other := by
  cases result with
  | error error =>
      cases other with
      | error other => exact Except.error.inj same ▸ .error error
      | ok value => cases same
  | ok value =>
      cases other with
      | error other => cases same
      | ok other => exact .ok (Except.ok.inj same)

theorem Related.bind {relation : α → β → Prop} {final : α' → β' → Prop} {left : Except ε α}
    {right : Except ε β} {leftNext : α → Except ε α'} {rightNext : β → Except ε β'}
    (related : Related relation left right)
    (next : ∀ value other, left = .ok value → right = .ok other → relation value other →
      Related final (leftNext value) (rightNext other)) :
    Related final (left >>= leftNext) (right >>= rightNext) := by
  cases related with
  | error error => exact .error error
  | ok related => exact next _ _ rfl rfl related

theorem Related.map {relation : α → β → Prop} {final : α' → β' → Prop} {left : Except ε α}
    {right : Except ε β} {leftWrite : α → α'} {rightWrite : β → β'}
    (related : Related relation left right)
    (write : ∀ {value other}, relation value other → final (leftWrite value) (rightWrite other)) :
    Related final (left.map leftWrite) (right.map rightWrite) := by
  cases related with
  | error error => exact .error error
  | ok related => exact .ok (write related)

/-- A list of steps succeeds exactly when each step does. -/
theorem mapM_eq_ok_iff {step : α → Except ε β} {items : List α} {results : List β} :
    items.mapM step = .ok results ↔ List.Forall₂ (fun item result => step item = .ok result)
      items results := by
  induction items generalizing results with
  | nil =>
      rw [List.mapM_nil, List.forall₂_nil_left_iff]
      exact ⟨fun equality => (Except.ok.inj equality).symm, fun equality => equality ▸ rfl⟩
  | cons item rest inductionHypothesis =>
      rw [List.mapM_cons, bind_eq_ok_iff, List.forall₂_cons_left_iff]
      constructor
      · rintro ⟨first, firstOk, succeeds⟩
        obtain ⟨others, othersOk, equality⟩ := bind_eq_ok_iff.1 succeeds
        exact ⟨first, others, firstOk, inductionHypothesis.1 othersOk,
          (Except.ok.inj equality).symm⟩
      · rintro ⟨first, others, firstOk, othersOk, rfl⟩
        exact ⟨first, firstOk, bind_eq_ok_iff.2 ⟨others, inductionHypothesis.2 othersOk, rfl⟩⟩

theorem exists_mapM_eq_ok {step : α → Except ε β} {items : List α}
    (each : ∀ item ∈ items, ∃ result, step item = .ok result) :
    ∃ results, items.mapM step = .ok results :=
  (List.exists_forall₂ each).imp fun _ => mapM_eq_ok_iff.2

/-- A list of checks succeeds exactly when each check does. -/
theorem forM_eq_ok_iff {check : α → Except ε Unit} {items : List α} {done : Unit} :
    items.forM check = .ok done ↔ ∀ item ∈ items, check item = .ok () := by
  induction items with
  | nil => exact ⟨fun _ => List.forall_mem_nil _, fun _ => rfl⟩
  | cons item rest inductionHypothesis =>
      rw [List.forM, bind_eq_ok_iff, List.forall_mem_cons, inductionHypothesis]
      constructor
      · rintro ⟨⟨⟩, here, others⟩
        exact ⟨here, others⟩
      · rintro ⟨here, others⟩
        exact ⟨(), here, others⟩

/-- What a list of steps gives comes from its items. -/
theorem mem_of_mapM_eq_ok {step : α → Except ε β} {items : List α} {results : List β}
    (succeeds : items.mapM step = .ok results) (result : β) :
    result ∈ results ↔ ∃ item ∈ items, step item = .ok result := by
  have related := mapM_eq_ok_iff.1 succeeds
  clear succeeds
  induction related with
  | nil => simp
  | cons here _ inductionHypothesis =>
      rw [List.mem_cons, List.exists_mem_cons_iff, here, Except.ok.injEq, eq_comm]
      exact or_congr_right inductionHypothesis

end Except
