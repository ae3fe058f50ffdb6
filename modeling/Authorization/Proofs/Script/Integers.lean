import Authorization.Proofs.Script.Keeping

/-!
# The integers of a run

Where the names and the literals of a script hold integers of at most so many bits as results may have, so
do all values that a run binds, passes to a call, goes through or returns, whatever they consist of. Times
have a range of their own, from which their parts take their size.
-/

namespace Authorization

namespace Time

/-- A time of a date that there is, less than a day away from universal time. -/
def Instant.InRange (time : Instant) : Prop :=
  (0 ≤ time.micros ∧ time.micros < lastDay * microsPerDay) ∧
    ∀ offset ∈ time.offset, -microsPerDay < offset ∧ offset < microsPerDay

/-- A span of no more days than there may be. -/
def Duration.InRange (span : Duration) : Prop :=
  -maxDays ≤ span.days ∧ span.days ≤ maxDays

theorem foldl_ite_le {α : Type} {chosen : α → Prop} [DecidablePred chosen] {write : α → Nat}
    {bound : Nat} (items : List α) {first : Nat} (isFirst : first ≤ bound)
    (each : ∀ item ∈ items, write item ≤ bound) :
    items.foldl (fun found item => if chosen item then write item else found) first ≤ bound := by
  induction items generalizing first with
  | nil => exact isFirst
  | cons item rest inductionHypothesis =>
      obtain ⟨here, others⟩ := List.forall_mem_cons.1 each
      refine inductionHypothesis ?_ others
      dsimp only
      split
      · exact here
      · exact isFirst

theorem microsPerDay_eq : microsPerDay = 86400000000 :=
  rfl

theorem lastDay_eq : lastDay = 3652059 :=
  rfl

theorem Duration.inRange_iff (span : Duration) : span.InRange ↔
    -86399999913600000000 ≤ span.micros ∧ span.micros < 86400000000000000000 := by
  have most : maxDays = 999999999 := rfl
  rw [InRange, days, microsPerDay_eq, Int.fdiv_eq_ediv_of_nonneg _ (by decide), most]
  omega

namespace Instant

theorem InRange.bounds {time : Instant} (isTime : time.InRange) :
    0 ≤ time.micros ∧ time.micros < 315537897600000000 := by
  have bounds := isTime.1
  rwa [microsPerDay_eq, lastDay_eq] at bounds

theorem year_le (time : Instant) :
    time.calendar.year ≤ time.micros.toNat / 86400000000 / 366 + 30 := by
  have shape : time.calendar.year =
      ((List.range 30).map (time.micros.toNat / 86400000000 / 366 + 1 + ·)).foldl
        (fun found year =>
          if daysBeforeYear year ≤ time.micros.toNat / 86400000000 then year else found)
        (time.micros.toNat / 86400000000 / 366 + 1) := rfl
  rw [shape]
  refine foldl_ite_le _ (by omega) (List.forall_mem_map.2 fun more member => ?_)
  have := List.mem_range.1 member
  omega

theorem month_le (time : Instant) : time.calendar.month ≤ 12 := by
  have shape : time.calendar.month =
      (List.range 12).foldl
        (fun found m => if daysBeforeMonth time.calendar.year (m + 1) ≤
          time.micros.toNat / 86400000000 - daysBeforeYear time.calendar.year then m + 1 else found)
        1 := rfl
  rw [shape]
  refine foldl_ite_le _ (by omega) fun m member => ?_
  have := List.mem_range.1 member
  omega

end Instant

end Time

namespace Value

/-- An integer and the bounds of a range have at most so many bits as results may have, and a time is in
the range of times. -/
def Bounded : Value → Prop
  | .int n => Number.bitLength n ≤ maxIntBits
  | .range start stop step =>
    Number.bitLength start ≤ maxIntBits ∧ Number.bitLength stop ≤ maxIntBits ∧
      Number.bitLength step ≤ maxIntBits
  | .instant time => time.InRange
  | .duration span => span.InRange
  | _ => True

theorem bitLength_le_of_natAbs_le {n : Int} (small : n.natAbs ≤ 2 ^ 64) :
    Number.bitLength n ≤ maxIntBits := by
  rw [Number.bitLength_le_iff]
  exact Nat.lt_of_le_of_lt small (Nat.pow_lt_pow_right (by decide) (by decide))

theorem bounded_natCast {n : Nat} (small : n ≤ 2 ^ 64) : (int n).Bounded :=
  bitLength_le_of_natAbs_le small

/-- What lies between two integers has no more bits than the longer of them. -/
theorem bitLength_le_of_between {first last n : Int} (isFirst : Number.bitLength first ≤ maxIntBits)
    (isLast : Number.bitLength last ≤ maxIntBits) (lower : first ≤ n) (upper : n ≤ last) :
    Number.bitLength n ≤ maxIntBits := by
  rw [Number.bitLength_le_iff] at isFirst isLast ⊢
  omega

/-- Every member of a range lies between its bounds. -/
theorem between_of_lt_rangeLength {start stop step : Int} {i : Nat}
    (inRange : i < rangeLength start stop step) :
    (start ≤ start + step * i ∧ start + step * i ≤ stop) ∨
      (stop ≤ start + step * i ∧ start + step * i ≤ start) := by
  have scaled {gap stride : Int} (positive : 0 < stride) (inGap : i < (gap / stride + 1).toNat) :
      0 ≤ stride * i ∧ stride * i ≤ gap := by
    have inQuotient : (i : Int) ≤ gap / stride := by omega
    refine ⟨Int.mul_nonneg (Int.le_of_lt positive) (Int.natCast_nonneg i), ?_⟩
    rw [Int.mul_comm]
    exact (Int.le_ediv_iff_mul_le positive).1 inQuotient
  unfold rangeLength at inRange
  split at inRange
  · split at inRange
    · have := scaled ‹step > 0› inRange
      exact .inl (by omega)
    · exact absurd inRange (Nat.not_lt_zero i)
  · split at inRange
    · split at inRange
      · have backwards : 0 < -step := by omega
        have := scaled backwards inRange
        rw [Int.neg_mul] at this
        exact .inr (by omega)
      · exact absurd inRange (Nat.not_lt_zero i)
    · exact absurd inRange (Nat.not_lt_zero i)

theorem inRange_of_ofMicros? {micros : Int} {span : Time.Duration}
    (made : Time.Duration.ofMicros? micros = some span) : span.InRange := by
  unfold Time.Duration.ofMicros? at made
  split at made
  · cases made
    assumption
  · cases made

theorem inRange_of_addMicros? {time later : Time.Instant} {micros : Int} (isTime : time.InRange)
    (made : time.addMicros? micros = some later) : later.InRange := by
  unfold Time.Instant.addMicros? at made
  dsimp only at made
  split at made
  · cases made
    exact ⟨‹_›, isTime.2⟩
  · cases made

/-- The difference of two times is a span that there may be. -/
theorem inRange_of_since? {later earlier : Time.Instant} {span : Time.Duration}
    (isLater : later.InRange) (isEarlier : earlier.InRange)
    (made : later.since? earlier = some span) : span.InRange := by
  have first := isLater.bounds
  have second := isEarlier.bounds
  have firstOffset := isLater.2
  have secondOffset := isEarlier.2
  obtain ⟨micros, offset⟩ := later
  obtain ⟨others, otherOffset⟩ := earlier
  rw [Time.Duration.inRange_iff]
  cases offset with
  | none =>
      cases otherOffset with
      | none =>
          cases made
          dsimp only at first second ⊢
          omega
      | some other => cases made
  | some offset =>
      cases otherOffset with
      | none => cases made
      | some other =>
          cases made
          have isNear := firstOffset offset rfl
          have otherNear := secondOffset other rfl
          rw [Time.microsPerDay_eq] at isNear otherNear
          dsimp only at first second ⊢
          omega

theorem bounded_calendar {time : Time.Instant} (isTime : time.InRange) :
    (int time.calendar.year).Bounded ∧ (int time.calendar.month).Bounded ∧
      (int time.calendar.day).Bounded ∧ (int time.calendar.hour).Bounded ∧
      (int time.calendar.minute).Bounded ∧ (int time.calendar.second).Bounded ∧
      (int time.calendar.micro).Bounded := by
  have bounds := isTime.bounds
  have year := time.year_le
  have month := time.month_le
  have day : time.calendar.day = time.micros.toNat / 86400000000 -
      Time.daysBeforeYear time.calendar.year -
        Time.daysBeforeMonth time.calendar.year time.calendar.month + 1 := rfl
  have hour : time.calendar.hour = time.micros.toNat % 86400000000 / 3600000000 := rfl
  have minute : time.calendar.minute = time.micros.toNat % 86400000000 / 60000000 % 60 := rfl
  have second : time.calendar.second = time.micros.toNat % 86400000000 / 1000000 % 60 := rfl
  have micro : time.calendar.micro = time.micros.toNat % 86400000000 % 1000000 := rfl
  refine ⟨bounded_natCast ?_, bounded_natCast ?_, bounded_natCast ?_, bounded_natCast ?_,
    bounded_natCast ?_, bounded_natCast ?_, bounded_natCast ?_⟩
  all_goals omega

theorem bounded_span {span : Time.Duration} (isSpan : span.InRange) :
    (int span.days).Bounded ∧ (int span.seconds).Bounded ∧ (int span.microseconds).Bounded := by
  have isDays : -Time.maxDays ≤ span.days ∧ span.days ≤ Time.maxDays := isSpan
  have most : Time.maxDays = 999999999 := rfl
  have seconds : span.seconds = span.micros % 86400000000 / 1000000 := by
    rw [Time.Duration.seconds, Time.microsPerDay_eq, Int.fmod_eq_emod_of_nonneg _ (by decide)]
    rfl
  have microseconds : span.microseconds = span.micros % 1000000 := by
    rw [Time.Duration.microseconds, Time.microsPerSecond, Int.fmod_eq_emod_of_nonneg _ (by decide)]
  refine ⟨bitLength_le_of_natAbs_le ?_, bitLength_le_of_natAbs_le ?_, bitLength_le_of_natAbs_le ?_⟩
  all_goals omega

/-- The parts of a number are no greater than it, those of a time are small, and its extremes are
times. -/
theorem bounded_properties {value : Value} (bounded : value.Bounded) (leaf : value.parts = []) :
    ∀ field ∈ value.properties, field.2.Bounded := by
  have extremes : Time.Instant.first.InRange ∧ Time.Instant.last.InRange := by
    refine ⟨⟨?_, fun _ same => (nomatch same)⟩, ⟨?_, fun _ same => (nomatch same)⟩⟩
    · decide
    · decide
  have resolution : Time.Duration.InRange ⟨1⟩ := (Time.Duration.inRange_iff _).2 (by decide)
  have none {fields : List (String × Value)} (same : fields.map Prod.snd = []) : fields = [] :=
    List.map_eq_nil_iff.1 same
  cases value with
  | object tag fields => simp [properties, none leaf]
  | record kind fields =>
      cases kind with
      | permission => simp [properties, none leaf, Bounded]
      | _ => simp [properties, none leaf]
  | slice lower upper step => cases leaf
  | bool flag =>
      have own : (int flag.toInt).Bounded := by cases flag <;> exact bitLength_le_of_natAbs_le (by decide)
      simp only [properties, List.forall_mem_cons]
      exact ⟨own, bounded_natCast (Nat.zero_le _), own, bounded_natCast (by decide),
        List.forall_mem_nil _⟩
  | int n =>
      have own : (int n).Bounded := bounded
      simp only [properties, List.forall_mem_cons]
      exact ⟨own, bounded_natCast (Nat.zero_le _), own, bounded_natCast (by decide),
        List.forall_mem_nil _⟩
  | range start stop step =>
      obtain ⟨first, last, stride⟩ := bounded
      simp only [properties, List.forall_mem_cons]
      exact ⟨first, last, stride, List.forall_mem_nil _⟩
  | instant time =>
      obtain ⟨year, month, day, hour, minute, second, micro⟩ := bounded_calendar bounded
      have zone : ((time.offset.map Value.zone).getD .null).Bounded := by
        cases time.offset <;> trivial
      simp only [properties, List.forall_mem_cons]
      exact ⟨year, month, day, hour, minute, second, micro, bounded_natCast (Nat.zero_le _), zone,
        extremes.1, extremes.2, resolution, List.forall_mem_nil _⟩
  | duration span =>
      obtain ⟨days, seconds, microseconds⟩ := bounded_span bounded
      have least : Time.Duration.least.InRange := (Time.Duration.inRange_iff _).2 (by decide)
      have greatest : Time.Duration.greatest.InRange := (Time.Duration.inRange_iff _).2 (by decide)
      simp only [properties, List.forall_mem_cons]
      exact ⟨days, seconds, microseconds, least, greatest, resolution, List.forall_mem_nil _⟩
  | _ => simp [properties, Bounded]

theorem lasting_bounded : Lasting Bounded where
  plain {value} isPlain := by
    cases value with
    | int n | range start stop step | instant time | duration span => cases isPlain
    | _ => trivial
  int small := small
  negated {n} small := by
    rw [Bounded, Number.bitLength_le_iff] at small ⊢
    rwa [Int.natAbs_neg]
  range first last stride := ⟨first, last, stride⟩
  member bounds inRange := by
    obtain ⟨first, last, -⟩ := bounds
    obtain ⟨lower, upper⟩ | ⟨lower, upper⟩ := between_of_lt_rangeLength inRange
    · exact bitLength_le_of_between first last lower upper
    · exact bitLength_le_of_between last first lower upper
  span made := inRange_of_ofMicros? made
  moved isTime made := inRange_of_addMicros? isTime made
  since isLater isEarlier made := inRange_of_since? isLater isEarlier made
  shown bounded leaf := bounded_properties bounded leaf

end Value

namespace Script

/-- Where all integers within the names of a script and all integers that it spells out are of at most so
many bits as results may have, so are all integers within the values that a run of the script binds to a
name, passes to a function or a method, goes through or returns. -/
theorem integers_stay_bounded (script : Script) (budget : Budget) (names : Scope) (cursors : Cursors)
    (spelled : ∀ n, (Node.root script.tree).Holds (.int n) → Number.bitLength n ≤ maxIntBits)
    (given : ∀ name ∈ names, name.2.MadeOf Value.Bounded) :
    (∀ value ∈ (script.outcome budget names cursors).handled, value.MadeOf Value.Bounded) ∧
      ∀ value, (script.outcome budget names cursors).result = .ok value →
        value.MadeOf Value.Bounded := by
  refine madeOf_outcome Value.lasting_bounded script budget (fun literal held => ?_) given cursors
  cases literal with
  | int n => exact Value.madeOf_leaf (spelled n held) rfl
  | _ => exact Value.lasting_bounded.leaf trivial rfl

/-- The script `sum([n ** 2 for n in resource])`. -/
def sumOfSquares : Script where
  tree := .expression (.call 1 (.name 1 "sum" .load)
    [.comprehension 1 .list (.binary 1 (.name 1 "n" .load) .power (.constant 1 (.int 2)))
      [.mk (.name 1 "n" .store) (.name 1 "resource" .load) [] false]] [])
  isAccepted := by rfl

/-- The run of `sumOfSquares` on the numbers from one to three. -/
def squaresToThree : Outcome :=
  sumOfSquares.outcome usualLimits [("resource", .range 1 4 1)] {}

theorem integers_stay_bounded_sumOfSquares :
    (∀ n, (Node.root sumOfSquares.tree).Holds (.int n) → Number.bitLength n ≤ maxIntBits) ∧
      (Value.range 1 4 1).MadeOf Value.Bounded ∧
      squaresToThree.handled.length = 9 ∧ squaresToThree.result.isOk = true ∧
      (∀ value ∈ squaresToThree.handled, value.MadeOf Value.Bounded) ∧
      ∀ value, squaresToThree.result = .ok value → value.MadeOf Value.Bounded := by
  have spelled (n : Int) (held : (Node.root sumOfSquares.tree).Holds (.int n)) :
      Number.bitLength n ≤ maxIntBits := by
    have room : (Node.root sumOfSquares.tree).height < 8 := by decide
    have listed := held.mem_literalsWithin room
    have literals : (Node.root sumOfSquares.tree).literalsWithin 8 = [.int 2] := rfl
    rw [literals, List.mem_singleton] at listed
    cases listed
    decide
  have given : (Value.range 1 4 1).MadeOf Value.Bounded :=
    Value.madeOf_leaf ⟨by decide, by decide, by decide⟩ rfl
  have bounded := integers_stay_bounded sumOfSquares usualLimits
    [("resource", .range 1 4 1)] {} spelled (List.forall_mem_singleton.2 given)
  exact ⟨spelled, given, by decide +kernel, by decide +kernel, bounded.1, bounded.2⟩

end Script

end Authorization
