import Authorization.Proofs.Script.Run

/-!
# Two parts of runs side by side

Two different parts are carried out from runs whose one-shot sequences stand alike, but whose names may
differ. They match when they stop with the same error, or both end normally and their results and the
names they leave are related; nothing is said where one of them goes beyond a limit. Parts that match are
put together to parts that match, and on either side there may be further parts that settle on a result of
their own.
-/

namespace Authorization.Script

open Eval

variable {α β α' β' : Type} {budget : Budget}

/-- A run stops because it goes beyond a limit. -/
def Stop.IsLimit (budget : Budget) (stop : Stop) : Prop :=
  ∃ breach, stop.error budget = .limit breach

theorem isLimit_breach (breach : Breach) : (Stop.failed (.limit breach)).IsLimit budget :=
  ⟨breach, rfl⟩

theorem isLimit_unfinished : Stop.unfinished.IsLimit budget :=
  ⟨_, rfl⟩

/-- A part of a run stops because it goes beyond a limit. -/
def Exceeds (budget : Budget) (part : Eval α) (run : Run) : Prop :=
  ∃ stop : Stop, stop.IsLimit budget ∧ (perform part run).1 = .error stop

theorem not_exceeds_of_ok {part : Eval α} {run after : Run} {value : α}
    (succeeds : perform part run = (.ok value, after)) : ¬ Exceeds budget part run := by
  rintro ⟨stop, _, stopped⟩
  rw [succeeds] at stopped
  cases stopped

/-- Two ends of parts of runs are alike, if neither is due to a limit. -/
inductive Meets (budget : Budget) (post : α → β → Scope → Scope → Prop) :
    Except Stop α × Run → Except Stop β × Run → Prop
  | left {stop : Stop} {after : Run} {other : Except Stop β × Run} (isLimit : stop.IsLimit budget) :
      Meets budget post (.error stop, after) other
  | right {stop : Stop} {after : Run} {ending : Except Stop α × Run} (isLimit : stop.IsLimit budget) :
      Meets budget post ending (.error stop, after)
  | stopped (stop : Stop) (after otherAfter : Run) :
      Meets budget post (.error stop, after) (.error stop, otherAfter)
  | ok {a : α} {b : β} {after otherAfter : Run} (sameCursors : after.cursors = otherAfter.cursors)
      (holds : post a b after.scope otherAfter.scope) :
      Meets budget post (.ok a, after) (.ok b, otherAfter)

/-- Two parts of runs, each carried out under names of its own, end alike. -/
def Matches (budget : Budget) (left right : Scope) (post : α → β → Scope → Scope → Prop)
    (part : Eval α) (other : Eval β) : Prop :=
  ∀ run otherRun : Run, run.scope = left → otherRun.scope = right → run.cursors = otherRun.cursors →
    Meets budget post (perform part run) (perform other otherRun)

namespace Matches

/-- Parts that match on their results end with the same one, or with the same error. -/
theorem ending_eq {part other : Eval α} {run : Run} {post : α → α → Scope → Scope → Prop}
    (parts : Matches budget run.scope run.scope post part other)
    (implies : ∀ a b l r, post a b l r → a = b) (within : ¬ Exceeds budget part run)
    (otherWithin : ¬ Exceeds budget other run) : (perform part run).1 = (perform other run).1 := by
  have ended := parts run run rfl rfl rfl
  rcases shape : perform part run with ⟨ending, after⟩
  rcases otherShape : perform other run with ⟨otherEnding, otherAfter⟩
  rw [shape, otherShape] at ended
  cases ended with
  | left isLimit => exact absurd ⟨_, isLimit, congrArg Prod.fst shape⟩ within
  | right isLimit => exact absurd ⟨_, isLimit, congrArg Prod.fst otherShape⟩ otherWithin
  | stopped stop => rfl
  | ok _ holds => exact congrArg Except.ok (implies _ _ _ _ holds)

variable {left right : Scope} {post : α → β → Scope → Scope → Prop} {part : Eval α} {other : Eval β}

/-! ## Parts put together -/

theorem pure {a : α} {b : β} (holds : post a b left right) :
    Matches budget left right post (pure a) (pure b) := by
  rintro run otherRun rfl rfl sameCursors
  exact .ok sameCursors holds

theorem fail (stop : Stop) : Matches budget left right post (throw stop) (throw stop) :=
  fun run otherRun _ _ _ => .stopped stop run otherRun

theorem bind {final : α' → β' → Scope → Scope → Prop} {next : α → Eval α'} {otherNext : β → Eval β'}
    (first : Matches budget left right post part other)
    (rest : ∀ a b l r, post a b l r → Matches budget l r final (next a) (otherNext b)) :
    Matches budget left right final (part >>= next) (other >>= otherNext) := by
  intro run otherRun isLeft isRight sameCursors
  have ended := first run otherRun isLeft isRight sameCursors
  rw [perform_bind, perform_bind]
  generalize perform part run = ending at ended
  generalize perform other otherRun = otherEnding at ended
  cases ended with
  | left isLimit => exact .left isLimit
  | right isLimit => exact .right isLimit
  | stopped stop => exact .stopped stop _ _
  | ok sameCursors holds => exact rest _ _ _ _ holds _ _ rfl rfl sameCursors

/-- On the left, something more is done with the result. -/
theorem thenLeft {final : α' → β → Scope → Scope → Prop} {next : α → Eval α'}
    (first : Matches budget left right post part other)
    (rest : ∀ a b l r, post a b l r → Matches budget l r final (next a) (Pure.pure b)) :
    Matches budget left right final (part >>= next) other := by
  rw [← bind_pure other]
  exact first.bind rest

/-- On the right, something more is done with the result. -/
theorem thenRight {final : α → β' → Scope → Scope → Prop} {next : β → Eval β'}
    (first : Matches budget left right post part other)
    (rest : ∀ a b l r, post a b l r → Matches budget l r final (Pure.pure a) (next b)) :
    Matches budget left right final part (other >>= next) := by
  rw [← bind_pure part]
  exact first.bind rest

theorem mono {weaker : α → β → Scope → Scope → Prop} (parts : Matches budget left right post part other)
    (implies : ∀ a b l r, post a b l r → weaker a b l r) :
    Matches budget left right weaker part other := by
  rw [← bind_pure part]
  exact parts.thenLeft fun a b l r holds => .pure (implies a b l r holds)

/-- A part that only computes on values gives the same on both sides. -/
theorem plain {part : Eval α} (plain : Plain part)
    {post : α → α → Scope → Scope → Prop} (holds : ∀ a, post a a left right) :
    Matches budget left right post part part := by
  obtain ⟨draw, rfl⟩ := plain
  rintro run otherRun rfl rfl sameCursors
  rw [perform_ofDraw, perform_ofDraw, sameCursors]
  rcases Id.run (draw.run.run otherRun.cursors) with ⟨error | value, cursors⟩
  · exact .stopped _ _ _
  · exact .ok rfl (holds value)

theorem tick {post : Unit → Unit → Scope → Scope → Prop} (holds : post () () left right) :
    Matches budget left right post budget.tick budget.tick := by
  rintro run otherRun rfl rfl sameCursors
  rw [perform_tick, perform_tick]
  split
  · exact .left (isLimit_breach _)
  · split
    · exact .left (isLimit_breach _)
    · split
      · exact .right (isLimit_breach _)
      · split
        · exact .right (isLimit_breach _)
        · exact .ok sameCursors holds

/-- On the left, what is bound within an action is forgotten after it. -/
theorem withinLeft (parts : Matches budget left right (fun a b _ r => post a b left r) part other) :
    Matches budget left right post (Eval.within part) other := by
  have restored : Matches budget left right post
      (do
        let value ← part
        modify fun after : Run => { after with scope := left }
        return value) other := by
    refine parts.thenLeft fun a b l r holds => ?_
    rintro run otherRun rfl rfl sameCursors
    exact .ok sameCursors holds
  rintro run otherRun rfl isRight sameCursors
  exact restored run otherRun rfl isRight sameCursors

/-- On the right, what is bound within an action is forgotten after it. -/
theorem withinRight (parts : Matches budget left right (fun a b l _ => post a b l right) part other) :
    Matches budget left right post part (Eval.within other) := by
  have restored : Matches budget left right post part
      (do
        let value ← other
        modify fun after : Run => { after with scope := right }
        return value) := by
    refine parts.thenRight fun a b l r holds => ?_
    rintro run otherRun rfl rfl sameCursors
    exact .ok sameCursors holds
  rintro run otherRun isLeft rfl sameCursors
  exact restored run otherRun isLeft rfl sameCursors

/-! ## Loops -/

/-- Two rounds of loops both go on, or both end the loop. -/
inductive Round (inv : α → β → Scope → Scope → Prop) :
    ForInStep α → ForInStep β → Scope → Scope → Prop
  | done {a : α} {b : β} {l r : Scope} (holds : inv a b l r) : Round inv (.done a) (.done b) l r
  | yield {a : α} {b : β} {l r : Scope} (holds : inv a b l r) : Round inv (.yield a) (.yield b) l r

variable {inv : α → β → Scope → Scope → Prop}

theorem loop {step : α → Eval (ForInStep α)} {other : β → Eval (ForInStep β)}
    (each : ∀ a b l r, inv a b l r → Matches budget l r (Round inv) (step a) (other b)) (rounds : Nat)
    {a : α} {b : β} (start : inv a b left right) :
    Matches budget left right inv (Eval.loop step rounds a) (Eval.loop other rounds b) := by
  induction rounds generalizing a b left right with
  | zero => exact fun run otherRun _ _ _ => .left isLimit_unfinished
  | succ rounds inductionHypothesis =>
      refine (each a b left right start).bind fun round otherRound l r ended => ?_
      cases ended with
      | done holds => exact .pure holds
      | yield holds => exact inductionHypothesis holds

theorem handle (value other : Value) {post : Unit → Unit → Scope → Scope → Prop}
    (holds : post () () left right) :
    Matches budget left right post (Eval.handle value) (Eval.handle other) := by
  rintro run otherRun rfl rfl sameCursors
  exact .ok sameCursors holds

theorem advance (walk : Iteration)
    {post : Option (Value × Iteration) → Option (Value × Iteration) → Scope → Scope → Prop}
    (holds : ∀ found?, post found? found? left right) :
    Matches budget left right post (Eval.advance walk) (Eval.advance walk) := by
  rintro run otherRun rfl rfl sameCursors
  rw [perform_advance, perform_advance, sameCursors]
  exact .ok rfl (holds _)

/-- Two walks through the same items match when what they do with each item does. -/
theorem forEach {body : Value → α → Eval (ForInStep α)} {other : Value → β → Eval (ForInStep β)}
    (each : ∀ item a b l r, inv a b l r → Matches budget l r (Round inv) (body item a) (other item b))
    (source : Value) {a : α} {b : β} (start : inv a b left right) :
    Matches budget left right inv (budget.forEach source a body) (budget.forEach source b other) := by
  let places : Iteration × α → Iteration × β → Scope → Scope → Prop := fun place otherPlace l r =>
    place.1 = otherPlace.1 ∧ inv place.2 otherPlace.2 l r
  have visited (place : Iteration × α) (otherPlace : Iteration × β) (l r : Scope)
      (same : places place otherPlace l r) :
      Matches budget l r (Round places) (visit body place) (visit other otherPlace) := by
    obtain ⟨walk, a⟩ := place
    obtain ⟨_, b⟩ := otherPlace
    obtain ⟨rfl, holds⟩ := same
    have advanced : Matches budget l r (fun found? other? l' r' => found? = other? ∧ inv a b l' r')
        (Eval.advance walk) (Eval.advance walk) := .advance walk fun _ => ⟨rfl, holds⟩
    refine advanced.bind fun found? _ l r advanced => ?_
    obtain ⟨rfl, holds⟩ := advanced
    cases found? with
    | none => exact .pure (.done ⟨rfl, holds⟩)
    | some found =>
        have handled : Matches budget l r (fun _ _ => inv a b) (Eval.handle found.1)
            (Eval.handle found.1) := .handle _ _ holds
        refine handled.bind fun _ _ l r holds => ?_
        refine (each found.1 a b l r holds).bind fun round otherRound l r ended => ?_
        cases ended with
        | done holds => exact .pure (.done ⟨rfl, holds⟩)
        | yield holds => exact .pure (.yield ⟨rfl, holds⟩)
  rw [forEach_eq, forEach_eq]
  have handled : Matches budget left right (fun _ _ => inv a b) (Eval.handle source)
      (Eval.handle source) := .handle _ _ start
  refine handled.bind fun _ _ l r start => ?_
  have started : Matches budget l r (fun walk other l' r' => walk = other ∧ inv a b l' r')
      (ofExcept source.iteration) (ofExcept source.iteration) :=
    .plain (plain_ofExcept _) fun _ => ⟨rfl, start⟩
  refine started.bind fun walk _ l r started => ?_
  obtain ⟨rfl, start⟩ := started
  have start : places (walk, a) (walk, b) l r := ⟨rfl, start⟩
  exact (Matches.loop visited budget.rounds start).bind fun _ _ _ _ last => .pure last.2

end Matches

/-! ## Parts that settle on a result -/

/-- A part of a run that starts under some names ends with a known result under other ones and takes no
items, if it goes beyond no limit. -/
def Settles (budget : Budget) (before : Scope) (part : Eval α) (value : α) (after : Scope) : Prop :=
  ∀ run : Run, run.scope = before →
    Exceeds budget part run ∨
    ∃ last, perform part run = (.ok value, last) ∧ last.cursors = run.cursors ∧ last.scope = after

namespace Settles

variable {before between after : Scope} {part : Eval α} {next : α → Eval β} {value : α} {final : β}

theorem pure : Settles budget before (Pure.pure value) value before :=
  fun run isBefore => .inr ⟨run, rfl, rfl, isBefore⟩

theorem bind (first : Settles budget before part value between)
    (rest : Settles budget between (next value) final after) :
    Settles budget before (part >>= next) final after := by
  intro run isBefore
  obtain ⟨stop, isLimit, stopped⟩ | ⟨last, ended, sameCursors, isBetween⟩ := first run isBefore
  · refine .inl ⟨stop, isLimit, ?_⟩
    rw [perform_bind_of_error (Prod.ext stopped rfl)]
  · rw [Exceeds, perform_bind_of_ok ended, ← sameCursors]
    exact rest last isBetween

theorem tick : Settles budget before budget.tick () before := by
  rintro run rfl
  rw [Exceeds, perform_tick]
  split
  · exact .inl ⟨_, isLimit_breach _, rfl⟩
  · split
    · exact .inl ⟨_, isLimit_breach _, rfl⟩
    · exact .inr ⟨_, rfl, rfl, rfl⟩

theorem lookup {name : String} {value : Value} (isBound : before.lookup name = some value) :
    Settles budget before (Script.lookup name) value before := by
  rintro run rfl
  rw [perform_lookup, isBound]
  exact .inr ⟨_, rfl, rfl, rfl⟩

theorem bindName (name : String) (value : Value) :
    Settles budget before (Eval.bindName name value) () (before.bind name value) := by
  rintro run rfl
  exact .inr ⟨_, rfl, rfl, rfl⟩

theorem guard {condition : Prop} [Decidable condition] (breach : Breach)
    (rest : ¬ condition → Settles budget before part value after) :
    Settles budget before (if condition then Eval.breach breach else part) value after := by
  split
  · exact fun run _ => .inl ⟨_, isLimit_breach breach, rfl⟩
  · exact rest ‹_›

theorem checkSize_list (items : List Value) :
    Settles budget before (budget.checkSize (.list items)) (.list items) before :=
  guard _ fun _ => pure

/-- On the right, a part that settles comes before parts that match. -/
theorem precedes {left : Scope} {post : α' → β → Scope → Scope → Prop} {other : Eval α'}
    (settles : Settles budget before part value after)
    (rest : Matches budget left after post other (next value)) :
    Matches budget left before post other (part >>= next) := by
  intro run otherRun isLeft isRight sameCursors
  obtain ⟨stop, isLimit, stopped⟩ | ⟨last, ended, stillSame, isAfter⟩ := settles otherRun isRight
  · rw [perform_bind_of_error (Prod.ext stopped rfl)]
    exact .right isLimit
  · rw [perform_bind_of_ok ended]
    exact rest run last isLeft isAfter (sameCursors.trans stillSame.symm)

/-- On the left, a part that settles comes before parts that match. -/
theorem precedesLeft {right : Scope} {post : β → α' → Scope → Scope → Prop} {other : Eval α'}
    (settles : Settles budget before part value after)
    (rest : Matches budget after right post (next value) other) :
    Matches budget before right post (part >>= next) other := by
  intro run otherRun isLeft isRight sameCursors
  obtain ⟨stop, isLimit, stopped⟩ | ⟨last, ended, stillSame, isAfter⟩ := settles run isLeft
  · rw [perform_bind_of_error (Prod.ext stopped rfl)]
    exact .left isLimit
  · rw [perform_bind_of_ok ended]
    exact rest last otherRun isAfter isRight (stillSame.trans sameCursors)

/-- A part that settles matches one that does nothing. -/
theorem meetsPure {left : Scope} {post : α' → α → Scope → Scope → Prop} {a : α'}
    (settles : Settles budget before part value after) (holds : post a value left after) :
    Matches budget left before post (Pure.pure a) part := by
  rw [← bind_pure part]
  exact settles.precedes (.pure holds)

end Settles

end Authorization.Script
