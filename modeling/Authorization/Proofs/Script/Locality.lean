import Authorization.Proofs.Script.Matching
import Authorization.Proofs.Script.Names

/-!
# Names that statements bind and expressions mention

A block of statements that comes to its end, by a `break` or a `continue` or a `return` too, leaves every
name as it was that it does not assign. The targets of a comprehension are bound within it only: no
expression changes any name.
-/

namespace Authorization.Script

open Eval

/-- Names are bound one after another, and each of them may be bound. -/
inductive Rebinds (may : String → Prop) (before : Scope) : Scope → Prop
  | refl : Rebinds may before before
  | bind {scope : Scope} {name : String} (value : Value) (earlier : Rebinds may before scope)
      (allowed : may name) : Rebinds may before (scope.bind name value)

namespace Rebinds

variable {may : String → Prop} {before between after : Scope}

theorem trans (first : Rebinds may before between) (second : Rebinds may between after) :
    Rebinds may before after := by
  induction second with
  | refl => exact first
  | bind value _ allowed inductionHypothesis => exact .bind value inductionHypothesis allowed

/-- A name that may not be bound stays bound to the same value, or unbound. -/
theorem lookup_eq (rebinds : Rebinds may before after) {name : String} (isKept : ¬ may name) :
    after.lookup name = before.lookup name := by
  induction rebinds with
  | refl => rfl
  | bind value _ allowed inductionHypothesis =>
      have differs : name ≠ _ := fun same => isKept (same ▸ allowed)
      exact (Scope.lookup_bind_of_ne _ differs value).trans inductionHypothesis

theorem eq_of_none (rebinds : Rebinds may before after) (noneAllowed : ∀ name, ¬ may name) :
    after = before := by
  cases rebinds with
  | refl => rfl
  | bind value _ allowed => exact absurd allowed (noneAllowed _)

end Rebinds

/-! ## Parts of runs -/

variable {α β : Type} {budget : Budget}

/-- Where a part of a run ends normally, it has bound names that may be bound and no others. -/
def RebindsOnly (may : String → Prop) (part : Eval α) : Prop :=
  ∀ run value after, perform part run = (.ok value, after) → Rebinds may run.scope after.scope

theorem RebindsOnly.of_scope_eq {may : String → Prop} {part : Eval α}
    (still : ∀ run, (perform part run).2.scope = run.scope) : RebindsOnly may part := by
  intro run value after ended
  have same := still run
  rw [ended] at same
  exact same ▸ .refl

theorem scope_of_plain {part : Eval α} (plain : Plain part) (run : Run) :
    (perform part run).2.scope = run.scope := by
  obtain ⟨_, _, ended⟩ := plain.exists_perform run
  rw [ended]

theorem RebindsOnly.bind {may : String → Prop} {part : Eval α} {next : α → Eval β}
    (first : RebindsOnly may part) (rest : ∀ value, RebindsOnly may (next value)) :
    RebindsOnly may (part >>= next) := by
  intro run final after ended
  obtain ⟨value, between, here, later⟩ := exists_of_perform_bind ended
  exact (first run value between here).trans (rest value between final after later)

/-- What is bound within a part is forgotten after it. -/
theorem rebindsOnly_within {may : String → Prop} (part : Eval α) :
    RebindsOnly may (Eval.within part) := by
  intro run value after ended
  rw [perform_within] at ended
  generalize perform part run = ending at ended
  obtain ⟨stop | value, last⟩ := ending
  · cases ended
  · cases ended
    exact .refl

/-- The discretion of parts of runs that bind names, whatever they look up. -/
def rebinding (budget : Budget) (hidden : String → Prop) : Discretion budget hidden where
  Discreet := RebindsOnly
  plain plain := .of_scope_eq (scope_of_plain plain)
  stop _ := .of_scope_eq fun _ => rfl
  bind := RebindsOnly.bind
  tick := .of_scope_eq fun run => by rw [perform_tick]
  handle _ := .of_scope_eq fun _ => rfl
  record _ := .of_scope_eq fun _ => rfl
  lookup {_ name} _ := .of_scope_eq fun run => by
    obtain ⟨part, plain, same⟩ := exists_plain_lookup name (run.scope.lookup name)
    rw [same run rfl]
    exact scope_of_plain plain _
  bindName value allowed := by
    intro run _ after ended
    cases ended
    exact .bind value .refl allowed
  within {_ _ _ part} _ := rebindsOnly_within part

theorem shown_of_nothing (names : List String) : Shown (fun _ => False) names :=
  fun _ _ => id

/-- An expression leaves the names as they are. -/
theorem scope_of_eval {e : Expression} {run after : Run} {value : Value}
    (evaluated : perform (eval budget e) run = (.ok value, after)) : after.scope = run.scope := by
  let nothing : String → Prop := fun _ => False
  have rebinds : RebindsOnly nothing (eval budget e) :=
    (rebinding budget nothing).eval e (shown_of_nothing e.names)
  exact (rebinds run value after evaluated).eq_of_none fun _ => id

/-! ## Blocks -/

theorem rebindsOnly_execBlock (budget : Budget) (body : List Statement) :
    RebindsOnly (· ∈ assignedIn body) (execBlock budget body) :=
  (rebinding budget fun _ => False).execBlock body (shown_of_nothing _) fun _ => id

/-- However a block comes to its end, each name that it does not assign is bound to what it was bound to
before, or unbound if it was unbound. An expression changes no name at all, whatever its comprehensions
bind, test, skip and nest. -/
theorem blocks_change_assigned_names_only {budget : Budget} {body : List Statement}
    {completion : Completion} {run after : Run}
    (ended : perform (execBlock budget body) run = (.ok completion, after)) :
    (∀ name, name ∉ assignedIn body → after.scope.lookup name = run.scope.lookup name) ∧
    ∀ (e : Expression) (before last : Run) (value : Value),
      perform (eval budget e) before = (.ok value, last) → last.scope = before.scope := by
  have rebinds := rebindsOnly_execBlock budget body run completion after ended
  refine ⟨fun name unassigned => rebinds.lookup_eq unassigned, ?_⟩
  intro e before last value evaluated
  exact scope_of_eval evaluated

/-- The block `found = [row for row in rows if row]; break`. -/
def findAndBreak : List Statement :=
  [.assign 1 [.name 1 "found" .store] (.comprehension 1 .list (.name 1 "row" .load)
    [.mk (.name 1 "row" .store) (.name 1 "rows" .load) [.name 1 "row" .load] false]), .breakLoop 2]

/-- A run that has been given some rows, and a value for the name that a comprehension binds. -/
def namedRow : Run :=
  { scope := [("rows", .list [.int 4, .int 0, .int 5]), ("row", .str "kept")] }

theorem blocks_change_assigned_names_only_past_break :
    ∃ completion after,
      perform (execBlock usualLimits findAndBreak) namedRow = (.ok completion, after) ∧
      completion matches .broke ∧ "row" ∉ assignedIn findAndBreak ∧
      after.scope.lookup "row" = some (.str "kept") := by
  obtain ⟨completion, after, ended, isBreak⟩ := @exists_perform_of_map _ _
    (execBlock usualLimits findAndBreak) namedRow (· matches .broke) true (by decide +kernel)
  obtain ⟨keepsOthers, -⟩ := blocks_change_assigned_names_only ended
  have unassigned : "row" ∉ assignedIn findAndBreak := by decide
  exact ⟨completion, after, ended, isBreak, unassigned, keepsOthers "row" unassigned⟩

end Authorization.Script

/-!
## The names that an expression mentions

An expression looks up no name that it does not mention, and leaves the names as they are: what its
comprehensions bind is forgotten after each item. So it has the same value under all names that agree on
those it mentions, and takes the same items.
-/

namespace Authorization.Script

open Eval

/-! ### Scopes that agree -/

/-- Two scopes give the same value to each name that is not hidden. -/
def AgreeOff (hidden : String → Prop) (left right : Scope) : Prop :=
  ∀ name, ¬ hidden name → left.lookup name = right.lookup name

namespace AgreeOff

variable {hidden more : String → Prop} {left middle right : Scope}

theorem refl (hidden : String → Prop) (scope : Scope) : AgreeOff hidden scope scope :=
  fun _ _ => rfl

theorem symm (agree : AgreeOff hidden left right) : AgreeOff hidden right left :=
  fun name shown => (agree name shown).symm

theorem trans (first : AgreeOff hidden left middle) (second : AgreeOff hidden middle right) :
    AgreeOff hidden left right :=
  fun name shown => (first name shown).trans (second name shown)

theorem mono (agree : AgreeOff hidden left right) (implies : ∀ name, hidden name → more name) :
    AgreeOff more left right :=
  fun name shown => agree name fun isHidden => shown (implies name isHidden)

/-- A name that is bound to the same value need not be hidden any more. -/
theorem bind (agree : AgreeOff hidden left right) (name : String) (value : Value) :
    AgreeOff (fun other => hidden other ∧ other ≠ name) (left.bind name value)
      (right.bind name value) := by
  intro other shown
  by_cases isName : other = name
  · rw [isName, Scope.lookup_bind_self, Scope.lookup_bind_self]
  · rw [Scope.lookup_bind_of_ne _ isName, Scope.lookup_bind_of_ne _ isName]
    exact agree other fun isHidden => shown ⟨isHidden, isName⟩

theorem bindLeft (scope : Scope) (name : String) (value : Value) :
    AgreeOff (· = name) (scope.bind name value) scope :=
  fun _ isOther => Scope.lookup_bind_of_ne scope isOther value

end AgreeOff

/-! ### Targets -/

variable {α β : Type} {budget : Budget} {hidden : String → Prop}

theorem matches_bindName (name : String) (value : Value) (left right : Scope) :
    Matches budget left right
      (fun _ _ l r => l = left.bind name value ∧ r = right.bind name value)
      (bindName name value) (bindName name value) := by
  rintro run otherRun rfl rfl sameCursors
  exact .ok sameCursors ⟨rfl, rfl⟩

theorem matches_bindAll {targets : List Expression} {values : List Value} {left right : Scope}
    (asMany : values.length = targets.length) (agree : AgreeOff hidden left right) :
    Matches budget left right
      (fun _ _ l r => AgreeOff (fun name => hidden name ∧ name ∉ namesOfList targets) l r ∧
        AgreeOff (· ∈ namesOfList targets) l left ∧ AgreeOff (· ∈ namesOfList targets) r right)
      (bindAll targets values) (bindAll targets values) := by
  induction targets generalizing values hidden left right with
  | nil =>
      rw [List.eq_nil_of_length_eq_zero asMany]
      exact .pure ⟨agree.mono fun _ isHidden => ⟨isHidden, List.not_mem_nil⟩, .refl _ _, .refl _ _⟩
  | cons target rest inductionHypothesis =>
      cases values with
      | nil => cases asMany
      | cons value values =>
          cases target with
          | name line identifier use =>
              refine (matches_bindName identifier value left right).bind fun _ _ l r isBound => ?_
              obtain ⟨rfl, rfl⟩ := isBound
              refine (inductionHypothesis (Nat.succ.inj asMany) (agree.bind identifier value)).mono
                fun _ _ l r ends => ?_
              obtain ⟨agree, keepsLeft, keepsRight⟩ := ends
              have widen {scope other : Scope} (keeps : AgreeOff (· ∈ namesOfList rest) other
                  (scope.bind identifier value)) :
                  AgreeOff (· ∈ namesOfList (.name line identifier use :: rest)) other scope :=
                (keeps.mono fun _ => List.mem_append_right _).trans
                  ((AgreeOff.bindLeft scope identifier value).mono fun _ isName =>
                    List.mem_append_left _ (List.mem_singleton.2 isName))
              refine ⟨agree.mono fun name ⟨⟨isHidden, isOther⟩, notLater⟩ => ⟨isHidden, ?_⟩,
                widen keepsLeft, widen keepsRight⟩
              intro member
              obtain here | later := List.mem_append.1 member
              · exact isOther (List.mem_singleton.1 here)
              · exact notLater later
          | _ => exact .fail _

/-- A target binds the names that it mentions to the same values, and no other names. -/
theorem matches_assign (target : Expression) (value : Value) {left right : Scope}
    (agree : AgreeOff hidden left right) :
    Matches budget left right
      (fun _ _ l r => AgreeOff (fun name => hidden name ∧ name ∉ target.names) l r ∧
        AgreeOff (· ∈ target.names) l left ∧ AgreeOff (· ∈ target.names) r right)
      (assign target value) (assign target value) := by
  cases target with
  | name line identifier use =>
      refine (matches_bindName identifier value left right).mono fun _ _ l r isBound => ?_
      obtain ⟨rfl, rfl⟩ := isBound
      have bound (scope : Scope) : AgreeOff (· ∈ [identifier]) (scope.bind identifier value) scope :=
        (AgreeOff.bindLeft scope identifier value).mono fun _ => List.mem_singleton.2
      refine ⟨(agree.bind identifier value).mono fun name ⟨isHidden, isOther⟩ => ⟨isHidden, ?_⟩,
        bound left, bound right⟩
      exact mt List.mem_singleton.1 isOther
  | tuple line elements use =>
      have handled : Matches budget left right (fun _ _ l r => l = left ∧ r = right) (handle value)
          (handle value) := .handle _ _ ⟨rfl, rfl⟩
      refine handled.bind fun _ _ l r same => ?_
      obtain ⟨rfl, rfl⟩ := same
      have drawn : Matches budget l r (fun a b l' r' => a = b ∧ l' = l ∧ r' = r) (ofDraw value.items)
          (ofDraw value.items) := .plain (plain_ofDraw value.items) fun _ => ⟨rfl, rfl, rfl⟩
      refine drawn.bind fun values _ l' r' same => ?_
      obtain ⟨rfl, rfl, rfl⟩ := same
      split
      · exact matches_bindAll ‹_› agree
      · exact .fail _
  | _ => exact .fail _

/-! ### Parts that bind names alike -/

/-- A part of a run looks up no hidden name and binds names alike. -/
def Binds (budget : Budget) (hidden : String → Prop) (part : Eval α) : Prop :=
  ∀ left right, AgreeOff hidden left right →
    Matches budget left right (fun a b l r => a = b ∧ AgreeOff hidden l r) part part

namespace Binds

theorem bind {part : Eval α} {next : α → Eval β} (first : Binds budget hidden part)
    (rest : ∀ value, Binds budget hidden (next value)) : Binds budget hidden (part >>= next) := by
  intro left right agree
  refine (first left right agree).bind fun a b l r => ?_
  rintro ⟨rfl, agree⟩
  exact rest a l r agree

theorem plain {part : Eval α} (plain : Plain part) : Binds budget hidden part :=
  fun _ _ agree => .plain plain fun _ => ⟨rfl, agree⟩

theorem lookup {name : String} (shown : ¬ hidden name) :
    Binds budget hidden (Script.lookup name) := by
  intro left right agree
  rintro run otherRun rfl rfl sameCursors
  obtain ⟨part, isPlain, same⟩ := exists_plain_lookup name (run.scope.lookup name)
  rw [same run rfl, same otherRun (agree name shown).symm]
  exact plain isPlain _ _ agree _ _ rfl rfl sameCursors

theorem bindName (name : String) (value : Value) :
    Binds budget hidden (Eval.bindName name value) := by
  intro left right agree
  refine (matches_bindName name value left right).mono fun _ _ l r isBound => ?_
  obtain ⟨rfl, rfl⟩ := isBound
  exact ⟨rfl, (agree.bind name value).mono fun _ => And.left⟩

/-- What is bound within a part is forgotten after it. -/
theorem within {part : Eval α} (binds : Binds budget hidden part) :
    Binds budget hidden (Eval.within part) := by
  intro left right agree
  refine .withinLeft (.withinRight ?_)
  exact (binds left right agree).mono fun _ _ _ _ ended => ⟨ended.1, agree⟩

end Binds

/-- The discretion of parts of runs that bind names alike. -/
def bindingAlike (budget : Budget) (hidden : String → Prop) : Discretion budget hidden where
  Discreet _ part := Binds budget hidden part
  plain := Binds.plain
  stop stop _ _ _ := .fail stop
  bind := Binds.bind
  tick _ _ agree := .tick ⟨rfl, agree⟩
  handle value _ _ agree := .handle value value ⟨rfl, agree⟩
  record _ _ _ agree _ _ isLeft isRight sameCursors :=
    .ok sameCursors ⟨rfl, by rwa [isLeft, isRight]⟩
  lookup := Binds.lookup
  bindName {_ name} value _ := Binds.bindName name value
  within := Binds.within

/-! ### Expressions -/

/-- A part of a run looks up no hidden name and leaves the names as they are. -/
def Looks (budget : Budget) (hidden : String → Prop) (part : Eval α) : Prop :=
  ∀ left right, AgreeOff hidden left right →
    Matches budget left right (fun a b l r => a = b ∧ l = left ∧ r = right) part part

/-- An expression looks up only names that it mentions, and leaves all names as they are. -/
theorem looks_eval (e : Expression) (shown : Shown hidden e.names) :
    Looks budget hidden (eval budget e) := by
  intro left right agree run otherRun isLeft isRight sameCursors
  have binds : Binds budget hidden (eval budget e) :=
    @Discretion.eval budget hidden (fun _ => False) (bindingAlike budget hidden) e shown
  have ended := binds left right agree run otherRun isLeft isRight sameCursors
  have keeps (start : Run) (value : Value) (after : Run)
      (evaluated : perform (eval budget e) start = (.ok value, after)) : after.scope = start.scope :=
    scope_of_eval evaluated
  have keepsLeft := keeps run
  have keepsRight := keeps otherRun
  generalize perform (eval budget e) run = ending at ended keepsLeft
  generalize perform (eval budget e) otherRun = otherEnding at ended keepsRight
  cases ended with
  | left isLimit => exact .left isLimit
  | right isLimit => exact .right isLimit
  | stopped stop => exact .stopped stop _ _
  | ok sameCursors holds =>
      exact .ok sameCursors ⟨holds.1, (keepsLeft _ _ rfl).trans isLeft, (keepsRight _ _ rfl).trans isRight⟩

end Authorization.Script

/-!
## The names that a script sees

Two runs that agree off some hidden names go on in step with each other as long as none of these is
looked up: both take as many steps, take the same items from one-shot sequences, and end with the same
value or the same error. A script looks up only names that it mentions, so that nothing about the other
names it is given can be told from its runs.
-/

namespace Authorization.Script

open Eval

/-- Two runs that have taken as many steps and the same items, and agree off the hidden names. -/
structure Alongside (hidden : String → Prop) (run other : Run) : Prop where
  steps : run.steps = other.steps
  cursors : run.cursors = other.cursors
  scope : AgreeOff hidden run.scope other.scope

variable {α β : Type} {hidden : String → Prop}

/-- A part of a run ends alike in runs alongside each other, which stay so. -/
def Lockstep (hidden : String → Prop) (part : Eval α) : Prop :=
  ∀ run other, Alongside hidden run other →
    (perform part run).1 = (perform part other).1 ∧
      Alongside hidden (perform part run).2 (perform part other).2

namespace Lockstep

theorem bind {part : Eval α} {next : α → Eval β} (first : Lockstep hidden part)
    (rest : ∀ value, Lockstep hidden (next value)) : Lockstep hidden (part >>= next) := by
  intro run other alongside
  have ⟨same, stillAlongside⟩ := first run other alongside
  rw [perform_bind, perform_bind]
  generalize perform part run = ending at same stillAlongside
  generalize perform part other = otherEnding at same stillAlongside
  obtain ⟨result, after⟩ := ending
  obtain ⟨_, otherAfter⟩ := otherEnding
  cases same
  cases result with
  | error stop => exact ⟨rfl, stillAlongside⟩
  | ok value => exact rest value after otherAfter stillAlongside

theorem plain {part : Eval α} (isPlain : Plain part) : Lockstep hidden part := by
  obtain ⟨draw, rfl⟩ := isPlain
  intro run other alongside
  rw [perform_ofDraw, perform_ofDraw, alongside.cursors]
  exact ⟨rfl, alongside.steps, rfl, alongside.scope⟩

theorem tick (budget : Budget) : Lockstep hidden budget.tick := by
  intro run other alongside
  rw [perform_tick, perform_tick, alongside.steps]
  exact ⟨rfl, rfl, alongside.cursors, alongside.scope⟩

theorem lookup {name : String} (shown : ¬ hidden name) : Lockstep hidden (Script.lookup name) := by
  intro run other alongside
  obtain ⟨part, isPlain, same⟩ := exists_plain_lookup name (run.scope.lookup name)
  rw [same run rfl, same other (alongside.scope name shown).symm]
  exact plain isPlain _ _ ⟨alongside.steps, alongside.cursors, alongside.scope⟩

theorem bindName (name : String) (value : Value) : Lockstep hidden (Eval.bindName name value) := by
  intro run other alongside
  have bound := (alongside.scope.bind name value).mono fun _ => And.left
  exact ⟨rfl, alongside.steps, alongside.cursors, bound⟩

/-- What is bound within a part is forgotten after it, in both runs. -/
theorem within {part : Eval α} (inner : Lockstep hidden part) : Lockstep hidden (Eval.within part) := by
  intro run other alongside
  have ⟨same, stillAlongside⟩ := inner run other alongside
  rw [perform_within, perform_within]
  generalize perform part run = ending at same stillAlongside
  generalize perform part other = otherEnding at same stillAlongside
  obtain ⟨result, after⟩ := ending
  obtain ⟨_, otherAfter⟩ := otherEnding
  cases same
  cases result with
  | error stop => exact ⟨rfl, stillAlongside⟩
  | ok value => exact ⟨rfl, stillAlongside.steps, stillAlongside.cursors, alongside.scope⟩

end Lockstep

/-- The discretion of parts of runs that hidden names have no influence on. -/
def unseeing (budget : Budget) (hidden : String → Prop) : Discretion budget hidden where
  Discreet _ part := Lockstep hidden part
  plain := Lockstep.plain
  stop _ _ _ alongside := ⟨rfl, alongside⟩
  bind := Lockstep.bind
  tick := Lockstep.tick budget
  handle _ _ _ alongside := ⟨rfl, alongside.steps, alongside.cursors, alongside.scope⟩
  record _ _ _ alongside := ⟨rfl, alongside.steps, alongside.cursors, alongside.scope⟩
  lookup := Lockstep.lookup
  bindName {_ name} value _ := Lockstep.bindName name value
  within := Lockstep.within

/-! ### Scripts -/

theorem lockstep_tree (budget : Budget) {tree : Tree} (shown : Shown hidden tree.names) :
    Lockstep hidden (tree.eval budget) :=
  @Discretion.tree budget hidden (fun _ => True) (unseeing budget hidden) tree shown fun _ => trivial

/-- Runs that start alike on the names that a script mentions end alike, and have taken the same steps. -/
theorem finish_alongside (script : Script) (budget : Budget) {names others : Scope}
    (agree : ∀ name ∈ script.tree.names, names.lookup name = others.lookup name) (cursors : Cursors) :
    (finish script budget names cursors).1 = (finish script budget others cursors).1 ∧
      Alongside (· ∉ script.tree.names) (finish script budget names cursors).2
        (finish script budget others cursors).2 := by
  have shown : Shown (· ∉ script.tree.names) script.tree.names := fun _ member hidden => hidden member
  have start : Alongside (· ∉ script.tree.names) { scope := names, cursors }
      { scope := others, cursors } :=
    ⟨rfl, rfl, fun name mentioned => agree name (Decidable.not_not.1 mentioned)⟩
  exact lockstep_tree budget shown _ _ start

theorem unexpected_of_exposed {names : Scope} (exposed : ∀ bound ∈ names, bound.1 ∈ exposedNames) :
    unexpected names = [] := by
  have none : (names.map Prod.fst).filter (fun name => !exposedNames.contains name) = [] := by
    apply List.filter_eq_nil_iff.2
    intro name member
    obtain ⟨bound, isBound, rfl⟩ := List.mem_map.1 member
    simp [exposed bound isBound]
  rw [unexpected, none, List.mergeSort_nil]

/-- Two runs of a script on exposed names that agree on each name the script mentions, in what it stands
for and in whether it is given at all, take as many steps and the same items and end with the same value
or the same error. So do runs for a truth value. -/
theorem scripts_see_mentioned_names_only (script : Script) (budget : Budget) {names others : Scope}
    (exposed : ∀ bound ∈ names, bound.1 ∈ exposedNames)
    (othersExposed : ∀ bound ∈ others, bound.1 ∈ exposedNames)
    (agree : ∀ name ∈ script.tree.names, names.lookup name = others.lookup name) :
    (∀ cursors,
      (script.outcome budget names cursors).result = (script.outcome budget others cursors).result ∧
      (script.outcome budget names cursors).steps = (script.outcome budget others cursors).steps ∧
      (script.outcome budget names cursors).cursors = (script.outcome budget others cursors).cursors) ∧
    script.run budget names = script.run budget others ∧
    script.decide budget names = script.decide budget others := by
  have alike (cursors : Cursors) :
      (script.outcome budget names cursors).result = (script.outcome budget others cursors).result ∧
      (script.outcome budget names cursors).steps = (script.outcome budget others cursors).steps ∧
      (script.outcome budget names cursors).cursors =
        (script.outcome budget others cursors).cursors := by
    have ⟨same, alongside⟩ := finish_alongside script budget agree cursors
    exact ⟨same, alongside.steps, alongside.cursors⟩
  have runsAlike : script.run budget names = script.run budget others := by
    have sameResult (cursors : Cursors) := (alike cursors).1
    have sameCursors (cursors : Cursors) := (alike cursors).2.2
    simp only [Script.run, obstacle?, unexpected_of_exposed exposed,
      unexpected_of_exposed othersExposed, sameResult, sameCursors]
  refine ⟨alike, runsAlike, ?_⟩
  rw [Script.decide, Script.decide, runsAlike]

/-- The script `asked = action; return asked == "read"`. -/
def asksToRead : Script :=
  ⟨.block [.assign 1 [.name 1 "asked" .store] (.name 1 "action" .load),
    .returnValue 2 (some (.compare 2 (.name 2 "asked" .load) [.equal] [.constant 2 (.str "read")]))],
    by decide⟩

theorem scripts_see_mentioned_names_only_secret :
    let given : Scope := [("action", .str "read"), ("context", .str "secret")]
    let other : Scope := [("user", .str "ann"), ("action", .str "read")]
    (∀ name ∈ asksToRead.tree.names, given.lookup name = other.lookup name) ∧
      (other.lookup "context").isNone ∧
      asksToRead.decide usualLimits given = asksToRead.decide usualLimits other := by
  intro given other
  have mentioned : asksToRead.tree.names = ["asked", "action", "asked"] := by decide
  have agree : ∀ name ∈ asksToRead.tree.names, given.lookup name = other.lookup name := by
    rw [mentioned]
    intro name member
    simp only [List.mem_cons, List.not_mem_nil, or_false] at member
    obtain rfl | rfl | rfl := member <;> rfl
  have ⟨_, _, sameVerdict⟩ := @scripts_see_mentioned_names_only asksToRead usualLimits given other
    (by decide) (by decide) agree
  exact ⟨agree, rfl, sameVerdict⟩

end Authorization.Script
