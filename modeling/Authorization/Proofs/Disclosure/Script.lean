import Authorization.Proofs.Disclosure.Operation
import Authorization.Proofs.Result

/-!
# Runs of scripts on what names disclose

Two runs of a script from names whose values disclose the same take the same steps and the same items,
use the same names, and end in one error or in values that disclose the same. Scripts get at attributes
by their names only, and private names are refused before a script runs.
-/

namespace Authorization.Script

open Value Eval

variable {α β : Type} {budget : Budget}

/-- The run with what the values of its names, and those that it has handled, disclose. -/
def Run.disclosed (run : Run) : Run :=
  { run with scope := run.scope.map disclosedField, handled := run.handled.map Value.disclosed }

theorem Run.disclosed_eq_iff {run other : Run} :
    run.disclosed = other.disclosed ↔
      run.steps = other.steps ∧
        run.scope.map disclosedField = other.scope.map disclosedField ∧
          run.cursors = other.cursors ∧ run.accesses = other.accesses ∧
            run.handled.map Value.disclosed = other.handled.map Value.disclosed := by
  simp [Run.disclosed]

/-- From runs that disclose the same, two parts come to runs that disclose the same, and end in one
error or in related values. -/
def Resemble (related : α → α → Prop) (part other : Eval α) : Prop :=
  ∀ run otherRun, run.disclosed = otherRun.disclosed →
    (perform part run).2.disclosed = (perform other otherRun).2.disclosed ∧
      Except.Related related (perform part run).1 (perform other otherRun).1

/-! ## Parts put together -/

theorem Resemble.mono {related weaker : α → α → Prop} {part other : Eval α}
    (resemble : Resemble related part other)
    (implies : ∀ {value other}, related value other → weaker value other) :
    Resemble weaker part other := by
  intro run otherRun same
  obtain ⟨sameRun, results⟩ := resemble run otherRun same
  exact ⟨sameRun, results.mono implies⟩

theorem resemble_pure {related : α → α → Prop} {a b : α} (values : related a b) :
    Resemble related (pure a) (pure b) :=
  fun _ _ same => ⟨same, .ok values⟩

theorem resemble_fail {related : α → α → Prop} (error : Error) :
    Resemble related (fail error) (fail error) :=
  fun _ _ same => ⟨same, .error _⟩

theorem Resemble.bind {related : α → α → Prop} {final : β → β → Prop} {part other : Eval α}
    {next otherNext : α → Eval β} (first : Resemble related part other)
    (rest : ∀ a b, related a b → Resemble final (next a) (otherNext b)) :
    Resemble final (part >>= next) (other >>= otherNext) := by
  intro run otherRun same
  obtain ⟨sameRun, results⟩ := first run otherRun same
  rw [perform_bind, perform_bind]
  generalize perform part run = ending at sameRun results
  generalize perform other otherRun = otherEnding at sameRun results
  obtain ⟨result, after⟩ := ending
  obtain ⟨otherResult, otherAfter⟩ := otherEnding
  cases results with
  | error stop => exact ⟨sameRun, .error stop⟩
  | ok values => exact rest _ _ values after otherAfter sameRun

theorem perform_map (write : α → β) (part : Eval α) (run : Run) :
    perform (write <$> part) run =
      ((perform part run).1.map write, (perform part run).2) := by
  rw [← bind_pure_comp, perform_bind]
  rcases perform part run with ⟨_ | value, after⟩ <;> rfl

/-- Parts that only compute on values resemble each other when their results disclose the same. -/
theorem resemble_of_map_eq {write : α → β} {part other : Eval α} (plain : Plain part)
    (plainOther : Plain other) (same : write <$> part = write <$> other) :
    Resemble (fun value other => write value = write other) part other := by
  intro run otherRun sameRun
  obtain ⟨draw, rfl⟩ := plain
  obtain ⟨otherDraw, rfl⟩ := plainOther
  rw [Run.disclosed_eq_iff] at sameRun
  obtain ⟨steps, scope, cursors, others⟩ := sameRun
  have performed := congrArg (fun part => perform part otherRun) same
  simp only [perform_map, perform_ofDraw, Prod.mk.injEq] at performed
  rw [perform_ofDraw, perform_ofDraw, cursors]
  have taken := congrArg Run.cursors performed.2
  exact ⟨Run.disclosed_eq_iff.2 ⟨steps, scope, taken, others⟩, .of_map_eq performed.1⟩

theorem resemble_same {part : Eval α} (plain : Plain part) : Resemble Eq part part := by
  have same : id <$> part = id <$> part := rfl
  exact resemble_of_map_eq plain plain same

theorem resemble_tick : Resemble Eq budget.tick budget.tick := by
  intro run otherRun same
  obtain ⟨steps, others⟩ := Run.disclosed_eq_iff.1 same
  rw [perform_tick, perform_tick, steps]
  exact ⟨Run.disclosed_eq_iff.2 ⟨rfl, others⟩, .same _⟩

theorem resemble_record (access : Access) : Resemble Eq (record access) (record access) := by
  intro run otherRun same
  obtain ⟨steps, scope, cursors, accesses, handled⟩ := Run.disclosed_eq_iff.1 same
  rw [perform_record, perform_record, accesses]
  exact ⟨Run.disclosed_eq_iff.2 ⟨steps, scope, cursors, rfl, handled⟩, .ok rfl⟩

theorem resemble_handle {a b : Value} (values : a.Resembles b) :
    Resemble Eq (handle a) (handle b) := by
  intro run otherRun same
  obtain ⟨steps, scope, cursors, accesses, handled⟩ := Run.disclosed_eq_iff.1 same
  have noted : (a :: run.handled).map Value.disclosed = (b :: otherRun.handled).map Value.disclosed := by
    rw [List.map_cons, List.map_cons, handled, values]
  rw [perform_handle, perform_handle]
  exact ⟨Run.disclosed_eq_iff.2 ⟨steps, scope, cursors, accesses, noted⟩, .ok rfl⟩

theorem map_bind_disclosed (scope : Scope) (name : String) (value : Value) :
    (scope.bind name value).map disclosedField =
      (Scope.bind (scope.map disclosedField) name value.disclosed : List (String × Value)) := by
  simp only [Scope.bind, List.map_cons, List.filter_map]
  rfl

theorem resemble_bindName (name : String) {a b : Value} (values : a.Resembles b) :
    Resemble Eq (bindName name a) (bindName name b) := by
  intro run otherRun same
  obtain ⟨steps, scope, cursors, accesses, handled⟩ := Run.disclosed_eq_iff.1 same
  have noted : (a :: run.handled).map Value.disclosed = (b :: otherRun.handled).map Value.disclosed := by
    rw [List.map_cons, List.map_cons, handled, values]
  have bound : (run.scope.bind name a).map disclosedField =
      (otherRun.scope.bind name b).map disclosedField := by
    rw [map_bind_disclosed, map_bind_disclosed, scope, values]
  rw [perform_bindName, perform_bindName, accesses]
  exact ⟨Run.disclosed_eq_iff.2 ⟨steps, bound, cursors, rfl, noted⟩, .ok rfl⟩

theorem resemble_lookup (name : String) : Resemble Resembles (lookup name) (lookup name) := by
  intro run otherRun same
  obtain ⟨steps, scope, cursors, accesses, handled⟩ := Run.disclosed_eq_iff.1 same
  have found : (run.scope.lookup name).map disclosed =
      (otherRun.scope.lookup name).map disclosed := by
    rw [← lookup_disclosedField, scope, lookup_disclosedField]
  have noted : Run.disclosed { run with accesses := .lookup name :: run.accesses } =
      Run.disclosed { otherRun with accesses := .lookup name :: otherRun.accesses } := by
    rw [accesses]
    exact Run.disclosed_eq_iff.2 ⟨steps, scope, cursors, rfl, handled⟩
  rw [perform_lookup, perform_lookup]
  cases bound : run.scope.lookup name with
  | none =>
      have unbound : otherRun.scope.lookup name = none := by
        rwa [bound, Option.map_none, eq_comm, Option.map_eq_none_iff] at found
      rw [unbound]
      cases knownValue? name with
      | none => exact ⟨noted, .error _⟩
      | some value => exact ⟨noted, .ok (.refl value)⟩
  | some value =>
      rw [bound, Option.map_some, eq_comm, Option.map_eq_some_iff] at found
      obtain ⟨other, isOther, values⟩ := found
      rw [isOther]
      exact ⟨noted, .ok values.symm⟩

theorem Resemble.within {related : α → α → Prop} {part other : Eval α}
    (resemble : Resemble related part other) :
    Resemble related (Eval.within part) (Eval.within other) := by
  intro run otherRun same
  obtain ⟨sameRun, results⟩ := resemble run otherRun same
  rw [perform_within, perform_within]
  generalize perform part run = ending at sameRun results
  generalize perform other otherRun = otherEnding at sameRun results
  obtain ⟨result, after⟩ := ending
  obtain ⟨otherResult, otherAfter⟩ := otherEnding
  cases results with
  | error stop => exact ⟨sameRun, .error stop⟩
  | ok values =>
      rw [Run.disclosed_eq_iff] at same sameRun
      exact ⟨Run.disclosed_eq_iff.2 ⟨sameRun.1, same.2.1, sameRun.2.2⟩, .ok values⟩

/-! ## Loops -/

theorem resemble_loop {related : α → α → Prop} {step other : α → Eval (ForInStep α)}
    (each : ∀ a b, related a b → Resemble (RoundAlike related) (step a) (other b))
    (rounds : Nat) {a b : α} (states : related a b) :
    Resemble related (loop step rounds a) (loop other rounds b) := by
  induction rounds generalizing a b with
  | zero => exact fun run otherRun same => ⟨same, .error _⟩
  | succ rounds inductionHypothesis =>
      refine (each a b states).bind fun first second round => ?_
      cases round with
      | done states => exact resemble_pure states
      | yield states => exact inductionHypothesis states

def disclosedStep (found : Value × Iteration) : Value × Iteration :=
  (found.1.disclosed, found.2.disclosed)

theorem plain_advance (walk : Iteration) : Plain (advance walk) :=
  ⟨modifyGet walk.next?, rfl⟩

theorem advance_disclosed (walk : Iteration) :
    advance walk.disclosed = Option.map disclosedStep <$> advance walk := by
  refine Eval.ext fun run => ?_
  rw [perform_map, perform_advance, perform_advance, Iteration.next?_disclosed]
  rfl

theorem resemble_forEach {related : α → α → Prop}
    {body other : Value → α → Eval (ForInStep α)}
    (each : ∀ v w, v.Resembles w → ∀ a b, related a b →
      Resemble (RoundAlike related) (body v a) (other w b))
    {source otherSource : Value} (sources : source.Resembles otherSource) {a b : α}
    (states : related a b) :
    Resemble related (budget.forEach source a body) (budget.forEach otherSource b other) := by
  let places : Iteration × α → Iteration × α → Prop := fun first second =>
    first.1.disclosed = second.1.disclosed ∧ related first.2 second.2
  have visited (first second : Iteration × α) (same : places first second) :
      Resemble (RoundAlike places) (visit body first) (visit other second) := by
    obtain ⟨walks, states⟩ := same
    have advanced : Option.map disclosedStep <$> advance first.1 =
        Option.map disclosedStep <$> advance second.1 := by
      rw [← advance_disclosed, walks, advance_disclosed]
    refine (resemble_of_map_eq (plain_advance _) (plain_advance _) advanced).bind
      fun item? other? items => ?_
    cases item? with
    | none =>
        have isNone : other? = none := by
          rwa [Option.map_none, eq_comm, Option.map_eq_none_iff] at items
        subst isNone
        exact resemble_pure (.done ⟨walks, states⟩)
    | some found =>
        rw [Option.map_some, eq_comm, Option.map_eq_some_iff] at items
        obtain ⟨otherFound, rfl, same⟩ := items
        obtain ⟨values, rests⟩ := Prod.mk.inj same
        refine (resemble_handle values.symm).bind fun _ _ _ => ?_
        refine (each found.1 otherFound.1 values.symm first.2 second.2 states).bind
          fun _ _ round => ?_
        cases round with
        | done states => exact resemble_pure (.done ⟨rests.symm, states⟩)
        | yield states => exact resemble_pure (.yield ⟨rests.symm, states⟩)
  have walks : Iteration.disclosed <$> ofExcept source.iteration =
      Iteration.disclosed <$> ofExcept otherSource.iteration := by
    rw [← ofExcept_eq_map (iteration_disclosed source), sources,
      ← ofExcept_eq_map (iteration_disclosed otherSource)]
  rw [forEach_eq, forEach_eq]
  refine (resemble_handle sources).bind fun _ _ _ => ?_
  refine (resemble_of_map_eq (plain_ofExcept _) (plain_ofExcept _) walks).bind
    fun walk otherWalk same => ?_
  have start : places (walk, a) (otherWalk, b) := ⟨same, states⟩
  exact (resemble_loop visited budget.rounds start).bind fun _ _ last => resemble_pure last.2

/-! ## Likeness -/

theorem forall₂_entryAlike_iff {a b : List (Value × Value)} :
    List.Forall₂ (EntryAlike Resembles) a b ↔ a.map disclosedEntry = b.map disclosedEntry := by
  rw [← forall₂_map_eq_iff]
  refine iff_of_eq (congrArg (fun alike => List.Forall₂ alike a b) ?_)
  funext first second
  simp [EntryAlike, disclosedEntry, Resembles]

theorem forall₂_namedAlike_iff {a b : List (String × Value)} :
    List.Forall₂ (NamedAlike Resembles) a b ↔ a.map disclosedField = b.map disclosedField := by
  rw [← forall₂_map_eq_iff]
  refine iff_of_eq (congrArg (fun alike => List.Forall₂ alike a b) ?_)
  funext first second
  simp [NamedAlike, disclosedField, Resembles]

theorem Sink.alike_iff {a b : Sink} : Sink.Alike Resembles a b ↔ a.disclosed = b.disclosed := by
  constructor
  · intro sinks
    cases sinks with
    | list items => exact congrArg Sink.list (forall₂_resembles_iff.1 items)
    | set members => exact congrArg Sink.set (forall₂_resembles_iff.1 members)
    | dict entries => exact congrArg Sink.dict (forall₂_entryAlike_iff.1 entries)
  · intro same
    cases a with
    | list items =>
        cases b with
        | list others => exact .list (forall₂_resembles_iff.2 (Sink.list.inj same))
        | _ => cases same
    | set members =>
        cases b with
        | set others => exact .set (forall₂_resembles_iff.2 (Sink.set.inj same))
        | _ => cases same
    | dict entries =>
        cases b with
        | dict others => exact .dict (forall₂_entryAlike_iff.2 (Sink.dict.inj same))
        | _ => cases same

theorem Callee.alike_iff {a b : Callee} :
    Callee.Alike Resembles a b ↔ a.disclosed = b.disclosed := by
  constructor
  · intro callees
    cases callees with
    | function f => rfl
    | method bases name => exact congrArg (Callee.method · name) bases
  · intro same
    cases a with
    | function f =>
        cases b with
        | function g => exact Callee.function.inj same ▸ .function f
        | method base name => cases same
    | method base name =>
        cases b with
        | function f => cases same
        | method other otherName =>
            obtain ⟨bases, rfl⟩ := Callee.method.inj same
            exact .method (show base.Resembles other from bases) name

/-- What values disclose goes with how they are put together, and no test of a script gets behind it. -/
theorem likeness_resembles : Likeness Resembles where
  null := .refl _
  bool _ := .refl _
  list items := by
    rw [Resembles, disclosed_list, disclosed_list, forall₂_resembles_iff.1 items]
  tuple items := by
    rw [Resembles, disclosed_tuple, disclosed_tuple, forall₂_resembles_iff.1 items]
  set members := by
    rw [Resembles, disclosed_set, disclosed_set, forall₂_resembles_iff.1 members]
  dict entries := by
    rw [Resembles, disclosed_dict, disclosed_dict, forall₂_entryAlike_iff.1 entries]
  slice lower upper step := by
    rw [Resembles, disclosed_slice, disclosed_slice, lower, upper, step]
  truthy values := values.same truthy_disclosed
  hasElements values := values.same hasElements_disclosed
  kindName values := values.same kindName_disclosed

/-! ## Runs of scripts -/

/-- Two runs of a script from names whose values disclose the same resemble each other. -/
def disclosure (budget : Budget) : Simulation budget budget where
  alike := Resembles
  likeness := likeness_resembles
  admits _ := True
  literal _ := .refl _
  Together := Resemble
  Paying := Resemble
  together parts := parts
  pure := resemble_pure
  bind first rest := first.bind rest
  payingBind first rest := first.bind rest
  tick := resemble_tick
  within parts := parts.within
  loop each start := resemble_loop each budget.rounds start
  forEach sources start each := resemble_forEach each sources start
  lookup _ := resemble_lookup _
  bindName _ values := resemble_bindName _ values
  handle values := resemble_handle values
  argument _ := resemble_record _
  refuse refusal _ := resemble_fail _
  items {a b} values := by
    refine (resemble_of_map_eq (plain_ofDraw _) (plain_ofDraw _) ?_).mono forall₂_resembles_iff.2
    rw [← ofDraw_eq_map (items_disclosed a), values, ofDraw_eq_map (items_disclosed b)]
  checkSize {a b} values := by
    refine resemble_of_map_eq (budget.plain_checkSize a) (budget.plain_checkSize b) ?_
    rw [← checkSize_disclosed, values, checkSize_disclosed]
  applyUnary {operator a b} offered values := by
    refine resemble_of_map_eq (plain_applyUnary offered a) (plain_applyUnary offered b) ?_
    rw [← applyUnary_disclosed offered, values, applyUnary_disclosed offered]
  operate {operator a b a' b'} offered left right := by
    refine resemble_of_map_eq (plain_operate budget offered a b)
      (plain_operate budget offered a' b') ?_
    rw [← operate_disclosed budget offered, left, right, operate_disclosed budget offered]
  compareValues e e' operator {a b a' b'} left right := by
    have same : compareValues (budget.isOne e e') operator a b =
        compareValues (budget.isOne e e') operator a' b' := by
      rw [← compareValues_disclosed, left, right, compareValues_disclosed]
    rw [same]
    exact resemble_same (plain_compareValues _ operator a' b')
  readAttribute {name a b} isPublic values := by
    rw [readAttribute_eq a isPublic, readAttribute_eq b isPublic]
    refine (resemble_record _).bind fun _ _ _ => ?_
    refine resemble_of_map_eq (plain_publicAttribute a name) (plain_publicAttribute b name) ?_
    rw [← publicAttribute_disclosed a isPublic, values, publicAttribute_disclosed b isPublic]
  element {a b a' b'} left right := by
    refine resemble_of_map_eq (plain_ofExcept _) (plain_ofExcept _) ?_
    rw [← ofExcept_eq_map (element_disclosed a b), left, right,
      ofExcept_eq_map (element_disclosed a' b')]
  methodOf {name a b} _ values := by
    rw [methodOf_eq, methodOf_eq]
    refine (resemble_record _).bind fun _ _ _ => ?_
    refine (resemble_of_map_eq (plain_listedMethod a name) (plain_listedMethod b name) ?_).mono
      Callee.alike_iff.2
    rw [← listedMethod_disclosed, values, listedMethod_disclosed]
  functionOf {a b} values := by
    refine (resemble_of_map_eq (plain_functionOf a) (plain_functionOf b) ?_).mono
      Callee.alike_iff.2
    rw [← functionOf_disclosed, values, functionOf_disclosed]
  prepare {a b values others named otherNamed} callees positional given := by
    refine (resemble_of_map_eq (plain_prepare budget a values named)
      (plain_prepare budget b others otherNamed) ?_).mono forall₂_resembles_iff.2
    rw [← prepare_disclosed, Callee.alike_iff.1 callees, forall₂_resembles_iff.1 positional,
      forall₂_namedAlike_iff.1 given, prepare_disclosed]
  carryOut {a b values others named otherNamed} callees positional given := by
    refine resemble_of_map_eq (plain_carryOut budget a values named)
      (plain_carryOut budget b others otherNamed) ?_
    rw [← carryOut_disclosed, Callee.alike_iff.1 callees, forall₂_resembles_iff.1 positional,
      forall₂_namedAlike_iff.1 given, carryOut_disclosed]
  insert {a b v w} sinks items := by
    refine (resemble_of_map_eq (plain_ofExcept _) (plain_ofExcept _) ?_).mono Sink.alike_iff.2
    rw [← ofExcept_eq_map (a.insert_disclosed v), Sink.alike_iff.1 sinks, items,
      ofExcept_eq_map (b.insert_disclosed w)]
  store {a b key key' v w} sinks keys items := by
    refine (resemble_of_map_eq (plain_ofExcept _) (plain_ofExcept _) ?_).mono Sink.alike_iff.2
    rw [← ofExcept_eq_map (a.store_disclosed key v), Sink.alike_iff.1 sinks, keys, items,
      ofExcept_eq_map (b.store_disclosed key' w)]
  checkSink {a b} sinks := by
    refine (resemble_of_map_eq (plain_checkSink budget a) (plain_checkSink budget b) ?_).mono
      Sink.alike_iff.2
    rw [← checkSink_disclosed, Sink.alike_iff.1 sinks, checkSink_disclosed]

/-- A script cannot tell names apart whose values disclose the same: its run takes the same steps and
items, uses the same names, and ends in one error or in values that disclose the same. -/
theorem outcome_resembles (script : Script) (budget : Budget) {names others : Scope}
    (same : names.map disclosedField = others.map disclosedField) (cursors : Cursors) :
    Except.Related Resembles (script.outcome budget names cursors).result
        (script.outcome budget others cursors).result ∧
      (script.outcome budget names cursors).steps = (script.outcome budget others cursors).steps ∧
      (script.outcome budget names cursors).cursors =
        (script.outcome budget others cursors).cursors ∧
      (script.outcome budget names cursors).accesses =
        (script.outcome budget others cursors).accesses := by
  have start : Run.disclosed { scope := names, cursors } =
      Run.disclosed { scope := others, cursors } :=
    Run.disclosed_eq_iff.2 ⟨rfl, same, rfl, rfl, rfl⟩
  obtain ⟨sameRun, results⟩ := (disclosure budget).script script (fun _ _ => trivial) (resemble_fail _) _ _
    start
  obtain ⟨steps, -, taken, accesses, -⟩ := Run.disclosed_eq_iff.1 sameRun
  exact ⟨results, steps, taken, accesses⟩

end Authorization.Script
