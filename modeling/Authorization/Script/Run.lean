import Authorization.Script.Limits
import Authorization.Script.Syntax
import Authorization.Value.Cursor
import Authorization.Value.Written

/-!
# Runs of scripts

A run counts its steps, binds names and takes items from one-shot sequences. It ends in a value or is
stopped by an error. Loops are bounded by more rounds than the limits allow steps, and every round
takes a step: a loop that runs out of rounds would have been stopped before (`Stop.unfinished`).

The evaluator knows more trees than scripts may be: at what no accepted script holds, it stops with a
refusal of its own (`Stop.unsupported`). A run keeps lists of the names that it has used and of the
values that it has handled: what it bound, passed to a call or went through.
-/

namespace Authorization.Script

/-- The names that are bound, with their values. -/
abbrev Scope := List (String × Value)

/-- Binds a name, in place of what it was bound to. -/
def Scope.bind (scope : Scope) (name : String) (value : Value) : Scope :=
  (name, value) :: scope.filter (·.1 != name)

/-- What a run works under: its limits, a clock that shows the seconds at its `n`-th reading, and which
operands of comparisons come to one object. The first reading is taken when the run starts, and one in
every step. -/
structure Budget where
  limits : Limits
  clock : Nat → Float
  isOne : Expression → Expression → Bool

/-- A use of a name: it is looked up, bound, asked for as an attribute or a method of a value, or given
to an argument. -/
inductive Access where
  | lookup (name : String)
  | binding (name : String)
  | attribute (name : String)
  | argument (name : String)
deriving DecidableEq, Repr

/-- The name that is used. -/
def Access.name : Access → String
  | .lookup name | .binding name | .attribute name | .argument name => name

/-- What a run has done so far; the latest use of a name and the latest value come first. -/
structure Run where
  steps : Nat := 0
  scope : Scope := []
  cursors : Cursors := {}
  accesses : List Access := []
  handled : List Value := []

/-- Why a run has stopped before its end. -/
inductive Stop where
  | failed (error : Error)
  | unsupported (refusal : Refusal)
  | unfinished

/-- A part of a run. -/
abbrev Eval := ExceptT Stop (StateM Run)

namespace Eval

/-- Stops the run with an error. -/
def fail {α : Type} (error : Error) : Eval α :=
  throw (.failed error)

/-- Stops the run because it tried what is not offered. -/
def refuse {α : Type} (refusal : Refusal) : Eval α :=
  fail (.refused refusal)

/-- Stops the run at something that no accepted script holds. -/
def unsupported {α : Type} (refusal : Refusal) : Eval α :=
  throw (.unsupported refusal)

/-- Stops the run because it went beyond a limit. -/
def breach {α : Type} (breach : Breach) : Eval α :=
  fail (.limit breach)

/-- The result of an operation on values, or its error. -/
def ofExcept {α : Type} : Except Error α → Eval α
  | .ok value => pure value
  | .error error => fail error

/-- An operation on values that may take items from one-shot sequences. -/
def ofDraw {α : Type} (draw : Draw α) : Eval α := do
  let run ← get
  let (result, cursors) := Id.run ((ExceptT.run draw).run run.cursors)
  set { run with cursors }
  ofExcept result

/-- Does something with further names bound, and forgets them afterwards. -/
def within {α : Type} (action : Eval α) : Eval α := do
  let saved := (← get).scope
  let result ← action
  modify fun run => { run with scope := saved }
  return result

/-- Notes the use of a name. -/
def record (access : Access) : Eval Unit :=
  modify fun run => { run with accesses := access :: run.accesses }

/-- Notes that a value is handled. -/
def handle (value : Value) : Eval Unit :=
  modify fun run => { run with handled := value :: run.handled }

/-- Binds a name. -/
def bindName (name : String) (value : Value) : Eval Unit := do
  record (.binding name)
  handle value
  modify fun run => { run with scope := run.scope.bind name value }

/-- Repeats a step until it says that it is done. -/
def loop {α : Type} (step : α → Eval (ForInStep α)) : (rounds : Nat) → α → Eval α
  | 0, _ => throw .unfinished
  | rounds + 1, state => do
    match ← step state with
    | .done result => return result
    | .yield next => loop step rounds next

end Eval

/-- A limit of seconds as a double; an integer may be too great for one. -/
def secondsOf (value : Value) : Except Error Float :=
  match value with
  | .float x => .ok x
  | _ =>
    match value.asInt?.bind Number.roundInt with
    | some x => .ok x
    | none => fault .overflow "int too large to convert to float"

namespace Budget

/-- The reading of the clock after which the time is over. -/
def deadline (budget : Budget) : Except Error Float :=
  (secondsOf budget.limits.maxSeconds).map (budget.clock 0 + ·)

/-- The `n`-th reading of the clock lies beyond the deadline. Where there is no deadline, there is no
time at all. -/
def isLate (budget : Budget) (n : Nat) : Bool :=
  match budget.deadline with
  | .ok deadline => budget.clock n > deadline
  | .error _ => true

/-- Takes a step, unless it is one too many or the time is over. -/
def tick (budget : Budget) : Eval Unit := do
  modify fun run => { run with steps := run.steps + 1 }
  let steps := (← get).steps
  if steps > budget.limits.maxSteps then Eval.breach (.steps budget.limits.maxSteps)
  else if budget.isLate steps then Eval.breach (.seconds budget.limits.maxSeconds.text)

/-- More rounds than any loop of the run can take. -/
def rounds (budget : Budget) : Nat :=
  budget.limits.maxSteps + 2

/-- The size of a value that is limited: of a container or a text, its length. -/
def limitedLength? : Value → Option Nat
  | .str content => some content.length
  | .list items | .tuple items | .set _ items => some items.length
  | .dict entries => some entries.length
  | .range start stop step => some (rangeLength start stop step)
  | _ => none

/-- A range may have more members than can be counted; nothing else has. -/
def isUncountable : Value → Bool
  | .range start stop step => rangeLength start stop step ≥ Nat.pow 2 63
  | _ => false

/-- Lets a value pass that is not too long or too great. -/
def checkSize (budget : Budget) (value : Value) : Eval Value :=
  match value with
  | .int n =>
    if Number.bitLength n > maxIntBits then Eval.breach .intSize else return value
  | _ =>
    match limitedLength? value with
    | none => return value
    | some length =>
      if isUncountable value then
        Eval.ofExcept (fault .overflow "the length is too great to be counted")
      else if length > budget.limits.maxSequenceLength then Eval.breach (.length length)
      else return value

/-- Goes through the items of a value. Each item updates a state or ends the walk. -/
def forEach {α : Type} (budget : Budget) (source : Value) (state : α)
    (body : Value → α → Eval (ForInStep α)) : Eval α := do
  Eval.handle source
  let first ← Eval.ofExcept source.iteration
  let step (place : Iteration × α) : Eval (ForInStep (Iteration × α)) := do
    let run ← get
    let (item?, cursors) := place.1.next? run.cursors
    set { run with cursors }
    match item? with
    | none => return .done place
    | some (item, rest) =>
      Eval.handle item
      match ← body item place.2 with
      | .done state => return .done (rest, state)
      | .yield state => return .yield (rest, state)
  return (← Eval.loop step budget.rounds (first, state)).2

end Budget

end Authorization.Script
