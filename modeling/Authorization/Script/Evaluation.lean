import Authorization.Script.Acceptance
import Authorization.Script.Method
import Authorization.Script.Run
import Authorization.Value.Attribute
import Authorization.Value.Element

/-!
# Evaluation of scripts

The meaning of a tree, by recursion on it. Every expression and every statement takes a step before
anything else, and so does every item that a loop or a comprehension goes through. What a step computes
is limited in size.

A comprehension binds names only for itself: each item starts from the names that are bound around its
clause.
-/

namespace Authorization.Script

/-! ## Operators -/

/-- A value that can be repeated or added at a known length. -/
def sequenceLength? : Value → Option Nat
  | .str content => some content.length
  | .list items | .tuple items => some items.length
  | _ => none

def isAbove (value : Value) (bound : Nat) : Bool :=
  match Value.compareNumbers? value (.int bound), Value.compareNumbers? value (.int (-bound)) with
  | some above, some below => above == .gt || below == .lt
  | _, _ => false

def checkPower (budget : Budget) (left right : Value) : Eval Unit := do
  if right.isReal && isAbove right budget.limits.maxExponent then
    match right.text? with
    | some text => Eval.breach (.exponent text)
    | none => Eval.ofExcept (fault .value "Exceeds the limit for integer string conversion")
  else match left.asInt?, right.asInt? with
    | some base, some exponent =>
      if exponent > 0 ∧ Number.bitLength base * exponent > maxIntBits then Eval.breach .powerSize
    | _, _ => return ()

def checkProduct (budget : Budget) (left right : Value) : Eval Unit :=
  let (sequence, count) := if right.asInt?.isSome then (left, right) else (right, left)
  match sequenceLength? sequence, count.asInt? with
  | some length, some n =>
    if length * n > budget.limits.maxSequenceLength then Eval.breach .repetition else return ()
  | _, _ => return ()

def checkSum (budget : Budget) (left right : Value) : Eval Unit :=
  match sequenceLength? left, sequenceLength? right with
  | some length, some more =>
    if length + more > budget.limits.maxSequenceLength then Eval.breach .concatenation
    else return ()
  | _, _ => return ()

/-- Lets the operands of an operator pass, unless it is known beforehand that the result is too long or
too great. -/
def checkOperands (budget : Budget) (operator : BinaryOperator) (left right : Value) : Eval Unit :=
  match operator with
  | .power => checkPower budget left right
  | .modulo =>
    match left with
    | .str _ => Eval.refuse .textFormatting
    | _ => return ()
  | .multiply => checkProduct budget left right
  | .add => checkSum budget left right
  | _ => return ()

/-- Applies an operator to two values. -/
def combine (operator : BinaryOperator) (left right : Value) : Eval Value :=
  match operator with
  | .add => Eval.ofExcept (left.add right)
  | .subtract => Eval.ofDraw (left.subtract right)
  | .multiply => Eval.ofExcept (left.multiply right)
  | .divide => Eval.ofExcept (left.divide right)
  | .floorDivide => Eval.ofExcept (left.floorDivide right)
  | .modulo => Eval.ofExcept (left.modulo right)
  | .power => Eval.ofExcept (left.power right)
  | _ => Eval.unsupported (.expression operator.construct)

/-- The value of an operator, within its limits. -/
def operate (budget : Budget) (operator : BinaryOperator) (left right : Value) : Eval Value := do
  checkOperands budget operator left right
  budget.checkSize (← combine operator left right)

/-- Applies a sign or a negation. -/
def applyUnary (operator : UnaryOperator) (operand : Value) : Eval Value :=
  match operator with
  | .negation => return .bool (!operand.truthy)
  | .minus => Eval.ofExcept operand.negate
  | .plus => Eval.ofExcept operand.affirm
  | .invert => Eval.unsupported (.expression operator.construct)

def ordered (relation : Value.Relation) (left right : Value) : Eval Bool :=
  match Value.related? relation left right with
  | some outcome => return outcome
  | none => Eval.ofExcept <|
    fault .type ("'" ++ left.kindName ++ "' and '" ++ right.kindName ++ "' have no order")

/-- Compares two values. Where they leave it open whether they are one object, it is said. -/
def compareValues (isOne : Bool) (operator : Comparison) (left right : Value) : Eval Bool :=
  match operator with
  | .equal => Eval.ofExcept (Value.compared (Value.equalOrShare? isOne left right))
  | .notEqual => return !(← Eval.ofExcept (Value.compared (Value.equalOrShare? isOne left right)))
  | .less => ordered .less left right
  | .lessOrEqual => ordered .lessOrEqual left right
  | .greater => ordered .greater left right
  | .greaterOrEqual => ordered .greaterOrEqual left right
  | .identical => return Value.identical isOne left right
  | .notIdentical => return !Value.identical isOne left right
  | .member => Eval.ofDraw (Value.isMemberOrShares isOne left right)
  | .notMember => return !(← Eval.ofDraw (Value.isMemberOrShares isOne left right))

/-! ## Names, attributes and elements -/

/-- The value of a name that every script knows: a function, or one of the constant words, which are
names when they are spelled with other characters of the same meaning. -/
def knownValue? (name : String) : Option Value :=
  match name with
  | "None" => some .null
  | "True" => some (.bool true)
  | "False" => some (.bool false)
  | _ => (Builtin.ofName? name).map .builtin

/-- The value of a name: what it is bound to, or what every script knows it as. -/
def lookup (name : String) : Eval Value := do
  Eval.record (.lookup name)
  match (← get).scope.lookup name with
  | some value => return value
  | none =>
    match knownValue? name with
    | some value => return value
    | none => Eval.refuse (.unbound name)

def isPlainData : Value → Bool
  | .str _ | .list _ | .tuple _ | .set .. | .int _ | .float _ | .bool _ => true
  | _ => false

/-- The attribute of a value that a script may see: an entry of a mapping under its name, or an
attribute of an object. A missing one is nothing, and an operation is refused. -/
def readAttribute (base : Value) (name : String) : Eval Value := do
  Eval.record (.attribute name)
  if isPrivate name then Eval.unsupported (.privateAttribute name)
  else
    let pass (value : Value) : Eval Value :=
      if value.isCallable then Eval.refuse (.callableAttribute name) else return value
    match base.entries? with
    | some entries => pass ((Value.lookupText? entries name).getD .null)
    | none =>
      if isPlainData base then Eval.refuse (.attributeOfData base.kindName)
      else pass ((base.attribute? name).getD .null)

def hasElements : Value → Bool
  | .dict _ | .proxy _ | .str _ | .list _ | .tuple _ => true
  | _ => false

def bindAll : List Expression → List Value → Eval Unit
  | .name _ identifier _ :: targets, value :: values => do
    Eval.bindName identifier value
    bindAll targets values
  | target :: _, _ :: _ => Eval.unsupported (.expression target.construct)
  | _, _ => return ()

/-- Binds the names of a target to a value, or to its items. -/
def assign (target : Expression) (value : Value) : Eval Unit := do
  match target with
  | .name _ identifier _ => Eval.bindName identifier value
  | .tuple _ elements _ =>
    Eval.handle value
    let values ← Eval.ofDraw value.items
    if values.length = elements.length then bindAll elements values
    else Eval.refuse .unpacking
  | _ => Eval.unsupported (.expression target.construct)

/-! ## Calls -/

/-- What is called: a function, or a method of a value. -/
inductive Callee where
  | function (function : Builtin)
  | method (base : Value) (name : String)

/-- A method that scripts may call on a value. -/
def methodOf (base : Value) (name : String) : Eval Callee := do
  Eval.record (.attribute name)
  if (Method.listed base).contains name then return .method base name
  else Eval.refuse (.unlistedMethod name base.kindName)

/-- A function that scripts may call. -/
def functionOf (value : Value) : Eval Callee :=
  match value with
  | .builtin f => return .function f
  | _ => Eval.refuse .unlistedFunction

/-- A value may be given as an argument unless it can be called and is none of the functions. -/
def checkArgument (value : Value) : Eval Unit :=
  match value with
  | .builtin _ => return ()
  | _ => if value.isCallable then Eval.refuse .unlistedArgument else return ()

/-- A value can be gone through, but has no length. -/
def isUnsized : Value → Bool
  | .oneShot .. => true
  | .object _ attributes =>
    (attributes.lookup "__iter__").isSome && (attributes.lookup "__len__").isNone
  | _ => false

/-- Lets the arguments of a function pass that goes through the whole of them. -/
def checkSized (budget : Budget) : List Value → Eval Unit
  | [] => return ()
  | value :: rest => do
    if isUnsized value then Eval.refuse .unsizedArgument
    let _ ← budget.checkSize value
    checkSized budget rest

def textLength : Value → Nat
  | .str content => content.length
  | _ => 0

/-- The parts of a text to be joined, unless they are too many or together too long. -/
def joinable (budget : Budget) (value : Value) : Eval Value := do
  let parts ← Eval.ofDraw value.items
  let _ ← budget.checkSize (.list parts)
  let total := parts.foldl (fun length part => length + textLength part) 0
  if total > budget.limits.maxSequenceLength then Eval.breach .joining
  return .list parts

/-- Lets the arguments of a call pass. The parts of a text to be joined are collected first. -/
def prepare (budget : Budget) (callee : Callee) (arguments : List Value)
    (named : List (String × Value)) : Eval (List Value) := do
  arguments.forM checkArgument
  named.forM fun argument => checkArgument argument.2
  match callee, arguments with
  | .function f, _ => do
    if f.isMaterializing then checkSized budget arguments
    return arguments
  | .method _ "join", parts :: rest => return (← joinable budget parts) :: rest
  | .method .., _ => return arguments

/-- The result of a function or a method. -/
def carryOut (budget : Budget) (callee : Callee) (arguments : List Value)
    (named : List (String × Value)) : Eval Value := do
  match callee with
  | .function f => budget.checkSize (← Eval.ofDraw (f.apply arguments named))
  | .method base name => budget.checkSize (← Eval.ofDraw (Method.apply base name arguments named))

/-- The value that a method is called on. -/
def Callee.bases : Callee → List Value
  | .function _ => []
  | .method base _ => [base]

/-- Calls a function or a method. -/
def call (budget : Budget) (callee : Callee) (arguments : List Value)
    (named : List (String × Value)) : Eval Value := do
  (callee.bases ++ arguments ++ named.map Prod.snd).forM Eval.handle
  let passed ← prepare budget callee arguments named
  passed.forM Eval.handle
  carryOut budget callee passed named

/-! ## Comprehensions -/

/-- What a comprehension has built; items are kept in reverse. -/
inductive Sink where
  | list (reversed : List Value)
  | set (members : List Value)
  | dict (entries : List (Value × Value))

namespace Sink

/-- Nothing yet. -/
def empty : Collector → Sink
  | .list | .generator => .list []
  | .set => .set []

/-- What has been built, as a value. -/
def value : Sink → Value
  | .list reversed => .list reversed.reverse
  | .set members => .set false members
  | .dict entries => .dict entries

/-- The number of items, members or entries. -/
def length : Sink → Nat
  | .list items | .set items => items.length
  | .dict entries => entries.length

/-- Adds an item or a member. -/
def insert (sink : Sink) (item : Value) : Except Error Sink :=
  match sink with
  | .set members =>
    if !item.hashable then unhashable item
    else if members.any (Value.equal item) then .ok sink
    else .ok (.set (item :: members))
  | .list reversed => .ok (.list (item :: reversed))
  | .dict _ => .ok sink

/-- Adds an entry. -/
def store (sink : Sink) (key item : Value) : Except Error Sink :=
  match sink with
  | .dict entries =>
    if key.hashable then .ok (.dict (Value.store key item entries)) else unhashable key
  | _ => .ok sink

end Sink

def checkSink (budget : Budget) (sink : Sink) : Eval Sink :=
  if sink.length > budget.limits.maxSequenceLength then Eval.breach (.length sink.length)
  else return sink

/-! ## Expressions -/

mutual

/-- The value of an expression. -/
def eval (budget : Budget) : Expression → Eval Value
  | .constant _ literal => do
    budget.tick
    return literal.toValue
  | .name _ identifier _ => do
    budget.tick
    lookup identifier
  | .boolean _ operator operands => do
    budget.tick
    evalBoolean budget operator operands
  | .unary _ operator operand => do
    budget.tick
    applyUnary operator (← eval budget operand)
  | .binary _ left operator right => do
    budget.tick
    let a ← eval budget left
    let b ← eval budget right
    operate budget operator a b
  | .compare _ left operators operands => do
    budget.tick
    return .bool (← evalChain budget left (← eval budget left) operators operands)
  | .conditional _ test body orElse => do
    budget.tick
    if (← eval budget test).truthy then eval budget body else eval budget orElse
  | .list _ elements _ => do
    budget.tick
    budget.checkSize (.list (← evalAll budget elements))
  | .tuple _ elements _ => do
    budget.tick
    budget.checkSize (.tuple (← evalAll budget elements))
  | .set _ elements => do
    budget.tick
    budget.checkSize (← evalMembers budget (.set []) elements).value
  | .dict _ entries => do
    budget.tick
    budget.checkSize (← evalEntries budget (.dict []) entries).value
  | .attribute _ base name _ => do
    budget.tick
    readAttribute (← eval budget base) name
  | .subscript _ base index _ => do
    budget.tick
    let container ← eval budget base
    if !hasElements container then Eval.refuse (.notSubscriptable container.kindName)
    else
      let place ← eval budget index
      budget.checkSize (← Eval.ofExcept (container.element place))
  | .slice _ lower upper step => do
    budget.tick
    let first ← evalOption budget lower
    let last ← evalOption budget upper
    return .slice first last (← evalOption budget step)
  | .call _ (.attribute _ base name _) arguments keywords => do
    budget.tick
    let callee ← methodOf (← eval budget base) name
    let values ← evalAll budget arguments
    call budget callee values (← evalKeywords budget [] keywords)
  | .call _ function arguments keywords => do
    budget.tick
    let callee ← functionOf (← eval budget function)
    let values ← evalAll budget arguments
    call budget callee values (← evalKeywords budget [] keywords)
  | .comprehension _ collector element clauses => do
    budget.tick
    let emit (sink : Sink) : Eval Sink := do
      let item ← eval budget element
      checkSink budget (← Eval.ofExcept (sink.insert item))
    return (← comprehend budget clauses emit (Sink.empty collector)).value
  | .dictComprehension _ key value clauses => do
    budget.tick
    let emit (sink : Sink) : Eval Sink := do
      let k ← eval budget key
      let item ← eval budget value
      checkSink budget (← Eval.ofExcept (sink.store k item))
    return (← comprehend budget clauses emit (.dict [])).value
  | .starred _ _ => do
    budget.tick
    Eval.unsupported (.expression "Starred")
  | .foreign _ construct => do
    budget.tick
    Eval.unsupported (.expression construct.construct)

/-- The values of expressions, from left to right. -/
def evalAll (budget : Budget) : List Expression → Eval (List Value)
  | [] => return []
  | e :: rest => do
    let value ← eval budget e
    return value :: (← evalAll budget rest)

/-- The value of an optional expression; nothing when it is missing. -/
def evalOption (budget : Budget) : Option Expression → Eval Value
  | none => return .null
  | some e => eval budget e

/-- The members of a set, each added before the next is computed. -/
def evalMembers (budget : Budget) (sink : Sink) : List Expression → Eval Sink
  | [] => return sink
  | e :: rest => do
    let member ← eval budget e
    evalMembers budget (← Eval.ofExcept (sink.insert member)) rest

/-- The entries of a mapping, each added before the next is computed. -/
def evalEntries (budget : Budget) (sink : Sink) : List Entry → Eval Sink
  | [] => return sink
  | .mk key value :: rest => do
    let k ← evalOption budget key
    let item ← eval budget value
    evalEntries budget (← Eval.ofExcept (sink.store k item)) rest

/-- Named arguments. A name that occurs again keeps its place and takes the later value. -/
def evalKeywords (budget : Budget) (named : List (String × Value)) :
    List Keyword → Eval (List (String × Value))
  | [] => return named
  | .mk _ name e :: rest => do
    let value ← eval budget e
    match name with
    | some name =>
      Eval.record (.argument name)
      let others := if (named.lookup name).isSome then
          named.map fun argument => if argument.1 == name then (name, value) else argument
        else named ++ [(name, value)]
      evalKeywords budget others rest
    | none => Eval.unsupported (.expression "keyword")

/-- A conjunction ends at the first operand that counts as false, a disjunction at the first that counts
as true; the value is that of the last operand computed. -/
def evalBoolean (budget : Budget) (operator : BoolOperator) : List Expression → Eval Value
  | [] => return .bool (operator == .conjunction)
  | [last] => eval budget last
  | e :: rest => do
    let value ← eval budget e
    if value.truthy == (operator == .conjunction) then evalBoolean budget operator rest
    else return value

/-- A chain of comparisons holds when each neighbouring pair compares; it ends at the first that does
not. The left operand comes with its value, which is not computed again. -/
def evalChain (budget : Budget) (operand : Expression) (left : Value) :
    List Comparison → List Expression → Eval Bool
  | operator :: operators, e :: rest => do
    let right ← eval budget e
    if ← compareValues (budget.isOne operand e) operator left right then
      evalChain budget e right operators rest
    else return false
  | _, _ => return true

/-- All conditions count as true; they are computed up to the first that does not. -/
def evalConditions (budget : Budget) : List Expression → Eval Bool
  | [] => return true
  | e :: rest => do
    if (← eval budget e).truthy then evalConditions budget rest else return false

/-- Goes through the clauses of a comprehension from the outermost inwards, and emits once for each
choice of items that meets the conditions. -/
def comprehend (budget : Budget) : List Clause → (Sink → Eval Sink) → Sink → Eval Sink
  | [], emit, sink => emit sink
  | .mk target source conditions _ :: rest, emit, sink => do
    let items ← eval budget source
    budget.forEach items sink fun item sink => do
      budget.tick
      Eval.within do
        assign target item
        if ← evalConditions budget conditions then
          return .yield (← comprehend budget rest emit sink)
        else return .yield sink

end

/-! ## Statements -/

/-- How a statement ends. -/
inductive Completion where
  | normal
  | broke
  | continued
  | returned (value : Value)

/-- A round of a loop: whether the loop goes on after it. -/
def afterRound (completion : Completion) : ForInStep Completion :=
  match completion with
  | .normal | .continued => .yield .normal
  | .broke => .done .normal
  | .returned value => .done (.returned value)

mutual

/-- Executes a statement. -/
def exec (budget : Budget) : Statement → Eval Completion
  | .expression _ value => do
    budget.tick
    let _ ← eval budget value
    return .normal
  | .assign _ targets value => do
    budget.tick
    let result ← eval budget value
    targets.forM fun target => assign target result
    return .normal
  | .augmentedAssign _ target operator value => do
    budget.tick
    match target with
    | .name _ identifier _ =>
      let current ← lookup identifier
      let operand ← eval budget value
      Eval.bindName identifier (← operate budget operator current operand)
      return .normal
    | _ => Eval.unsupported (.expression target.construct)
  | .branch _ test body orElse => do
    budget.tick
    if (← eval budget test).truthy then execBlock budget body else execBlock budget orElse
  | .forLoop _ target source body _ => do
    budget.tick
    let items ← eval budget source
    budget.forEach items .normal fun item _ => do
      budget.tick
      assign target item
      return afterRound (← execBlock budget body)
  | .whileLoop _ test body _ => do
    budget.tick
    Eval.loop (fun _ => do
      if (← eval budget test).truthy then return afterRound (← execBlock budget body)
      else return .done .normal) budget.rounds .normal
  | .breakLoop _ => do
    budget.tick
    return .broke
  | .continueLoop _ => do
    budget.tick
    return .continued
  | .pass _ => do
    budget.tick
    return .normal
  | .returnValue _ value => do
    budget.tick
    return .returned (← evalOption budget value)
  | .foreign _ construct => do
    budget.tick
    Eval.unsupported (.statement construct.construct)

/-- Executes statements until one does not end normally. -/
def execBlock (budget : Budget) : List Statement → Eval Completion
  | [] => return .normal
  | statement :: rest => do
    match ← exec budget statement with
    | .normal => execBlock budget rest
    | completion => return completion

end

/-- The value of a tree: of its expression, or what its block returns. -/
def Tree.eval (budget : Budget) : Tree → Eval Value
  | .expression body => Script.eval budget body
  | .block body => do
    match ← execBlock budget body with
    | .returned value => return value
    | .normal => return .null
    | .broke | .continued => Eval.refuse .looseLoopControl

/-! ## Running a script -/

/-- The names that a script is given. -/
def exposedNames : List String := ["user", "resource", "action", "context", "attributes"]

/-- How a run has ended, and what it has done until then. -/
structure Outcome where
  result : Except Stop Value
  steps : Nat
  cursors : Cursors
  accesses : List Access
  handled : List Value

end Script

namespace Script

/-- Runs a script from names and cursors. -/
def outcome (script : Script) (budget : Budget) (names : Scope) (cursors : Cursors) : Outcome :=
  let (result, run) := Id.run ((script.tree.eval budget).run.run { scope := names, cursors })
  ⟨result, run.steps, run.cursors, run.accesses, run.handled⟩

/-- An error that ends a run. A loop has more rounds than there may be steps, so that an unfinished one
has gone beyond the limit of steps. -/
def Stop.error (budget : Budget) : Stop → Error
  | .failed error => error
  | .unsupported refusal => .refused refusal
  | .unfinished => .limit (.steps budget.limits.maxSteps)

def unexpected (names : Scope) : List String :=
  let found := (names.map Prod.fst).filter fun name => !exposedNames.contains name
  found.mergeSort fun a b => Value.compareTexts a b != .gt

/-- What keeps a script from being run: names that it may not see, or a limit of seconds without a
deadline. -/
def obstacle? (budget : Budget) (names : Scope) : Option Error :=
  if !(unexpected names).isEmpty then some (.refused (.unexpectedNames (unexpected names)))
  else match budget.deadline with
    | .ok _ => none
    | .error error => some error

/-- Runs a script on the names that it may see. -/
def run (script : Script) (budget : Budget) (names : Scope) : Draw Value := do
  if let some error := obstacle? budget names then throw error
  let ended := script.outcome budget names (← get)
  set ended.cursors
  match ended.result with
  | .ok value => return value
  | .error stop => throw (stop.error budget)

/-- Runs a script for a truth value; every other result counts as false. -/
def decide (script : Script) (budget : Budget) (names : Scope) : Draw Bool := do
  return ((← script.run budget names).asBool?).getD false

end Script

end Authorization
