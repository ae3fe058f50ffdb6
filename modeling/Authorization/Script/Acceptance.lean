import Authorization.Script.Tree

/-!
# Accepted scripts

A tree is looked at level by level, from the root down and from left to right, and the first node that
no script may have is reported. Operators, contexts and the clauses of a comprehension are nodes
without a line.

A `Script` is a tree in which there is no such node.
-/

namespace Authorization.Script

/-- A node of a tree. -/
inductive Node where
  | root (tree : Tree)
  | statement (statement : Statement)
  | expression (expression : Expression)
  | clause (clause : Clause)
  | keyword (keyword : Keyword)
  | boolOperator (operator : BoolOperator)
  | binaryOperator (operator : BinaryOperator)
  | unaryOperator (operator : UnaryOperator)
  | comparison (operator : Comparison)
  | context (context : Context)

namespace Node

def ofOption (e : Option Expression) : List Node :=
  e.toList.map .expression

/-- The nodes directly below an expression. -/
def belowExpression : Expression → List Node
  | .boolean _ operator operands => .boolOperator operator :: operands.map .expression
  | .binary _ left operator right => [.expression left, .binaryOperator operator, .expression right]
  | .unary _ operator operand => [.unaryOperator operator, .expression operand]
  | .conditional _ test body orElse => [.expression test, .expression body, .expression orElse]
  | .dict _ entries =>
    entries.flatMap (fun entry => ofOption entry.key) ++
      entries.map fun entry => .expression entry.value
  | .set _ elements => elements.map .expression
  | .list _ elements use | .tuple _ elements use => elements.map .expression ++ [.context use]
  | .comprehension _ _ element clauses => .expression element :: clauses.map .clause
  | .dictComprehension _ key value clauses =>
    .expression key :: .expression value :: clauses.map .clause
  | .compare _ left operators operands =>
    .expression left :: operators.map .comparison ++ operands.map .expression
  | .call _ function arguments keywords =>
    .expression function :: arguments.map .expression ++ keywords.map .keyword
  | .constant .. | .foreign .. => []
  | .attribute _ base _ use => [.expression base, .context use]
  | .subscript _ base index use => [.expression base, .expression index, .context use]
  | .slice _ lower upper step => ofOption lower ++ ofOption upper ++ ofOption step
  | .name _ _ use => [.context use]
  | .starred _ operand => [.expression operand]

/-- The nodes directly below a statement. -/
def belowStatement : Statement → List Node
  | .expression _ value => [.expression value]
  | .assign _ targets value => targets.map .expression ++ [.expression value]
  | .augmentedAssign _ target operator value =>
    [.expression target, .binaryOperator operator, .expression value]
  | .branch _ test body orElse =>
    .expression test :: body.map .statement ++ orElse.map .statement
  | .forLoop _ target source body orElse =>
    .expression target :: .expression source :: body.map .statement ++ orElse.map .statement
  | .whileLoop _ test body orElse =>
    .expression test :: body.map .statement ++ orElse.map .statement
  | .returnValue _ value => ofOption value
  | .breakLoop _ | .continueLoop _ | .pass _ | .foreign .. => []

/-- The nodes directly below a node, from left to right. -/
def children : Node → List Node
  | .root (.expression body) => [.expression body]
  | .root (.block body) => body.map .statement
  | .statement s => belowStatement s
  | .expression e => belowExpression e
  | .clause c => .expression c.target :: .expression c.source :: c.conditions.map .expression
  | .keyword k => [.expression k.value]
  | _ => []

end Node

/-- A name that scripts may not use. -/
def isPrivate (name : String) : Bool :=
  name.toList.head? == some '_'

namespace Expression

def isName : Expression → Bool
  | .name .. => true
  | _ => false

/-- What a value can be assigned to: a name, or a tuple of names. -/
def isTarget : Expression → Bool
  | .name .. => true
  | .tuple _ elements _ => elements.all isName
  | _ => false

/-- Why an expression is not accepted, apart from what lies below it. -/
def fault? : Expression → Option CompileFault
  | .foreign _ construct => some (.constructRefused construct.construct)
  | .starred .. => some (.constructRefused "Starred")
  | .name _ identifier _ => if isPrivate identifier then some (.nameRefused identifier) else none
  | .attribute _ _ field _ => if isPrivate field then some (.attributeRefused field) else none
  | .dict _ entries =>
    if entries.any (·.key.isNone) then some .mappingUnpacking else none
  | _ => none

end Expression

namespace Statement

/-- Why a statement is not accepted, apart from what lies below it. -/
def fault? : Statement → Option CompileFault
  | .foreign _ construct => some (.constructRefused construct.construct)
  | .assign _ targets _ => if targets.all Expression.isTarget then none else some .assignmentTarget
  | .augmentedAssign _ target _ _ => if target.isName then none else some .assignmentTarget
  | .forLoop _ target _ _ orElse =>
    if !target.isTarget then some .loopTarget
    else if !orElse.isEmpty then some .loopElse
    else none
  | .whileLoop _ _ _ orElse => if orElse.isEmpty then none else some .loopElse
  | _ => none

end Statement

namespace BinaryOperator

/-- Scripts may use the operator. -/
def isOffered : BinaryOperator → Bool
  | .add | .subtract | .multiply | .divide | .floorDivide | .modulo | .power => true
  | .matrixMultiply | .leftShift | .rightShift | .bitOr | .bitXor | .bitAnd => false

end BinaryOperator

namespace Node

def clauseFault? (clause : Clause) : Option CompileFault :=
  if !clause.target.isTarget then some .loopTarget
  else if clause.isAsync then some .asyncComprehension
  else none

def refusedUnless (isOffered : Bool) (construct : String) : Option CompileFault :=
  if isOffered then none else some (.constructRefused construct)

/-- Why a node is not accepted, with its line if it has one. -/
def fault? : Node → Option (CompileFault × Option Nat)
  | .statement s => s.fault?.map (·, some s.line)
  | .expression e => e.fault?.map (·, some e.line)
  | .clause c => (clauseFault? c).map (·, none)
  | .keyword k =>
    if k.name.all isPrivate then some (.keywordUnpacking, some k.line) else none
  | .binaryOperator operator =>
    (refusedUnless operator.isOffered operator.construct).map (·, none)
  | .unaryOperator operator =>
    (refusedUnless (operator != .invert) operator.construct).map (·, none)
  | .context use => (refusedUnless (use != .del) use.construct).map (·, none)
  | .root _ | .boolOperator _ | .comparison _ => none

/-- The first fault among the nodes of a level and the levels below it. -/
def firstFault? : (levels : Nat) → List Node → Option (CompileFault × Option Nat)
  | 0, _ => none
  | levels + 1, level =>
    match level.findSome? fault? with
    | some found => some found
    | none => if level.isEmpty then none else firstFault? levels (level.flatMap children)

end Node

/-- The first fault of a tree. No path is longer than the tree is high, and each may end in a context or
an operator. -/
def Tree.fault? (tree : Tree) : Option (CompileFault × Option Nat) :=
  Node.firstFault? (tree.height + 2) [.root tree]

end Authorization.Script

namespace Authorization

/-- A script that may be run: a tree without a fault. -/
structure Script where
  tree : Script.Tree
  isAccepted : tree.fault? = none

namespace Script

/-- Accepts a tree. -/
def ofTree (tree : Tree) : Except Error Script :=
  match h : tree.fault? with
  | some (found, line) => .error (.compile found line)
  | none => .ok ⟨tree, h⟩

/-- Reads a script: a text of limited length that is not blank. -/
def ofSource [Host] (source : Value) : Except Error Script :=
  match source with
  | .str text =>
    if (Text.trim text).isEmpty then .error (.compile .emptyCode none)
    else if text.length > maxSourceLength then .error (.compile .tooLong none)
    else if Text.holdsHalf text then fault .unencodable "half of a pair stands alone"
    else do ofTree (← Tree.ofText (Text.trim text))
  | _ => .error (.compile .emptyCode none)

end Script

end Authorization
