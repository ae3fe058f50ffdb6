import Authorization.Value.Basic

/-!
# Syntax of scripts

The syntax tree of a script: one expression, or a block of statements. Every node has the number of
the line on which it begins. Constructs that no script may use are kept by name and line alone
(`ForeignExpression`, `ForeignStatement`): they are recognised only to be refused by name, and what
they contain is never looked at. Operators that may not be used stand beside those that may.
-/

namespace Authorization.Script

/-- How a name, attribute, element or sequence is used. -/
inductive Context where
  | load | store | del
deriving DecidableEq, Repr

inductive BoolOperator where
  | conjunction | disjunction
deriving DecidableEq, Repr

inductive BinaryOperator where
  | add | subtract | multiply | divide | floorDivide | modulo | power
  | matrixMultiply | leftShift | rightShift | bitOr | bitXor | bitAnd
deriving DecidableEq, Repr

inductive UnaryOperator where
  | negation | minus | plus | invert
deriving DecidableEq, Repr

inductive Comparison where
  | equal | notEqual | less | lessOrEqual | greater | greaterOrEqual
  | identical | notIdentical | member | notMember
deriving DecidableEq, Repr

/-- Expressions that no script may use. -/
inductive ForeignExpression where
  | namedExpression | lambda | await | yield | yieldFrom | joinedText | formattedText
deriving DecidableEq, Repr

/-- Statements that no script may use. -/
inductive ForeignStatement where
  | function | asyncFunction | classDefinition | delete | annotatedAssignment | asyncFor
  | withBlock | asyncWithBlock | matchBlock | raise | tryBlock | tryStarBlock | assertion
  | importNames | importFrom | globalNames | nonlocalNames
deriving DecidableEq, Repr

/-- What a comprehension builds from its element expression. -/
inductive Collector where
  | list | set | generator
deriving DecidableEq, Repr

/-- What a script can spell out. -/
inductive Literal where
  | null
  | bool (flag : Bool)
  | int (number : Int)
  | float (number : Float)
  | complex (real imaginary : Float)
  | str (text : String)
  | bytes (octets : List UInt8)
  | ellipsis

/-- The value that is spelled out. -/
def Literal.toValue : Literal → Value
  | .null => .null
  | .bool flag => .bool flag
  | .int number => .int number
  | .float number => .float number
  | .complex real imaginary => .complex real imaginary
  | .str text => .str text
  | .bytes octets => .bytes octets
  | .ellipsis => .ellipsis

mutual

/-- Expressions. -/
inductive Expression where
  | boolean (line : Nat) (operator : BoolOperator) (operands : List Expression)
  | binary (line : Nat) (left : Expression) (operator : BinaryOperator) (right : Expression)
  | unary (line : Nat) (operator : UnaryOperator) (operand : Expression)
  | conditional (line : Nat) (test body orElse : Expression)
  | dict (line : Nat) (entries : List Entry)
  | set (line : Nat) (elements : List Expression)
  | list (line : Nat) (elements : List Expression) (context : Context)
  | tuple (line : Nat) (elements : List Expression) (context : Context)
  | comprehension (line : Nat) (collector : Collector) (element : Expression)
      (clauses : List Clause)
  | dictComprehension (line : Nat) (key value : Expression) (clauses : List Clause)
  | compare (line : Nat) (left : Expression) (operators : List Comparison)
      (operands : List Expression)
  | call (line : Nat) (function : Expression) (arguments : List Expression)
      (keywords : List Keyword)
  | constant (line : Nat) (literal : Literal)
  | attribute (line : Nat) (base : Expression) (name : String) (context : Context)
  | subscript (line : Nat) (base index : Expression) (context : Context)
  | slice (line : Nat) (lower upper step : Option Expression)
  | name (line : Nat) (identifier : String) (context : Context)
  | starred (line : Nat) (operand : Expression)
  | foreign (line : Nat) (construct : ForeignExpression)

/-- An entry of a mapping; without a key, a mapping unpacked. -/
inductive Entry where
  | mk (key : Option Expression) (value : Expression)

/-- One `for … in … if …` part of a comprehension. -/
inductive Clause where
  | mk (target source : Expression) (conditions : List Expression) (isAsync : Bool)

/-- A keyword argument; without a name, an unpacked mapping. -/
inductive Keyword where
  | mk (line : Nat) (name : Option String) (value : Expression)

end

instance : Inhabited Expression :=
  ⟨.constant 0 .null⟩

/-- Statements. -/
inductive Statement where
  | expression (line : Nat) (value : Expression)
  | assign (line : Nat) (targets : List Expression) (value : Expression)
  | augmentedAssign (line : Nat) (target : Expression) (operator : BinaryOperator)
      (value : Expression)
  | branch (line : Nat) (test : Expression) (body orElse : List Statement)
  | forLoop (line : Nat) (target source : Expression) (body orElse : List Statement)
  | whileLoop (line : Nat) (test : Expression) (body orElse : List Statement)
  | breakLoop (line : Nat)
  | continueLoop (line : Nat)
  | pass (line : Nat)
  | returnValue (line : Nat) (value : Option Expression)
  | foreign (line : Nat) (construct : ForeignStatement)

/-- A parsed script. -/
inductive Tree where
  | expression (body : Expression)
  | block (body : List Statement)

namespace Entry

def key : Entry → Option Expression
  | .mk key _ => key

def value : Entry → Expression
  | .mk _ value => value

end Entry

namespace Clause

def target : Clause → Expression
  | .mk target _ _ _ => target

def source : Clause → Expression
  | .mk _ source _ _ => source

def conditions : Clause → List Expression
  | .mk _ _ conditions _ => conditions

def isAsync : Clause → Bool
  | .mk _ _ _ isAsync => isAsync

end Clause

namespace Keyword

def line : Keyword → Nat
  | .mk line _ _ => line

def name : Keyword → Option String
  | .mk _ name _ => name

def value : Keyword → Expression
  | .mk _ _ value => value

end Keyword

/-- The line on which an expression begins. -/
def Expression.line : Expression → Nat
  | .boolean line .. | .binary line .. | .unary line .. | .conditional line .. | .dict line ..
  | .set line .. | .list line .. | .tuple line .. | .comprehension line ..
  | .dictComprehension line .. | .compare line .. | .call line .. | .constant line _
  | .attribute line .. | .subscript line .. | .slice line .. | .name line ..
  | .starred line _ | .foreign line _ => line

/-- The line on which a statement begins. -/
def Statement.line : Statement → Nat
  | .expression line _ | .assign line .. | .augmentedAssign line .. | .branch line ..
  | .forLoop line .. | .whileLoop line .. | .breakLoop line | .continueLoop line | .pass line
  | .returnValue line _ | .foreign line _ => line

/-! ## Names of constructs -/

def Context.construct : Context → String
  | .load => "Load"
  | .store => "Store"
  | .del => "Del"

def BoolOperator.construct : BoolOperator → String
  | .conjunction => "And"
  | .disjunction => "Or"

def BinaryOperator.construct : BinaryOperator → String
  | .add => "Add"
  | .subtract => "Sub"
  | .multiply => "Mult"
  | .divide => "Div"
  | .floorDivide => "FloorDiv"
  | .modulo => "Mod"
  | .power => "Pow"
  | .matrixMultiply => "MatMult"
  | .leftShift => "LShift"
  | .rightShift => "RShift"
  | .bitOr => "BitOr"
  | .bitXor => "BitXor"
  | .bitAnd => "BitAnd"

def UnaryOperator.construct : UnaryOperator → String
  | .negation => "Not"
  | .minus => "USub"
  | .plus => "UAdd"
  | .invert => "Invert"

def Comparison.construct : Comparison → String
  | .equal => "Eq"
  | .notEqual => "NotEq"
  | .less => "Lt"
  | .lessOrEqual => "LtE"
  | .greater => "Gt"
  | .greaterOrEqual => "GtE"
  | .identical => "Is"
  | .notIdentical => "IsNot"
  | .member => "In"
  | .notMember => "NotIn"

def ForeignExpression.construct : ForeignExpression → String
  | .namedExpression => "NamedExpr"
  | .lambda => "Lambda"
  | .await => "Await"
  | .yield => "Yield"
  | .yieldFrom => "YieldFrom"
  | .joinedText => "JoinedStr"
  | .formattedText => "FormattedValue"

def ForeignStatement.construct : ForeignStatement → String
  | .function => "FunctionDef"
  | .asyncFunction => "AsyncFunctionDef"
  | .classDefinition => "ClassDef"
  | .delete => "Delete"
  | .annotatedAssignment => "AnnAssign"
  | .asyncFor => "AsyncFor"
  | .withBlock => "With"
  | .asyncWithBlock => "AsyncWith"
  | .matchBlock => "Match"
  | .raise => "Raise"
  | .tryBlock => "Try"
  | .tryStarBlock => "TryStar"
  | .assertion => "Assert"
  | .importNames => "Import"
  | .importFrom => "ImportFrom"
  | .globalNames => "Global"
  | .nonlocalNames => "Nonlocal"

def Expression.construct : Expression → String
  | .boolean .. => "BoolOp"
  | .binary .. => "BinOp"
  | .unary .. => "UnaryOp"
  | .conditional .. => "IfExp"
  | .dict .. => "Dict"
  | .set .. => "Set"
  | .list .. => "List"
  | .tuple .. => "Tuple"
  | .comprehension _ .list .. => "ListComp"
  | .comprehension _ .set .. => "SetComp"
  | .comprehension _ .generator .. => "GeneratorExp"
  | .dictComprehension .. => "DictComp"
  | .compare .. => "Compare"
  | .call .. => "Call"
  | .constant .. => "Constant"
  | .attribute .. => "Attribute"
  | .subscript .. => "Subscript"
  | .slice .. => "Slice"
  | .name .. => "Name"
  | .starred .. => "Starred"
  | .foreign _ construct => construct.construct

def Statement.construct : Statement → String
  | .expression .. => "Expr"
  | .assign .. => "Assign"
  | .augmentedAssign .. => "AugAssign"
  | .branch .. => "If"
  | .forLoop .. => "For"
  | .whileLoop .. => "While"
  | .breakLoop _ => "Break"
  | .continueLoop _ => "Continue"
  | .pass _ => "Pass"
  | .returnValue .. => "Return"
  | .foreign _ construct => construct.construct

/-! ## Height -/

mutual

/-- The length of the longest path down an expression. -/
def Expression.height : Expression → Nat
  | .boolean _ _ operands => heightOfList operands + 1
  | .binary _ left _ right => max left.height right.height + 1
  | .unary _ _ operand => operand.height + 1
  | .conditional _ test body orElse => max test.height (max body.height orElse.height) + 1
  | .dict _ entries => heightOfEntries entries + 1
  | .set _ elements => heightOfList elements + 1
  | .list _ elements _ => heightOfList elements + 1
  | .tuple _ elements _ => heightOfList elements + 1
  | .comprehension _ _ element clauses => max element.height (heightOfClauses clauses) + 1
  | .dictComprehension _ key value clauses =>
    max (max key.height value.height) (heightOfClauses clauses) + 1
  | .compare _ left _ operands => max left.height (heightOfList operands) + 1
  | .call _ function arguments keywords =>
    max function.height (max (heightOfList arguments) (heightOfKeywords keywords)) + 1
  | .constant .. => 1
  | .attribute _ base _ _ => base.height + 1
  | .subscript _ base index _ => max base.height index.height + 1
  | .slice _ lower upper step =>
    max (heightOfOption lower) (max (heightOfOption upper) (heightOfOption step)) + 1
  | .name .. => 1
  | .starred _ operand => operand.height + 1
  | .foreign .. => 1

def heightOfList : List Expression → Nat
  | [] => 0
  | e :: rest => max e.height (heightOfList rest)

def heightOfOption : Option Expression → Nat
  | none => 0
  | some e => e.height

def heightOfEntries : List Entry → Nat
  | [] => 0
  | .mk key value :: rest => max (max (heightOfOption key) value.height) (heightOfEntries rest)

def Clause.height : Clause → Nat
  | .mk target source conditions _ =>
    max target.height (max source.height (heightOfList conditions)) + 1

def heightOfClauses : List Clause → Nat
  | [] => 0
  | clause :: rest => max clause.height (heightOfClauses rest)

def Keyword.height : Keyword → Nat
  | .mk _ _ value => value.height + 1

def heightOfKeywords : List Keyword → Nat
  | [] => 0
  | keyword :: rest => max keyword.height (heightOfKeywords rest)

end

mutual

/-- The length of the longest path down a statement. -/
def Statement.height : Statement → Nat
  | .expression _ value => value.height + 1
  | .assign _ targets value => max (heightOfList targets) value.height + 1
  | .augmentedAssign _ target _ value => max target.height value.height + 1
  | .branch _ test body orElse =>
    max test.height (max (heightOfBlock body) (heightOfBlock orElse)) + 1
  | .forLoop _ target source body orElse =>
    max (max target.height source.height) (max (heightOfBlock body) (heightOfBlock orElse)) + 1
  | .whileLoop _ test body orElse =>
    max test.height (max (heightOfBlock body) (heightOfBlock orElse)) + 1
  | .breakLoop _ | .continueLoop _ | .pass _ | .foreign .. => 1
  | .returnValue _ value => heightOfOption value + 1

def heightOfBlock : List Statement → Nat
  | [] => 0
  | statement :: rest => max statement.height (heightOfBlock rest)

end

/-- The length of the longest path down a script. -/
def Tree.height : Tree → Nat
  | .expression body => body.height + 1
  | .block body => heightOfBlock body + 1

/-- Two expressions are one name. -/
def Expression.areOneName : Expression → Expression → Bool
  | .name _ a _, .name _ b _ => a == b
  | _, _ => false

end Authorization.Script

/-!
## Machines

What decides about a script besides its text and the names that it is given is a matter of the machine.
How far its stack reaches tells which texts can be parsed and whether a run gets to its end; its clock
tells how long a run takes; and values do not tell which of them are one object. A machine is taken as it
is: everything that depends on one holds for each. Of a machine it is assumed that it takes to a script in
the same way each time, and that it takes no items from one-shot sequences for a run that it breaks off.
What two machines that differ in their pace say of one script is compared where it matters.
-/

namespace Authorization

/-- How a machine gets on with runs of scripts: the seconds that its clock shows at the `n`-th reading of
a run, and whether a run is broken off because the stack is full. -/
structure Pace where
  clock : Script.Tree → Nat → Float
  breaksOff : Script.Tree → Bool

/-- A machine that reads and runs scripts. -/
class Host where
  /-- The greatest height of a tree that the stack has room for. -/
  maxHeight : Nat
  /-- The most signs before an operand that the stack has room for. -/
  maxSigns : Nat
  pace : Pace
  /-- What two operands of a comparison come to is one object, or counts as equal for an undefined number
  that both share, as far as the values leave that open. Two operands get the same answer throughout a
  run: to compute one of them once more does not change it. -/
  isOne : Script.Expression → Script.Expression → Bool
  /-- What a field of a path holds counts as equal to a given value, or as a part of it, for an undefined
  number that both share. -/
  shares : (path : String) → Value → Bool

namespace Host

/-- A machine whose clock stands still and whose stack is never full during a run; values that need not
be one object are none, but for those of one name. -/
scoped instance still : Host where
  maxHeight := 2960
  maxSigns := 5900
  pace := ⟨fun _ _ => 0.0, fun _ => false⟩
  isOne := Script.Expression.areOneName
  shares _ _ := false

/-- The same machine at another pace. -/
@[reducible]
def paced [host : Host] (pace : Pace) : Host :=
  { host with pace }

end Host

end Authorization
