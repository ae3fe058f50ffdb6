import Authorization.Script.Grammar.Pattern

/-!
# The grammar of statements

A line of simple statements, or a compound statement with its blocks. Statements that scripts may not
use are parsed to the end, and only their kind and line are kept; a decorated definition has the line
of the definition.
-/

namespace Authorization.Script.Grammar

open Authorization.Script.Parser

/-- A block, as the statements it holds. -/
abbrev Block := Parser (List Statement)

/-! ## Simple statements -/

private def augmentedMarks : List (String × BinaryOperator) :=
  [("+=", .add), ("-=", .subtract), ("*=", .multiply), ("/=", .divide), ("//=", .floorDivide),
   ("%=", .modulo), ("**=", .power), ("@=", .matrixMultiply), ("<<=", .leftShift),
   (">>=", .rightShift), ("|=", .bitOr), ("^=", .bitXor), ("&=", .bitAnd)]

/-- An expression, or an assignment of one of the three kinds. -/
private def expressionOrAssignment (g : Grammar) : Parser Statement := do
  let line ← nextLine
  let first ← g.assigned
  if (← opt (symbol ":")).isSome then
    guard first.asSingleTarget?.isSome
    let _ ← g.expression
    let _ ← optAfter (symbol "=") g.assigned
    return .foreign line .annotatedAssignment
  else
    match ← opt (oneOf augmentedMarks) with
    | some operator =>
      match first.asSingleTarget? with
      | some target => return .augmentedAssign line target operator (← g.assigned)
      | none => failure
    | none =>
      let parts := first :: (← many (symbol "=" *> g.assigned))
      match parts.getLast?, Expression.asTargets? parts.dropLast with
      | some value, some targets =>
        if targets.isEmpty then return .expression line value
        else return .assign line targets value
      | _, _ => failure

mutual

/-- What can be deleted: names, attributes, elements, and sequences of these. -/
private def isDeletable : Expression → Bool
  | .name .. | .attribute .. | .subscript .. => true
  | .list _ elements _ | .tuple _ elements _ => areDeletable elements
  | _ => false

private def areDeletable : List Expression → Bool
  | [] => true
  | e :: rest => isDeletable e && areDeletable rest

end

private def deletion (g : Grammar) : Parser Unit := do
  let (found, _) ← listed g.primary
  guard (areDeletable found)

private def raising (g : Grammar) : Parser Unit := do
  if (← opt g.expression).isSome then
    let _ ← optAfter (keyword "from") g.expression

private def assertion (g : Grammar) : Parser Unit := do
  let _ ← g.expression
  let _ ← optAfter (symbol ",") g.expression

private def renamed : Parser Unit := do
  let _ ← name
  let _ ← optAfter (keyword "as") name

private def modulePath : Parser Unit := do
  let _ ← separated (symbol ".") name

private def importedModules : Parser Unit := do
  let _ ← separated (symbol ",") (do
    modulePath
    let _ ← optAfter (keyword "as") name)

private def importedFrom : Parser Unit := do
  let dots ← many (symbol "." <|> symbol "...")
  if dots.isEmpty then modulePath
  else
    let _ ← opt modulePath
  keyword "import"
  if (← opt (symbol "(")).isSome then
    let _ ← listed renamed
    symbol ")"
  else if (← opt (symbol "*")).isSome then return ()
  else
    let _ ← separated (symbol ",") renamed

private def simple (g : Grammar) : Parser Statement := do
  let line ← nextLine
  match (← next).kind with
  | .keyword word =>
    let leaf (statement : Statement) : Parser Statement := do
      keyword word
      return statement
    let foreign (construct : ForeignStatement) (rest : Parser Unit) : Parser Statement := do
      keyword word
      rest
      return .foreign line construct
    match word with
    | "pass" => leaf (.pass line)
    | "break" => leaf (.breakLoop line)
    | "continue" => leaf (.continueLoop line)
    | "return" =>
      keyword word
      return .returnValue line (← opt g.starExpressions)
    | "del" => foreign .delete g.deletion
    | "raise" => foreign .raise g.raising
    | "assert" => foreign .assertion g.assertion
    | "import" => foreign .importNames importedModules
    | "from" => foreign .importFrom importedFrom
    | "global" => foreign .globalNames (do let _ ← separated (symbol ",") name)
    | "nonlocal" => foreign .nonlocalNames (do let _ ← separated (symbol ",") name)
    | _ => g.expressionOrAssignment
  | _ => g.expressionOrAssignment

private def simpleLine (g : Grammar) : Block := do
  let statements ← separated (symbol ";") g.simple
  let _ ← opt (symbol ";")
  newline
  return statements

/-! ## Compound statements -/

private def orElse (block : Block) : Block := do
  if (← opt (keyword "else")).isSome then
    symbol ":"
    block
  else return []

/-- A test and its block. -/
private def tested (g : Grammar) (block : Block) : Parser (Expression × List Statement) := do
  let test ← g.named
  symbol ":"
  return (test, ← block)

private def branch (g : Grammar) (block : Block) : Parser Statement := do
  let line ← nextLine
  keyword "if"
  let (test, body) ← g.tested block
  let others ← many (do
    let line ← nextLine
    keyword "elif"
    return (line, ← g.tested block))
  let last ← orElse block
  let rest := others.foldr
    (fun (line, test, body) orElse => [Statement.branch line test body orElse]) last
  return .branch line test body rest

private def whileLoop (g : Grammar) (block : Block) : Parser Statement := do
  let line ← nextLine
  keyword "while"
  let (test, body) ← g.tested block
  return .whileLoop line test body (← orElse block)

private def forLoop (g : Grammar) (block : Block) : Parser Statement := do
  let line ← nextLine
  keyword "for"
  let target ← g.targets
  keyword "in"
  let source ← g.starExpressions
  symbol ":"
  let body ← block
  return .forLoop line target source body (← orElse block)

private def withItem (g : Grammar) : Parser Unit := do
  let _ ← g.expression
  let _ ← optAfter (keyword "as") g.target

private def withItems (g : Grammar) : Parser Unit :=
  (do
    symbol "("
    let _ ← listed g.withItem
    symbol ")"
    symbol ":") <|>
  (do
    let _ ← separated (symbol ",") g.withItem
    symbol ":")

private def withBlock (g : Grammar) (block : Block) : Parser Unit := do
  keyword "with"
  g.withItems
  let _ ← block

private def handler (g : Grammar) (block : Block) (starred : Bool) : Parser Unit := do
  keyword "except"
  if starred then symbol "*"
  if starred || !(← fits (symbol ":")) then
    let _ ← g.expression
    let _ ← optAfter (keyword "as") name
  symbol ":"
  let _ ← block

private def startsStarred : Parser Unit := do
  keyword "except"
  symbol "*"

private def finallyBlock (block : Block) : Parser Unit := do
  keyword "finally"
  symbol ":"
  let _ ← block

private def tryBlock (g : Grammar) (block : Block) : Parser Statement := do
  let line ← nextLine
  keyword "try"
  symbol ":"
  let _ ← block
  if ← fits (keyword "finally") then
    finallyBlock block
    return .foreign line .tryBlock
  else
    let starred ← fits startsStarred
    let _ ← some1 (g.handler block starred)
    let _ ← orElse block
    let _ ← opt (finallyBlock block)
    return .foreign line (if starred then .tryStarBlock else .tryBlock)

private def function (g : Grammar) (block : Block) : Parser Unit := do
  keyword "def"
  let _ ← name
  symbol "("
  g.parameters true ")"
  let _ ← optAfter (symbol "->") g.expression
  symbol ":"
  let _ ← block

private def classDefinition (g : Grammar) (block : Block) : Parser Unit := do
  keyword "class"
  let _ ← name
  let _ ← optAfter (symbol "(") g.arguments
  symbol ":"
  let _ ← block

private def asyncFunction (g : Grammar) (block : Block) : Parser Unit := do
  keyword "async"
  g.function block

private def definition (g : Grammar) (block : Block) : Parser Statement := do
  let line ← nextLine
  match (← next).kind with
  | .keyword "def" =>
    g.function block
    return .foreign line .function
  | .keyword "class" =>
    g.classDefinition block
    return .foreign line .classDefinition
  | _ =>
    g.asyncFunction block
    return .foreign line .asyncFunction

private def decorated (g : Grammar) (block : Block) : Parser Statement := do
  let _ ← some1 (do
    symbol "@"
    let _ ← g.named
    newline)
  g.definition block

private def startsAsyncFunction : Parser Unit := do
  keyword "async"
  keyword "def"

private def asyncStatement (g : Grammar) (block : Block) : Parser Statement := do
  let line ← nextLine
  if ← fits startsAsyncFunction then g.definition block
  else
    keyword "async"
    if ← fits (keyword "for") then
      let _ ← g.forLoop block
      return .foreign line .asyncFor
    else
      g.withBlock block
      return .foreign line .asyncWithBlock

private def isBareStar : List Expression × Bool → Bool
  | ([.starred ..], false) => true
  | _ => false

private def case (g : Grammar) (block : Block) : Parser Unit := do
  word "case"
  Pattern.patterns g
  let _ ← optAfter (keyword "if") g.named
  symbol ":"
  let _ ← block

private def matchBlock (g : Grammar) (block : Block) : Parser Statement := do
  let line ← nextLine
  word "match"
  let subject ← listed (g.starredOr g.named)
  guard (!isBareStar subject)
  symbol ":"
  newline
  indent
  let _ ← some1 (g.case block)
  dedent
  return .foreign line .matchBlock

/-- A compound statement, or a line of simple ones. -/
private def statement (g : Grammar) (block : Block) : Block := do
  let single (parser : Parser Statement) : Block := do
    return [← parser]
  match (← next).kind with
  | .keyword "if" => single (g.branch block)
  | .keyword "while" => single (g.whileLoop block)
  | .keyword "for" => single (g.forLoop block)
  | .keyword "try" => single (g.tryBlock block)
  | .keyword "with" =>
    let line ← nextLine
    g.withBlock block
    return [.foreign line .withBlock]
  | .keyword "def" | .keyword "class" => single (g.definition block)
  | .keyword "async" => single (g.asyncStatement block)
  | .symbol "@" => single (g.decorated block)
  | .name "match" => single (g.matchBlock block) <|> g.simpleLine
  | _ => g.simpleLine

/-- A block of a compound statement, for a number of levels of nesting: indented statements, or
simple ones on the same line. -/
private def blockOfDepth (g : Grammar) : Nat → Block
  | 0 => failure
  | depth + 1 => do
    if (← opt newline).isSome then
      indent
      let statements ← some1 (g.statement (blockOfDepth g depth))
      dedent
      return statements.flatten
    else g.simpleLine

/-- As many statements as fit. -/
private def statements (g : Grammar) : Block := do
  return (← many (g.statement (blockOfDepth g maxBlocks))).flatten

/-- A whole script of statements. -/
def script (g : Grammar) : Block := do
  let found ← g.statements
  finish
  return found

/-- What remains after the statements at the front. -/
def afterStatements (g : Grammar) (tokens : List Token) : List Token :=
  ((g.statements tokens).map Prod.snd).getD tokens

/-- A whole script of one expression. -/
def loneExpression (g : Grammar) : Parser Expression := do
  let found ← g.expressions
  let _ ← many newline
  finish
  return found

end Authorization.Script.Grammar
