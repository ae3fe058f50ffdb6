import Authorization.Script.Grammar.Basic
import Authorization.Script.Grammar.Template
import Authorization.Script.Token.Scan

/-!
# The grammar of expressions

Operators bind from tightest to loosest: powers, signs, products, sums, shifts, the three bitwise
operators, comparisons, negation, conjunction, disjunction, the conditional. What stands inside
brackets is parsed by the same grammar one level further in, so that a level holds the parsers that
inner places need and the next level is built from it.

An expression begins on the line of its first token, brackets around its first operand included.
-/

namespace Authorization.Script

open Authorization.Script.Parser

namespace Expression

mutual

/-- An expression in the place of a target: names, attributes and elements, and sequences of
targets. -/
def asTarget? : Expression → Option Expression
  | .name line identifier _ => some (.name line identifier .store)
  | .attribute line base field _ => some (.attribute line base field .store)
  | .subscript line base index _ => some (.subscript line base index .store)
  | .starred line operand => (asTarget? operand).map (.starred line ·)
  | .list line elements _ => (asTargets? elements).map (.list line · .store)
  | .tuple line elements _ => (asTargets? elements).map (.tuple line · .store)
  | _ => none

/-- Every expression of a list in the place of a target. -/
def asTargets? : List Expression → Option (List Expression)
  | [] => some []
  | e :: rest => (asTarget? e).bind fun target => (asTargets? rest).map (target :: ·)

end

/-- A target that stands alone: a name, an attribute or an element. -/
def asSingleTarget? : Expression → Option Expression
  | .name line identifier _ => some (.name line identifier .store)
  | .attribute line base field _ => some (.attribute line base field .store)
  | .subscript line base index _ => some (.subscript line base index .store)
  | _ => none

end Expression

/-- The parsers of one level of nesting. -/
structure Grammar where
  primary : Parser Expression
  bitwise : Parser Expression
  disjunction : Parser Expression
  expression : Parser Expression

namespace Grammar

/-- The grammar beyond the deepest level: nothing fits. -/
def empty : Grammar :=
  ⟨failure, failure, failure, failure⟩

/-! ## Parts of inner places -/

private def walrus : Parser Unit := do
  let _ ← name
  symbol ":="

/-- An expression, or a name bound to one. -/
def named (g : Grammar) : Parser Expression := do
  let line ← nextLine
  if ← fits walrus then
    walrus
    let _ ← g.expression
    return .foreign line .namedExpression
  else g.expression

/-- The operand of a star. -/
private def starOperand (g : Grammar) : Parser Expression := do
  let line ← nextLine
  symbol "*"
  return .starred line (← g.bitwise)

/-- An expression, or a starred operand. -/
def starredOr (g : Grammar) (parser : Parser Expression) : Parser Expression := do
  if ← fits (symbol "*") then g.starOperand else parser

/-- One expression, or a tuple of several without brackets. -/
def tupleOf (item : Parser Expression) : Parser Expression := do
  let line ← nextLine
  let (items, isTuple) ← listed item
  match items, isTuple with
  | [only], false => return only
  | _, _ => return .tuple line items .load

/-- Expressions without stars. -/
def expressions (g : Grammar) : Parser Expression :=
  tupleOf g.expression

/-- Expressions of which some may be starred. -/
def starExpressions (g : Grammar) : Parser Expression :=
  tupleOf (g.starredOr g.expression)

/-- A value handed out. -/
def yielded (g : Grammar) : Parser Expression := do
  let line ← nextLine
  keyword "yield"
  if (← opt (keyword "from")).isSome then
    let _ ← g.expression
    return .foreign line .yieldFrom
  else
    let _ ← opt g.starExpressions
    return .foreign line .yield

/-- The right side of an assignment. -/
def assigned (g : Grammar) : Parser Expression := do
  if ← fits (keyword "yield") then g.yielded else g.starExpressions

/-! ## Comprehensions -/

/-- A target, or a starred one. -/
def target (g : Grammar) : Parser Expression := do
  let line ← nextLine
  let isStarred := (← opt (symbol "*")).isSome
  match (← g.primary).asTarget? with
  | some found => return if isStarred then .starred line found else found
  | none => failure

/-- One target, or a tuple of several without brackets. -/
def targets (g : Grammar) : Parser Expression := do
  let line ← nextLine
  let (items, isTuple) ← listed g.target
  match items, isTuple with
  | [only], false => return only
  | _, _ => return .tuple line items .store

private def startsClause : Parser Unit := do
  let _ ← opt (keyword "async")
  keyword "for"

private def clause (g : Grammar) : Parser Clause := do
  let isAsync := (← opt (keyword "async")).isSome
  keyword "for"
  let target ← g.targets
  keyword "in"
  let source ← g.disjunction
  let conditions ← many (keyword "if" *> g.disjunction)
  return .mk target source conditions isAsync

/-- A comprehension follows: its clauses. -/
private def clauses? (g : Grammar) : Parser (Option (List Clause)) := do
  if ← fits startsClause then some <$> some1 g.clause else return none

private def isStarred : Expression → Bool
  | .starred .. => true
  | _ => false

/-! ## Atoms -/

private def moreItems (g : Grammar) : Parser (List Expression) := do
  if (← opt (symbol ",")).isSome then
    return ((← opt (listed (g.starredOr g.named))).map Prod.fst).getD []
  else return []

/-- A tuple, a generator or a bracketed expression, after the opening bracket. -/
private def parenthesised (g : Grammar) (line : Nat) : Parser Expression := do
  if (← opt (symbol ")")).isSome then return .tuple line [] .load
  else if ← fits (keyword "yield") then
    let value ← g.yielded
    symbol ")"
    return value
  else
    let first ← g.starredOr g.named
    match ← g.clauses? with
    | some clauses =>
      guard (!isStarred first)
      symbol ")"
      return .comprehension line .generator first clauses
    | none =>
      let isTuple ← fits (symbol ",")
      let rest ← g.moreItems
      symbol ")"
      if isTuple then return .tuple line (first :: rest) .load
      else
        guard (!isStarred first)
        return first

/-- A list, after the opening bracket. -/
private def bracketed (g : Grammar) (line : Nat) : Parser Expression := do
  if (← opt (symbol "]")).isSome then return .list line [] .load
  else
    let first ← g.starredOr g.named
    match ← g.clauses? with
    | some clauses =>
      guard (!isStarred first)
      symbol "]"
      return .comprehension line .list first clauses
    | none =>
      let rest ← g.moreItems
      symbol "]"
      return .list line (first :: rest) .load

/-- An entry of a mapping; without a key, a mapping unpacked. -/
private def entry (g : Grammar) : Parser Entry := do
  if (← opt (symbol "**")).isSome then return .mk none (← g.bitwise)
  else
    let key ← g.expression
    symbol ":"
    return .mk (some key) (← g.expression)

/-- The entries after the first one, and the closing brace. -/
private def moreEntries (g : Grammar) : Parser (List Entry) := do
  let rest ← if (← opt (symbol ",")).isSome then
    pure (((← opt (listed g.entry)).map Prod.fst).getD [])
  else pure []
  symbol "\x7d"
  return rest

/-- A mapping or a set, after the opening brace. -/
private def braced (g : Grammar) (line : Nat) : Parser Expression := do
  if (← opt (symbol "\x7d")).isSome then return .dict line []
  else if ← fits (symbol "**") then
    let first ← g.entry
    return .dict line (first :: (← g.moreEntries))
  else
    let isWalrus ← fits walrus
    let first ← g.starredOr g.named
    let isKey ← if isStarred first || isWalrus then pure false
      else pure (← opt (symbol ":")).isSome
    if isKey then
      let value ← g.expression
      match ← g.clauses? with
      | some clauses =>
        symbol "\x7d"
        return .dictComprehension line first value clauses
      | none => return .dict line (.mk (some first) value :: (← g.moreEntries))
    else
      match ← g.clauses? with
      | some clauses =>
        guard (!isStarred first)
        symbol "\x7d"
        return .comprehension line .set first clauses
      | none =>
        let rest ← g.moreItems
        symbol "\x7d"
        return .set line (first :: rest)

/-- The text of an expression, as it stands in a text with expressions inside, is well formed. -/
private def accepts (g : Grammar) (source : List Char) : Bool :=
  (g.starExpressions (tokens (String.ofList ('(' :: source ++ [')'])))).isSome

/-- One piece of text. -/
private inductive Piece where
  | text (text : String)
  | octets (octets : List UInt8)
  | template

private def piece (g : Grammar) : Parser Piece :=
  take fun kind => match kind with
    | .text text => some (.text text)
    | .octets octets => some (.octets octets)
    | .template raw body =>
      if Template.wellFormed g.accepts raw body then some .template else none
    | _ => none

private def Piece.text? : Piece → Option String
  | .text content => some content
  | _ => none

private def Piece.octets? : Piece → Option (List UInt8)
  | .octets content => some content
  | _ => none

private def Piece.isTemplate : Piece → Bool
  | .template => true
  | _ => false

/-- Neighbouring texts are one; octets and characters do not mix. -/
private def joined (line : Nat) (pieces : List Piece) : Option Expression :=
  let texts := pieces.filterMap Piece.text?
  let octets := pieces.filterMap Piece.octets?
  if octets.length = pieces.length then some (.constant line (.bytes octets.flatten))
  else if !octets.isEmpty then none
  else if pieces.any Piece.isTemplate then some (.foreign line .joinedText)
  else some (.constant line (.str (String.join texts)))

private def number? : TokenKind → Option Literal
  | .number literal => some literal
  | _ => none

private def constantWord? : TokenKind → Option Literal
  | .keyword "None" => some .null
  | .keyword "True" => some (.bool true)
  | .keyword "False" => some (.bool false)
  | _ => none

/-- One or more texts in a row. -/
def texts (g : Grammar) : Parser Expression := do
  let line ← nextLine
  match joined line (← some1 g.piece) with
  | some found => return found
  | none => failure

/-- An expression that no operator needs to be split from. -/
private def atom (g : Grammar) : Parser Expression := do
  let line ← nextLine
  match (← next).kind with
  | .name _ => return .name line (← name) .load
  | .keyword _ => return .constant line (← take constantWord?)
  | .number _ => return .constant line (← take number?)
  | .text _ | .octets _ | .template .. => g.texts
  | .symbol "(" =>
    symbol "("
    g.parenthesised line
  | .symbol "[" =>
    symbol "["
    g.bracketed line
  | .symbol "\x7b" =>
    symbol "\x7b"
    g.braced line
  | .symbol "..." =>
    symbol "..."
    return .constant line .ellipsis
  | _ => failure

/-! ## Calls and elements -/

/-- An argument of a call. -/
private inductive Argument where
  | positional (value : Expression)
  | unpacked (value : Expression)
  | keyword (keyword : Keyword)
  | mapping (keyword : Keyword)

private def namedArgument : Parser Unit := do
  let _ ← name
  symbol "="

private def argument (g : Grammar) : Parser Argument := do
  let line ← nextLine
  if (← opt (symbol "*")).isSome then
    return .unpacked (.starred line (← g.expression))
  else if (← opt (symbol "**")).isSome then
    return .mapping (.mk line none (← g.expression))
  else if ← fits namedArgument then
    let keyword ← name
    symbol "="
    return .keyword (.mk line (some keyword) (← g.expression))
  else return .positional (← g.named)

/-- Positional arguments come before keywords, unpacked sequences before unpacked mappings. -/
private def inOrder : (keywordSeen mappingSeen : Bool) → List Argument → Bool
  | _, _, [] => true
  | k, m, .positional _ :: rest => !k && !m && inOrder k m rest
  | k, m, .unpacked _ :: rest => !m && inOrder k m rest
  | _, m, .keyword _ :: rest => inOrder true m rest
  | k, _, .mapping _ :: rest => inOrder k true rest

private def Argument.value? : Argument → Option Expression
  | .positional value | .unpacked value => some value
  | _ => none

private def Argument.keyword? : Argument → Option Keyword
  | .keyword found | .mapping found => some found
  | _ => none

/-- The arguments of a call, after the opening bracket: positional ones, then keywords. -/
def arguments (g : Grammar) : Parser (List Expression × List Keyword) := do
  if (← opt (symbol ")")).isSome then return ([], [])
  else
    let (found, _) ← listed g.argument
    guard (inOrder false false found)
    symbol ")"
    return (found.filterMap Argument.value?, found.filterMap Argument.keyword?)

/-- The arguments of a call, which may also be a single generator without brackets of its own. -/
private def callArguments (g : Grammar) (line : Nat) : Parser (List Expression × List Keyword) := do
  if (← fits (symbol "*")) || (← fits (symbol "**")) || (← fits (symbol ")")) ||
      (← fits namedArgument) then g.arguments
  else
    let first ← g.named
    match ← g.clauses? with
    | some clauses =>
      symbol ")"
      return ([.comprehension line .generator first clauses], [])
    | none =>
      if (← opt (symbol ",")).isSome then
        let (values, keywords) ← g.arguments
        return (first :: values, keywords)
      else
        symbol ")"
        return ([first], [])

private def bound (g : Grammar) : Parser (Option Expression) := do
  if (← fits (symbol ":")) || (← fits (symbol "]")) || (← fits (symbol ",")) then return none
  else some <$> g.expression

/-- An index, or the bounds of a slice. -/
private def index (g : Grammar) : Parser Expression := do
  let line ← nextLine
  let isWalrus ← fits walrus
  let lower ← if ← fits (symbol ":") then pure none else some <$> g.named
  match lower with
  | some value =>
    if isWalrus || !(← fits (symbol ":")) then return value
  | none => pure ()
  symbol ":"
  let upper ← g.bound
  let step ← if (← opt (symbol ":")).isSome then g.bound else pure none
  return .slice line lower upper step

/-- What stands between the brackets of an element; several indices make a tuple. -/
private def indices (g : Grammar) : Parser Expression := do
  let line ← nextLine
  let starredIndex : Parser Expression := do
    let line ← nextLine
    symbol "*"
    return .starred line (← g.expression)
  let (items, isTuple) ← listed (do
    if ← fits (symbol "*") then starredIndex else g.index)
  match items, isTuple with
  | [.starred line operand], false => return .tuple line [.starred line operand] .load
  | [only], false => return only
  | _, _ => return .tuple line items .load

/-- What may follow an atom: an attribute, arguments, an element. -/
private def trailer (g : Grammar) (line : Nat) : Parser (Expression → Expression) := do
  if (← opt (symbol ".")).isSome then
    let field ← name
    return fun base => .attribute line base field .load
  else
    let here ← nextLine
    if (← opt (symbol "(")).isSome then
      let (values, keywords) ← g.callArguments here
      return fun base => .call line base values keywords
    else
      symbol "["
      let index ← g.indices
      symbol "]"
      return fun base => .subscript line base index .load

/-- An atom with its attributes, calls and elements. -/
private def primaryOf (g : Grammar) : Parser Expression := do
  let line ← nextLine
  let first ← g.atom
  let trailers ← many (g.trailer line)
  return trailers.foldl (fun base follow => follow base) first

/-! ## Operators -/

private def signs : List (String × UnaryOperator) :=
  [("-", .minus), ("+", .plus), ("~", .invert)]

/-- One operand of a power: its signs, its line and itself. -/
private structure Operand where
  signs : List (Nat × UnaryOperator)
  line : Nat
  value : Expression

private def awaited (primary : Parser Expression) : Parser Expression := do
  let line ← nextLine
  if (← opt (keyword "await")).isSome then
    let _ ← primary
    return .foreign line .await
  else primary

private def operand (primary : Parser Expression) : Parser Operand := do
  let signs ← many (do
    let line ← nextLine
    return (line, ← oneOf signs))
  let line ← nextLine
  return ⟨signs, line, ← awaited primary⟩

private def withSigns (signs : List (Nat × UnaryOperator)) (value : Expression) : Expression :=
  signs.foldr (fun sign inner => .unary sign.1 sign.2 inner) value

/-- Powers group to the right; the signs before a base apply to its power. -/
private def raised : Operand → List Operand → Expression
  | base, [] => withSigns base.signs base.value
  | base, exponent :: rest =>
    withSigns base.signs (.binary base.line base.value .power (raised exponent rest))

private def factor (primary : Parser Expression) : Parser Expression := do
  let base ← operand primary
  return raised base (← many (symbol "**" *> operand primary))

/-- Operators of one strength group to the left. -/
private def leftAssociative (operators : List (String × BinaryOperator))
    (operand : Parser Expression) : Parser Expression := do
  let line ← nextLine
  let first ← operand
  let rest ← many (do
    let operator ← oneOf operators
    return (operator, ← operand))
  return rest.foldl (fun left step => .binary line left step.1 step.2) first

private def bitwiseOf (primary : Parser Expression) : Parser Expression :=
  let products := leftAssociative
    [("*", .multiply), ("/", .divide), ("//", .floorDivide), ("%", .modulo),
     ("@", .matrixMultiply)] (factor primary)
  let sums := leftAssociative [("+", .add), ("-", .subtract)] products
  let shifts := leftAssociative [("<<", .leftShift), (">>", .rightShift)] sums
  leftAssociative [("|", .bitOr)]
    (leftAssociative [("^", .bitXor)] (leftAssociative [("&", .bitAnd)] shifts))

private def comparisonMarks : List (String × Comparison) :=
  [("==", .equal), ("!=", .notEqual), ("<=", .lessOrEqual), ("<", .less),
   (">=", .greaterOrEqual), (">", .greater)]

private def comparisonOperator : Parser Comparison := do
  if (← opt (keyword "in")).isSome then return .member
  else if (← opt (keyword "is")).isSome then
    if (← opt (keyword "not")).isSome then return .notIdentical else return .identical
  else if (← opt (keyword "not")).isSome then
    keyword "in"
    return .notMember
  else oneOf comparisonMarks

private def comparison (bitwise : Parser Expression) : Parser Expression := do
  let line ← nextLine
  let first ← bitwise
  let rest ← many (do
    let operator ← comparisonOperator
    return (operator, ← bitwise))
  match rest with
  | [] => return first
  | _ => return .compare line first (rest.map Prod.fst) (rest.map Prod.snd)

private def inversion (comparison : Parser Expression) : Parser Expression := do
  let lines ← many (do
    let line ← nextLine
    keyword "not"
    return line)
  let inner ← comparison
  return lines.foldr (fun line inner => .unary line .negation inner) inner

private def connected (mark : String) (operator : BoolOperator) (operand : Parser Expression) :
    Parser Expression := do
  let line ← nextLine
  match ← separated (keyword mark) operand with
  | [only] => return only
  | operands => return .boolean line operator operands

private def disjunctionOf (bitwise : Parser Expression) : Parser Expression :=
  connected "or" .disjunction
    (connected "and" .conjunction (inversion (comparison bitwise)))

/-! ## Parameters -/

/-- A parameter, as far as the order of parameters goes. -/
private inductive Parameter where
  | plain (hasDefault : Bool)
  | slash
  | star (named : Bool)
  | mapping
deriving DecidableEq

/-- A parameter of a function; with `annotated`, it may have an annotation. -/
private def parameter (g : Grammar) (annotated : Bool) : Parser Parameter := do
  let annotation (parser : Parser Expression) : Parser Unit := do
    if annotated then
      if (← opt (symbol ":")).isSome then
        let _ ← parser
  if (← opt (symbol "/")).isSome then return .slash
  else if (← opt (symbol "**")).isSome then
    let _ ← name
    annotation g.expression
    return .mapping
  else if (← opt (symbol "*")).isSome then
    if (← opt name).isSome then
      annotation (g.starredOr g.expression)
      return .star true
    else return .star false
  else
    let _ ← name
    annotation g.expression
    if (← opt (symbol "=")).isSome then
      let _ ← g.expression
      return .plain true
    else return .plain false

/-- Defaults are not followed by parameters without one, before a star. -/
private def defaultsLast : List Bool → Bool
  | [] => true
  | hasDefault :: rest => (!hasDefault || rest.all (· == true)) && defaultsLast rest

private def Parameter.default? : Parameter → Option Bool
  | .plain hasDefault => some hasDefault
  | _ => none

private def Parameter.isStar : Parameter → Bool
  | .star _ => true
  | _ => false

private def Parameter.isPlain : Parameter → Bool
  | .plain _ => true
  | _ => false

/-- The order of parameters: at most one slash and not first, at most one star, which names something
or is followed by a parameter, and an unpacked mapping last. -/
private def wellOrdered (parameters : List Parameter) : Bool :=
  let before := parameters.takeWhile fun p => !p.isStar && p != .mapping
  let after := parameters.drop before.length
  let afterStar := if (after.head?).any Parameter.isStar then after.drop 1 else after
  let keywordOnly := afterStar.takeWhile Parameter.isPlain
  let last := afterStar.drop keywordOnly.length
  defaultsLast (before.filterMap Parameter.default?) &&
    before.count .slash ≤ 1 && before.head? != some .slash &&
    (last.isEmpty || last == [.mapping]) &&
    (after.head? != some (.star false) || !keywordOnly.isEmpty)

/-- The parameters of a function, if there are any, up to a mark that ends them. -/
def parameters (g : Grammar) (annotated : Bool) (close : String) : Parser Unit := do
  if (← opt (symbol close)).isSome then return ()
  else
    let found ← separated (symbol ",") (g.parameter annotated)
    let _ ← opt (symbol ",")
    guard (wellOrdered found)
    symbol close

private def lambda (g : Grammar) : Parser Expression := do
  let line ← nextLine
  keyword "lambda"
  g.parameters false ":"
  let _ ← g.expression
  return .foreign line .lambda

/-- The rest of a conditional after its first operand. -/
private def alternative (g : Grammar) (disjunction : Parser Expression) :
    Parser (Expression × Expression) := do
  keyword "if"
  let test ← disjunction
  keyword "else"
  return (test, ← g.expression)

private def expressionOf (g : Grammar) (disjunction : Parser Expression) : Parser Expression := do
  if ← fits (keyword "lambda") then g.lambda
  else
    let line ← nextLine
    let body ← disjunction
    match ← opt (g.alternative disjunction) with
    | some (test, orElse) => return .conditional line test body orElse
    | none => return body

/-- The grammar one level further out. -/
def around (inner : Grammar) : Grammar :=
  let primary := inner.primaryOf
  let bitwise := bitwiseOf primary
  let disjunction := disjunctionOf bitwise
  { primary, bitwise, disjunction, expression := inner.expressionOf disjunction }

/-- The grammar for a number of levels of nesting. -/
def ofDepth : Nat → Grammar
  | 0 => empty
  | depth + 1 => (ofDepth depth).around

end Grammar

end Authorization.Script
