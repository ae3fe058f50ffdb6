import Authorization.Script.Grammar.Expression

/-!
# The grammar of patterns

The patterns of a block that distinguishes cases. Scripts may not use such blocks, so that a pattern
is only checked and leaves nothing behind.
-/

namespace Authorization.Script.Pattern

open Authorization.Script.Parser

private def isImaginary : Literal → Bool
  | .complex .. => true
  | _ => false

private def numeral (imaginary : Bool) : Parser Unit :=
  take fun kind => match kind with
    | .number literal => if isImaginary literal == imaginary then some () else none
    | _ => none

private def sum : Parser Unit :=
  symbol "+" <|> symbol "-"

/-- A number with an optional sign, or the sum of a real and an imaginary one. -/
private def number : Parser Unit := do
  let _ ← opt (symbol "-")
  if ← fits (numeral true) then
    numeral true
    lacks sum
  else
    numeral false
    if (← opt sum).isSome then numeral true

private def literal (g : Grammar) : Parser Unit := do
  match (← next).kind with
  | .number _ | .symbol "-" => number
  | .keyword "None" => keyword "None"
  | .keyword "True" => keyword "True"
  | .keyword "False" => keyword "False"
  | _ =>
    let _ ← g.texts

/-- A name to which a matched value can be bound. -/
private def captured : Parser Unit := do
  guard ((← name) != "_")
  lacks (symbol "." <|> symbol "(" <|> symbol "=")

private def dotted : Parser (List String) :=
  separated (symbol ".") name

private def starred (pattern : Parser Unit) : Parser Bool := do
  if (← opt (symbol "*")).isSome then
    let _ ← name
    return true
  else
    pattern
    return false

/-- Patterns after an opening bracket. Without a comma, a single pattern in parentheses is no
sequence and may not be starred. -/
private def sequence (pattern : Parser Unit) (close : String) (needsComma : Bool) : Parser Unit := do
  if (← opt (symbol close)).isSome then return ()
  else
    let (items, isSequence) ← listed (starred pattern)
    guard (!needsComma || isSequence || items == [false])
    symbol close

private def entry (g : Grammar) (pattern : Parser Unit) : Parser Unit := do
  if (← fits name) then
    guard ((← dotted).length > 1)
  else literal g
  symbol ":"
  pattern

private def restOfMapping : Parser Unit := do
  symbol "**"
  captured
  let _ ← opt (symbol ",")
  symbol "\x7d"

private def mapping (g : Grammar) (pattern : Parser Unit) : Parser Unit := do
  if (← opt (symbol "\x7d")).isSome then return ()
  else if ← fits (symbol "**") then restOfMapping
  else
    let _ ← separated (symbol ",") (entry g pattern)
    if (← opt (symbol ",")).isSome then
      if ← fits (symbol "**") then restOfMapping else symbol "\x7d"
    else symbol "\x7d"

private def namedPart : Parser Unit := do
  let _ ← name
  symbol "="

/-- A pattern for one argument; the flag tells whether it is given by name. -/
private def classPart (pattern : Parser Unit) : Parser Bool := do
  if ← fits namedPart then
    namedPart
    pattern
    return true
  else
    pattern
    return false

private def namedLast (parts : List Bool) : Bool :=
  (parts.dropWhile (!·)).all id

private def classParts (pattern : Parser Unit) : Parser Unit := do
  if (← opt (symbol ")")).isSome then return ()
  else
    let (parts, _) ← listed (classPart pattern)
    guard (namedLast parts)
    symbol ")"

private def closed (g : Grammar) (pattern : Parser Unit) : Parser Unit := do
  match (← next).kind with
  | .name _ =>
    let _ ← dotted
    if (← opt (symbol "(")).isSome then classParts pattern else lacks (symbol "=")
  | .symbol "(" =>
    symbol "("
    sequence pattern ")" true
  | .symbol "[" =>
    symbol "["
    sequence pattern "]" false
  | .symbol "\x7b" =>
    symbol "\x7b"
    mapping g pattern
  | _ => literal g

/-- A pattern, for a number of levels of nesting. -/
private def ofDepth (g : Grammar) : Nat → Parser Unit
  | 0 => failure
  | depth + 1 => do
    let _ ← separated (symbol "|") (closed g (ofDepth g depth))
    if (← opt (keyword "as")).isSome then captured

/-- The patterns of a case: one, or several with commas. -/
def patterns (g : Grammar) : Parser Unit := do
  let (items, isSequence) ← listed (starred (ofDepth g (maxBrackets + 1)))
  guard (isSequence || items == [false])

end Authorization.Script.Pattern
