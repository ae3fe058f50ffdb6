import Authorization.Script.Syntax
import Authorization.Script.Token
import Authorization.Text.Normal

/-!
# Parsers over tokens

A parser takes what it needs from the front of a list of tokens, or fits nothing there. Of two
alternatives the second is tried where the first does not fit. Repetition is bounded by more than
the greatest number of tokens that a script can have.
-/

namespace Authorization.Script

/-- What fits at the front of a list of tokens, with the tokens that remain. -/
abbrev Parser := StateT (List Token) Option

namespace Parser

/-- The most parts that a repetition takes. -/
def maxParts : Nat := 20000

/-- The next token stays. -/
def next : Parser Token := fun tokens =>
  match tokens with
  | [] => none
  | token :: _ => some (token, tokens)

/-- The line of the next token. -/
def nextLine : Parser Nat := do
  return (← next).line

/-- Takes one token of a kind. -/
def take {α : Type} (accept : TokenKind → Option α) : Parser α := fun tokens =>
  match tokens with
  | [] => none
  | token :: rest => (accept token.kind).map fun value => (value, rest)

/-- Takes a symbol. -/
def symbol (text : String) : Parser Unit :=
  take fun kind => match kind with
    | .symbol found => if found == text then some () else none
    | _ => none

/-- Takes a keyword. -/
def keyword (text : String) : Parser Unit :=
  take fun kind => match kind with
    | .keyword found => if found == text then some () else none
    | _ => none

/-- Takes a name, in its normal form. -/
def name : Parser String :=
  take fun kind => match kind with
    | .name text => some (Text.normal text)
    | _ => none

/-- Takes a name that reads as a keyword in this place, if it is spelled like one. -/
def word (text : String) : Parser Unit :=
  take fun kind => match kind with
    | .name found => if found == text then some () else none
    | _ => none

def newline : Parser Unit :=
  take fun kind => match kind with
    | .newline => some ()
    | _ => none

def indent : Parser Unit :=
  take fun kind => match kind with
    | .indent => some ()
    | _ => none

def dedent : Parser Unit :=
  take fun kind => match kind with
    | .dedent => some ()
    | _ => none

def finish : Parser Unit :=
  take fun kind => match kind with
    | .finish => some ()
    | _ => none

/-- The parser fits here; nothing is taken. -/
def fits {α : Type} (parser : Parser α) : Parser Bool := fun tokens =>
  some ((parser tokens).isSome, tokens)

/-- Does not fit where the parser does; nothing is taken. -/
def lacks {α : Type} (parser : Parser α) : Parser Unit := do
  guard (!(← fits parser))

/-- Takes a part that may be missing. -/
def opt {α : Type} (parser : Parser α) : Parser (Option α) :=
  (some <$> parser) <|> pure none

/-- Takes a part when a mark for it comes next, and then needs it. -/
def optAfter {α : Type} (mark : Parser Unit) (parser : Parser α) : Parser (Option α) := do
  if (← opt mark).isSome then some <$> parser else pure none

private def manyUpTo {α : Type} (parser : Parser α) : Nat → Parser (List α)
  | 0 => pure []
  | count + 1 => do
    match ← opt parser with
    | none => pure []
    | some value => return value :: (← manyUpTo parser count)

/-- Takes a part as often as it fits. -/
def many {α : Type} (parser : Parser α) : Parser (List α) :=
  manyUpTo parser maxParts

/-- Takes a part once or more often. -/
def some1 {α : Type} (parser : Parser α) : Parser (List α) := do
  return (← parser) :: (← many parser)

/-- Takes parts with a separator between neighbours, one at least. -/
def separated {α : Type} (separator : Parser Unit) (parser : Parser α) : Parser (List α) := do
  return (← parser) :: (← many (separator *> parser))

/-- Takes parts with commas between them, and a last comma if there is one. The second component
tells whether there was any comma. -/
def listed {α : Type} (parser : Parser α) : Parser (List α × Bool) := do
  let items ← separated (symbol ",") parser
  let closed := (← opt (symbol ",")).isSome
  return (items, closed || items.length > 1)

/-- Takes one of several symbols, and tells what it stands for. -/
def oneOf {α : Type} (marks : List (String × α)) : Parser α :=
  take fun kind => match kind with
    | .symbol text => (marks.find? fun mark => mark.1 == text).map Prod.snd
    | _ => none

end Parser

end Authorization.Script
