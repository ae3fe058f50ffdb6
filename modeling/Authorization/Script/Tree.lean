import Authorization.Error.Basic
import Authorization.Script.Grammar.Statement

/-!
# Reading a script

A script is read as one expression if it is one, and as a block of statements otherwise. A tree that is
too high for the stack is not accepted. What exactly takes up the stack is a matter of the parser: here
it is the height of the tree and the signs before an operand.
-/

namespace Authorization.Script

private def isSign : TokenKind → Bool
  | .symbol text => text == "-" || text == "+" || text == "~"
  | _ => false

/-- More signs stand in a row than any operand may have. -/
private def hasLongSignRun [Host] : (run : Nat) → List Token → Bool
  | _, [] => false
  | run, token :: rest =>
    if isSign token.kind then run ≥ Host.maxSigns || hasLongSignRun (run + 1) rest
    else hasLongSignRun 0 rest

namespace Tree

private def ofTokens? (grammar : Grammar) (tokens : List Token) : Option Tree :=
  match grammar.loneExpression tokens with
  | some (body, _) => some (.expression body)
  | none => (grammar.script tokens).map fun found => .block found.1

/-- What is wrong where no statement fits, and its line. -/
private def misplaced (tokens : List Token) : Misprint × Option Nat :=
  match tokens with
  | [] => (.unknown, none)
  | token :: _ =>
    match token.kind with
    | .indent => (.unexpectedIndent, some token.line)
    | _ => (.unknown, some token.line)

/-- What is wrong with tokens that make no script, and its line. What cannot be cut into tokens comes
before what fits nowhere. -/
private def misprint (grammar : Grammar) (tokens : List Token) : Misprint × Option Nat :=
  match tokens.getLast? with
  | some ⟨.unreadable found, line⟩ => (found, some line)
  | _ => misplaced (grammar.afterStatements tokens)

/-- The tree of a text. Brackets, conditionals and nested texts are the only levels of nesting, and each
takes a character at least. -/
def ofText [Host] (text : String) : Except Error Tree :=
  if text.toList.contains '\x00' then
    fault .value "source code string cannot contain null bytes"
  else
    let found := tokens text
    if hasLongSignRun 0 found then .error (.compile .tooDeep none)
    else
      let grammar := Grammar.ofDepth (text.length + 1)
      match ofTokens? grammar found with
      | none =>
        let (reason, line) := misprint grammar found
        .error (.compile (.malformed reason) line)
      | some tree =>
        if tree.height > Host.maxHeight then .error (.compile .tooDeep none) else .ok tree

end Tree

end Authorization.Script
