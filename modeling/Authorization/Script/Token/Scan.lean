import Authorization.Script.Token
import Authorization.Script.Token.Literal
import Authorization.Text.Naming

/-!
# Cutting a script into tokens

A line outside brackets is one logical line: its margin opens and closes blocks, its end is a token.
Inside brackets, and after a backslash, line ends are white space, and lines that are blank or hold
only a comment do not count. When a character fits nowhere, a margin returns to no open block, or a
bracket does not match, the tokens end with an unreadable one.
-/

namespace Authorization.Script

open Authorization.Text

/-- The most brackets that may be open at once. -/
def maxBrackets : Nat := 200

/-- The most blocks that may be open at once, the whole script included. -/
def maxBlocks : Nat := 100

/-- The white space at the start of a line. Its column counts tabs to the next multiple of eight, the
narrow column counts each as one; the two have to agree on what is deeper. `kept` is the column
before a joined line, `lines` the number of lines joined. -/
private structure Margin where
  column : Nat
  narrow : Nat
  kept : Nat
  lines : Nat

private def takeMargin? (margin : Margin) : List Char → Option (Margin × List Char)
  | [] => some (margin, [])
  | '\\' :: '\n' :: rest =>
    if rest.isEmpty then none
    else
      let kept := if margin.kept = 0 then margin.column else margin.kept
      takeMargin? { margin with kept, lines := margin.lines + 1 } rest
  | c :: rest =>
    if c = ' ' then
      takeMargin? { margin with column := margin.column + 1, narrow := margin.narrow + 1 } rest
    else if c = '\t' then
      takeMargin?
        { margin with column := (margin.column / 8 + 1) * 8, narrow := margin.narrow + 1 } rest
    else if c = '\x0c' then takeMargin? { margin with column := 0, narrow := 0 } rest
    else if c = '\\' then none
    else some (margin, c :: rest)

/-- Where the scanner stands: the line, the open brackets with their lines, the margins of the open
blocks. -/
private structure Place where
  line : Nat
  brackets : List (Char × Nat)
  blocks : List (Nat × Nat)

/-- Closes the blocks that are deeper than a column. -/
private def closeBlocks (column : Nat) : List (Nat × Nat) → Nat × List (Nat × Nat)
  | [] => (0, [])
  | (depth, narrow) :: outer =>
    if column < depth then
      let (count, left) := closeBlocks column outer
      (count + 1, left)
    else (0, (depth, narrow) :: outer)

/-- The tokens for the margin of a logical line, and the blocks open after it. -/
private def enterLine? (margin : Margin) (place : Place) :
    Option (List Token × List (Nat × Nat)) :=
  let column := if margin.kept = 0 then margin.column else margin.kept
  let narrow := if margin.kept = 0 then margin.narrow else margin.kept
  let innermost := place.blocks.headD (0, 0)
  if column = innermost.1 then
    if narrow = innermost.2 then some ([], place.blocks) else none
  else if column > innermost.1 then
    if place.blocks.length + 1 > maxBlocks ∨ narrow ≤ innermost.2 then none
    else some ([⟨.indent, place.line⟩], (column, narrow) :: place.blocks)
  else
    let (count, left) := closeBlocks column place.blocks
    if left.headD (0, 0) = (column, narrow) then
      some (List.replicate count ⟨.dedent, place.line⟩, left)
    else none

private def matchingBracket (close : Char) : Char :=
  if close = ')' then '(' else if close = ']' then '[' else '\x7b'

/-- The open brackets after a symbol, unless it closes the wrong one or opens too many. -/
private def afterSymbol (place : Place) (symbol : String) :
    Except Misprint (List (Char × Nat)) :=
  match symbol.toList with
  | [c] =>
    if c = '(' ∨ c = '[' ∨ c = '\x7b' then
      if place.brackets.length ≥ maxBrackets then .error .unknown
      else .ok ((c, place.line) :: place.brackets)
    else if c = ')' ∨ c = ']' ∨ c = '\x7d' then
      match place.brackets with
      | (inner, line) :: outer =>
        if inner = matchingBracket c then .ok outer
        else .error (.mismatched c inner (if line = place.line then none else some line))
      | [] => .error (.unmatched c)
    else .ok place.brackets
  | _ => .ok place.brackets

private def isTextMark (word : List Char) : Bool :=
  ["", "b", "u", "r", "f", "br", "rb", "fr", "rf"].any (·.toList == word.map Char.toLower)

private def isQuote (c : Char) : Bool :=
  c == '"' || c == '\''

/-- Reads a text after the letters that say of which kind it is. -/
private def takeText? (mark : List Char) (text : List Char) : Option (TokenKind × List Char) :=
  match text with
  | quote :: rest =>
    let triple := [quote, quote].isPrefixOf rest
    let opened := if triple then rest.drop 2 else rest
    let letters := mark.map Char.toLower
    let raw := letters.contains 'r'
    (Escape.takeBody? quote triple [] opened).bind fun (body, after) =>
      if letters.contains 'b' then
        (Escape.octets? raw body).map fun octets => (.octets octets, after)
      else if letters.contains 'f' then some (.template raw body, after)
      else (Escape.text? raw body).map fun decoded => (.text decoded, after)
  | [] => none

/-- What is wrong with a text that cannot be read: its end is missing, or something else. -/
private def textMisprint (line : Nat) (text : List Char) : Misprint :=
  match text with
  | quote :: rest =>
    let triple := [quote, quote].isPrefixOf rest
    let opened := if triple then rest.drop 2 else rest
    if (Escape.takeBody? quote triple [] opened).isSome then .unknown
    else if triple then .endlessBlockText (line + opened.dropLast.count '\n')
    else .endlessText line
  | [] => .unknown

/-- Reads a word: a keyword or a name. -/
private def wordKind? (word : List Char) : Option TokenKind :=
  let text := String.ofList word
  if keywords.contains text then some (.keyword text)
  else match word with
    | first :: rest =>
      if isNameStart first && rest.all isNameContinue then some (.name text) else none
    | [] => none

/-- Reads the token at the start of a text that begins neither with white space nor with a line end,
a comment or a backslash. -/
private def takeToken? (text : List Char) : Option (TokenKind × List Char) :=
  match text with
  | [] => none
  | c :: rest =>
    if isQuote c then takeText? [] text
    else if ('0' ≤ c ∧ c ≤ '9') ∨
        (c = '.' ∧ (rest.head?).any (fun d => '0' ≤ d ∧ d ≤ '9')) then
      (Numeral.take? text).map fun (literal, after) => (.number literal, after)
    else if Numeral.isWordChar c then
      let word := text.takeWhile Numeral.isWordChar
      let after := text.dropWhile Numeral.isWordChar
      if isTextMark word && (after.head?).any isQuote then takeText? word after
      else (wordKind? word).map fun kind => (kind, after)
    else
      (symbols.find? fun symbol => symbol.toList.isPrefixOf text).map fun symbol =>
        (.symbol symbol, text.drop symbol.length)

/-- What is wrong where no token can be read. -/
private def misprintAt (line : Nat) (text : List Char) : Misprint :=
  let word := text.takeWhile Numeral.isWordChar
  let after := text.dropWhile Numeral.isWordChar
  if isTextMark word && (after.head?).any isQuote then textMisprint line after else .unknown

/-- The line ends that a token of a kind passes: only texts have any. -/
private def linesPassed (kind : TokenKind) (before after : List Char) : Nat :=
  match kind with
  | .text _ | .octets _ | .template .. => before.count '\n' - after.count '\n'
  | _ => 0

mutual

/-- Tokens from the start of a line. -/
private def scanLine : (steps : Nat) → Place → List Char → List Token
  | 0, place, _ => [⟨.unreadable .unknown, place.line⟩]
  | steps + 1, place, text =>
    match takeMargin? ⟨0, 0, 0, 0⟩ text with
    | none => [⟨.unreadable .unknown, place.line⟩]
    | some (margin, rest) =>
      let place := { place with line := place.line + margin.lines }
      let blank : Bool := match rest with
        | c :: _ => c == '\n' || c == '#'
        | [] => false
      if blank then
        scanLine steps { place with line := place.line + 1 }
          ((rest.dropWhile (· ≠ '\n')).drop 1)
      else if !place.brackets.isEmpty then scanRest steps place rest
      else match enterLine? margin place with
        | none => [⟨.unreadable .unknown, place.line⟩]
        | some (opened, blocks) => opened ++ scanRest steps { place with blocks } rest

/-- Tokens from inside a line. -/
private def scanRest : (steps : Nat) → Place → List Char → List Token
  | 0, place, _ => [⟨.unreadable .unknown, place.line⟩]
  | steps + 1, place, text =>
    match text with
    | [] =>
      match place.brackets with
      | [] => [⟨.finish, place.line⟩]
      | (bracket, line) :: _ => [⟨.unreadable (.neverClosed bracket), line⟩]
    | c :: rest =>
      if c = ' ' ∨ c = '\t' ∨ c = '\x0c' then scanRest steps place rest
      else if c = '#' then scanRest steps place (rest.dropWhile (· ≠ '\n'))
      else if c = '\n' then
        let next := { place with line := place.line + 1 }
        if place.brackets.isEmpty then ⟨.newline, place.line⟩ :: scanLine steps next rest
        else scanLine steps next rest
      else if c = '\\' then
        match rest with
        | '\n' :: more =>
          if more.isEmpty then [⟨.unreadable .unknown, place.line⟩]
          else scanRest steps { place with line := place.line + 1 } more
        | _ => [⟨.unreadable .unknown, place.line⟩]
      else match takeToken? text with
        | none => [⟨.unreadable (misprintAt place.line text), place.line⟩]
        | some (kind, after) =>
          let next := { place with line := place.line + linesPassed kind text after }
          match kind with
          | .symbol symbol =>
            match afterSymbol place symbol with
            | .error misprint => [⟨.unreadable misprint, place.line⟩]
            | .ok brackets => ⟨kind, place.line⟩ :: scanRest steps { next with brackets } after
          | _ => ⟨kind, place.line⟩ :: scanRest steps next after

end

/-- One line feed for every kind of line end. -/
def unifyLineEnds : List Char → List Char
  | [] => []
  | '\r' :: '\n' :: rest => '\n' :: unifyLineEnds rest
  | c :: rest => (if c = '\r' then '\n' else c) :: unifyLineEnds rest

/-- The tokens of a script. A last line end is added; every step takes a character or goes from the
margin of a line to its text, so that the number of steps is bounded. -/
def tokens (source : String) : List Token :=
  let text := unifyLineEnds source.toList ++ ['\n']
  scanLine (2 * text.length + 2) ⟨1, [], [(0, 0)]⟩ text

end Authorization.Script
