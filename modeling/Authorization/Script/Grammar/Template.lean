import Authorization.Script.Token.Literal

/-!
# Texts with expressions inside

Between the quotes of such a text, an expression stands in braces, and may be followed by an equals
sign, by a mark for its conversion, and by a format, which is again such a text. Doubled braces
outside of formats stand for themselves. Scripts may not use these texts, so all that is settled here
is whether one is well formed.
-/

namespace Authorization.Script.Template

private def openBrace : Char := '\x7b'

private def closeBrace : Char := '\x7d'

/-- Skips to the end of a character's name in braces. -/
private def afterName (text : List Char) : List Char :=
  (text.dropWhile (· ≠ closeBrace)).drop 1

/-- Splits off the plain text before the next brace. The flag tells that it ended with a doubled
brace, which is taken along. -/
private def takePlain? (raw nested : Bool) :
    (steps : Nat) → (plain : List Char) → List Char → Option (List Char × Bool × List Char)
  | 0, _, _ => none
  | _ + 1, plain, [] => some (plain.reverse, false, [])
  | steps + 1, plain, c :: rest =>
    if c = '\\' ∧ !raw then
      match rest with
      | [] => some ((c :: plain).reverse, false, [])
      | d :: more =>
        if d = 'N' then
          match more with
          | e :: name =>
            if e = openBrace then
              let after := afterName name
              let taken := more.take (more.length - after.length)
              takePlain? raw nested steps (taken.reverse ++ d :: c :: plain) after
            else takePlain? raw nested steps (e :: d :: c :: plain) name
          | [] => some ((d :: c :: plain).reverse, false, [])
        else if d = openBrace ∨ d = closeBrace then takePlain? raw nested steps (c :: plain) rest
        else takePlain? raw nested steps (d :: c :: plain) more
    else if c = openBrace ∨ c = closeBrace then
      if nested then some (plain.reverse, false, c :: rest)
      else if rest.head? = some c then some ((c :: plain).reverse, true, rest.drop 1)
      else if c = closeBrace then none
      else some (plain.reverse, false, c :: rest)
    else takePlain? raw nested steps (c :: plain) rest

private def isOpening (c : Char) : Bool :=
  c == '(' || c == '[' || c == openBrace

private def isClosing (c : Char) : Bool :=
  c == ')' || c == ']' || c == closeBrace

private def closes (close opened : Char) : Bool :=
  (close == ')' && opened == '(') || (close == ']' && opened == '[') ||
    (close == closeBrace && opened == openBrace)

/-- The quotes that open or close a text at the front: three of them count as one mark. -/
private def quoteWidth (quote : Char) (text : List Char) : Nat :=
  if [quote, quote, quote].isPrefixOf text then 3 else 1

/-- The length of the comparison at the front, if it is one that ends in an equals sign. -/
private def comparisonWidth (text : List Char) : Nat :=
  match text with
  | c :: '=' :: _ => if c = '!' ∨ c = '=' ∨ c = '<' ∨ c = '>' then 2 else 0
  | _ => 0

private def endsSource (c : Char) : Bool :=
  c == '!' || c == ':' || c == closeBrace || c == '='

/-- Splits off the text of an expression: up to the first mark outside brackets and quotes that can
end it. `quoted` holds the quote of an open text and the width of its closing mark. -/
private def takeSource? : (steps : Nat) → (quoted : Option (Char × Nat)) →
    (brackets source : List Char) → List Char → Option (List Char × List Char)
  | 0, _, _, _, _ => none
  | _ + 1, _, _, _, [] => none
  | steps + 1, quoted, brackets, source, c :: rest =>
    let onward (quoted : Option (Char × Nat)) (brackets : List Char) (width : Nat) :=
      takeSource? steps quoted brackets (((c :: rest).take width).reverse ++ source)
        ((c :: rest).drop width)
    if c = '\\' then none
    else match quoted with
      | some (quote, width) =>
        if c = quote ∧ width ≤ quoteWidth quote (c :: rest) then onward none brackets width
        else onward quoted brackets 1
      | none =>
        if c = '\'' ∨ c = '"' then
          let width := quoteWidth c (c :: rest)
          onward (some (c, width)) brackets width
        else if isOpening c then onward none (c :: brackets) 1
        else if c = '#' then none
        else if brackets.isEmpty ∧ comparisonWidth (c :: rest) = 2 then onward none brackets 2
        else if brackets.isEmpty ∧ endsSource c then some (source.reverse, c :: rest)
        else if isClosing c then
          match brackets with
          | opened :: outer => if closes c opened then onward none outer 1 else none
          | [] => none
        else onward none brackets 1

private def isSpace (c : Char) : Bool :=
  c == ' ' || c == '\t' || c == '\n' || c == '\x0c' || c == '\r'

/-- Drops an equals sign after an expression, with the white space behind it. -/
private def afterEcho (text : List Char) : List Char :=
  match text with
  | '=' :: rest => rest.dropWhile fun c => isSpace c || c == '\x0b'
  | _ => text

/-- Drops the mark of a conversion, when there is a proper one. -/
private def afterConversion? (text : List Char) : Option (List Char) :=
  match text with
  | '!' :: mark :: rest => if mark = 's' ∨ mark = 'r' ∨ mark = 'a' then some rest else none
  | ['!'] => none
  | _ => some text

/-- Goes through a text, or, inside a format, up to the brace that ends it. `expression` tells
whether a text is an expression. Formats nest once. -/
private def pass? (expression : List Char → Bool) (raw : Bool) :
    (steps depth : Nat) → List Char → Option (List Char)
  | 0, _, _ => none
  | steps + 1, depth, text =>
    (takePlain? raw (depth > 0) (text.length + 1) [] text).bind fun (plain, doubled, rest) =>
      if (Escape.text? raw plain).isNone then none
      else if doubled then pass? expression raw steps depth rest
      else match rest with
        | [] => some []
        | c :: inner =>
          if c = closeBrace then some rest
          else if depth ≥ 2 then none
          else
            (takeSource? (inner.length + 1) none [] [] inner).bind fun (source, marks) =>
              if source.all isSpace || !expression source then none
              else
                (afterConversion? (afterEcho marks)).bind fun format =>
                  let closed? : Option (List Char) := match format with
                    | ':' :: more => pass? expression raw steps (depth + 1) more
                    | _ => some format
                  closed?.bind fun closed =>
                    match closed with
                    | d :: after =>
                      if d = closeBrace then pass? expression raw steps depth after else none
                    | [] => none

/-- A text with expressions inside is well formed. -/
def wellFormed (expression : List Char → Bool) (raw : Bool) (body : List Char) : Bool :=
  pass? expression raw (body.length + 1) 0 body == some []

end Authorization.Script.Template
