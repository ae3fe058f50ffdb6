/-!
# Characters and words

What several parts of the library ask of characters: that they lie in ranges of code points, that they
are white space, and that they stand for half of a pair. Words are found in texts, and texts are cut.
-/

/-!
## Code point ranges

A character class is a list of closed code point ranges, and membership is a look through the list.
-/

namespace Authorization.Text

/-- A character lies in a class when one of the class's closed ranges holds its code point. -/
def inRanges (ranges : List (Nat × Nat)) (c : Char) : Bool :=
  ranges.any fun range => range.1 ≤ c.toNat && c.toNat ≤ range.2

end Authorization.Text

/-!
## Blank characters

White space in the sense of Unicode 14's bidirectional classes `WS`, `B`, `S` and category `Zs`:
ten short ranges, the information separators `U+001C` to `U+001F` among them.
-/

namespace Authorization.Text

/-- Code point ranges of white space. -/
def blankRanges : List (Nat × Nat) :=
  [(0x9, 0xD), (0x1C, 0x20), (0x85, 0x85), (0xA0, 0xA0), (0x1680, 0x1680), (0x2000, 0x200A),
   (0x2028, 0x2029), (0x202F, 0x202F), (0x205F, 0x205F), (0x3000, 0x3000)]

/-- White space. -/
def isBlank (c : Char) : Bool :=
  inRanges blankRanges c

/-- Drops the leading characters of a class. -/
def trimLeft (drop : Char → Bool) (text : List Char) : List Char :=
  text.dropWhile drop

/-- Drops the trailing characters of a class. -/
def trimRight (drop : Char → Bool) (text : List Char) : List Char :=
  (text.reverse.dropWhile drop).reverse

/-- Drops the leading and the trailing characters of a class. -/
def trimBoth (drop : Char → Bool) (text : List Char) : List Char :=
  trimRight drop (trimLeft drop text)

/-- The text without white space at its two ends. -/
def trim (text : String) : String :=
  String.ofList (trimBoth isBlank text.toList)

end Authorization.Text

/-!
## Halves of pairs

The code points from `0xD800` to `0xDFFF` are the halves of pairs of 16-bit units, and no characters. In
a text one of them may still stand alone, where its other half is missing. It is kept as the private
character that lies `0x100000` above it, so no text holds that character for itself.
-/

namespace Authorization.Text

/-- A code point that is half of a pair. -/
def isHalfCode (code : Nat) : Bool :=
  0xD800 ≤ code && code ≤ 0xDFFF

/-- The distance from a half to the character that it is kept as. -/
def halfDistance : Nat := 0x100000

/-- The character of a code point. -/
def ofCode (code : Nat) : Char :=
  if isHalfCode code then Char.ofNat (code + halfDistance) else Char.ofNat code

/-- A half that stands alone. -/
def isHalf (c : Char) : Bool :=
  isHalfCode (c.toNat - halfDistance)

/-- The code point of a character. -/
def codeOf (c : Char) : Nat :=
  if isHalf c then c.toNat - halfDistance else c.toNat

/-- The character of a first and a second half. -/
def ofHalves (first second : Nat) : Char :=
  Char.ofNat (0x10000 + (first - 0xD800) * 0x400 + (second - 0xDC00))

/-- A half of a pair stands alone in the text. -/
def holdsHalf (text : String) : Bool :=
  text.toList.any isHalf

end Authorization.Text

/-!
## Searching and splitting

Finding a word in a text, counting it, and cutting a text at white space or at a word. Positions
count characters. Matches do not overlap and are taken from the left, or from the right where a
limit on cuts counts from there.
-/

namespace Authorization.Text

/-- The first position, counted from `position`, at which a word begins. -/
def findFrom (word : List Char) (position : Nat) : List Char → Option Nat
  | [] => if word.isEmpty then some position else none
  | c :: rest =>
    if word.isPrefixOf (c :: rest) then some position else findFrom word (position + 1) rest

/-- A word occurs in a text. -/
def occursIn (word text : List Char) : Bool :=
  (findFrom word 0 text).isSome

/-- The number of separate occurrences of a nonempty word; `skip` characters are still covered by
the last one. -/
private def countFrom (word : List Char) : (skip : Nat) → List Char → Nat
  | _, [] => 0
  | skip + 1, _ :: rest => countFrom word skip rest
  | 0, c :: rest =>
    if word.isPrefixOf (c :: rest) then 1 + countFrom word (word.length - 1) rest
    else countFrom word 0 rest

/-- The number of separate occurrences of a word; the empty word occurs around every character. -/
def countOf (word text : List Char) : Nat :=
  if word.isEmpty then text.length + 1 else countFrom word 0 text

/-- Cuts a text at the occurrences of a nonempty word, `cuts` times at most when bounded. `piece`
collects the current part in reverse. -/
private def splitFrom (word : List Char) :
    (cuts : Option Nat) → (skip : Nat) → (piece : List Char) → List Char → List (List Char)
  | _, _, piece, [] => [piece.reverse]
  | cuts, skip + 1, piece, _ :: rest => splitFrom word cuts skip piece rest
  | cuts, 0, piece, c :: rest =>
    if cuts ≠ some 0 ∧ word.isPrefixOf (c :: rest) then
      piece.reverse :: splitFrom word (cuts.map (· - 1)) (word.length - 1) [] rest
    else
      splitFrom word cuts 0 (c :: piece) rest

/-- The parts of a text between the occurrences of a nonempty word. -/
def splitAtWord (word : List Char) (cuts : Option Nat) (text : List Char) : List (List Char) :=
  splitFrom word cuts 0 [] text

/-- Cuts a text at runs of white space; `steps` bounds the number of parts. What remains after the
last cut keeps its inner white space. -/
private def splitBlanks : (steps : Nat) → (cuts : Option Nat) → List Char → List (List Char)
  | 0, _, _ => []
  | steps + 1, cuts, text =>
    let rest := trimLeft isBlank text
    if rest.isEmpty then []
    else if cuts = some 0 then [trimRight isBlank rest]
    else
      rest.takeWhile (fun c => !isBlank c) ::
        splitBlanks steps (cuts.map (· - 1)) (rest.dropWhile fun c => !isBlank c)

/-- The parts of a text between runs of white space, none of them empty. -/
def splitAtBlanks (cuts : Option Nat) (text : List Char) : List (List Char) :=
  splitBlanks (text.length + 1) cuts text

/-- Joins texts with a separator between neighbours. -/
def join (separator : String) (parts : List String) : String :=
  String.intercalate separator parts

end Authorization.Text
