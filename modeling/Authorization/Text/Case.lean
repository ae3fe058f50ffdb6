import Authorization.Text.Case.Table

/-!
# Case mapping

Lower, upper and title case of whole texts by the full mappings of Unicode 14. One rule looks
beyond a single character: a capital sigma becomes a final sigma at the end of a word.
-/

namespace Authorization.Text.Case

def shiftedBy (runs : List CaseRun) (c : Char) : Char :=
  match runs.find? fun run =>
      run.first ≤ c.toNat && c.toNat ≤ run.last && (c.toNat - run.first) % run.step == 0 with
  | some run => Char.ofNat (Int.toNat (c.toNat + run.shift))
  | none => c

def mapped (expansions : List (Nat × List Nat)) (runs : List CaseRun) (c : Char) :
    List Char :=
  match expansions.lookup c.toNat with
  | some codes => codes.map Char.ofNat
  | none => [shiftedBy runs c]

/-- A cased character: it has, or is, a lower, upper or title case form. -/
def isCased (c : Char) : Bool :=
  inRanges casedRanges c

/-- A character that the final sigma rule looks through. -/
def isIgnorable (c : Char) : Bool :=
  inRanges ignorableRanges c

/-- The full upper case mapping of one character. -/
def upperChar (c : Char) : List Char :=
  mapped upperExpansions upperRuns c

/-- The full title case mapping of one character. -/
def titleChar (c : Char) : List Char :=
  mapped titleExpansions titleRuns c

/-- A capital sigma is final when a cased character precedes it and none follows it,
ignorable characters left out. -/
private def sigmaIsFinal (before after : List Char) : Bool :=
  ((before.dropWhile isIgnorable).head?.any isCased) &&
    !((after.dropWhile isIgnorable).head?.any isCased)

/-- The lower case mapping of a character between the characters before it (nearest first) and
the characters after it. -/
def lowerChar (before : List Char) (c : Char) (after : List Char) : List Char :=
  if c = 'Σ' then
    if sigmaIsFinal before after then ['ς'] else ['σ']
  else
    mapped lowerExpansions lowerRuns c

def lowerFrom (before : List Char) : List Char → List Char
  | [] => []
  | c :: after => lowerChar before c after ++ lowerFrom (c :: before) after

private def titleFrom (before : List Char) (insideWord : Bool) : List Char → List Char
  | [] => []
  | c :: after =>
    (if insideWord then lowerChar before c after else titleChar c) ++
      titleFrom (c :: before) (isCased c) after

end Authorization.Text.Case

namespace Authorization.Text

open Case

/-- The text in lower case. -/
def lower (text : String) : String :=
  String.ofList (lowerFrom [] text.toList)

/-- The text in upper case. -/
def upper (text : String) : String :=
  String.ofList (text.toList.flatMap upperChar)

/-- The text with each run of cased characters in title case. -/
def title (text : String) : String :=
  String.ofList (titleFrom [] false text.toList)

/-- The text with its first character in title case and all others in lower case. -/
def capitalize (text : String) : String :=
  match text.toList with
  | [] => ""
  | c :: rest => String.ofList (titleChar c ++ lowerFrom [c] rest)

end Authorization.Text
