import Authorization.Text.Normal.Composite
import Authorization.Text.Normal.Image

/-!
# Normal form of names

Two spellings of a name are one name when their compatibility normal forms agree. Every character is
replaced by what it stands for and taken apart, marks are put in the order of their ranks, and what
can be written as one character is put together again. Texts of the first 128 characters are their own
normal form (`normal_of_ascii`).
-/

namespace Authorization.Text

namespace Normal

/-! ## Syllables -/

/-- The parts of a syllable that is computed: a lead, a vowel and perhaps a tail. -/
private def syllableParts? (code : Nat) : Option (List Nat) :=
  if 0xAC00 ≤ code ∧ code ≤ 0xD7A3 then
    let place := code - 0xAC00
    let lead := 0x1100 + place / 588
    let vowel := 0x1161 + place % 588 / 28
    if place % 28 = 0 then some [lead, vowel] else some [lead, vowel, 0x11A7 + place % 28]
  else none

/-- The syllable of a lead and a vowel, or of a syllable without tail and a tail. -/
private def syllable? (first second : Nat) : Option Nat :=
  if 0x1100 ≤ first ∧ first ≤ 0x1112 ∧ 0x1161 ≤ second ∧ second ≤ 0x1175 then
    some (0xAC00 + ((first - 0x1100) * 21 + (second - 0x1161)) * 28)
  else if 0xAC00 ≤ first ∧ first ≤ 0xD7A3 ∧ (first - 0xAC00) % 28 = 0 ∧
      0x11A8 ≤ second ∧ second ≤ 0x11C2 then
    some (first + (second - 0x11A7))
  else none

/-! ## Single characters -/

/-- What a code point stands for: itself, unless a table lists it. -/
def image (code : Nat) : List Nat :=
  match expandedImages.lookup code with
  | some codes => codes
  | none =>
    match listedImages.findSome? fun block =>
        if block.1 ≤ code then block.2[code - block.1]? else none with
    | some single => [single]
    | none =>
      match shiftedImages.find? fun run => run.1 ≤ code && code ≤ run.2.1 with
      | some (first, _, target) => [target + (code - first)]
      | none => [code]

/-- The rank of a mark; zero for a character that is no mark. -/
def rank (code : Nat) : Nat :=
  match rankRuns.find? fun run => run.1 ≤ code && code ≤ run.2.1 with
  | some (_, _, found) => found
  | none => 0

/-- The two parts that a character is made of. -/
private def halves? (code : Nat) : Option (Nat × Nat) :=
  composites.findSome? fun group =>
    (group.2.find? fun pair => pair.2 == code).map fun pair => (pair.1, group.1)

/-- The one character that two make. -/
private def joined? (first second : Nat) : Option Nat :=
  match syllable? first second with
  | some found => some found
  | none => (composites.lookup second).bind fun group => group.lookup first

/-- The most parts that a character is made of. -/
private def maxParts : Nat := 4

/-- Takes a character apart; its first part may be made of two others again. -/
private def takenApart : (parts : Nat) → Nat → List Nat
  | 0, code => [code]
  | parts + 1, code =>
    match syllableParts? code with
    | some found => found
    | none =>
      match halves? code with
      | some (first, second) => takenApart parts first ++ [second]
      | none => [code]

/-! ## Sequences -/

/-- Puts a character behind others, which come last first: a mark goes before marks of greater rank. -/
private def settle (code : Nat) : List Nat → List Nat
  | [] => [code]
  | last :: before =>
    if 0 < rank code ∧ rank code < rank last then last :: settle code before
    else code :: last :: before

/-- Marks in the order of their ranks. -/
private def arranged (codes : List Nat) : List Nat :=
  (codes.foldl (fun before code => settle code before) []).reverse

/-- Puts together what can be written as one. The marks that `base` has kept come last first; a mark is
out of reach of the base behind one of the same rank or a greater. -/
private def composed (base : Nat) (marks : List Nat) : List Nat → List Nat
  | [] => base :: marks.reverse
  | code :: rest =>
    let isReachable := (marks.head?).all fun mark => rank mark < rank code
    match if isReachable then joined? base code else none with
    | some single => composed single marks rest
    | none =>
      if rank code = 0 then base :: marks.reverse ++ composed code [] rest
      else composed base (code :: marks) rest

/-- The normal form of a sequence of code points. -/
def codes (given : List Nat) : List Nat :=
  match arranged ((given.flatMap image).flatMap (takenApart maxParts)) with
  | [] => []
  | first :: rest => composed first [] rest

end Normal

private def isAscii (c : Char) : Bool :=
  c.toNat < 128

/-- The normal form of a name. -/
def normal (name : String) : String :=
  if name.toList.all isAscii then name
  else String.ofList ((Normal.codes (name.toList.map Char.toNat)).map Char.ofNat)

/-- Texts of the first 128 characters are their own normal form. -/
theorem normal_of_ascii {name : String} (plain : ∀ c ∈ name.toList, c.toNat < 128) :
    normal name = name := by
  have all : name.toList.all isAscii = true := by
    simpa [isAscii] using plain
  simp [normal, all]

end Authorization.Text
