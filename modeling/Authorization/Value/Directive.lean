/-!
# Directives of a format

A format is made of plain characters and of directives. A directive begins with a percent sign and
gives, in this order: a key in brackets, flags, a width, a number of places after a point, a letter
without meaning (`h`, `l` or `L`), and the letter of a conversion. All but the last may be left out. A
second percent sign right after the first stands for the sign itself.
-/

namespace Authorization

/-- The key in brackets at the beginning of a directive. -/
inductive DirectiveKey where
  | absent
  | unclosed
  | named (key : List Char)
deriving DecidableEq, Repr

/-- A width or a number of places: left out, a number, or a star for the next argument. -/
inductive Amount where
  | absent
  | number (n : Nat)
  | argument
deriving DecidableEq, Repr

/-- A directive. It has no letter if the format ends before one. -/
structure Directive where
  key : DirectiveKey
  flags : List Char
  width : Amount
  /-- What follows the point, if there is one. -/
  places : Option Amount
  size : Option Char
  letter : Option Char
deriving DecidableEq, Repr

/-- A part of a format. -/
inductive FormatPart where
  | plain (c : Char)
  | directive (directive : Directive)
deriving DecidableEq, Repr

namespace Directive

/-- Reads a key up to the bracket that closes it; brackets inside are closed themselves. -/
private def closeKey (depth : Nat) (found : List Char) : List Char → DirectiveKey × List Char
  | [] => (.unclosed, [])
  | ')' :: rest =>
    match depth with
    | 0 => (.named found.reverse, rest)
    | inner + 1 => closeKey inner (')' :: found) rest
  | '(' :: rest => closeKey (depth + 1) ('(' :: found) rest
  | c :: rest => closeKey depth (c :: found) rest

private def readKey : List Char → DirectiveKey × List Char
  | '(' :: rest => closeKey 0 [] rest
  | chars => (.absent, chars)

private def isFlag (c : Char) : Bool :=
  ['-', '+', ' ', '#', '0'].contains c

private def readAmount : List Char → Amount × List Char
  | '*' :: rest => (.argument, rest)
  | chars =>
    let digits := chars.takeWhile Char.isDigit
    if digits.isEmpty then (.absent, chars)
    else
      (.number (digits.foldl (fun n c => 10 * n + (c.toNat - 48)) 0), chars.dropWhile Char.isDigit)

private def readPlaces : List Char → Option Amount × List Char
  | '.' :: rest => (some (readAmount rest).1, (readAmount rest).2)
  | chars => (none, chars)

private def readSize : List Char → Option Char × List Char
  | c :: rest => if ['h', 'l', 'L'].contains c then (some c, rest) else (none, c :: rest)
  | [] => (none, [])

/-- Reads the directive after a percent sign, and gives what comes after it. -/
def read (chars : List Char) : Directive × List Char :=
  let (key, afterKey) := readKey chars
  let (width, afterWidth) := readAmount (afterKey.dropWhile isFlag)
  let (places, afterPlaces) := readPlaces afterWidth
  let (size, left) := readSize afterPlaces
  (⟨key, afterKey.takeWhile isFlag, width, places, size, left.head?⟩, left.tail)

/-- The letter stands right after the digits of a width or of a number of places. -/
def endsInNumber (directive : Directive) : Bool :=
  match directive.size, directive.places.getD directive.width with
  | none, .number _ => true
  | _, _ => false

private theorem closeKey_length (depth : Nat) (found chars : List Char) :
    (closeKey depth found chars).2.length ≤ chars.length := by
  fun_induction closeKey depth found chars <;> simp <;> omega

private theorem dropWhile_length (p : Char → Bool) (chars : List Char) :
    (chars.dropWhile p).length ≤ chars.length :=
  (List.dropWhile_suffix p).length_le

private theorem readKey_length (chars : List Char) :
    (readKey chars).2.length ≤ chars.length := by
  fun_cases readKey chars
  · rename_i rest
    have := closeKey_length 0 [] rest
    simp
    omega
  · simp

private theorem readAmount_length (chars : List Char) :
    (readAmount chars).2.length ≤ chars.length := by
  fun_cases readAmount chars
  · simp
  · simp
  · exact dropWhile_length _ _

private theorem readPlaces_length (chars : List Char) :
    (readPlaces chars).2.length ≤ chars.length := by
  fun_cases readPlaces chars
  · rename_i rest
    have := readAmount_length rest
    simp
    omega
  · simp

private theorem readSize_length (chars : List Char) :
    (readSize chars).2.length ≤ chars.length := by
  fun_cases readSize chars <;> simp

theorem read_length (chars : List Char) : (read chars).2.length ≤ chars.length := by
  have key := readKey_length chars
  have flags := dropWhile_length isFlag (readKey chars).2
  have width := readAmount_length ((readKey chars).2.dropWhile isFlag)
  have places := readPlaces_length (readAmount ((readKey chars).2.dropWhile isFlag)).2
  have size := readSize_length
    (readPlaces (readAmount ((readKey chars).2.dropWhile isFlag)).2).2
  simp only [read, List.length_tail]
  omega

end Directive

/-- The parts of a format, after others in reverse. -/
private def FormatPart.ofFormatAfter (found : List FormatPart) : List Char → List FormatPart
  | [] => found.reverse
  | '%' :: '%' :: rest => ofFormatAfter (.plain '%' :: found) rest
  | '%' :: rest =>
    ofFormatAfter (.directive (Directive.read rest).1 :: found) (Directive.read rest).2
  | c :: rest => ofFormatAfter (.plain c :: found) rest
termination_by chars => chars.length
decreasing_by
  · simp only [List.length_cons]
    omega
  · have := Directive.read_length rest
    simp
    omega
  · simp

/-- The parts of a format. -/
def FormatPart.ofFormat (format : List Char) : List FormatPart :=
  ofFormatAfter [] format

end Authorization
