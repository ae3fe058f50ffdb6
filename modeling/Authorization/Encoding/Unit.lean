import Authorization.Encoding.Reader

/-!
# Code units

The encodings that write every character as one to four units of 8 bits, as one or two of 16 bits, or as
one of 32 bits. The wider units have their least octet first or last; where that is open, a mark at the
beginning tells, and the least is first without one.
-/

namespace Authorization.Encoding

/-- Which octet of a unit comes first. -/
inductive ByteOrder where
  | leastFirst | leastLast
deriving DecidableEq, Repr

/-- The number that octets stand for. -/
def ByteOrder.value (order : ByteOrder) (octets : List UInt8) : Nat :=
  let given := match order with
    | .leastFirst => octets.reverse
    | .leastLast => octets
  given.foldl (fun n octet => 256 * n + octet.toNat) 0

namespace Reader

/-! ## Units of 8 bits -/

/-- The octets that go on with a sequence, up to the number that it needs. The first of them lies between
two bounds. -/
private def following : (least greatest : UInt8) → (count : Nat) → List UInt8 → List UInt8
  | _, _, 0, _ | _, _, _, [] => []
  | least, greatest, count + 1, octet :: rest =>
    if least ≤ octet ∧ octet ≤ greatest then octet :: following 0x80 0xBF count rest else []

/-- How many octets have to follow the first one of a sequence, and between which bounds the next one
lies: no character has a longer form than it needs, none is half of a pair, and none lies beyond the last
code point. -/
private def sequence? (first : UInt8) : Option (Nat × UInt8 × UInt8) :=
  if 0xC2 ≤ first ∧ first ≤ 0xDF then some (1, 0x80, 0xBF)
  else if first = 0xE0 then some (2, 0xA0, 0xBF)
  else if first = 0xED then some (2, 0x80, 0x9F)
  else if 0xE1 ≤ first ∧ first ≤ 0xEF then some (2, 0x80, 0xBF)
  else if first = 0xF0 then some (3, 0x90, 0xBF)
  else if 0xF1 ≤ first ∧ first ≤ 0xF3 then some (3, 0x80, 0xBF)
  else if first = 0xF4 then some (3, 0x80, 0x8F)
  else none

/-- The code point of a sequence of `count + 1` octets. -/
private def sequenceCode (count : Nat) (first : UInt8) (others : List UInt8) : Nat :=
  others.foldl (fun code octet => 64 * code + octet.toNat % 64) (first.toNat % Nat.pow 2 (6 - count))

private def readNarrow (first : UInt8) (rest : List UInt8) : Reading Unit :=
  if first < 0x80 then .text [Char.ofNat first.toNat] rest ()
  else
    match sequence? first with
    | none => .misfit [first] rest ()
    | some (count, least, greatest) =>
      let others := following least greatest count rest
      if others.length = count then
        .text [Char.ofNat (sequenceCode count first others)] (rest.drop count) ()
      else .misfit (first :: others) (rest.drop others.length) ()

private def narrowHalf? : List UInt8 → Option (Char × List UInt8)
  | first :: a :: b :: rest =>
    let code := sequenceCode 2 first [a, b]
    if first / 16 = 0xE ∧ a / 64 = 2 ∧ b / 64 = 2 ∧ Text.isHalfCode code then
      some (Text.ofCode code, rest)
    else none
  | _ => none

/-- Characters of one to four octets. -/
def utf8 : Reader Unit :=
  plain readNarrow narrowHalf?

/-! ## Units of 16 bits -/

private def readWide (order : ByteOrder) (a : UInt8) : List UInt8 → Reading Unit
  | [] => .misfit [a] [] ()
  | b :: rest =>
    let first := order.value [a, b]
    if !Text.isHalfCode first then .text [Char.ofNat first] rest ()
    else if first ≥ 0xDC00 then .misfit [a, b] rest ()
    else
      match rest with
      | c :: d :: more =>
        let second := order.value [c, d]
        if 0xDC00 ≤ second ∧ second ≤ 0xDFFF then .text [Text.ofHalves first second] more ()
        else .misfit [a, b] rest ()
      | _ => .misfit (a :: b :: rest) [] ()

private def wideHalf? (order : ByteOrder) : List UInt8 → Option (Char × List UInt8)
  | a :: b :: rest =>
    let code := order.value [a, b]
    if Text.isHalfCode code then some (Text.ofCode code, rest) else none
  | _ => none

/-- Characters of one or two units of 16 bits. -/
def utf16 (order : ByteOrder) : Reader Unit :=
  plain (readWide order) (wideHalf? order)

/-! ## Units of 32 bits -/

private def readWidest (order : ByteOrder) (a : UInt8) : List UInt8 → Reading Unit
  | b :: c :: d :: rest =>
    let code := order.value [a, b, c, d]
    if Text.isHalfCode code ∨ code > 0x10FFFF then .misfit [a, b, c, d] rest ()
    else .text [Char.ofNat code] rest ()
  | rest => .misfit (a :: rest) [] ()

private def widestHalf? (order : ByteOrder) : List UInt8 → Option (Char × List UInt8)
  | a :: b :: c :: d :: rest =>
    let code := order.value [a, b, c, d]
    if Text.isHalfCode code then some (Text.ofCode code, rest) else none
  | _ => none

/-- Characters of one unit of 32 bits. -/
def utf32 (order : ByteOrder) : Reader Unit :=
  plain (readWidest order) (widestHalf? order)

end Reader

/-! ## Marks -/

/-- The octets after the mark of units of 8 bits, if they begin with it. -/
def afterMark8 : List UInt8 → List UInt8
  | 0xEF :: 0xBB :: 0xBF :: rest => rest
  | octets => octets

/-- The order of units of 16 bits and the octets after the mark that tells it. -/
def afterMark16 : List UInt8 → ByteOrder × List UInt8
  | 0xFF :: 0xFE :: rest => (.leastFirst, rest)
  | 0xFE :: 0xFF :: rest => (.leastLast, rest)
  | octets => (.leastFirst, octets)

/-- The order of units of 32 bits and the octets after the mark that tells it. -/
def afterMark32 : List UInt8 → ByteOrder × List UInt8
  | 0xFF :: 0xFE :: 0 :: 0 :: rest => (.leastFirst, rest)
  | 0 :: 0 :: 0xFE :: 0xFF :: rest => (.leastLast, rest)
  | octets => (.leastFirst, octets)

end Authorization.Encoding
