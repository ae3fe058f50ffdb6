import Authorization.Encoding.Escaped
import Authorization.Encoding.Name
import Authorization.Error.Basic

/-!
# Reading encoded text

The text that octets stand for in an encoding.
-/

namespace Authorization.Encoding

/-- The text of octets, of which there are some. -/
def textOf (encoding : Encoding) (treatment : Treatment) (octets : List UInt8) :
    Except FaultKind String :=
  match encoding with
  | .ascii => Reader.ascii.text treatment octets
  | .latin => Reader.latin.text treatment octets
  | .utf8 marked => Reader.utf8.text treatment (if marked then afterMark8 octets else octets)
  | .utf16 order? =>
    let (order, octets) := match order? with
      | some order => (order, octets)
      | none => afterMark16 octets
    (Reader.utf16 order).text treatment octets
  | .utf32 order? =>
    let (order, octets) := match order? with
      | some order => (order, octets)
      | none => afterMark32 octets
    (Reader.utf32 order).text treatment octets
  | .utf7 => Reader.utf7.text treatment octets
  | .escaped => (Reader.escaped fun _ => none).text treatment octets
  | .rawEscaped => Reader.rawEscaped.text treatment octets
  | .punycode => Punycode.text treatment octets
  | .international => if treatment = .strict then Reader.ascii.text .strict octets else .error .encoding
  | .undefined => .error .encoding
  | .page found => found.reader.text treatment octets

/-- The text that octets stand for in the encoding of a name. No octets are no text in any encoding. -/
def text (name treatment : String) (octets : List UInt8) : Except FaultKind String :=
  if octets.isEmpty then .ok ""
  else
    match ofName? name with
    | some encoding => encoding.textOf (.ofName treatment) octets
    | none => .error .lookup

end Authorization.Encoding

/-!
## Texts from values

A value as a text: its own text or, where an encoding or a treatment of faults is given, the text that
its octets stand for.
-/

namespace Authorization.Value

/-- The name of an encoding or of a treatment. -/
def nameOf (value : Value) : Except Error String :=
  match value with
  | .str name =>
    if Text.holdsHalf name then fault .unencodable "half of a pair stands alone"
    else if name.contains '\x00' then fault .value "embedded null character"
    else .ok name
  | _ => fault .type "the name must be a text"

/-- The text that a value is turned into. -/
def toTextBy (value encoding treatment : Option Value) : Except Error Value := do
  let encoding ← encoding.mapM nameOf
  let treatment ← treatment.mapM nameOf
  match value, encoding, treatment with
  | none, _, _ => return .str ""
  | some value, none, none => return .str (← value.toText)
  | some (.bytes octets), _, _ =>
    match Encoding.text (encoding.getD "utf-8") (treatment.getD "strict") octets with
    | .ok text => return .str text
    | .error kind => fault kind "the octets stand for no text"
  | some value, _, _ =>
    fault .type ("decoding to str: need a bytes-like object, " ++ value.kindName ++ " found")

end Authorization.Value
