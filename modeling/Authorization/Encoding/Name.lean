import Authorization.Encoding.Page.Table
import Authorization.Encoding.Unit
import Authorization.Text.Basic

/-!
# Encodings and their names

An encoding has a name of its own and others beside it. Names are compared without regard to capitals, and
whatever is neither a letter nor a digit of ASCII nor a full stop only separates words.
-/

namespace Authorization

/-- A way to write text as octets. -/
inductive Encoding where
  | ascii
  | latin
  | utf8 (marked : Bool)
  | utf16 (order : Option Encoding.ByteOrder)
  | utf32 (order : Option Encoding.ByteOrder)
  | utf7
  | escaped
  | rawEscaped
  | punycode
  | international
  | undefined
  | page (page : Encoding.Page)
deriving DecidableEq, Repr

namespace Encoding

/-- The encodings that are no code pages: name, other names, encoding. -/
private def listed : List (String × String × Encoding) :=
  [("ascii", "646 ansi_x3.4_1968 ansi_x3_4_1968 ansi_x3.4_1986 cp367 csascii " ++
     "ibm367 iso646_us iso_646.irv_1991 iso_ir_6 us us_ascii", .ascii),
   ("latin_1", "8859 cp819 csisolatin1 ibm819 iso8859 iso8859_1 " ++
     "iso_8859_1 iso_8859_1_1987 iso_ir_100 l1 latin latin1", .latin),
   ("iso8859_1", "", .latin),
   ("charmap", "", .latin),
   ("utf_8", "u8 utf utf8 utf8_ucs2 utf8_ucs4 cp65001", .utf8 false),
   ("utf_8_sig", "", .utf8 true),
   ("utf_16", "u16 utf16", .utf16 none),
   ("utf_16_le", "unicodelittleunmarked utf_16le", .utf16 (some .leastFirst)),
   ("utf_16_be", "unicodebigunmarked utf_16be", .utf16 (some .leastLast)),
   ("utf_32", "u32 utf32", .utf32 none),
   ("utf_32_le", "utf_32le", .utf32 (some .leastFirst)),
   ("utf_32_be", "utf_32be", .utf32 (some .leastLast)),
   ("utf_7", "u7 utf7 unicode_1_1_utf_7", .utf7),
   ("unicode_escape", "", .escaped),
   ("raw_unicode_escape", "", .rawEscaped),
   ("punycode", "", .punycode),
   ("idna", "", .international),
   ("undefined", "", .undefined)]

private def all : List (String × String × Encoding) :=
  listed ++ Page.all.map fun page => (page.name, page.aliases, .page page)

/-- The words of a name in lower case, joined by low lines. -/
def normalName (name : String) : String :=
  let kept := name.toList.map fun c => if c.isAlphanum || c == '.' then c.toLower else ' '
  Text.join "_" ((Text.splitAtBlanks none kept).map String.ofList)

private def ofAlias? (name : String) : Option Encoding :=
  let found := all.find? fun entry =>
    (Text.splitAtBlanks none entry.2.1.toList).contains name.toList
  found.map fun entry => entry.2.2

/-- The encoding of a name. For a name with full stops also the one with low lines in their place is
looked up among the other names. -/
def ofName? (name : String) : Option Encoding :=
  let name := normalName name
  let joined := String.ofList (name.toList.map fun c => if c = '.' then '_' else c)
  ofAlias? name <|> ofAlias? joined <|>
    (all.find? fun entry => entry.1 == name).map fun entry => entry.2.2

end Encoding

end Authorization
