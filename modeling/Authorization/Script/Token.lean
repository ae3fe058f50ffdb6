import Authorization.Error.Rule
import Authorization.Script.Syntax

/-!
# Tokens of scripts

A script is cut into words, numbers, texts, symbols and marks for line ends and indentation. Each
token knows the line on which it begins.
-/

namespace Authorization.Script

/-- What a token is. -/
inductive TokenKind where
  | name (text : String)
  | keyword (text : String)
  | number (literal : Literal)
  | text (text : String)
  | octets (octets : List UInt8)
  /-- Text with expressions inside it, as it stands between the quotes. -/
  | template (raw : Bool) (body : List Char)
  | symbol (text : String)
  | newline
  | indent
  | dedent
  | finish
  /-- The rest cannot be cut into tokens. -/
  | unreadable (misprint : Misprint)

/-- A token and the line on which it begins. -/
structure Token where
  kind : TokenKind
  line : Nat

/-- The words that cannot be names. -/
def keywords : List String :=
  ["False", "None", "True", "and", "as", "assert", "async", "await", "break", "class", "continue",
   "def", "del", "elif", "else", "except", "finally", "for", "from", "global", "if", "import", "in",
   "is", "lambda", "nonlocal", "not", "or", "pass", "raise", "return", "try", "while", "with",
   "yield"]

/-- Symbols of three characters, then of two, then of one: the longest that fits is taken. -/
def symbols : List String :=
  ["**=", "//=", ">>=", "<<=", "...",
   "**", "//", ">>", "<<", "<=", ">=", "==", "!=", "<>", "->", "+=", "-=", "*=", "/=", "%=", "&=",
   "|=", "^=", "@=", ":=",
   "+", "-", "*", "/", "%", "@", "&", "|", "^", "~", "<", ">", "(", ")", "[", "]", "\x7b", "\x7d",
   ",", ":", ".", ";", "="]

end Authorization.Script
