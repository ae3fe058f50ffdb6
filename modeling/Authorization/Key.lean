import Authorization.Error.Basic

/-!
# Keys and slugs

A permission and a policy are named by a resource and an action with a colon between them. A slug is a
run of small letters, digits and underscores; it may end with one line feed.
-/

namespace Authorization.Key

/-- The mark between a resource and an action. -/
def separator : Char := ':'

/-- The key of a resource and an action. -/
def join (resource action : String) : String :=
  resource ++ ":" ++ action

/-- The parts of a key before and after its first separator; nothing when it has none. -/
def cut? (key : List Char) : Option (List Char × List Char) :=
  match key.dropWhile (· != separator) with
  | [] => none
  | _ :: action => some (key.takeWhile (· != separator), action)

/-- The resource and the action of a key: both are there, and there is only one separator. -/
def split? (key : String) : Option (String × String) :=
  (cut? key.toList).bind fun (resource, action) =>
    if resource.isEmpty || action.isEmpty || action.contains separator then none
    else some (String.ofList resource, String.ofList action)

/-- The resource and the action of a key. -/
def split (key : String) : Except Error (String × String) :=
  match split? key with
  | some parts => .ok parts
  | none => .error (.inadmissible (.malformedKey key))

/-- The resource and the action of a value that has to be a key. -/
def splitValue (key : Value) : Except Error (String × String) :=
  match key with
  | .str text => split text
  | _ => fault .attribute ("'" ++ key.kindName ++ "' object has no attribute 'partition'")

/-- A character of a slug. -/
def isSlugChar (c : Char) : Bool :=
  ('a' ≤ c && c ≤ 'z') || ('0' ≤ c && c ≤ '9') || c == '_'

/-- A text without its last character when that is a line feed. -/
def withoutLineFeed (text : List Char) : List Char :=
  if text.getLast? = some '\n' then text.dropLast else text

def isRun (text : List Char) : Bool :=
  !text.isEmpty && text.all isSlugChar

/-- A slug. -/
def isSlug (text : String) : Bool :=
  isRun (withoutLineFeed text.toList)

/-- A key of two slugs, of which only the second may end with a line feed. -/
def isPolicyKey (text : String) : Bool :=
  (cut? (withoutLineFeed text.toList)).any fun (resource, action) => isRun resource && isRun action

end Authorization.Key
