import Authorization.Rule.Comparison
import Mathlib.Data.List.Forall2

/-!
# What values disclose

Objects have private attributes, whose names begin with an underscore. A value discloses what it is
without the private attributes of all objects in it, except for the two that tell whether an object can
be gone through and whether it has a length. Values that disclose the same resemble each other.

Every operation on values commutes with disclosing: applied to what values disclose, it gives what its
result on the values discloses. The lemmas of this and the following modules say so of one operation
each.
-/

namespace Authorization.Value

/-- A name of an attribute that no script and no rule can ask for in any way. -/
def isConcealed (name : String) : Bool :=
  isHidden name && name != "__iter__" && name != "__len__"

theorem isConcealed_of_isHidden {name : String} (isShown : isHidden name = false) :
    isConcealed name = false := by
  rw [isConcealed, isShown]
  rfl

mutual

/-- The value without the concealed attributes of the objects in it. -/
def disclosed : Value → Value
  | .list items => .list (disclosedItems items)
  | .tuple items => .tuple (disclosedItems items)
  | .set frozen members => .set frozen (disclosedItems members)
  | .dict entries => .dict (disclosedEntries entries)
  | .proxy entries => .proxy (disclosedEntries entries)
  | .view kind entries => .view kind (disclosedEntries entries)
  | .slice lower upper step => .slice (disclosed lower) (disclosed upper) (disclosed step)
  | .object tag attributes => .object tag (disclosedAttributes attributes)
  | .oneShot tag items => .oneShot tag (disclosedItems items)
  | .record kind fields => .record kind (disclosedFields fields)
  | value => value

def disclosedItems : List Value → List Value
  | [] => []
  | item :: rest => disclosed item :: disclosedItems rest

def disclosedEntries : List (Value × Value) → List (Value × Value)
  | [] => []
  | (key, value) :: rest => (disclosed key, disclosed value) :: disclosedEntries rest

def disclosedFields : List (String × Value) → List (String × Value)
  | [] => []
  | (name, value) :: rest => (name, disclosed value) :: disclosedFields rest

def disclosedAttributes : List (String × Value) → List (String × Value)
  | [] => []
  | (name, value) :: rest =>
    if isConcealed name then disclosedAttributes rest
    else (name, disclosed value) :: disclosedAttributes rest

end

def disclosedEntry (entry : Value × Value) : Value × Value :=
  (entry.1.disclosed, entry.2.disclosed)

def disclosedField (field : String × Value) : String × Value :=
  (field.1, field.2.disclosed)

theorem disclosedItems_eq (items : List Value) : disclosedItems items = items.map disclosed := by
  induction items with
  | nil => rfl
  | cons item rest inductionHypothesis => simp [disclosedItems, inductionHypothesis]

theorem disclosedEntries_eq (entries : List (Value × Value)) :
    disclosedEntries entries = entries.map disclosedEntry := by
  induction entries with
  | nil => rfl
  | cons entry rest inductionHypothesis =>
      simp [disclosedEntries, disclosedEntry, inductionHypothesis]

theorem disclosedFields_eq (fields : List (String × Value)) :
    disclosedFields fields = fields.map disclosedField := by
  induction fields with
  | nil => rfl
  | cons field rest inductionHypothesis =>
      simp [disclosedFields, disclosedField, inductionHypothesis]

/-! ## Containers -/

@[simp]
theorem disclosed_list (items : List Value) :
    (Value.list items).disclosed = .list (items.map disclosed) :=
  congrArg Value.list (disclosedItems_eq items)

@[simp]
theorem disclosed_tuple (items : List Value) :
    (Value.tuple items).disclosed = .tuple (items.map disclosed) :=
  congrArg Value.tuple (disclosedItems_eq items)

@[simp]
theorem disclosed_set (frozen : Bool) (members : List Value) :
    (Value.set frozen members).disclosed = .set frozen (members.map disclosed) :=
  congrArg (Value.set frozen) (disclosedItems_eq members)

@[simp]
theorem disclosed_dict (entries : List (Value × Value)) :
    (Value.dict entries).disclosed = .dict (entries.map disclosedEntry) :=
  congrArg Value.dict (disclosedEntries_eq entries)

@[simp]
theorem disclosed_proxy (entries : List (Value × Value)) :
    (Value.proxy entries).disclosed = .proxy (entries.map disclosedEntry) :=
  congrArg Value.proxy (disclosedEntries_eq entries)

@[simp]
theorem disclosed_view (kind : ViewKind) (entries : List (Value × Value)) :
    (Value.view kind entries).disclosed = .view kind (entries.map disclosedEntry) :=
  congrArg (Value.view kind) (disclosedEntries_eq entries)

@[simp]
theorem disclosed_slice (lower upper step : Value) :
    (Value.slice lower upper step).disclosed =
      .slice lower.disclosed upper.disclosed step.disclosed :=
  rfl

@[simp]
theorem disclosed_oneShot (tag : Nat) (items : List Value) :
    (Value.oneShot tag items).disclosed = .oneShot tag (items.map disclosed) :=
  congrArg (Value.oneShot tag) (disclosedItems_eq items)

@[simp]
theorem disclosed_record (kind : RecordKind) (fields : List (String × Value)) :
    (Value.record kind fields).disclosed = .record kind (fields.map disclosedField) :=
  congrArg (Value.record kind) (disclosedFields_eq fields)

@[simp]
theorem disclosed_object (tag : Nat) (attributes : List (String × Value)) :
    (Value.object tag attributes).disclosed = .object tag (disclosedAttributes attributes) :=
  rfl

@[simp]
theorem disclosed_null : Value.null.disclosed = .null :=
  rfl

@[simp]
theorem disclosed_bool (flag : Bool) : (Value.bool flag).disclosed = .bool flag :=
  rfl

@[simp]
theorem disclosed_int (number : Int) : (Value.int number).disclosed = .int number :=
  rfl

@[simp]
theorem disclosed_float (number : Float) : (Value.float number).disclosed = .float number :=
  rfl

@[simp]
theorem disclosed_str (text : String) : (Value.str text).disclosed = .str text :=
  rfl

@[simp]
theorem disclosed_bytes (octets : List UInt8) : (Value.bytes octets).disclosed = .bytes octets :=
  rfl

/-! ## Kinds, sizes and truth -/

@[simp]
theorem kindName_disclosed (value : Value) : value.disclosed.kindName = value.kindName := by
  cases value with
  | view kind entries => cases kind <;> rfl
  | _ => rfl

@[simp]
theorem length?_disclosed (value : Value) : value.disclosed.length? = value.length? := by
  cases value <;> first | rfl | simp [length?]

@[simp]
theorem truthy_disclosed (value : Value) : value.disclosed.truthy = value.truthy := by
  cases value <;> first | rfl | simp [truthy, length?]

@[simp]
theorem entries?_disclosed (value : Value) :
    value.disclosed.entries? = value.entries?.map (List.map disclosedEntry) := by
  cases value <;> first | rfl | simp [entries?]

@[simp]
theorem asInt?_disclosed (value : Value) : value.disclosed.asInt? = value.asInt? := by
  cases value <;> rfl

@[simp]
theorem isCallable_disclosed (value : Value) : value.disclosed.isCallable = value.isCallable := by
  cases value <;> rfl

@[simp]
theorem asBool?_disclosed (value : Value) : value.disclosed.asBool? = value.asBool? := by
  cases value <;> rfl

@[simp]
theorem disclosed_ofOption (text? : Option String) :
    (Value.ofOption text?).disclosed = .ofOption text? := by
  cases text? <;> rfl

/-! ## Resemblance -/

/-- Two values disclose the same. -/
def Resembles (a b : Value) : Prop :=
  a.disclosed = b.disclosed

theorem Resembles.refl (value : Value) : value.Resembles value :=
  rfl

/-- What does not change with disclosing is the same for values that resemble each other. -/
theorem Resembles.same {α : Type} {a b : Value} (values : a.Resembles b) {test : Value → α}
    (unchanged : ∀ value, test value.disclosed = test value) : test a = test b := by
  rw [← unchanged a, values, unchanged]

theorem forall₂_map_eq_iff {α β : Type} {write : α → β} {a b : List α} :
    List.Forall₂ (fun first second => write first = write second) a b ↔
      a.map write = b.map write := by
  rw [← List.forall₂_eq_eq_eq, List.forall₂_map_left_iff, List.forall₂_map_right_iff]

theorem forall₂_resembles_iff {a b : List Value} :
    List.Forall₂ Resembles a b ↔ a.map disclosed = b.map disclosed :=
  forall₂_map_eq_iff

end Authorization.Value

/-! ## Lists of arguments -/

namespace Authorization.Arguments

variable {α : Type} {motive : List α → Prop}

@[elab_as_elim]
theorem upToOne (arguments : List α) (none : motive []) (one : ∀ first, motive [first])
    (more : ∀ first second rest, motive (first :: second :: rest)) : motive arguments := by
  rcases arguments with _ | ⟨first, _ | ⟨second, rest⟩⟩
  · exact none
  · exact one first
  · exact more first second rest

@[elab_as_elim]
theorem upToTwo (arguments : List α) (none : motive []) (one : ∀ first, motive [first])
    (two : ∀ first second, motive [first, second])
    (more : ∀ first second third rest, motive (first :: second :: third :: rest)) :
    motive arguments := by
  cases arguments using upToOne with
  | none => exact none
  | one first => exact one first
  | more first second rest =>
      cases rest with
      | nil => exact two first second
      | cons third rest => exact more first second third rest

@[elab_as_elim]
theorem upToThree (arguments : List α) (none : motive []) (one : ∀ first, motive [first])
    (two : ∀ first second, motive [first, second])
    (three : ∀ first second third, motive [first, second, third])
    (more : ∀ first second third fourth rest,
      motive (first :: second :: third :: fourth :: rest)) :
    motive arguments := by
  cases arguments using upToTwo with
  | none => exact none
  | one first => exact one first
  | two first second => exact two first second
  | more first second third rest =>
      cases rest with
      | nil => exact three first second third
      | cons fourth rest => exact more first second third fourth rest

end Authorization.Arguments
