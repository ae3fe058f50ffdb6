import Authorization.Proofs.Disclosure.Equality
import Authorization.Value.Formatted

/-!
# Texts of what values disclose

The text of an object says nothing of its attributes, so that values that disclose the same have the
same text.
-/

namespace Authorization.Value

mutual

theorem written_disclosed (value : Value) : value.disclosed.written = value.written := by
  rw [written.eq_def value.disclosed, written.eq_def value]
  cases value with
  | list items => simp only [disclosed_list, writtenItems_disclosed items]
  | tuple items =>
      match items with
      | [] => rw [disclosed_tuple, List.map_nil]
      | [item] => simp only [disclosed_tuple, List.map_cons, List.map_nil, written_disclosed item]
      | first :: second :: rest =>
          simp only [disclosed_tuple, List.map_cons, writtenItems, written_disclosed first,
            written_disclosed second, writtenItems_disclosed rest]
  | set frozen members =>
      simp only [disclosed_set, writtenItems_disclosed members, List.isEmpty_map]
  | dict entries => simp only [disclosed_dict, writtenEntries_disclosed entries]
  | proxy entries => simp only [disclosed_proxy, writtenEntries_disclosed entries]
  | view kind entries =>
      cases kind with
      | keys => simp only [disclosed_view, writtenKeys_disclosed entries]
      | values => simp only [disclosed_view, writtenValues_disclosed entries]
      | items => simp only [disclosed_view, writtenPairs_disclosed entries]
  | slice lower upper step =>
      simp only [disclosed_slice, written_disclosed lower, written_disclosed upper,
        written_disclosed step]
  | record kind fields => simp only [disclosed_record, writtenFields_disclosed fields]
  | _ => rfl
termination_by structural value

theorem writtenItems_disclosed (items : List Value) :
    writtenItems (items.map disclosed) = writtenItems items := by
  cases items with
  | nil => rfl
  | cons item rest =>
      simp only [List.map_cons, writtenItems, written_disclosed item, writtenItems_disclosed rest]
termination_by structural items

theorem writtenEntries_disclosed (entries : List (Value × Value)) :
    writtenEntries (entries.map disclosedEntry) = writtenEntries entries := by
  cases entries with
  | nil => rfl
  | cons entry rest =>
      obtain ⟨key, value⟩ := entry
      simp only [List.map_cons, disclosedEntry, writtenEntries, written_disclosed key,
        written_disclosed value, writtenEntries_disclosed rest]
termination_by structural entries

theorem writtenKeys_disclosed (entries : List (Value × Value)) :
    writtenKeys (entries.map disclosedEntry) = writtenKeys entries := by
  cases entries with
  | nil => rfl
  | cons entry rest =>
      obtain ⟨key, value⟩ := entry
      simp only [List.map_cons, disclosedEntry, writtenKeys, written_disclosed key,
        writtenKeys_disclosed rest]
termination_by structural entries

theorem writtenValues_disclosed (entries : List (Value × Value)) :
    writtenValues (entries.map disclosedEntry) = writtenValues entries := by
  cases entries with
  | nil => rfl
  | cons entry rest =>
      obtain ⟨key, value⟩ := entry
      simp only [List.map_cons, disclosedEntry, writtenValues, written_disclosed value,
        writtenValues_disclosed rest]
termination_by structural entries

theorem writtenPairs_disclosed (entries : List (Value × Value)) :
    writtenPairs (entries.map disclosedEntry) = writtenPairs entries := by
  cases entries with
  | nil => rfl
  | cons entry rest =>
      obtain ⟨key, value⟩ := entry
      simp only [List.map_cons, disclosedEntry, writtenPairs, written_disclosed key,
        written_disclosed value, writtenPairs_disclosed rest]
termination_by structural entries

theorem writtenFields_disclosed (fields : List (String × Value)) :
    writtenFields (fields.map disclosedField) = writtenFields fields := by
  cases fields with
  | nil => rfl
  | cons field rest =>
      obtain ⟨name, value⟩ := field
      simp only [List.map_cons, disclosedField, writtenFields, written_disclosed value,
        writtenFields_disclosed rest]
termination_by structural fields

end

theorem text_disclosed (value : Value) : value.disclosed.text = value.text := by
  have whole := written_disclosed value
  cases value with
  | proxy entries =>
      have asMapping := written_disclosed (.dict entries)
      rw [disclosed_dict] at asMapping
      simp only [disclosed_proxy, text, asMapping]
  | str _ | instant _ | duration _ | zone _ => rfl
  | _ => exact whole

/-- A test comes to the same for a value and for what it discloses. -/
def IsBlind (test : Value → Bool) : Prop :=
  ∀ value : Value, test value.disclosed = test value

variable {test : Value → Bool}

mutual

/-- Whether a test holds for a part of a value can be told from what the value discloses, when the test
itself can. -/
theorem holdsPart_disclosed (isBlind : IsBlind test) (value : Value) :
    value.disclosed.holdsPart test = value.holdsPart test := by
  have own := isBlind value
  cases value with
  | list items => simp only [disclosed_list, holdsPart, holdsPartItems_disclosed isBlind items]
  | tuple items => simp only [disclosed_tuple, holdsPart, holdsPartItems_disclosed isBlind items]
  | set frozen members => simp only [disclosed_set, holdsPart, holdsPartItems_disclosed isBlind members]
  | dict entries => simp only [disclosed_dict, holdsPart, holdsPartEntries_disclosed isBlind entries]
  | proxy entries => simp only [disclosed_proxy, holdsPart, holdsPartEntries_disclosed isBlind entries]
  | view kind entries => simp only [disclosed_view, holdsPart, holdsPartEntries_disclosed isBlind entries]
  | slice lower upper step =>
      simp only [disclosed_slice, holdsPart, holdsPart_disclosed isBlind lower,
        holdsPart_disclosed isBlind upper, holdsPart_disclosed isBlind step]
  | record kind fields => simp only [disclosed_record, holdsPart, holdsPartFields_disclosed isBlind fields]
  | _ => exact own
termination_by structural value

theorem holdsPartItems_disclosed (isBlind : IsBlind test) (items : List Value) :
    holdsPartItems test (items.map disclosed) = holdsPartItems test items := by
  cases items with
  | nil => rfl
  | cons item rest =>
      simp only [List.map_cons, holdsPartItems, holdsPart_disclosed isBlind item,
        holdsPartItems_disclosed isBlind rest]
termination_by structural items

theorem holdsPartEntries_disclosed (isBlind : IsBlind test) (entries : List (Value × Value)) :
    holdsPartEntries test (entries.map disclosedEntry) = holdsPartEntries test entries := by
  cases entries with
  | nil => rfl
  | cons entry rest =>
      obtain ⟨key, value⟩ := entry
      simp only [List.map_cons, disclosedEntry, holdsPartEntries, holdsPart_disclosed isBlind key,
        holdsPart_disclosed isBlind value, holdsPartEntries_disclosed isBlind rest]
termination_by structural entries

theorem holdsPartFields_disclosed (isBlind : IsBlind test) (fields : List (String × Value)) :
    holdsPartFields test (fields.map disclosedField) = holdsPartFields test fields := by
  cases fields with
  | nil => rfl
  | cons field rest =>
      obtain ⟨name, value⟩ := field
      simp only [List.map_cons, disclosedField, holdsPartFields, holdsPart_disclosed isBlind value,
        holdsPartFields_disclosed isBlind rest]
termination_by structural fields

end

theorem holdsLongInt_disclosed (value : Value) :
    value.disclosed.holdsLongInt = value.holdsLongInt :=
  holdsPart_disclosed (fun value => by cases value <;> rfl) value

theorem holdsUndefined_disclosed (value : Value) :
    value.disclosed.holdsUndefined = value.holdsUndefined :=
  holdsPart_disclosed (fun value => by cases value <;> rfl) value

theorem text?_disclosed (value : Value) : value.disclosed.text? = value.text? := by
  rw [text?, holdsLongInt_disclosed, text_disclosed, text?]

theorem toText_disclosed (value : Value) : value.disclosed.toText = value.toText := by
  rw [toText, text?_disclosed, toText]

theorem toWritten_disclosed (value : Value) : value.disclosed.toWritten = value.toWritten := by
  rw [toWritten, holdsLongInt_disclosed, written_disclosed, toWritten]

end Authorization.Value

/-!
## Formats of what values disclose

The octets that a format makes of its arguments do not depend on what the arguments conceal.
-/

namespace Authorization.Value

def Supply.disclosed : Supply → Supply
  | .several rest => .several (rest.map Value.disclosed)
  | .single value => .single value.disclosed
  | .used => .used

/-- What is taken from arguments, and the arguments that are left. -/
def disclosedTake (taken : Value × Supply) : Value × Supply :=
  (taken.1.disclosed, taken.2.disclosed)

theorem Supply.ofValue_disclosed (value : Value) :
    Supply.ofValue value.disclosed = (Supply.ofValue value).disclosed := by
  cases value with
  | tuple items => rw [disclosed_tuple]; rfl
  | _ => rfl

theorem Supply.take_disclosed (supply : Supply) :
    supply.disclosed.take = supply.take.map disclosedTake := by
  cases supply with
  | several rest => cases rest <;> rfl
  | single value => rfl
  | used => rfl

theorem Supply.isEmpty_disclosed (supply : Supply) : supply.disclosed.isEmpty = supply.isEmpty := by
  cases supply with
  | several rest => cases rest <;> rfl
  | single value => rfl
  | used => rfl

theorem isKeyed_disclosed (value : Value) : isKeyed value.disclosed = isKeyed value := by
  cases value <;> rfl

theorem keyedArgument_disclosed (source : Value) (key : DirectiveKey) :
    keyedArgument source.disclosed key = (keyedArgument source key).map (Option.map disclosed) := by
  cases key with
  | absent => rfl
  | unclosed =>
      simp only [keyedArgument, isKeyed_disclosed]
      split <;> rfl
  | named chars =>
      simp only [keyedArgument, entries?_disclosed]
      cases source.entries? with
      | none => rfl
      | some entries =>
          have found := lookup?_disclosed entries (.bytes (octetsOf chars))
          rw [disclosed_bytes] at found
          simp only [Option.map_some, found]
          cases lookup? entries (.bytes (octetsOf chars)) <;> rfl

theorem amount_disclosed (most : Nat) (given : Amount) (supply : Supply) :
    amount most given supply.disclosed =
      (amount most given supply).map fun found => (found.1, found.2.disclosed) := by
  cases given with
  | absent => rfl
  | number n =>
      simp only [amount]
      split <;> rfl
  | argument =>
      simp only [amount, supply.take_disclosed]
      cases supply.take with
      | error error => rfl
      | ok taken =>
          obtain ⟨value, left⟩ := taken
          simp only [Except.map, disclosedTake, bind, Except.bind, asInt?_disclosed]
          cases value.asInt? with
          | none => rfl
          | some n =>
              dsimp only
              split <;> rfl

theorem plainWritten_disclosed (value : Value) : plainWritten value.disclosed = plainWritten value := by
  simp only [plainWritten, toWritten_disclosed]

theorem octetOf_disclosed (value : Value) : octetOf value.disclosed = octetOf value := by
  cases value <;> rfl

theorem wholeArgument_disclosed (base : Base) (value : Value) :
    wholeArgument base value.disclosed = wholeArgument base value := by
  cases value <;> rfl

theorem realArgument_disclosed (value : Value) : realArgument value.disclosed = realArgument value := by
  cases value <;> rfl

theorem convert_disclosed (f : Filling) (places : Option Nat) (value : Value)
    (conversion : Conversion) :
    convert f places value.disclosed conversion = convert f places value conversion := by
  cases conversion with
  | octets => cases value <;> rfl
  | written => simp only [convert, plainWritten_disclosed]
  | octet => simp only [convert, octetOf_disclosed]
  | whole base capital => simp only [convert, wholeArgument_disclosed]
  | real form capital => simp only [convert, realArgument_disclosed]

/-- What a directive makes of the arguments that are left, once its key has been looked up. -/
def directedWith (directive : Directive) (supply : Supply) : Except Error (List Char × Supply) := do
  let (width, supply) ← amount maxWidth directive.width supply
  let (places, supply) ← amount maxPlaces (directive.places.getD .absent) supply
  match directive.letter with
  | none => fault .value "incomplete format"
  | some letter =>
    let (value, supply) ← supply.take
    match Conversion.ofLetter? letter with
    | none =>
      if letter.toNat ≥ 0x80 ∧ !directive.endsInNumber then fault .overflow "no format character"
      else fault .value "unsupported format character"
    | some conversion =>
      let places := directive.places.map fun _ => (places.getD 0).toNat
      let chars ← convert (filling directive.flags width) places value conversion
      return (chars, supply)

theorem directed_eq (source : Value) (directive : Directive) (supply : Supply) :
    directed source directive supply = (do
      match ← keyedArgument source directive.key with
      | some value => directedWith directive (.single value)
      | none => directedWith directive supply) := by
  unfold directed
  cases keyedArgument source directive.key with
  | error error => rfl
  | ok found => cases found <;> rfl

theorem directedWith_disclosed (directive : Directive) (supply : Supply) :
    directedWith directive supply.disclosed =
      (directedWith directive supply).map fun made => (made.1, made.2.disclosed) := by
  unfold directedWith
  rw [amount_disclosed]
  cases amount maxWidth directive.width supply with
  | error error => rfl
  | ok found =>
      obtain ⟨width, supply⟩ := found
      simp only [Except.map, bind, Except.bind, amount_disclosed]
      cases amount maxPlaces (directive.places.getD .absent) supply with
      | error error => rfl
      | ok found =>
          obtain ⟨places, supply⟩ := found
          dsimp only
          cases directive.letter with
          | none => rfl
          | some letter =>
              simp only [supply.take_disclosed]
              cases supply.take with
              | error error => rfl
              | ok taken =>
                  obtain ⟨value, supply⟩ := taken
                  simp only [Except.map, disclosedTake, convert_disclosed]
                  cases Conversion.ofLetter? letter with
                  | none =>
                      dsimp only
                      split <;> rfl
                  | some conversion =>
                      dsimp only
                      split <;> rfl

theorem directed_disclosed (source : Value) (directive : Directive) (supply : Supply) :
    directed source.disclosed directive supply.disclosed =
      (directed source directive supply).map fun made => (made.1, made.2.disclosed) := by
  rw [directed_eq, directed_eq, keyedArgument_disclosed]
  cases keyedArgument source directive.key with
  | error error => rfl
  | ok found =>
      cases found with
      | none => exact directedWith_disclosed directive supply
      | some value => exact directedWith_disclosed directive (.single value)

theorem formattedParts_disclosed (source : Value) (made : List Char) (supply : Supply)
    (parts : List FormatPart) :
    formattedParts source.disclosed made supply.disclosed parts =
      formattedParts source made supply parts := by
  induction parts generalizing made supply with
  | nil => simp only [formattedParts, supply.isEmpty_disclosed, isKeyed_disclosed]
  | cons part rest inductionHypothesis =>
      cases part with
      | plain c => exact inductionHypothesis (c :: made) supply
      | directive directive =>
          simp only [formattedParts, directed_disclosed]
          cases directed source directive supply with
          | error error => rfl
          | ok found => exact inductionHypothesis _ found.2

theorem formatted_disclosed (format : List UInt8) (arguments : Value) :
    formatted format arguments.disclosed = formatted format arguments := by
  simp only [formatted, Supply.ofValue_disclosed, formattedParts_disclosed]

end Authorization.Value
