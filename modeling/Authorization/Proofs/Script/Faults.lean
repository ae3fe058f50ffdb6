import Authorization.Proofs.Script.Parts

/-!
# How operations on values fail

An operation on values fails with a fault, which has a kind and words. Faults are of many kinds, but none
is one of grammar: an error of grammar can only come from what a script is made of.
-/

namespace Except

variable {ε α β : Type} {p : ε → Prop}

/-- If a result is an error, then one of a certain sort. -/
def FailsWith (p : ε → Prop) : Except ε α → Prop
  | .ok _ => True
  | .error found => p found

@[simp]
theorem failsWith_ok (value : α) : (ok value : Except ε α).FailsWith p :=
  trivial

@[simp]
theorem failsWith_pure (value : α) : (pure value : Except ε α).FailsWith p :=
  trivial

@[simp]
theorem failsWith_error {error : ε} : (Except.error error : Except ε α).FailsWith p ↔ p error :=
  Iff.rfl

theorem FailsWith.mono {q : ε → Prop} {result : Except ε α} (fails : result.FailsWith p)
    (implies : ∀ error, p error → q error) : result.FailsWith q := by
  cases result with
  | ok value => trivial
  | error error => exact implies error fails

theorem FailsWith.holds {result : Except ε α} (fails : result.FailsWith p) {error : ε}
    (failed : result = .error error) : p error :=
  failsWith_error.1 (failed ▸ fails)

@[simp]
theorem failsWith_map {result : Except ε α} {write : α → β} :
    (result.map write).FailsWith p ↔ result.FailsWith p := by
  cases result <;> rfl

theorem FailsWith.map {result : Except ε α} (fails : result.FailsWith p) (write : α → β) :
    (write <$> result).FailsWith p :=
  failsWith_map.2 fails

theorem FailsWith.bind {result : Except ε α} {next : α → Except ε β} (fails : result.FailsWith p)
    (rest : ∀ value, (next value).FailsWith p) : (result >>= next).FailsWith p := by
  cases result with
  | ok value => exact rest value
  | error error => exact fails

theorem FailsWith.mapM {step : α → Except ε β} (each : ∀ item, (step item).FailsWith p)
    (items : List α) : (items.mapM step).FailsWith p := by
  induction items with
  | nil => exact failsWith_pure _
  | cons item rest inductionHypothesis =>
      rw [List.mapM_cons]
      exact (each item).bind fun _ => inductionHypothesis.bind fun _ => failsWith_pure _

theorem FailsWith.ite {condition : Prop} [Decidable condition] {result other : Except ε α}
    (fails : result.FailsWith p) (failsOther : other.FailsWith p) :
    (if condition then result else other).FailsWith p := by
  split
  · exact fails
  · exact failsOther

end Except

namespace Authorization

/-! ## Encoded texts -/

namespace Encoding

theorem Treatment.failsWith_apply (treatment : Treatment) (wrong rest : List UInt8)
    (half? : List UInt8 → Option (Char × List UInt8)) :
    (treatment.apply wrong rest half?).FailsWith (· ≠ .grammar) := by
  cases treatment with
  | keepOctets => unfold apply; dsimp only; split <;> simp
  | keepHalves => unfold apply; dsimp only; split <;> simp
  | _ => simp [apply]

theorem Reader.failsWith_readFrom {State : Type} (reader : Reader State) (treatment : Treatment)
    (steps : Nat) (found : List Char) (state : State) (octets : List UInt8) :
    (readFrom reader treatment steps found state octets).FailsWith (· ≠ .grammar) := by
  induction steps generalizing found state octets with
  | zero => exact Except.failsWith_ok _
  | succ steps inductionHypothesis =>
      unfold readFrom
      split
      · exact Except.failsWith_ok _
      · exact inductionHypothesis ..
      · have treated := treatment.failsWith_apply
        split
        · rename_i wrong rest _ _ kind refused
          exact (treated _ _ _).holds refused
        · exact inductionHypothesis ..

@[simp]
theorem Reader.failsWith_text {State : Type} (reader : Reader State) (treatment : Treatment)
    (octets : List UInt8) : (reader.text treatment octets).FailsWith (· ≠ .grammar) :=
  Except.failsWith_map.2 (reader.failsWith_readFrom ..)

theorem Punycode.failsWith_insertAll (strict : Bool) (steps : Nat) {state} (digits : List Char) :
    (insertAll strict steps state digits).FailsWith (· ≠ .grammar) := by
  induction steps generalizing state digits with
  | zero => exact Except.failsWith_ok _
  | succ steps inductionHypothesis =>
      cases digits with
      | nil => exact Except.failsWith_ok _
      | cons digit rest =>
          unfold insertAll
          split
          · split <;> simp
          · dsimp only
            split
            · simp
            · exact inductionHypothesis _

theorem Punycode.failsWith_text (treatment : Treatment) (octets : List UInt8) :
    (Punycode.text treatment octets).FailsWith (· ≠ .grammar) := by
  refine .ite ?_ (by simp)
  refine .bind (Reader.failsWith_text ..) fun base => .bind (Reader.failsWith_text ..) fun digits => ?_
  exact .bind (failsWith_insertAll ..) fun _ => Except.failsWith_pure _

theorem failsWith_textOf (encoding : Encoding) (treatment : Treatment) (octets : List UInt8) :
    (encoding.textOf treatment octets).FailsWith (· ≠ .grammar) := by
  cases encoding with
  | punycode => exact Punycode.failsWith_text treatment octets
  | international => exact .ite (Reader.failsWith_text ..) (by simp)
  | undefined => simp [textOf]
  | _ => exact Reader.failsWith_text ..

theorem failsWith_text (name treatment : String) (octets : List UInt8) :
    (Encoding.text name treatment octets).FailsWith (· ≠ .grammar) := by
  refine .ite (by simp) ?_
  split
  · exact failsWith_textOf ..
  · simp

end Encoding

/-! ## Faults -/

/-- The errors of operations on values: of every kind except for that of grammar. -/
def Error.IsFault (error : Error) : Prop :=
  ∃ kind detail, error = .operation kind detail ∧ kind ≠ .grammar

open Error

variable {α β : Type}

@[simp]
theorem failsWith_fault {kind : FaultKind} {detail : String} :
    (fault kind detail : Except Error α).FailsWith IsFault ↔ kind ≠ .grammar := by
  refine ⟨fun ⟨found, written, same, ordinary⟩ => ?_, fun ordinary => ⟨kind, detail, rfl, ordinary⟩⟩
  cases same
  exact ordinary

@[simp]
theorem failsWith_unhashable (value : Value) :
    (unhashable value : Except Error α).FailsWith IsFault := by
  simp [unhashable]

@[simp]
theorem Value.failsWith_toText (value : Value) : value.toText.FailsWith IsFault := by
  unfold toText
  split
  · exact Except.failsWith_ok _
  · exact failsWith_fault.2 (by decide)

@[simp]
theorem Value.failsWith_toWritten (value : Value) : value.toWritten.FailsWith IsFault :=
  .ite (failsWith_fault.2 (by decide)) (Except.failsWith_ok _)

theorem failsWith_getD {found? : Option (Except Error α)} {other : Except Error α} {p : Error → Prop}
    (each : ∀ result ∈ found?, result.FailsWith p) (missing : other.FailsWith p) :
    (found?.getD other).FailsWith p := by
  cases found? with
  | none => exact missing
  | some result => exact each result rfl

namespace Draw

variable {p : Error → Prop}

/-- If an operation that may take items fails, then with an error of a certain sort. -/
def FailsWith (p : Error → Prop) (draw : Draw α) : Prop :=
  ∀ cursors, (Id.run (draw.run.run cursors)).1.FailsWith p

@[simp]
theorem failsWith_pure (value : α) : (pure value : Draw α).FailsWith p :=
  fun _ => trivial

@[simp]
theorem failsWith_liftM {result : Except Error α} :
    (liftM result : Draw α).FailsWith p ↔ result.FailsWith p := by
  cases result with
  | ok value => exact iff_of_true (fun _ => trivial) trivial
  | error error => exact ⟨fun fails => fails {}, fun fails _ => fails⟩

@[simp]
theorem failsWith_modifyGet (change : Cursors → α × Cursors) :
    (modifyGet change : Draw α).FailsWith p :=
  fun _ => trivial

theorem FailsWith.bind {draw : Draw α} {next : α → Draw β} (fails : draw.FailsWith p)
    (rest : ∀ value, (next value).FailsWith p) : (draw >>= next).FailsWith p := by
  intro cursors
  have here := fails cursors
  rw [run_bind]
  generalize Id.run (draw.run.run cursors) = ending at here
  obtain ⟨_ | value, after⟩ := ending
  · exact here
  · exact rest value after

theorem FailsWith.ite {condition : Prop} [Decidable condition] {draw other : Draw α}
    (fails : draw.FailsWith p) (failsOther : other.FailsWith p) :
    (if condition then draw else other).FailsWith p := by
  split
  · exact fails
  · exact failsOther

end Draw

namespace Value

/-! ## Times -/

@[simp]
theorem failsWith_spanOf (micros : Int) : (spanOf micros).FailsWith IsFault := by
  unfold spanOf
  split <;> simp

@[simp]
theorem failsWith_movedBy (time : Time.Instant) (micros : Int) :
    (movedBy time micros).FailsWith IsFault := by
  unfold movedBy
  split <;> simp

@[simp]
theorem failsWith_noDivisor : (noDivisor : Except Error α).FailsWith IsFault := by
  simp [noDivisor]

@[simp]
theorem failsWith_ratioOf (x : Float) : (ratioOf x).FailsWith IsFault := by
  unfold ratioOf
  split
  · simp
  · split <;> simp

@[simp]
theorem failsWith_roundedSpan (numerator denominator : Int) :
    (roundedSpan numerator denominator).FailsWith IsFault :=
  .ite failsWith_noDivisor (failsWith_spanOf _)

theorem failsWith_addTimes? (a b : Value) :
    ∀ result ∈ addTimes? a b, result.FailsWith IsFault := by
  unfold addTimes?
  split <;> simp

theorem failsWith_subtractTimes? (a b : Value) :
    ∀ result ∈ subtractTimes? a b, result.FailsWith IsFault := by
  unfold subtractTimes?
  split
  · rintro result ⟨⟩
    split <;> simp
  all_goals simp

theorem failsWith_multipleOf (span : Time.Duration) (factor : Value) :
    ∀ result ∈ multipleOf span factor, result.FailsWith IsFault := by
  unfold multipleOf
  split
  · rintro result ⟨⟩
    exact (failsWith_ratioOf _).bind fun _ => failsWith_roundedSpan _ _
  · simp

theorem failsWith_multiplyTimes? (a b : Value) :
    ∀ result ∈ multiplyTimes? a b, result.FailsWith IsFault := by
  unfold multiplyTimes?
  split
  · exact failsWith_multipleOf _ _
  · exact failsWith_multipleOf _ _
  · simp

theorem failsWith_divideTimes? (a b : Value) :
    ∀ result ∈ divideTimes? a b, result.FailsWith IsFault := by
  unfold divideTimes?
  split
  · rintro result ⟨⟩
    refine .ite failsWith_noDivisor ?_
    split <;> simp
  · rintro result ⟨⟩
    exact (failsWith_ratioOf _).bind fun _ => failsWith_roundedSpan _ _
  · simp
  · simp

theorem failsWith_floorDivideTimes? (a b : Value) :
    ∀ result ∈ floorDivideTimes? a b, result.FailsWith IsFault := by
  unfold floorDivideTimes?
  split
  · rintro result ⟨⟩
    exact .ite failsWith_noDivisor (Except.failsWith_ok _)
  · intro result found
    obtain ⟨n, -, rfl⟩ := Option.map_eq_some_iff.1 found
    exact .ite failsWith_noDivisor (failsWith_spanOf _)
  · simp

theorem failsWith_moduloTimes? (a b : Value) :
    ∀ result ∈ moduloTimes? a b, result.FailsWith IsFault := by
  unfold moduloTimes?
  split
  · rintro result ⟨⟩
    exact .ite failsWith_noDivisor (failsWith_spanOf _)
  · simp

/-! ## Items -/

@[simp]
theorem failsWith_iteration (value : Value) : value.iteration.FailsWith IsFault := by
  unfold iteration
  split <;> simp

@[simp]
theorem failsWith_items (value : Value) : value.items.FailsWith IsFault :=
  .bind (Draw.failsWith_liftM.2 (failsWith_iteration value)) fun _ => Draw.failsWith_modifyGet _

@[simp]
theorem failsWith_takeMembers (value : Value) : value.takeMembers.FailsWith IsFault := by
  refine .bind (Draw.failsWith_liftM.2 (failsWith_iteration value)) fun walk => ?_
  refine .bind (fun _ => trivial) fun cursors => ?_
  dsimp only
  split
  · exact .bind (fun _ => trivial) fun _ => Draw.failsWith_pure _
  · exact .bind (fun _ => trivial) fun _ => Draw.failsWith_liftM.2 (failsWith_unhashable _)

@[simp]
theorem failsWith_compared (outcome : Option α) : (compared outcome).FailsWith IsFault := by
  unfold compared
  split <;> simp

theorem failsWith_amongKeys (value : Value) (keys : List Value) :
    (amongKeys value keys).FailsWith IsFault :=
  .ite (Except.failsWith_ok _) (failsWith_unhashable value)

theorem failsWith_amongMembers (value : Value) (members : List Value) :
    (amongMembers value members).FailsWith IsFault := by
  unfold amongMembers
  split
  · exact .ite (Except.failsWith_ok _) (failsWith_unhashable _)
  · exact failsWith_amongKeys _ _

theorem failsWith_amongEntries (value : Value) (entries : List (Value × Value)) :
    (amongEntries value entries).FailsWith IsFault := by
  unfold amongEntries
  split
  · exact .ite (failsWith_compared _) (failsWith_unhashable _)
  · exact Except.failsWith_ok _

theorem failsWith_isMember (value container : Value) :
    (value.isMember container).FailsWith IsFault := by
  unfold isMember
  split
  · split <;> simp
  · split
    · simp
    · split
      · exact .ite (Draw.failsWith_pure _) (by simp)
      · simp
  · exact Draw.failsWith_liftM.2 (failsWith_amongMembers _ _)
  · exact Draw.failsWith_liftM.2 (failsWith_amongKeys _ _)
  · exact Draw.failsWith_liftM.2 (failsWith_amongKeys _ _)
  · exact Draw.failsWith_liftM.2 (failsWith_amongKeys _ _)
  · exact Draw.failsWith_liftM.2 (failsWith_amongEntries _ _)
  · exact Draw.failsWith_pure _
  · split
    · exact .bind (Draw.failsWith_modifyGet _) fun _ => Draw.failsWith_liftM.2 (failsWith_compared _)
    · simp

/-! ## Formatted octets -/

@[simp]
theorem failsWith_take (supply : Supply) : supply.take.FailsWith IsFault := by
  unfold Supply.take
  split <;> simp

theorem failsWith_keyedArgument (source : Value) (key : DirectiveKey) :
    (keyedArgument source key).FailsWith IsFault := by
  unfold keyedArgument
  split
  · simp
  · split <;> simp
  · split
    · split <;> simp
    · simp

theorem failsWith_amount (most : Nat) (given : Amount) (supply : Supply) :
    (amount most given supply).FailsWith IsFault := by
  unfold amount
  split
  · simp
  · split <;> simp
  · refine .bind (failsWith_take supply) fun ⟨value, left⟩ => ?_
    dsimp only
    split
    · simp
    · split <;> simp

@[simp]
theorem failsWith_fill (count : Nat) (c : Char) : (fill count c).FailsWith IsFault := by
  unfold fill
  split <;> simp

theorem failsWith_fillText (f : Filling) (text : List Char) :
    (fillText f text).FailsWith IsFault :=
  .bind (failsWith_fill _ _) fun _ => Except.failsWith_pure _

theorem failsWith_fillNumber (f : Filling) (negative : Bool) (mark digits : List Char) :
    (fillNumber f negative mark digits).FailsWith IsFault := by
  have filled (count : Nat) (c : Char) (write : List Char → List Char) :
      (do return write (← fill count c)).FailsWith IsFault :=
    .bind (failsWith_fill _ _) fun _ => Except.failsWith_pure _
  exact .ite (filled _ _ _) (.ite (filled _ _ _) (filled _ _ _))

theorem failsWith_plainWritten (value : Value) : (plainWritten value).FailsWith IsFault :=
  .bind (failsWith_toWritten value) fun _ => Except.failsWith_pure _

theorem failsWith_octetOf (value : Value) : (octetOf value).FailsWith IsFault := by
  unfold octetOf
  split
  · simp
  · split
    · simp
    · split <;> simp

theorem failsWith_wholeArgument (base : Base) (value : Value) :
    (wholeArgument base value).FailsWith IsFault := by
  unfold wholeArgument
  split
  · split
    · simp
    · split <;> simp
  · split <;> simp

theorem failsWith_realArgument (value : Value) : (realArgument value).FailsWith IsFault := by
  unfold realArgument
  dsimp only
  split <;> simp

theorem failsWith_magnitudeDigits (base : Base) (n : Int) :
    (magnitudeDigits base n).FailsWith IsFault := by
  unfold magnitudeDigits
  split
  · generalize int n.natAbs = value
    exact (failsWith_toText value).bind fun _ => Except.failsWith_pure _
  · exact Except.failsWith_ok _
  · exact Except.failsWith_ok _

theorem failsWith_convertWhole (f : Filling) (places : Option Nat) (base : Base) (capital : Bool)
    (n : Int) : (convertWhole f places base capital n).FailsWith IsFault := by
  refine .ite (by simp) ?_
  refine .bind (failsWith_magnitudeDigits base n) fun digits => ?_
  refine .bind (failsWith_fill _ _) fun zeros => ?_
  dsimp only
  split
  all_goals exact failsWith_fillNumber _ _ _ _

theorem failsWith_convertReal (f : Filling) (places : Option Nat) (form : Number.Form)
    (capital : Bool) (x : Float) : (convertReal f places form capital x).FailsWith IsFault := by
  unfold convertReal
  split
  all_goals exact failsWith_fillNumber _ _ _ _

theorem failsWith_convert (f : Filling) (places : Option Nat) (value : Value)
    (conversion : Conversion) : (convert f places value conversion).FailsWith IsFault := by
  cases conversion with
  | octets =>
      cases value with
      | bytes octets => exact failsWith_fillText _ _
      | _ => exact failsWith_fault.2 (by decide)
  | written => exact .bind (failsWith_plainWritten value) fun _ => failsWith_fillText _ _
  | octet => exact .bind (failsWith_octetOf value) fun _ => failsWith_fillText _ _
  | whole base capital =>
      exact .bind (failsWith_wholeArgument base value) fun _ => failsWith_convertWhole _ _ _ _ _
  | real form capital =>
      exact .bind (failsWith_realArgument value) fun _ => failsWith_convertReal _ _ _ _ _

theorem failsWith_directed (source : Value) (directive : Directive) (supply : Supply) :
    (directed source directive supply).FailsWith IsFault := by
  refine .bind (failsWith_keyedArgument source _) fun keyed => ?_
  refine .bind (failsWith_amount _ _ _) fun ⟨width, supply⟩ => ?_
  refine .bind (failsWith_amount _ _ _) fun ⟨places, supply⟩ => ?_
  dsimp only
  split
  · simp
  · refine .bind (failsWith_take _) fun taken => ?_
    split
    · exact .ite (by simp) (by simp)
    · exact .bind (failsWith_convert _ _ _ _) fun _ => Except.failsWith_pure _

theorem failsWith_formattedParts (source : Value) (made : List Char) (supply : Supply)
    (parts : List FormatPart) : (formattedParts source made supply parts).FailsWith IsFault := by
  induction parts generalizing made supply with
  | nil => exact .ite (Except.failsWith_ok _) (by simp)
  | cons part rest inductionHypothesis =>
      cases part with
      | plain c => exact inductionHypothesis _ _
      | directive directive =>
          exact .bind (failsWith_directed source directive supply) fun _ => inductionHypothesis _ _

/-! ## Operators -/

@[simp]
theorem failsWith_doubleOf (n : Int) : (doubleOf n).FailsWith IsFault := by
  unfold doubleOf
  split <;> simp

@[simp]
theorem failsWith_toReal (number : Numeric) : (toReal number).FailsWith IsFault := by
  cases number <;> simp [toReal]

@[simp]
theorem failsWith_toComplex (number : Numeric) : (toComplex number).FailsWith IsFault := by
  cases number <;> simp [toComplex]

theorem failsWith_paired (a b : Numeric) : (paired a b).FailsWith IsFault := by
  unfold paired
  split
  · simp
  · simp
  · simp
  · exact .bind (failsWith_toReal a) fun _ => .bind (failsWith_toReal b) fun _ =>
      Except.failsWith_pure _

theorem failsWith_numbers? (a b : Value) : ∀ pair ∈ numbers? a b, pair.FailsWith IsFault := by
  unfold numbers?
  split
  · rintro pair ⟨⟩
    exact failsWith_paired _ _
  · simp

@[simp]
theorem failsWith_noOperation (operator : String) (a b : Value) :
    (noOperation operator a b : Except Error α).FailsWith IsFault := by
  simp [noOperation]

@[simp]
theorem failsWith_divisionByZero : (divisionByZero : Except Error α).FailsWith IsFault := by
  simp [divisionByZero]

theorem failsWith_add (a b : Value) : (a.add b).FailsWith IsFault := by
  unfold add
  split
  iterate 4 exact Except.failsWith_ok _
  split
  · exact failsWith_getD (failsWith_addTimes? _ _) (failsWith_noOperation _ _ _)
  · rename_i pair isPair
    refine .bind (failsWith_numbers? _ _ pair isPair) fun pair => ?_
    split <;> simp

theorem failsWith_subtractPlain (a b : Value) : (subtractPlain a b).FailsWith IsFault := by
  unfold subtractPlain
  split
  · rename_i pair isPair
    refine .bind (failsWith_numbers? _ _ pair isPair) fun pair => ?_
    split <;> simp
  · split
    · exact Except.failsWith_ok _
    · exact failsWith_getD (failsWith_subtractTimes? _ _) (failsWith_noOperation _ _ _)

theorem failsWith_subtract (a b : Value) : (a.subtract b).FailsWith IsFault := by
  refine .ite ?_ (Draw.failsWith_liftM.2 (failsWith_subtractPlain a b))
  exact .bind (failsWith_takeMembers a) fun _ => .bind (failsWith_takeMembers b) fun _ =>
    Draw.failsWith_pure _

@[simp]
theorem failsWith_repeated (items : List α) (count : Int) :
    (repeated items count).FailsWith IsFault :=
  .ite (by simp) (.ite (by simp) (.ite (by simp) (.ite (by simp) (by simp))))

theorem failsWith_repeatedValue? (sequence : Value) (count : Int) :
    ∀ result ∈ repeatedValue? sequence count, result.FailsWith IsFault := by
  unfold repeatedValue?
  split <;> simp

theorem failsWith_multiply (a b : Value) : (a.multiply b).FailsWith IsFault := by
  unfold multiply
  split
  · rename_i pair isPair
    refine .bind (failsWith_numbers? _ _ pair isPair) fun pair => ?_
    split <;> simp
  · refine failsWith_getD (fun result found => ?_) (failsWith_noOperation _ _ _)
    obtain repeats | ⟨-, times⟩ := Option.or_eq_some_iff.1 ((Option.or_eq_orElse ..).trans found)
    · split at repeats
      · exact failsWith_repeatedValue? _ _ result repeats
      · obtain ⟨count, -, repeats⟩ := Option.bind_eq_some_iff.1 repeats
        exact failsWith_repeatedValue? _ _ result repeats
    · exact failsWith_multiplyTimes? a b result times

theorem failsWith_divide (a b : Value) : (a.divide b).FailsWith IsFault := by
  unfold divide
  split
  · exact failsWith_getD (failsWith_divideTimes? _ _) (failsWith_noOperation _ _ _)
  · rename_i pair isPair
    refine .bind (failsWith_numbers? _ _ pair isPair) fun pair => ?_
    split
    · refine .ite failsWith_divisionByZero ?_
      split <;> simp
    · exact .ite failsWith_divisionByZero (Except.failsWith_pure _)
    · exact .ite failsWith_divisionByZero (Except.failsWith_pure _)

theorem failsWith_floorDivide (a b : Value) : (a.floorDivide b).FailsWith IsFault := by
  unfold floorDivide
  split
  · exact failsWith_getD (failsWith_floorDivideTimes? _ _) (failsWith_noOperation _ _ _)
  · rename_i pair isPair
    refine .bind (failsWith_numbers? _ _ pair isPair) fun pair => ?_
    split
    · exact .ite failsWith_divisionByZero (Except.failsWith_pure _)
    · exact .ite failsWith_divisionByZero (Except.failsWith_pure _)
    · exact failsWith_noOperation _ _ _

theorem failsWith_modulo (a b : Value) : (a.modulo b).FailsWith IsFault := by
  unfold modulo
  split
  · split
    · exact Except.failsWith_map.2 <| Except.failsWith_map.2 (failsWith_formattedParts _ _ _ _)
    · exact failsWith_getD (failsWith_moduloTimes? _ _) (failsWith_noOperation _ _ _)
  · rename_i pair isPair
    refine .bind (failsWith_numbers? _ _ pair isPair) fun pair => ?_
    split
    · exact .ite failsWith_divisionByZero (Except.failsWith_pure _)
    · exact .ite failsWith_divisionByZero (Except.failsWith_pure _)
    · exact failsWith_noOperation _ _ _

theorem failsWith_complexPower (z w : Number.Complex) : (complexPower z w).FailsWith IsFault := by
  unfold complexPower
  split <;> simp

theorem failsWith_realPower (x y : Float) : (realPower x y).FailsWith IsFault := by
  unfold realPower
  split
  · simp
  · simp
  · simp
  · exact failsWith_complexPower _ _

theorem failsWith_power (a b : Value) : (a.power b).FailsWith IsFault := by
  unfold power
  split
  · exact failsWith_noOperation _ _ _
  · rename_i pair isPair
    refine .bind (failsWith_numbers? _ _ pair isPair) fun pair => ?_
    split
    · refine .ite (Except.failsWith_pure _) ?_
      exact .bind (failsWith_doubleOf _) fun _ => .bind (failsWith_doubleOf _) fun _ =>
        failsWith_realPower _ _
    · exact failsWith_realPower _ _
    · exact failsWith_complexPower _ _

theorem failsWith_negate (value : Value) : value.negate.FailsWith IsFault := by
  unfold negate
  split
  iterate 3 exact Except.failsWith_ok _
  refine failsWith_getD ?_ (by simp)
  unfold negateTime?
  split <;> simp

theorem failsWith_affirm (value : Value) : value.affirm.FailsWith IsFault := by
  unfold affirm
  split
  · simp
  · simp
  · split <;> simp

theorem failsWith_magnitude (value : Value) : value.magnitude.FailsWith IsFault := by
  unfold magnitude
  split
  · simp
  · simp
  · exact .ite (by simp) (Except.failsWith_ok _)
  · refine failsWith_getD ?_ (by simp)
    unfold magnitudeOfTime?
    split <;> simp

/-! ## Elements -/

@[simp]
theorem failsWith_bound? (value : Value) : (bound? value).FailsWith IsFault := by
  unfold bound?
  split
  · simp
  · split <;> simp

theorem failsWith_slicePositions (length : Nat) (lower upper step : Value) :
    (slicePositions length lower upper step).FailsWith IsFault := by
  refine .bind (failsWith_bound? step) fun stride => .ite (by simp) ?_
  refine .bind (failsWith_bound? lower) fun first => ?_
  exact .bind (failsWith_bound? upper) fun last => Except.failsWith_pure _

theorem failsWith_sliceOf (items : List α) (lower upper step : Value) :
    (sliceOf items lower upper step).FailsWith IsFault :=
  .bind (failsWith_slicePositions _ _ _ _) fun _ => Except.failsWith_pure _

theorem failsWith_itemAt (kind : String) (items : List α) (position : Int) :
    (itemAt kind items position).FailsWith IsFault := by
  unfold itemAt
  dsimp only
  split <;> simp

theorem failsWith_ofSequence (kind : String) (items : List α) (single : α → Value)
    (several : List α → Value) (index : Value) :
    (ofSequence kind items single several index).FailsWith IsFault := by
  unfold ofSequence
  split
  · exact Except.failsWith_map.2 (failsWith_sliceOf _ _ _ _)
  · split
    · exact Except.failsWith_map.2 (failsWith_itemAt _ _ _)
    · simp

theorem failsWith_entryAt (entries : List (Value × Value)) (key : Value) :
    (entryAt entries key).FailsWith fun error => error.IsFault ∨ error = key.missingKey := by
  refine .ite ((failsWith_unhashable key).mono fun _ => .inl) ?_
  split
  · exact Except.failsWith_ok _
  · exact .inr rfl

/-- The error for a missing key is one of this class, whether the key can be written or not. -/
theorem label_missingKey (key : Value) : key.missingKey.label = "KeyError" := by
  unfold missingKey
  split <;> rfl

theorem failsWith_element (base index : Value) :
    (base.element index).FailsWith fun error => error.IsFault ∨ error = index.missingKey := by
  have others {result : Except Error Value} (fails : result.FailsWith IsFault) :
      result.FailsWith fun error => error.IsFault ∨ error = index.missingKey := fails.mono fun _ => .inl
  unfold element
  split
  · exact failsWith_entryAt _ _
  · exact failsWith_entryAt _ _
  · exact others (failsWith_ofSequence _ _ _ _ _)
  · exact others (failsWith_ofSequence _ _ _ _ _)
  · exact others (failsWith_ofSequence _ _ _ _ _)
  · exact others (by simp)

/-! ## Texts from values -/

theorem failsWith_nameOf (value : Value) : (nameOf value).FailsWith IsFault := by
  unfold nameOf
  split
  · exact .ite (by simp) (.ite (by simp) (Except.failsWith_ok _))
  · simp

theorem failsWith_toTextBy (value encoding treatment : Option Value) :
    (toTextBy value encoding treatment).FailsWith IsFault := by
  have named (name? : Option Value) : (name?.mapM nameOf).FailsWith IsFault := by
    cases name? with
    | none => exact Except.failsWith_ok _
    | some name => exact (failsWith_nameOf name).map _
  refine .bind (named encoding) fun encoding => .bind (named treatment) fun treatment => ?_
  split
  · exact Except.failsWith_pure _
  · exact .bind (failsWith_toText _) fun _ => Except.failsWith_pure _
  · split
    · exact Except.failsWith_pure _
    · rename_i kind refused
      exact failsWith_fault.2 ((Encoding.failsWith_text _ _ _).holds refused)
  · simp

end Value

/-! ## Functions -/

namespace Builtin

open Value

@[simp]
theorem failsWith_wrongArguments (f : Builtin) :
    (wrongArguments f : Draw α).FailsWith IsFault := by
  simp [wrongArguments]

@[simp]
theorem failsWith_size (value : Value) : (size value).FailsWith IsFault := by
  unfold size
  split
  · simp
  · exact .ite (by simp) (Except.failsWith_ok _)

theorem failsWith_readWhole (base : Nat) (text : Option String) :
    (readWhole base text).FailsWith IsFault := by
  unfold readWhole
  split <;> simp [badInteger]

@[simp]
theorem failsWith_wholeOf (value : Value) : (wholeOf value).FailsWith IsFault := by
  unfold wholeOf
  split
  · split
    · simp
    · split <;> simp
  · split
    · exact failsWith_readWhole _ _
    · simp
    · simp

@[simp]
theorem failsWith_wholeInBase (value base : Value) :
    (wholeInBase value base).FailsWith IsFault := by
  unfold wholeInBase
  split
  · simp
  · refine .ite ?_ (by simp)
    split
    · exact failsWith_readWhole _ _
    · simp

@[simp]
theorem failsWith_realOf (value : Value) : (realOf value).FailsWith IsFault := by
  unfold realOf
  split
  · simp
  · split
    · split <;> simp
    · simp
    · simp

theorem failsWith_pairOf (place : Nat) (value : Value) :
    (pairOf place value).FailsWith IsFault := by
  unfold pairOf
  split
  · simp
  · refine .bind (failsWith_items _) fun items => ?_
    split <;> simp

theorem failsWith_storePairs (entries : List (Value × Value)) (place : Nat) (items : List Value) :
    (storePairs entries place items).FailsWith IsFault := by
  induction items generalizing entries place with
  | nil => exact Draw.failsWith_pure _
  | cons value rest inductionHypothesis =>
      refine .bind (failsWith_pairOf place value) fun pair => ?_
      exact .ite (inductionHypothesis _ _) (by simp)

theorem failsWith_entriesOf (value : Value) : (entriesOf value).FailsWith IsFault := by
  unfold entriesOf
  split
  · simp
  · exact .bind (failsWith_items _) fun _ => failsWith_storePairs _ _ _

theorem failsWith_bounds (values : List Value) : (bounds values).FailsWith IsFault := by
  induction values with
  | nil => exact Except.failsWith_ok _
  | cons value rest inductionHypothesis =>
      unfold bounds
      split
      · exact Except.failsWith_map.2 inductionHypothesis
      · simp

@[simp]
theorem failsWith_rangeOf (start stop step : Int) :
    (rangeOf start stop step).FailsWith IsFault :=
  .ite (by simp) (Except.failsWith_ok _)

/-! ### Aggregation -/

theorem failsWith_extreme (relation : Relation) {key : Value → Draw Value}
    (keys : ∀ item, (key item).FailsWith IsFault) (best : Value × Value) (items : List Value) :
    (extreme relation key best items).FailsWith IsFault := by
  induction items generalizing best with
  | nil => exact Draw.failsWith_pure _
  | cons item rest inductionHypothesis =>
      refine .bind (keys item) fun first => ?_
      split
      · simp [comparisonFault]
      · exact inductionHypothesis _
      · exact inductionHypothesis _

theorem failsWith_best (relation : Relation) {key : Value → Draw Value}
    (keys : ∀ item, (key item).FailsWith IsFault) (default? : Option Value) (items : List Value) :
    (best relation key default? items).FailsWith IsFault := by
  unfold best
  split
  · exact .bind (keys _) fun _ => failsWith_extreme relation keys _ _
  · split <;> simp

theorem failsWith_bestOf (f : Builtin) (relation : Relation) {key : Value → Draw Value}
    (keys : ∀ item, (key item).FailsWith IsFault) (default? : Option Value) (values : List Value) :
    (bestOf f relation key default? values).FailsWith IsFault := by
  unfold bestOf
  split
  · exact failsWith_wrongArguments f
  · exact .bind (failsWith_items _) fun _ => failsWith_best relation keys _ _
  · exact .ite (failsWith_wrongArguments f) (failsWith_best relation keys _ _)

@[simp]
theorem failsWith_sortedEntries (reverse : Bool) (entries : List (Value × Value)) :
    (sortedEntries reverse entries).FailsWith IsFault := by
  unfold sortedEntries
  dsimp only
  split <;> simp

theorem failsWith_sumOf (total : Value) (items : List Value) :
    (sumOf total items).FailsWith IsFault := by
  induction items generalizing total with
  | nil => exact Except.failsWith_ok _
  | cons item rest inductionHypothesis =>
      exact .bind (failsWith_add total item) fun _ => inductionHypothesis _

@[simp]
theorem failsWith_sumFrom (start : Value) (items : List Value) :
    (sumFrom start items).FailsWith IsFault := by
  unfold sumFrom
  split
  · simp
  · simp
  · exact failsWith_sumOf _ _

@[simp]
theorem failsWith_rounded (value places : Value) : (rounded value places).FailsWith IsFault := by
  have notWhole : (rounded.notWhole places).FailsWith IsFault := by simp [rounded.notWhole]
  unfold rounded
  split
  · split
    · simp
    · split <;> simp
  · split
    · exact notWhole
    · split <;> simp
  · split
    · simp
    · split
      · simp
      · split
        · exact notWhole
        · exact .ite (by simp) (.ite (by simp) (by simp))

/-! ### Calls -/

theorem failsWith_applyPlain (f : Builtin) (arguments : List Value) :
    (applyPlain f arguments).FailsWith IsFault := by
  have keys (item : Value) : (pure item : Draw Value).FailsWith IsFault := Draw.failsWith_pure item
  have fromItems {value : Value} {next : List Value → Draw Value}
      (rest : ∀ items, (next items).FailsWith IsFault) :
      (value.items >>= next).FailsWith IsFault :=
    .bind (failsWith_items value) rest
  unfold applyPlain
  split
  case h_1 => exact .bind (by simp) fun _ => Draw.failsWith_pure _
  case h_2 | h_3 | h_4 | h_5 => exact Draw.failsWith_liftM.2 (failsWith_toTextBy _ _ _)
  case h_13 => exact Draw.failsWith_liftM.2 (failsWith_magnitude _)
  case h_14 | h_15 => exact failsWith_bestOf _ _ keys _ _
  case h_16 | h_17 | h_18 | h_19 | h_20 | h_24 | h_26 => exact fromItems fun _ => by simp
  case h_28 => exact .bind (failsWith_takeMembers _) fun _ => Draw.failsWith_pure _
  case h_30 => exact .bind (failsWith_entriesOf _) fun _ => Draw.failsWith_pure _
  case h_31 =>
    refine .bind (Draw.failsWith_liftM.2 (failsWith_bounds _)) fun found => ?_
    split <;> simp
  all_goals simp

theorem failsWith_keyFunction (key item : Value) : (keyFunction key item).FailsWith IsFault := by
  unfold keyFunction
  split
  · simp
  · exact failsWith_applyPlain _ _
  · simp

theorem failsWith_keyed {key : Value → Draw Value} (keys : ∀ item, (key item).FailsWith IsFault)
    (items : List Value) : (keyed key items).FailsWith IsFault := by
  induction items with
  | nil => exact Draw.failsWith_pure _
  | cons item rest inductionHypothesis =>
      exact .bind (keys item) fun _ => .bind inductionHypothesis fun _ => Draw.failsWith_pure _

theorem failsWith_sortedBy (value : Value) (named : List (String × Value)) :
    (sortedBy value named).FailsWith IsFault := by
  refine .bind (failsWith_items value) fun items => ?_
  split
  · simp
  · refine .ite (by simp) ?_
    exact .bind (failsWith_keyed (failsWith_keyFunction _) _) fun _ => by simp

theorem failsWith_applyNamed (f : Builtin) (arguments : List Value)
    (named : List (String × Value)) : (applyNamed f arguments named).FailsWith IsFault := by
  have extremeBy (g : Builtin) (relation : Relation) :
      (extremeBy g relation arguments named).FailsWith IsFault :=
    failsWith_bestOf _ _ (failsWith_keyFunction _) _ _
  unfold applyNamed
  dsimp only
  split
  · exact .ite (failsWith_sortedBy _ _) (failsWith_wrongArguments _)
  · exact .ite (extremeBy _ _) (failsWith_wrongArguments _)
  · exact .ite (extremeBy _ _) (failsWith_wrongArguments _)
  · split
    · exact .bind (failsWith_items _) fun _ => by simp
    · exact failsWith_wrongArguments _
  · split
    · exact failsWith_applyPlain _ _
    · exact failsWith_wrongArguments _
  · split
    · simp
    · exact failsWith_wrongArguments _
  · exact .ite (Draw.failsWith_liftM.2 (failsWith_toTextBy _ _ _)) (failsWith_wrongArguments _)
  · split
    · simp
    · exact .bind (failsWith_entriesOf _) fun _ => Draw.failsWith_pure _
    · exact .bind (failsWith_wrongArguments _) fun _ => Draw.failsWith_pure _
  · exact failsWith_wrongArguments _

theorem failsWith_apply (f : Builtin) (arguments : List Value) (named : List (String × Value)) :
    (f.apply arguments named).FailsWith IsFault :=
  .ite (failsWith_applyPlain f arguments) (failsWith_applyNamed f arguments named)

end Builtin

/-! ## Methods -/

namespace Method

open Value

@[simp]
theorem failsWith_wrongArguments (name : String) :
    (wrongArguments name : Except Error α).FailsWith IsFault := by
  simp [wrongArguments]

@[simp]
theorem failsWith_stripped (strip : (Char → Bool) → List Char → List Char) (content : String)
    (drop : Value) : (stripped strip content drop).FailsWith IsFault := by
  unfold stripped
  split <;> simp

theorem failsWith_partBound (default : Int) (value : Value) :
    (partBound default value).FailsWith IsFault := by
  unfold partBound
  split
  · simp
  · split <;> simp

theorem failsWith_partOf (content : String) (bounds : List Value) :
    (partOf content bounds).FailsWith IsFault := by
  unfold partOf
  split
  · simp
  · exact .bind (failsWith_partBound _ _) fun _ => Except.failsWith_pure _
  · exact .bind (failsWith_partBound _ _) fun _ => .bind (failsWith_partBound _ _) fun _ =>
      Except.failsWith_pure _
  · simp

theorem failsWith_anyAffix (test : List Char → List Char → Bool) (part : Option (Nat × List Char))
    (affixes : List Value) : (anyAffix test part affixes).FailsWith IsFault := by
  induction affixes with
  | nil => exact Except.failsWith_ok _
  | cons affix rest inductionHypothesis =>
      unfold anyAffix
      split
      · simp
      · exact .ite (Except.failsWith_ok _) (by simp_all)
      · simp

@[simp]
theorem failsWith_hasAffix (test : List Char → List Char → Bool) (content : String)
    (affix : Value) (bounds : List Value) :
    (hasAffix test content affix bounds).FailsWith IsFault := by
  refine .bind (failsWith_partOf content bounds) fun part => ?_
  split
  · simp
  · exact .bind (failsWith_anyAffix _ _ _) fun _ => Except.failsWith_pure _
  · simp

@[simp]
theorem failsWith_found (content : String) (word : Value) (bounds : List Value) :
    (found content word bounds).FailsWith IsFault := by
  unfold found
  split
  · refine .bind (failsWith_partOf content bounds) fun part => ?_
    split
    · simp
    · split <;> simp
  · simp

@[simp]
theorem failsWith_counted (content : String) (word : Value) (bounds : List Value) :
    (counted content word bounds).FailsWith IsFault := by
  unfold counted
  split
  · refine .bind (failsWith_partOf content bounds) fun part => ?_
    split <;> simp
  · simp

theorem failsWith_split (content : String) (separator most : Value) :
    (split content separator most).FailsWith IsFault := by
  unfold Method.split
  dsimp only
  split
  · simp
  · split
    · simp
    · exact .ite (by simp) (Except.failsWith_ok _)
    · simp

theorem failsWith_splitBy (content : String) (arguments : List Value)
    (named : List (String × Value)) : (splitBy content arguments named).FailsWith IsFault :=
  .ite (failsWith_wrongArguments _) (.ite (failsWith_wrongArguments _) (failsWith_split _ _ _))

theorem failsWith_textParts (items : List Value) : (textParts items).FailsWith IsFault := by
  induction items with
  | nil => exact Except.failsWith_ok _
  | cons item rest inductionHypothesis =>
      cases item with
      | str part => exact Except.failsWith_map.2 inductionHypothesis
      | _ => exact failsWith_fault.2 (by decide)

theorem failsWith_onText (content name : String) (arguments : List Value) :
    (onText content name arguments).FailsWith IsFault := by
  unfold onText
  split
  case h_15 =>
    exact .bind (failsWith_items _) fun _ =>
      .bind (Draw.failsWith_liftM.2 (failsWith_textParts _)) fun _ => Draw.failsWith_pure _
  all_goals simp

theorem failsWith_position? (value : Value) : (position? value).FailsWith IsFault := by
  unfold position?
  split <;> simp

theorem failsWith_indexOf (items : List Value) (value : Value) (start stop : Int) :
    (indexOf items value start stop).FailsWith IsFault := by
  unfold indexOf
  dsimp only
  split <;> simp

theorem failsWith_onSequence (items : List Value) (name : String) (arguments : List Value) :
    (onSequence items name arguments).FailsWith IsFault := by
  unfold onSequence
  split
  · exact Except.failsWith_map.2 ((failsWith_compared _).bind fun _ => Except.failsWith_pure _)
  · exact failsWith_indexOf _ _ _ _
  · exact .bind (failsWith_position? _) fun _ => failsWith_indexOf _ _ _ _
  · exact .bind (failsWith_position? _) fun _ => .bind (failsWith_position? _) fun _ =>
      failsWith_indexOf _ _ _ _
  · simp

@[simp]
theorem failsWith_stored (entries : List (Value × Value)) (key default : Value) :
    (stored entries key default).FailsWith IsFault :=
  .ite (Except.failsWith_ok _) (failsWith_unhashable key)

theorem failsWith_onMapping (entries : List (Value × Value)) (name : String)
    (arguments : List Value) : (onMapping entries name arguments).FailsWith IsFault := by
  unfold onMapping
  split <;> simp

theorem failsWith_united (own others : List Value) :
    (united own others).FailsWith IsFault := by
  induction others generalizing own with
  | nil => exact Draw.failsWith_pure _
  | cons other rest inductionHypothesis =>
      exact .bind (failsWith_takeMembers other) fun _ => inductionHypothesis _

theorem failsWith_shared (own others : List Value) :
    (shared own others).FailsWith IsFault := by
  induction others generalizing own with
  | nil => exact Draw.failsWith_pure _
  | cons other rest inductionHypothesis =>
      exact .bind (failsWith_takeMembers other) fun _ => inductionHypothesis _

theorem failsWith_remaining (own others : List Value) :
    (remaining own others).FailsWith IsFault := by
  induction others generalizing own with
  | nil => exact Draw.failsWith_pure _
  | cons other rest inductionHypothesis =>
      exact .bind (failsWith_takeMembers other) fun _ => inductionHypothesis _

theorem failsWith_covers (own : List Value) (value : Value) :
    (covers own value).FailsWith IsFault := by
  refine .bind (Draw.failsWith_liftM.2 (failsWith_iteration value)) fun walk => ?_
  refine .bind (Draw.failsWith_modifyGet _) fun outcome => ?_
  exact .bind (Draw.failsWith_liftM.2 (failsWith_compared outcome)) fun _ => Draw.failsWith_pure _

theorem failsWith_onSet (frozen : Bool) (own : List Value) (name : String)
    (arguments : List Value) : (onSet frozen own name arguments).FailsWith IsFault := by
  unfold onSet
  split
  · exact .bind (failsWith_united _ _) fun _ => Draw.failsWith_pure _
  · exact .bind (failsWith_shared _ _) fun _ => Draw.failsWith_pure _
  · exact .bind (failsWith_remaining _ _) fun _ => Draw.failsWith_pure _
  · exact .bind (failsWith_takeMembers _) fun _ => Draw.failsWith_pure _
  · exact .bind (failsWith_covers _ _) fun _ => Draw.failsWith_pure _
  · simp

theorem failsWith_apply (base : Value) (name : String) (arguments : List Value)
    (named : List (String × Value)) :
    (Method.apply base name arguments named).FailsWith IsFault := by
  unfold Method.apply
  split
  · refine .ite (Draw.failsWith_liftM.2 (failsWith_splitBy _ _ _)) ?_
    exact .ite (failsWith_onText _ _ _) (by simp)
  · refine .ite (by simp) ?_
    split
    · exact Draw.failsWith_liftM.2 (failsWith_onSequence _ _ _)
    · exact Draw.failsWith_liftM.2 (failsWith_onSequence _ _ _)
    · exact Draw.failsWith_liftM.2 (failsWith_onMapping _ _ _)
    · exact failsWith_onSet _ _ _ _
    · simp

end Method

end Authorization
