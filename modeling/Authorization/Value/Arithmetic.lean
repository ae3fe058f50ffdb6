import Authorization.Number.Complex
import Authorization.Value.Cursor
import Authorization.Value.Formatted
import Authorization.Value.Timing

/-!
# Arithmetic on values

Integers are exact and unbounded. An operation on an integer and a double works on doubles, one with
a complex number on complex numbers; a truth value counts as an integer. Texts, octets, lists and
tuples are added to their own kind and multiplied by integers. A quotient of integers that is rounded
goes down, and so has the remainder the sign of the divisor. Times have an arithmetic of their own
(`Authorization.Value.Timing`), and a difference may be one of sets.
-/

namespace Authorization.Value

/-- A number of one of the three kinds. -/
inductive Numeric where
  | whole (n : Int)
  | real (x : Float)
  | complex (z : Number.Complex)

def numeric? : Value → Option Numeric
  | .bool flag => some (.whole (if flag then 1 else 0))
  | .int number => some (.whole number)
  | .float number => some (.real number)
  | .complex re im => some (.complex ⟨re, im⟩)
  | _ => none

/-- An integer as a double, unless it is too great. -/
def doubleOf (n : Int) : Except Error Float :=
  match Number.roundInt n with
  | some x => .ok x
  | none => fault .overflow "int too large to convert to float"

/-- Two numbers of one kind. -/
inductive NumberPair where
  | whole (n m : Int)
  | real (x y : Float)
  | complex (z w : Number.Complex)

def toReal : Numeric → Except Error Float
  | .whole n => doubleOf n
  | .real x => .ok x
  | .complex z => .ok z.real

def toComplex : Numeric → Except Error Number.Complex
  | .complex z => .ok z
  | other => (toReal other).map Number.Complex.ofReal

/-- Brings two numbers to the kind in which an operation on them works. -/
def paired : Numeric → Numeric → Except Error NumberPair
  | .whole n, .whole m => .ok (.whole n m)
  | .complex z, b => (toComplex b).map (.complex z ·)
  | a, .complex w => (toComplex a).map (.complex · w)
  | a, b => do
    let x ← toReal a
    return .real x (← toReal b)

/-- Two values as numbers of one kind; nothing when one is no number. -/
def numbers? (a b : Value) : Option (Except Error NumberPair) :=
  match numeric? a, numeric? b with
  | some x, some y => some (paired x y)
  | _, _ => none

def ofComplex (z : Number.Complex) : Value :=
  .complex z.real z.imaginary

def noOperation {α : Type} (operator : String) (a b : Value) : Except Error α :=
  fault .type <| "unsupported operand type(s) for " ++ operator ++ ": '" ++ a.kindName ++
    "' and '" ++ b.kindName ++ "'"

def divisionByZero {α : Type} : Except Error α :=
  fault .zeroDivision "division by zero"

/-- The sum of two values, or one after the other. -/
def add : Value → Value → Except Error Value
  | .str a, .str b => .ok (.str (a ++ b))
  | .bytes a, .bytes b => .ok (.bytes (a ++ b))
  | .list a, .list b => .ok (.list (a ++ b))
  | .tuple a, .tuple b => .ok (.tuple (a ++ b))
  | a, b =>
    match numbers? a b with
    | none => (addTimes? a b).getD (noOperation "+" a b)
    | some pair => do
      match ← pair with
      | .whole n m => return .int (n + m)
      | .real x y => return .float (x + y)
      | .complex z w => return ofComplex (z.add w)

/-- The difference of two numbers, two times or two sets. -/
def subtractPlain (a b : Value) : Except Error Value :=
  match numbers? a b with
  | some pair => do
    match ← pair with
    | .whole n m => return .int (n - m)
    | .real x y => return .float (x - y)
    | .complex z w => return ofComplex (z.subtract w)
  | none =>
    match a, b with
    | .set frozen members, .set _ others =>
      .ok (.set frozen (members.filter fun member => !others.any (equal member)))
    | _, _ => (subtractTimes? a b).getD (noOperation "-" a b)

/-- A view that behaves as a set. -/
def isSetView : Value → Bool
  | .view .keys _ | .view .items _ => true
  | _ => false

/-- The difference of two values. From a view of keys or entries, or the items of any value before one,
the items of the other value are taken away; all of them have to be hashable. -/
def subtract (a b : Value) : Draw Value := do
  if isSetView a || isSetView b then
    let members ← a.takeMembers
    let others ← b.takeMembers
    return .set false ((distinct members).filter fun member => !others.any (equal member))
  else subtractPlain a b

/-- The greatest magnitude of a count of items. -/
def maxCount : Int := Nat.pow 2 63 - 1

/-- The greatest number of items that a value is made of. -/
def maxItems : Int := Nat.pow 2 36

def repeated {α : Type} (items : List α) (count : Int) : Except Error (List α) :=
  if count > maxCount ∨ count < -maxCount - 1 then
    fault .overflow "cannot fit 'int' into an index-sized integer"
  else if items.isEmpty ∨ count ≤ 0 then .ok []
  else if items.length * count > maxCount then fault .overflow "repeated bytes are too long"
  else if items.length * count > maxItems then fault .memory "there are too many items"
  else .ok (List.replicate count.toNat items).flatten

def repeatedValue? : Value → Int → Option (Except Error Value)
  | .str content, count => some <|
    (repeated content.toList count).map fun chars => .str (String.ofList chars)
  | .bytes octets, count => some <| (repeated octets count).map .bytes
  | .list elements, count => some <| (repeated elements count).map .list
  | .tuple elements, count => some <| (repeated elements count).map .tuple
  | _, _ => none

/-- The product of two numbers, or a sequence as often as a number says. -/
def multiply (a b : Value) : Except Error Value :=
  match numbers? a b with
  | some pair => do
    match ← pair with
    | .whole n m => return .int (n * m)
    | .real x y => return .float (x * y)
    | .complex z w => return ofComplex (z.multiply w)
  | none =>
    let found? := match b.asInt? with
      | some count => repeatedValue? a count
      | none => a.asInt?.bind (repeatedValue? b)
    (found? <|> multiplyTimes? a b).getD (noOperation "*" a b)

/-- The quotient of two numbers. -/
def divide (a b : Value) : Except Error Value :=
  match numbers? a b with
  | none => (divideTimes? a b).getD (noOperation "/" a b)
  | some pair => do
    match ← pair with
    | .whole n m =>
      if m = 0 then divisionByZero
      else match Number.divideInts n m with
        | some x => return .float x
        | none => fault .overflow "integer division result too large for a float"
    | .real x y => if y == 0.0 then divisionByZero else return .float (x / y)
    | .complex z w => if w.isZero then divisionByZero else return ofComplex (z.divide w)

/-- The quotient of two real numbers, rounded down. -/
def floorDivide (a b : Value) : Except Error Value :=
  match numbers? a b with
  | none => (floorDivideTimes? a b).getD (noOperation "//" a b)
  | some pair => do
    match ← pair with
    | .whole n m => if m = 0 then divisionByZero else return .int (n.fdiv m)
    | .real x y =>
      if y == 0.0 then divisionByZero else return .float (Number.floorDivide x y).1
    | .complex .. => noOperation "//" a b

/-- The remainder of two real numbers or times, or the octets that a format makes of arguments. -/
def modulo (a b : Value) : Except Error Value :=
  match numbers? a b with
  | none =>
    match a with
    | .bytes format => (formatted format b).map .bytes
    | _ => (moduloTimes? a b).getD (noOperation "%" a b)
  | some pair => do
    match ← pair with
    | .whole n m => if m = 0 then divisionByZero else return .int (n.fmod m)
    | .real x y =>
      if y == 0.0 then divisionByZero else return .float (Number.floorDivide x y).2
    | .complex .. => noOperation "%" a b

def complexPower (z w : Number.Complex) : Except Error Value :=
  match z.power w with
  | .value result => .ok (ofComplex result)
  | .undefined => fault .zeroDivision "0.0 to a negative or complex power"
  | .overflow => fault .overflow "complex exponentiation"

def realPower (x y : Float) : Except Error Value :=
  match Number.power x y with
  | .real value => .ok (.float value)
  | .zeroToNegative => fault .zeroDivision "0.0 cannot be raised to a negative power"
  | .overflow => fault .overflow "Numerical result out of range"
  | .complexBase => complexPower (Number.Complex.ofReal x) (Number.Complex.ofReal y)

/-- The power of two numbers. -/
def power (a b : Value) : Except Error Value :=
  match numbers? a b with
  | none => noOperation "** or pow()" a b
  | some pair => do
    match ← pair with
    | .whole n m =>
      if m ≥ 0 then return .int (Number.intPower n m.toNat)
      else
        let x ← doubleOf n
        realPower x (← doubleOf m)
    | .real x y => realPower x y
    | .complex z w => complexPower z w

/-- The number with the opposite sign. -/
def negate (value : Value) : Except Error Value :=
  match numeric? value with
  | some (.whole n) => .ok (.int (-n))
  | some (.real x) => .ok (.float (-x))
  | some (.complex z) => .ok (.complex (-z.real) (-z.imaginary))
  | none => (negateTime? value).getD <|
    fault .type ("bad operand type for unary -: '" ++ value.kindName ++ "'")

/-- The number itself, a truth value as an integer. -/
def affirm (value : Value) : Except Error Value :=
  match numeric? value with
  | some (.whole n) => .ok (.int n)
  | some _ => .ok value
  | none =>
    match value with
    | .duration _ => .ok value
    | _ => fault .type ("bad operand type for unary +: '" ++ value.kindName ++ "'")

/-- The magnitude of a number. -/
def magnitude (value : Value) : Except Error Value :=
  match numeric? value with
  | some (.whole n) => .ok (.int n.natAbs)
  | some (.real x) => .ok (.float x.abs)
  | some (.complex z) =>
    if z.magnitude.isInf && !(z.real.isInf || z.imaginary.isInf) then
      fault .overflow "absolute value too large"
    else .ok (.float z.magnitude)
  | none => (magnitudeOfTime? value).getD <|
    fault .type ("bad operand type for abs(): '" ++ value.kindName ++ "'")

end Authorization.Value
