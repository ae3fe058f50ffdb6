import Authorization.Number.Binary

/-!
# Complex numbers

Pairs of doubles with the four operations and powers. A quotient divides by the larger part of the
divisor first, and a small whole exponent is raised by repeated squaring, any other by length and
angle.
-/

namespace Authorization.Number

/-- A complex number. -/
structure Complex where
  real : Float
  imaginary : Float

namespace Complex

def ofReal (x : Float) : Complex :=
  ⟨x, 0.0⟩

def isZero (z : Complex) : Bool :=
  z.real == 0.0 && z.imaginary == 0.0

def add (z w : Complex) : Complex :=
  ⟨z.real + w.real, z.imaginary + w.imaginary⟩

def subtract (z w : Complex) : Complex :=
  ⟨z.real - w.real, z.imaginary - w.imaginary⟩

def multiply (z w : Complex) : Complex :=
  ⟨z.real * w.real - z.imaginary * w.imaginary, z.real * w.imaginary + z.imaginary * w.real⟩

/-- The quotient; the divisor is not zero. -/
def divide (z w : Complex) : Complex :=
  if w.real.abs >= w.imaginary.abs then
    let ratio := w.imaginary / w.real
    let scale := w.real + w.imaginary * ratio
    ⟨(z.real + z.imaginary * ratio) / scale, (z.imaginary - z.real * ratio) / scale⟩
  else if w.imaginary.abs >= w.real.abs then
    let ratio := w.real / w.imaginary
    let scale := w.real * ratio + w.imaginary
    ⟨(z.real * ratio + z.imaginary) / scale, (z.imaginary * ratio - z.real) / scale⟩
  else ⟨undefined, undefined⟩

/-! ## Magnitude -/

/-- A power of two between the least and the greatest normal double. -/
private def powerOfTwo (exponent : Int) : Float :=
  Float.ofBits (UInt64.ofNat ((exponent + 1023).toNat * Nat.pow 2 52))

/-- The hypotenuse over two legs of which the first is not the shorter and neither is so great or so
small that its square is not a double: a square root, corrected by what it misses. -/
private def hypotenuseOver (long short : Float) : Float :=
  let root := (long * long + short * short).sqrt
  let missed :=
    if root <= 2.0 * short then
      let rest := root - short
      long * (2.0 * rest - long) + (rest - 2.0 * (long - short)) * rest
    else
      let rest := root - long
      2.0 * rest * (long - 2.0 * short) + ((4.0 * rest - short) * short + rest * rest)
  root - missed / (2.0 * root)

/-- The hypotenuse over two finite legs. Great and small legs are scaled first, and a leg that the other
one outweighs is added to it. -/
private def hypotenuse (x y : Float) : Float :=
  let long := if x.abs < y.abs then y.abs else x.abs
  let short := if x.abs < y.abs then x.abs else y.abs
  let weight := powerOfTwo (-54)
  let scale := powerOfTwo (-600)
  if long > powerOfTwo 511 then
    if short <= long * weight then long + short
    else hypotenuseOver (long * scale) (short * scale) / scale
  else if short < powerOfTwo (-459) then
    if long >= short / weight then long + short
    else hypotenuseOver (long / scale) (short / scale) * scale
  else if short <= long * weight then long + short
  else hypotenuseOver long short

/-- The distance from zero; infinite when one part is, even if the other is undefined. -/
def magnitude (z : Complex) : Float :=
  if z.real.isInf || z.imaginary.isInf then infinity
  else if z.real.isNaN || z.imaginary.isNaN then undefined
  else hypotenuse z.real z.imaginary

/-! ## Powers -/

/-- What a power of complex numbers comes to. -/
inductive Power where
  | value (z : Complex)
  | undefined
  | overflow

/-- Repeated squaring over the binary digits of the exponent; `steps` bounds their number. -/
private def squaring : (steps exponent : Nat) → (result square : Complex) → Complex
  | 0, _, result, _ => result
  | steps + 1, exponent, result, square =>
    if exponent = 0 then result
    else
      squaring steps (exponent / 2)
        (if exponent % 2 = 1 then result.multiply square else result) (square.multiply square)

/-- A result, unless one of its parts is infinite. -/
private def bounded (z : Complex) : Power :=
  if z.real.isInf || z.imaginary.isInf then .overflow else .value z

private def wholePower (z : Complex) (exponent : Int) : Power :=
  let power := squaring 64 exponent.natAbs ⟨1.0, 0.0⟩ z
  if exponent > 0 then bounded power
  else if power.isZero then .undefined
  else bounded (divide ⟨1.0, 0.0⟩ power)

private def polarPower (z w : Complex) : Power :=
  let size := z.magnitude
  let angle := Float.atan2 z.imaginary z.real
  let length := Float.pow size w.real
  let phase := angle * w.real
  let (length, phase) :=
    if w.imaginary != 0.0 then
      (length / Float.exp (angle * w.imaginary), phase + w.imaginary * Float.log size)
    else (length, phase)
  if phase.isInf then .undefined
  else bounded ⟨length * Float.cos phase, length * Float.sin phase⟩

/-- The power of a complex number. It is undefined where zero is raised to a negative or complex
exponent, where the angle of the result is infinite, and where the power to be inverted is too small. -/
def power (z w : Complex) : Power :=
  let polar :=
    if w.isZero then .value ⟨1.0, 0.0⟩
    else if z.isZero then
      if w.imaginary != 0.0 || w.real < 0.0 then .undefined else .value ⟨0.0, 0.0⟩
    else polarPower z w
  match if w.imaginary == 0.0 then exactInt? w.real else none with
  | some exponent => if exponent.natAbs ≤ 100 then z.wholePower exponent else polar
  | none => polar

end Complex

end Authorization.Number
