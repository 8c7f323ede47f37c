import Lifeline.Text.Numeral

/-!
# Numbers of a diagram

Positions and sizes are numbers with the four operations and an order.  The
layout never looks further into them, so it is written once for every type of
such numbers and runs on two: double-precision floats, which is what a drawing
is computed with, and exact fractions, which is what its laws are stated for.

A number also has an exact value, a fraction.  Whatever turns a number into
text or into a cell of a grid reads that value and nothing else.

A number is written with a bounded count of decimals.  The exact value is
rounded to the nearest multiple of the last decimal, a value halfway between two
goes to the even one, and decimals that say nothing are left out: there is no
trailing zero, no trailing point, and no negative zero.  `hundredths` is the form
that drawings use.
-/

namespace Lifeline

/-- Numbers that a diagram can be measured in. -/
class Scalar (α : Type) extends
    Add α, Sub α, Neg α, Mul α, Div α, NatCast α, LT α, BEq α where
  /-- The order can be tested. -/
  decideLT : DecidableLT α
  /-- The fraction that a number stands for. -/
  exact : α → Rat

instance decidableLT {α : Type} [Scalar α] : DecidableLT α := Scalar.decideLT

/-- The fraction that a finite double stands for: its mantissa scaled by a power
of two.  Infinities and what is not a number, which no diagram holds, count as
zero. -/
def exactDouble (value : Float) : Rat :=
  let bits := value.toBits.toNat
  let exponent := bits / Nat.pow 2 52 % 2048
  let fraction := bits % Nat.pow 2 52
  let mantissa := if exponent = 0 then fraction else fraction + Nat.pow 2 52
  let scale := max exponent 1
  let size : Rat :=
    if exponent = 2047 then 0
    else if 1075 ≤ scale then ((mantissa * Nat.pow 2 (scale - 1075) : Nat) : Rat)
    else mkRat mantissa (Nat.pow 2 (1075 - scale))
  if bits < Nat.pow 2 63 then size else -size

instance doubleOfNat : NatCast Float := ⟨Float.ofNat⟩

instance doubleScalar : Scalar Float where
  decideLT := inferInstance
  exact := exactDouble

instance fractionScalar : Scalar Rat where
  decideLT := inferInstance
  exact := id

section Operations

variable {α : Type} [Scalar α]

/-- The larger of two numbers, the first when they do not differ. -/
def larger (first second : α) : α :=
  if first < second then second else first

def half (value : α) : α :=
  value / ((2 : Nat) : α)

def twice (value : α) : α :=
  ((2 : Nat) : α) * value

def zero : α :=
  ((0 : Nat) : α)

def floor (value : α) : Int :=
  (Scalar.exact value).floor

def ceil (value : α) : Int :=
  (Scalar.exact value).ceil

end Operations

namespace Decimal

/-- The whole number nearest to a fraction; of two equally near, the even
one. -/
def nearest (value : Rat) : Int :=
  let below := value.floor
  let excess := value - (below : Rat)
  if excess < mkRat 1 2 then below
  else if mkRat 1 2 < excess then below + 1
  else if below % 2 = 0 then below
  else below + 1

def dropZeros (decimals : List Char) : List Char :=
  (decimals.reverse.dropWhile (· == '0')).reverse

def pointed (decimals : List Char) : List Char :=
  if (dropZeros decimals).isEmpty then [] else '.' :: dropZeros decimals

/-- The text of a count of units of the last decimal. -/
def ofUnits (places : Nat) (units : Int) : List Char :=
  let size := units.natAbs
  let sign := if units < 0 then ['-'] else []
  sign ++ Nat.toDigits 10 (size / Nat.pow 10 places) ++
    pointed (Text.paddedDigits 10 places (size % Nat.pow 10 places))

def ofFraction (places : Nat) (value : Rat) : List Char :=
  ofUnits places (nearest (value * ((Nat.pow 10 places : Nat) : Rat)))

/-- The text of a number, rounded to so many decimals. -/
def ofScalar {α : Type} [Scalar α] (places : Nat) (value : α) : String :=
  String.ofList (ofFraction places (Scalar.exact value))

end Decimal

def hundredths {α : Type} [Scalar α] (value : α) : String :=
  Decimal.ofScalar 2 value

end Lifeline
