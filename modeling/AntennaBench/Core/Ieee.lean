import AntennaBench.Core.Value
import Mathlib.Data.Rat.Floor
import Mathlib.Data.Prod.Lex

/-!
# IEEE-754 numbers

Rounding to a binary format, the arithmetic of a format as the rounding of the
exact result, and the total order of `f64::total_cmp`.
-/

namespace AntennaBench

/-- The nearest integer, ties to even. -/
def roundHalfEven (value : ℚ) : ℤ :=
  let floor := ⌊value⌋
  let rest := value - floor
  if rest < 1 / 2 then floor
  else if 1 / 2 < rest then floor + 1
  else if floor % 2 = 0 then floor
  else floor + 1

/-- The exponent of the leading bit of a positive rational. -/
def binaryExponent (value : ℚ) : ℤ :=
  let estimate : ℤ := Nat.log2 value.num.natAbs - Nat.log2 value.den
  if (2 : ℚ) ^ estimate ≤ value then estimate else estimate - 1

/-- A binary format: its precision, the exponent of its least positive number
and the first power of two it cannot hold. -/
structure IeeeFormat where
  precision : ℕ
  leastExponent : ℤ
  overflowExponent : ℤ

def IeeeFormat.f64 : IeeeFormat := ⟨53, -1074, 1024⟩

def IeeeFormat.f32 : IeeeFormat := ⟨24, -149, 128⟩

/-- The number of the format nearest to a rational; `negative` signs a zero. -/
def IeeeFormat.round (format : IeeeFormat) (negative : Bool) (value : ℚ) : IeeeFloat :=
  if value = 0 then if negative then .negativeZero else .finite 0
  else
    let quantum : ℚ :=
      2 ^ max (binaryExponent |value| - (format.precision - 1)) format.leastExponent
    let rounded := roundHalfEven (value / quantum) * quantum
    if (2 : ℚ) ^ format.overflowExponent ≤ |rounded| then .infinite negative
    else if rounded = 0 then if negative then .negativeZero else .finite 0
    else .finite rounded

/-- `value as f32`. -/
def IeeeFloat.toF32 : IeeeFloat → IeeeFloat
  | .finite value => IeeeFormat.f32.round (decide (value < 0)) value
  | other => other

namespace IeeeFloat

def isNegative : IeeeFloat → Bool
  | infinite negative => negative
  | finite value => value < 0
  | negativeZero => true
  | nan => false

def isZero (x : IeeeFloat) : Bool :=
  x.toRat? == some 0

def neg : IeeeFloat → IeeeFloat
  | nan => nan
  | infinite negative => infinite (!negative)
  | finite value => if value = 0 then negativeZero else finite (-value)
  | negativeZero => finite 0

def abs (x : IeeeFloat) : IeeeFloat :=
  if x.isNegative then x.neg else x

/-- The nearest number of the format, `negative` where the exact value is zero. -/
def nearest (format : IeeeFormat) (negative : Bool) (value : ℚ) : IeeeFloat :=
  format.round (if value = 0 then negative else value < 0) value

def add (format : IeeeFormat) (x y : IeeeFloat) : IeeeFloat :=
  match x, y with
  | nan, _ | _, nan => nan
  | infinite a, infinite b => if a = b then infinite a else nan
  | infinite a, _ => infinite a
  | _, infinite b => infinite b
  | x, y => nearest format (x.isNegative && y.isNegative) (x.toRat?.getD 0 + y.toRat?.getD 0)

def sub (format : IeeeFormat) (x y : IeeeFloat) : IeeeFloat :=
  x.add format y.neg

def mul (format : IeeeFormat) (x y : IeeeFloat) : IeeeFloat :=
  let negative := xor x.isNegative y.isNegative
  match x, y with
  | nan, _ | _, nan => nan
  | infinite _, y => if y.isZero then nan else infinite negative
  | x, infinite _ => if x.isZero then nan else infinite negative
  | x, y => nearest format negative (x.toRat?.getD 0 * y.toRat?.getD 0)

def div (format : IeeeFormat) (x y : IeeeFloat) : IeeeFloat :=
  let negative := xor x.isNegative y.isNegative
  match x, y with
  | nan, _ | _, nan => nan
  | infinite _, infinite _ => nan
  | infinite _, _ => infinite negative
  | _, infinite _ => if negative then negativeZero else finite 0
  | x, y =>
    if y.isZero then if x.isZero then nan else infinite negative
    else nearest format negative (x.toRat?.getD 0 / y.toRat?.getD 0)

/-- Where `f64::total_cmp` places a number; NaN stands for the quiet positive one. -/
def totalKey : IeeeFloat → ℕ ×ₗ ℚ ×ₗ ℕ
  | infinite true => toLex (0, toLex (0, 0))
  | negativeZero => toLex (1, toLex (0, 0))
  | finite value => toLex (1, toLex (value, 1))
  | infinite false => toLex (2, toLex (0, 0))
  | nan => toLex (3, toLex (0, 0))

/-- `to_bits` of the two numbers agree. -/
def sameBits (x y : IeeeFloat) : Bool :=
  x.totalKey == y.totalKey

end IeeeFloat

end AntennaBench
