import Mathlib.Algebra.GroupWithZero.Nat
import Mathlib.Data.Rat.Defs
import Mathlib.Algebra.Order.Ring.Rat

/-!
# Scalar values

The scalars the bundle records are made of: IEEE-754 numbers with their own
equality, JSON values, UTC instants and the string helpers of the Rust standard
library. `BEq` instances are the `PartialEq` implementations of the source, so
`a == b` on a record is what the code computes and can fail on `a == a`.
-/

namespace AntennaBench

/-- An `f32` or `f64`: the sign of a zero and the payload-free NaN are kept apart. -/
inductive IeeeFloat where
  | nan
  | infinite (negative : Bool)
  | finite (value : ℚ)
  | negativeZero

namespace IeeeFloat

/-- The rational a finite number stands for. -/
def toRat? : IeeeFloat → Option ℚ
  | nan | infinite _ => none
  | finite value => some value
  | negativeZero => some 0

def isFinite (x : IeeeFloat) : Bool :=
  x.toRat?.isSome

/-- IEEE equality: NaN differs from itself and the two zeros agree. -/
def ieeeEq : IeeeFloat → IeeeFloat → Bool
  | nan, _ | _, nan => false
  | infinite a, infinite b => a == b
  | x, y => x.toRat? == y.toRat?

instance : BEq IeeeFloat := ⟨ieeeEq⟩

def le : IeeeFloat → IeeeFloat → Bool
  | nan, _ | _, nan => false
  | infinite a, infinite b => a || !b
  | infinite a, _ => a
  | _, infinite b => !b
  | x, y => decide (x.toRat?.getD 0 ≤ y.toRat?.getD 0)

def lt (x y : IeeeFloat) : Bool :=
  x.le y && !(x == y)

def zero : IeeeFloat := finite 0

end IeeeFloat

/-- `serde_json::Number`: a nonnegative or negative integer, or a float. -/
inductive JsonNumber where
  | posInt (value : ℕ)
  | negInt (value : ℤ)
  | float (value : IeeeFloat)
  deriving BEq

/-- `serde_json::Value`. -/
inductive JsonValue where
  | null
  | bool (value : Bool)
  | number (value : JsonNumber)
  | string (value : String)
  | array (items : List JsonValue)
  | object (members : List (String × JsonValue))
  deriving BEq

namespace JsonValue

def isNull : JsonValue → Bool
  | null => true
  | _ => false

def get? (key : String) : JsonValue → Option JsonValue
  | object members => members.lookup key
  | _ => none

def asStr? : JsonValue → Option String
  | string value => some value
  | _ => none

end JsonValue

/-- `DateTime<Utc>`, in nanoseconds since the Unix epoch. -/
abbrev DateTime := ℤ

namespace DateTime

def nanosPerSecond : ℤ := 1000000000

def nanosPerMilli : ℤ := 1000000

/-- `Duration::seconds`. -/
def seconds (count : ℤ) : ℤ := count * nanosPerSecond

/-- `DateTime::<Utc>::MIN_UTC`, the first instant of year -262143. -/
def minUtc : DateTime := -8334601228800 * nanosPerSecond

/-- `DateTime::<Utc>::MAX_UTC`, the last nanosecond of year 262142. -/
def maxUtc : DateTime := 8210266876799 * nanosPerSecond + 999999999

def checkedAdd (at_ : DateTime) (nanos : ℤ) : Option DateTime :=
  if minUtc ≤ at_ + nanos ∧ at_ + nanos ≤ maxUtc then some (at_ + nanos) else none

theorem checkedAdd_eq_some {at_ nanos sum : ℤ} : checkedAdd at_ nanos = some sum ↔
    minUtc ≤ at_ + nanos ∧ at_ + nanos ≤ maxUtc ∧ sum = at_ + nanos := by
  unfold checkedAdd
  split_ifs with h
  · simp [h.1, h.2, eq_comm]
  · simp only [false_iff]
    rintro ⟨hmin, hmax, -⟩
    exact h ⟨hmin, hmax⟩

end DateTime

/-- `u64::checked_add`. -/
def checkedAdd64 (a b : ℕ) : Option ℕ :=
  if a + b < 2 ^ 64 then some (a + b) else none

theorem checkedAdd64_eq_some {a b c : ℕ} (h : checkedAdd64 a b = some c) : c = a + b := by
  unfold checkedAdd64 at h
  split_ifs at h
  exact (Option.some.inj h).symm

/-- The characters `char::is_whitespace` accepts (Unicode `White_Space`). -/
def isWhitespace (c : Char) : Bool :=
  let n := c.toNat
  (9 ≤ n && n ≤ 13) || n == 0x20 || n == 0x85 || n == 0xA0 || n == 0x1680 ||
    (0x2000 ≤ n && n ≤ 0x200A) || n == 0x2028 || n == 0x2029 || n == 0x202F ||
    n == 0x205F || n == 0x3000

/-- `str::trim`. -/
def trim (value : String) : String :=
  String.ofList
    ((value.toList.dropWhile isWhitespace).reverse.dropWhile isWhitespace).reverse

def asciiLowerChar (c : Char) : Char :=
  if 'A' ≤ c && c ≤ 'Z' then Char.ofNat (c.toNat + 32) else c

def asciiUpperChar (c : Char) : Char :=
  if 'a' ≤ c && c ≤ 'z' then Char.ofNat (c.toNat - 32) else c

/-- `str::to_ascii_uppercase`. -/
def toAsciiUppercase (value : String) : String :=
  String.ofList (value.toList.map asciiUpperChar)

/-- `value.trim().is_empty()`. -/
def isBlank (value : String) : Bool :=
  (trim value).isEmpty

/-- `value.trim() == value`. -/
def isTrimmed (value : String) : Bool :=
  trim value == value

def isAscii (value : String) : Bool :=
  value.toList.all (·.toNat < 128)

/-- `char::is_control`. -/
def isControl (c : Char) : Bool :=
  c.toNat < 32 || (127 ≤ c.toNat && c.toNat < 160)

end AntennaBench
