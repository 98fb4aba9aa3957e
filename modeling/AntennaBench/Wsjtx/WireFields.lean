import Mathlib.Algebra.Order.Field.Power
import Mathlib.Tactic.FieldSimp
import Mathlib.Tactic.Linarith
import AntennaBench.Wire.Readers
import AntennaBench.Wsjtx.Protocol

/-!
# The fields of the network messages

How each kind of field is written on the wire, and that the cursor reads exactly that.
A text is a length and its bytes, or a marker in the place of the length where there is
no text. The cursor has an empty text for both.
-/

namespace AntennaBench

/-- `to_be_bytes` of a number of `width` bytes. -/
def toBeBytes : ℕ → ℕ → List UInt8
  | 0, _ => []
  | width + 1, value => toBeBytes width (value / 256) ++ [UInt8.ofNat (value % 256)]

/-- `f64::to_bits`. -/
def f64ToBits : IeeeFloat → ℕ
  | .nan => 2047 * 2 ^ 52 + 2 ^ 51
  | .infinite negative => (if negative then 2 ^ 63 else 0) + 2047 * 2 ^ 52
  | .negativeZero => 2 ^ 63
  | .finite value =>
    let sign := if value < 0 then 2 ^ 63 else 0
    let exponent := binaryExponent |value|
    if value = 0 then 0
    else if exponent < -1022 then sign + ⌊|value| * 2 ^ (1074 : ℤ)⌋.toNat
    else sign + (exponent + 1023).toNat * 2 ^ 52 +
      (⌊|value| * 2 ^ (52 - exponent)⌋ - 2 ^ 52).toNat

def utf8Bytes (text : String) : List UInt8 := text.toUTF8.data.toList

/-- A field of a message; a text may be the null text. -/
inductive WireField where
  | u32 (value : ℕ)
  | u64 (value : ℕ)
  | i32 (value : ℤ)
  | f64 (value : IeeeFloat)
  | bool (value : Bool)
  | utf8 (text : Option String)

namespace WireField

/-- The field on the wire. -/
def bytes : WireField → List UInt8
  | u32 value => toBeBytes 4 value
  | u64 value => toBeBytes 8 value
  | i32 value => toBeBytes 4 (value % 2 ^ 32).toNat
  | f64 value => toBeBytes 8 (f64ToBits value)
  | bool value => [if value then 1 else 0]
  | utf8 none => toBeBytes 4 nullByteArrayLength
  | utf8 (some text) => toBeBytes 4 (utf8Bytes text).length ++ utf8Bytes text

/-- The values of the type of the field; the length of a text is not the null marker. -/
def InRange : WireField → Prop
  | u32 value => value < 2 ^ 32
  | u64 value => value < 2 ^ 64
  | i32 value => -2 ^ 31 ≤ value ∧ value < 2 ^ 31
  | f64 value => ∃ bits < 2 ^ 64, f64FromBits bits = value
  | bool _ => True
  | utf8 text => ∀ s ∈ text, (utf8Bytes s).length < nullByteArrayLength

/-- The null text is read as the empty one. -/
def nullAsEmpty : WireField → WireField
  | utf8 none => utf8 (some "")
  | field => field

end WireField

/-- The wire has the field as these bytes. -/
def Spells (field : WireField) (w : List UInt8) : Prop :=
  ∃ written : WireField, written.nullAsEmpty = field ∧ written.InRange ∧ w = written.bytes

/-- Only a text has two spellings. -/
theorem spells_iff {field : WireField} {w : List UInt8} (h : ∀ text, field ≠ .utf8 text) :
    Spells field w ↔ field.InRange ∧ w = field.bytes := by
  constructor
  · rintro ⟨written, hwritten, hrange, rfl⟩
    have hsame : written.nullAsEmpty = written := by
      unfold WireField.nullAsEmpty at hwritten ⊢
      split at hwritten
      · exact absurd hwritten.symm (h _)
      · rfl
    rw [hsame] at hwritten
    subst hwritten
    exact ⟨hrange, rfl⟩
  · rintro ⟨hrange, rfl⟩
    refine ⟨field, ?_, hrange, rfl⟩
    unfold WireField.nullAsEmpty
    split
    · exact absurd rfl (h _)
    · rfl

theorem spells_utf8 {text : String} {w : List UInt8} :
    Spells (.utf8 (some text)) w ↔
      (text = "" ∧ w = toBeBytes 4 nullByteArrayLength) ∨
        ((utf8Bytes text).length < nullByteArrayLength ∧
          w = toBeBytes 4 (utf8Bytes text).length ++ utf8Bytes text) := by
  constructor
  · rintro ⟨written, hwritten, hrange, rfl⟩
    rcases written with _ | _ | _ | _ | _ | ⟨_ | written⟩ <;> cases hwritten
    · exact Or.inl ⟨rfl, rfl⟩
    · exact Or.inr ⟨hrange _ rfl, rfl⟩
  · rintro (⟨rfl, rfl⟩ | ⟨hlength, rfl⟩)
    · exact ⟨.utf8 none, rfl, nofun, rfl⟩
    · refine ⟨.utf8 (some text), rfl, ?_, rfl⟩
      rintro s ⟨⟩
      exact hlength

def DatagramParseError.IsTruncated (error : DatagramParseError) : Prop :=
  ∃ field needed remaining, error = .truncated field needed remaining

@[simp] theorem toBeBytes_length (width value : ℕ) : (toBeBytes width value).length = width := by
  induction width generalizing value with
  | zero => rfl
  | succ width ih => simp [toBeBytes, ih]

theorem bigEndian_concat (bytes : List UInt8) (byte : UInt8) :
    Cursor.bigEndian (bytes ++ [byte]) = Cursor.bigEndian bytes * 256 + byte.toNat := by
  simp [Cursor.bigEndian]

theorem bigEndian_toBeBytes {width value : ℕ} (h : value < 256 ^ width) :
    Cursor.bigEndian (toBeBytes width value) = value := by
  induction width generalizing value with
  | zero =>
    have hzero : value = 0 := by simpa using h
    subst hzero
    rfl
  | succ width ih =>
    have hdiv : value / 256 < 256 ^ width := Nat.div_lt_of_lt_mul (by rwa [pow_succ'] at h)
    have hbyte : (UInt8.ofNat (value % 256)).toNat = value % 256 := by
      simp
    rw [toBeBytes, bigEndian_concat, ih hdiv, hbyte]
    omega

theorem bigEndian_lt (bytes : List UInt8) : Cursor.bigEndian bytes < 256 ^ bytes.length := by
  induction bytes using List.reverseRecOn with
  | nil => simp [Cursor.bigEndian]
  | append_singleton bytes byte ih =>
    have hbyte := byte.toNat_lt
    rw [bigEndian_concat, List.length_append, List.length_singleton, pow_succ]
    omega

theorem toBeBytes_bigEndian (bytes : List UInt8) :
    toBeBytes bytes.length (Cursor.bigEndian bytes) = bytes := by
  induction bytes using List.reverseRecOn with
  | nil => rfl
  | append_singleton bytes byte ih =>
    have hbyte := byte.toNat_lt
    have hdiv : (Cursor.bigEndian bytes * 256 + byte.toNat) / 256 = Cursor.bigEndian bytes := by
      omega
    have hmod : (Cursor.bigEndian bytes * 256 + byte.toNat) % 256 = byte.toNat := by omega
    rw [bigEndian_concat, List.length_append, List.length_singleton, toBeBytes, hdiv, hmod, ih]
    simp

theorem two_zpow_log2_le {n : ℕ} (h : n ≠ 0) : (2 : ℚ) ^ (n.log2 : ℤ) ≤ n := by
  rw [zpow_natCast]
  exact_mod_cast Nat.log2_self_le h

theorem lt_two_zpow_log2 (n : ℕ) : (n : ℚ) < 2 ^ ((n.log2 : ℤ) + 1) := by
  have h : n < 2 ^ (n.log2 + 1) := Nat.lt_log2_self
  have hcast : ((n.log2 : ℤ) + 1) = ((n.log2 + 1 : ℕ) : ℤ) := by push_cast; ring
  rw [hcast, zpow_natCast]
  exact_mod_cast h

/-- The leading bit of a positive rational is where `binaryExponent` has it. -/
theorem binaryExponent_spec {value : ℚ} (h : 0 < value) :
    (2 : ℚ) ^ binaryExponent value ≤ value ∧ value < 2 ^ (binaryExponent value + 1) := by
  have hnum : value.num.natAbs ≠ 0 := by
    have := Rat.num_pos.mpr h
    omega
  have hden : value.den ≠ 0 := value.den_nz
  have hvalue : value * value.den = (value.num.natAbs : ℚ) := by
    rw [Rat.mul_den_eq_num]
    have := (Rat.num_pos.mpr h).le
    rw [← Int.cast_natCast, Int.natAbs_of_nonneg this]
  have hdenPos : (0 : ℚ) < value.den := by exact_mod_cast Nat.pos_of_ne_zero hden
  have hn := two_zpow_log2_le hnum
  have hn' := lt_two_zpow_log2 value.num.natAbs
  have hd := two_zpow_log2_le hden
  have hd' := lt_two_zpow_log2 value.den
  have hupper : value < 2 ^ ((value.num.natAbs.log2 : ℤ) - value.den.log2 + 1) := by
    by_contra hle
    have hle := mul_le_mul (not_lt.mp hle) hd (zpow_pos two_pos _).le h.le
    rw [← zpow_add₀ two_ne_zero, hvalue] at hle
    have : (value.num.natAbs.log2 : ℤ) - value.den.log2 + 1 + value.den.log2 =
      value.num.natAbs.log2 + 1 := by ring
    rw [this] at hle
    linarith
  have hlower : (2 : ℚ) ^ ((value.num.natAbs.log2 : ℤ) - value.den.log2 - 1) < value := by
    by_contra hle
    have hle := mul_lt_mul' (not_lt.mp hle) hd' hdenPos.le (zpow_pos two_pos _)
    rw [← zpow_add₀ two_ne_zero, hvalue] at hle
    have : (value.num.natAbs.log2 : ℤ) - value.den.log2 - 1 + (value.den.log2 + 1) =
      value.num.natAbs.log2 := by ring
    rw [this] at hle
    linarith
  unfold binaryExponent
  dsimp only
  by_cases hestimate :
      (2 : ℚ) ^ ((value.num.natAbs.log2 : ℤ) - value.den.log2) ≤ value
  · rw [if_pos hestimate]
    exact ⟨hestimate, hupper⟩
  · rw [if_neg hestimate, sub_add_cancel]
    exact ⟨hlower.le, not_le.mp hestimate⟩

theorem binaryExponent_eq {value : ℚ} {e : ℤ} (hlow : (2 : ℚ) ^ e ≤ value)
    (hhigh : value < 2 ^ (e + 1)) : binaryExponent value = e := by
  have hpos : 0 < value := lt_of_lt_of_le (zpow_pos two_pos _) hlow
  obtain ⟨hlow', hhigh'⟩ := binaryExponent_spec hpos
  have h₁ : e < binaryExponent value + 1 :=
    (zpow_lt_zpow_iff_right₀ one_lt_two).mp (hlow.trans_lt hhigh')
  have h₂ : binaryExponent value < e + 1 :=
    (zpow_lt_zpow_iff_right₀ one_lt_two).mp (hlow'.trans_lt hhigh)
  omega

/-- The sign of a nonzero magnitude does not change its bits otherwise. -/
theorem f64ToBits_signed {magnitude : ℚ} (h : 0 < magnitude) (negative : Bool) :
    f64ToBits (.finite (if negative then -magnitude else magnitude)) =
      (if negative then 2 ^ 63 else 0) + f64ToBits (.finite magnitude) := by
  have hpos : ¬magnitude < 0 := not_lt.mpr h.le
  cases negative with
  | false => simp
  | true =>
    have hneg : -magnitude < 0 := neg_lt_zero.mpr h
    have hne : -magnitude ≠ 0 := hneg.ne
    simp only [f64ToBits, if_true, if_pos hneg, if_neg hpos, if_neg hne, if_neg h.ne', abs_neg]
    split_ifs
    · omega
    · omega

theorem f64ToBits_subnormal {fraction : ℕ} (h : 0 < fraction) (hlt : fraction < 2 ^ 52) :
    f64ToBits (.finite (fraction * 2 ^ (-1074 : ℤ))) = fraction := by
  have hcast : (0 : ℚ) < fraction := by exact_mod_cast h
  have hpos : (0 : ℚ) < fraction * 2 ^ (-1074 : ℤ) := mul_pos hcast (zpow_pos two_pos _)
  have hsmall : (fraction : ℚ) * 2 ^ (-1074 : ℤ) < 2 ^ (-1022 : ℤ) := by
    have hfraction : (fraction : ℚ) < 2 ^ (52 : ℤ) := by exact_mod_cast hlt
    calc (fraction : ℚ) * 2 ^ (-1074 : ℤ)
        < 2 ^ (52 : ℤ) * 2 ^ (-1074 : ℤ) :=
          mul_lt_mul_of_pos_right hfraction (zpow_pos two_pos _)
      _ = 2 ^ (-1022 : ℤ) := by rw [← zpow_add₀ two_ne_zero]; norm_num
  have hexponent : binaryExponent (fraction * 2 ^ (-1074 : ℤ)) < -1022 := by
    have hlow := (binaryExponent_spec hpos).1
    exact (zpow_lt_zpow_iff_right₀ one_lt_two).mp (hlow.trans_lt hsmall)
  have hfloor : (fraction : ℚ) * 2 ^ (-1074 : ℤ) * 2 ^ (1074 : ℤ) = fraction := by
    rw [mul_assoc, ← zpow_add₀ two_ne_zero, neg_add_cancel, zpow_zero, mul_one]
  simp only [f64ToBits, abs_of_pos hpos, if_neg hpos.ne', if_neg (not_lt.mpr hpos.le),
    if_pos hexponent, hfloor, Int.floor_natCast, Int.toNat_natCast, zero_add]

theorem f64ToBits_normal {exponent fraction : ℕ} (h : 0 < exponent) (hlt : fraction < 2 ^ 52) :
    f64ToBits (.finite ((2 ^ 52 + fraction) * 2 ^ ((exponent : ℤ) - 1075))) =
      exponent * 2 ^ 52 + fraction := by
  have hsum : (0 : ℚ) < 2 ^ 52 + fraction := by positivity
  have hpos : (0 : ℚ) < (2 ^ 52 + fraction) * 2 ^ ((exponent : ℤ) - 1075) :=
    mul_pos hsum (zpow_pos two_pos _)
  have hshift : (2 : ℚ) ^ ((exponent : ℤ) - 1023) = 2 ^ 52 * 2 ^ ((exponent : ℤ) - 1075) := by
    rw [← zpow_natCast (2 : ℚ) 52, ← zpow_add₀ two_ne_zero]
    congr 1
    push_cast
    ring
  have hdouble : (2 : ℚ) ^ ((exponent : ℤ) - 1023 + 1) = 2 ^ 53 * 2 ^ ((exponent : ℤ) - 1075) := by
    rw [← zpow_natCast (2 : ℚ) 53, ← zpow_add₀ two_ne_zero]
    congr 1
    push_cast
    ring
  have hexponent : binaryExponent ((2 ^ 52 + fraction) * 2 ^ ((exponent : ℤ) - 1075)) =
      (exponent : ℤ) - 1023 := by
    apply binaryExponent_eq
    · rw [hshift]
      refine mul_le_mul_of_nonneg_right ?_ (zpow_pos two_pos _).le
      have : (0 : ℚ) ≤ fraction := Nat.cast_nonneg _
      linarith
    · rw [hdouble]
      refine mul_lt_mul_of_pos_right ?_ (zpow_pos two_pos _)
      have hfraction : (fraction : ℚ) < 2 ^ 52 := by exact_mod_cast hlt
      linarith
  have hfloor : ((2 ^ 52 + fraction) * 2 ^ ((exponent : ℤ) - 1075) : ℚ) *
      2 ^ (52 - ((exponent : ℤ) - 1023)) = ((2 ^ 52 + fraction : ℕ) : ℚ) := by
    have hzero : (exponent : ℤ) - 1075 + (52 - (exponent - 1023)) = 0 := by ring
    rw [mul_assoc, ← zpow_add₀ two_ne_zero, hzero, zpow_zero, mul_one]
    push_cast
    rfl
  have hnormal : ¬((exponent : ℤ) - 1023 < -1022) := by omega
  simp only [f64ToBits, abs_of_pos hpos, if_neg hpos.ne', if_neg (not_lt.mpr hpos.le), hexponent,
    if_neg hnormal, hfloor, Int.floor_natCast]
  omega

theorem f64ToBits_f64FromBits {bits : ℕ} (h : bits < 2 ^ 64)
    (hfinite : (f64FromBits bits).isFinite = true) : f64ToBits (f64FromBits bits) = bits := by
  have hexponent : ¬bits / 2 ^ 52 % 2 ^ 11 = 2047 := by
    intro hexponent
    simp only [f64FromBits, hexponent, if_true] at hfinite
    split_ifs at hfinite <;> cases hfinite
  have hsign : (if decide (2 ^ 63 ≤ bits) then 2 ^ 63 else 0) + bits / 2 ^ 52 % 2 ^ 11 * 2 ^ 52 +
      bits % 2 ^ 52 = bits := by
    by_cases hbits : 2 ^ 63 ≤ bits
    · simp only [decide_eq_true hbits, if_true]
      omega
    · simp only [decide_eq_false hbits, Bool.false_eq_true, if_false]
      omega
  have hfraction : bits % 2 ^ 52 < 2 ^ 52 := Nat.mod_lt _ (by norm_num)
  simp only [f64FromBits, if_neg hexponent]
  by_cases hzero : bits / 2 ^ 52 % 2 ^ 11 = 0
  · rw [hzero] at hsign
    simp only [hzero, if_true]
    by_cases hnone : bits % 2 ^ 52 = 0
    · rw [hnone] at hsign
      simp only [hnone, Nat.cast_zero, zero_mul, if_true]
      cases hnegative : decide (2 ^ 63 ≤ bits) with
      | false =>
        rw [hnegative] at hsign
        simpa [f64ToBits] using hsign
      | true =>
        rw [hnegative] at hsign
        simpa [f64ToBits] using hsign
    · have hpos : (0 : ℚ) < (bits % 2 ^ 52 : ℕ) * 2 ^ (-1074 : ℤ) :=
        mul_pos (by exact_mod_cast Nat.pos_of_ne_zero hnone) (zpow_pos two_pos _)
      rw [if_neg hpos.ne', f64ToBits_signed hpos,
        f64ToBits_subnormal (Nat.pos_of_ne_zero hnone) hfraction]
      omega
  · have hpos : (0 : ℚ) <
        (2 ^ 52 + (bits % 2 ^ 52 : ℕ)) * 2 ^ (((bits / 2 ^ 52 % 2 ^ 11 : ℕ) : ℤ) - 1075) :=
      mul_pos (by positivity) (zpow_pos two_pos _)
    rw [if_neg hzero, if_neg hpos.ne', f64ToBits_signed hpos,
      f64ToBits_normal (Nat.pos_of_ne_zero hzero) hfraction]
    omega

namespace Cursor

open Wire

theorem readExact_reads (length : ℕ) (field : String) :
    Reads DatagramParseError.IsTruncated (readExact length field)
      fun bytes w => w = bytes ∧ bytes.length = length where
  complete := by
    rintro bytes _ ⟨rfl, rfl⟩ rest
    simp [readExact]
  truncated := by
    rintro _ p q ⟨rfl, hlength⟩ hq
    have hshort : p.length < length := by
      have := List.length_pos_of_ne_nil hq
      rw [List.length_append] at hlength
      omega
    exact ⟨.truncated field length p.length, ⟨_, _, _, rfl⟩, if_pos hshort⟩
  sound := by
    intro input bytes rest hread
    unfold readExact at hread
    split_ifs at hread with hshort
    injection hread with hread
    injection hread with htake hdrop
    subst htake hdrop
    have hlength : (input.take length).length = length := by
      rw [List.length_take]
      omega
    exact ⟨_, ⟨rfl, hlength⟩, (List.take_append_drop length input).symm⟩

theorem readUnsigned_reads (width : ℕ) (field : String) :
    Reads DatagramParseError.IsTruncated (readUnsigned width field)
      fun value w => value < 256 ^ width ∧ w = toBeBytes width value := by
  refine ((readExact_reads width field).map bigEndian).congr fun value w => ?_
  constructor
  · rintro ⟨bytes, ⟨rfl, rfl⟩, rfl⟩
    exact ⟨bigEndian_lt w, (toBeBytes_bigEndian w).symm⟩
  · rintro ⟨hvalue, rfl⟩
    exact ⟨_, ⟨rfl, toBeBytes_length width value⟩, bigEndian_toBeBytes hvalue⟩

theorem readU32_reads (field : String) :
    Reads DatagramParseError.IsTruncated (readU32 field) fun value => Spells (.u32 value) := by
  refine (readUnsigned_reads 4 field).congr fun value w => ?_
  rw [spells_iff (by nofun)]
  rfl

theorem readU64_reads (field : String) :
    Reads DatagramParseError.IsTruncated (readU64 field) fun value => Spells (.u64 value) := by
  refine (readUnsigned_reads 8 field).congr fun value w => ?_
  rw [spells_iff (by nofun)]
  rfl

theorem readI32_reads (field : String) :
    Reads DatagramParseError.IsTruncated (readI32 field) fun value => Spells (.i32 value) := by
  refine ((readUnsigned_reads 4 field).map _).congr fun value w => ?_
  rw [spells_iff (by nofun)]
  simp only [WireField.InRange, WireField.bytes]
  constructor
  · rintro ⟨bits, ⟨hbits, rfl⟩, rfl⟩
    have hvalue : ((if bits < 2 ^ 31 then (bits : ℤ) else bits - 2 ^ 32) % 2 ^ 32).toNat =
        bits := by
      split_ifs <;> omega
    refine ⟨?_, by rw [hvalue]⟩
    split_ifs <;> omega
  · rintro ⟨⟨hlow, hhigh⟩, rfl⟩
    refine ⟨(value % 2 ^ 32).toNat, ⟨by omega, rfl⟩, ?_⟩
    split_ifs <;> omega

theorem readF64_reads (field : String) :
    Reads DatagramParseError.IsTruncated (readF64 field)
      fun value w => ∃ bits, (bits < 2 ^ 64 ∧ w = toBeBytes 8 bits) ∧ f64FromBits bits = value :=
  (readUnsigned_reads 8 field).map f64FromBits

/-- Only of a finite number are the bits known from the number. -/
theorem f64_spells {value : IeeeFloat} {w : List UInt8} (hfinite : value.isFinite = true) :
    (∃ bits, (bits < 2 ^ 64 ∧ w = toBeBytes 8 bits) ∧ f64FromBits bits = value) ↔
      Spells (.f64 value) w := by
  rw [spells_iff (by nofun)]
  constructor
  · rintro ⟨bits, ⟨hbits, rfl⟩, rfl⟩
    refine ⟨⟨bits, hbits, rfl⟩, ?_⟩
    rw [WireField.bytes, f64ToBits_f64FromBits hbits hfinite]
  · rintro ⟨⟨bits, hbits, rfl⟩, rfl⟩
    refine ⟨bits, ⟨hbits, ?_⟩, rfl⟩
    rw [WireField.bytes, f64ToBits_f64FromBits hbits hfinite]

/-- What `read_bool` makes of the byte it has read. -/
def boolOfBytes (field : String) : List UInt8 → Cursor Bool
  | [0] => pure false
  | [1] => pure true
  | bytes => fail (.invalidBool field (bytes.headD 0))

theorem readBool_reads (field : String) :
    Reads DatagramParseError.IsTruncated (readBool field) fun value => Spells (.bool value) := by
  have hmatch : ∀ bytes : List UInt8, Reads DatagramParseError.IsTruncated
      (boolOfBytes field bytes)
      fun value w => bytes = (WireField.bool value).bytes ∧ w = [] := by
    intro bytes
    unfold boolOfBytes
    split
    · exact (Reads.pure false).congr fun value w => by cases value <;> simp [WireField.bytes]
    · exact (Reads.pure true).congr fun value w => by cases value <;> simp [WireField.bytes]
    · rename_i hzero hone
      refine (Reads.refused fun _ => ⟨_, rfl⟩).congr fun value w => ⟨False.elim, ?_⟩
      rintro ⟨hbytes, -⟩
      cases value
      · exact hzero hbytes
      · exact hone hbytes
  refine ((readExact_reads 1 field).bind hmatch).congr fun value w => ?_
  rw [spells_iff (by nofun)]
  constructor
  · rintro ⟨_, _, _, ⟨rfl, -⟩, ⟨rfl, rfl⟩, rfl⟩
    exact ⟨trivial, List.append_nil _⟩
  · rintro ⟨-, rfl⟩
    exact ⟨_, _, [], ⟨rfl, rfl⟩, ⟨rfl, rfl⟩, (List.append_nil _).symm⟩

theorem fromUTF8?_eq_some {bytes : List UInt8} {text : String} :
    String.fromUTF8? ⟨bytes.toArray⟩ = some text ↔ bytes = utf8Bytes text := by
  unfold String.fromUTF8? utf8Bytes
  constructor
  · intro h
    split_ifs at h with hvalid
    injection h with h
    subst h
    rfl
  · rintro rfl
    rw [Array.toArray_toList]
    exact dif_pos text.isValidUTF8

/-- What `read_utf8` makes of the bytes it has read. -/
def textOfBytes (field : String) (bytes : List UInt8) : Cursor String :=
  match String.fromUTF8? ⟨bytes.toArray⟩ with
  | some text => pure text
  | none => fail (.invalidUtf8 field)

theorem readUtf8_reads (field : String) :
    Reads DatagramParseError.IsTruncated (readUtf8 field)
      fun text => Spells (.utf8 (some text)) := by
  have hdecode : ∀ bytes : List UInt8, Reads DatagramParseError.IsTruncated
      (textOfBytes field bytes)
      fun text w => bytes = utf8Bytes text ∧ w = [] := by
    intro bytes
    unfold textOfBytes
    cases htext : String.fromUTF8? ⟨bytes.toArray⟩ with
    | none =>
      refine (Reads.refused fun _ => ⟨_, rfl⟩).congr fun text w => ⟨False.elim, ?_⟩
      rintro ⟨hbytes, -⟩
      rw [fromUTF8?_eq_some.mpr hbytes] at htext
      cases htext
    | some text =>
      refine (Reads.pure text).congr fun other w => and_congr_left fun _ => ?_
      rw [← fromUTF8?_eq_some, htext, Option.some.injEq, eq_comm]
  have htext : ∀ length : ℕ, Reads DatagramParseError.IsTruncated
      (if length = nullByteArrayLength then (pure "" : Cursor String)
        else readExact length field >>= textOfBytes field)
      fun text w => (length = nullByteArrayLength ∧ text = "" ∧ w = []) ∨
        (length ≠ nullByteArrayLength ∧ (utf8Bytes text).length = length ∧
          w = utf8Bytes text) := by
    intro length
    by_cases hnull : length = nullByteArrayLength
    · rw [if_pos hnull]
      refine (Reads.pure "").congr fun text w => ?_
      simp [hnull]
    · rw [if_neg hnull]
      refine ((readExact_reads length field).bind hdecode).congr fun text w => ?_
      constructor
      · rintro ⟨_, _, _, ⟨rfl, hlength⟩, ⟨rfl, rfl⟩, rfl⟩
        exact Or.inr ⟨hnull, hlength, List.append_nil _⟩
      · rintro (⟨h, -⟩ | ⟨-, hlength, rfl⟩)
        · exact absurd h hnull
        · exact ⟨_, _, [], ⟨rfl, hlength⟩, ⟨rfl, rfl⟩, (List.append_nil _).symm⟩
  refine ((readUnsigned_reads 4 field).bind htext).congr fun text w => ?_
  rw [spells_utf8]
  constructor
  · rintro ⟨length, _, _, ⟨hlength, rfl⟩, ⟨rfl, rfl, rfl⟩ | ⟨hnull, rfl, rfl⟩, rfl⟩
    · exact Or.inl ⟨rfl, List.append_nil _⟩
    · refine Or.inr ⟨?_, rfl⟩
      unfold nullByteArrayLength at hnull ⊢
      omega
  · rintro (⟨rfl, rfl⟩ | ⟨hlength, rfl⟩)
    · exact ⟨_, _, [], ⟨by decide, rfl⟩, Or.inl ⟨rfl, rfl, rfl⟩, (List.append_nil _).symm⟩
    · refine ⟨_, _, _, ⟨?_, rfl⟩, Or.inr ⟨hlength.ne, rfl, rfl⟩, rfl⟩
      unfold nullByteArrayLength at hlength
      omega

end Cursor

end AntennaBench
