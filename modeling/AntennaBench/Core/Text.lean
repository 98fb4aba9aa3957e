import AntennaBench.Core.Value
import Mathlib.Algebra.Order.BigOperators.Group.List
import Mathlib.Algebra.Order.Group.Nat
import Mathlib.Data.List.DropRight

/-!
# Text

Trimming, changes of case and cuts at character boundaries. Lowercasing is that of the
Unicode character tables, which are given; of them only the ASCII part is known.
-/

namespace AntennaBench

theorem trim_toList (value : String) :
    (trim value).toList = (value.toList.dropWhile isWhitespace).rdropWhile isWhitespace := by
  rw [trim, String.toList_ofList, List.rdropWhile]

theorem trim_eq_self {value : String} (h : ∀ c ∈ value.toList, isWhitespace c = false) :
    trim value = value := by
  have hkept : ∀ chars : List Char, (∀ c ∈ chars, isWhitespace c = false) →
      chars.dropWhile isWhitespace = chars := by
    intro chars hchars
    cases chars with
    | nil => rfl
    | cons c rest =>
      rw [List.dropWhile_cons_of_neg]
      rw [hchars c List.mem_cons_self]
      decide
  rw [trim, hkept _ h, hkept _ fun c hc => h c (List.mem_reverse.1 hc), List.reverse_reverse,
    String.ofList_toList]

theorem trim_trim (value : String) : trim (trim value) = trim value := by
  have hlist : (((value.toList.dropWhile isWhitespace).rdropWhile isWhitespace).dropWhile
      isWhitespace) = (value.toList.dropWhile isWhitespace).rdropWhile isWhitespace := by
    rw [List.dropWhile_eq_self_iff]
    intro hl
    have hprefixed := List.rdropWhile_prefix isWhitespace (l := value.toList.dropWhile isWhitespace)
    rw [hprefixed.getElem hl]
    exact List.dropWhile_get_zero_not _ _ _
  apply String.toList_injective
  rw [trim_toList, trim_toList, hlist, List.rdropWhile_idempotent]

theorem asciiUpperChar_toNat (c : Char) :
    (asciiUpperChar c).toNat = if 97 ≤ c.toNat ∧ c.toNat ≤ 122 then c.toNat - 32 else c.toNat := by
  have hlower : ('a' ≤ c && c ≤ 'z') = true ↔ 97 ≤ c.toNat ∧ c.toNat ≤ 122 := by
    rw [Bool.and_eq_true, decide_eq_true_iff, decide_eq_true_iff, Char.le_def, Char.le_def,
      UInt32.le_iff_toNat_le, UInt32.le_iff_toNat_le]
    rfl
  unfold asciiUpperChar
  by_cases h : 97 ≤ c.toNat ∧ c.toNat ≤ 122
  · have hvalid : Nat.isValidChar (c.toNat - 32) := .inl (by omega)
    rw [if_pos (hlower.2 h), if_pos h, Char.ofNat, dif_pos hvalid]
    rfl
  · rw [if_neg fun hc => h (hlower.1 hc), if_neg h]

theorem isWhitespace_asciiUpperChar (c : Char) :
    isWhitespace (asciiUpperChar c) = isWhitespace c := by
  unfold isWhitespace
  rw [asciiUpperChar_toNat, Bool.eq_iff_iff]
  simp only [Bool.or_eq_true, Bool.and_eq_true, decide_eq_true_eq, beq_iff_eq]
  split_ifs with h <;> omega

theorem isControl_asciiUpperChar (c : Char) : isControl (asciiUpperChar c) = isControl c := by
  unfold isControl
  rw [asciiUpperChar_toNat, Bool.eq_iff_iff]
  simp only [Bool.or_eq_true, Bool.and_eq_true, decide_eq_true_eq]
  split_ifs with h <;> omega

theorem asciiUpperChar_idem (c : Char) :
    asciiUpperChar (asciiUpperChar c) = asciiUpperChar c := by
  apply Char.toNat_inj.1
  rw [asciiUpperChar_toNat (asciiUpperChar c), asciiUpperChar_toNat]
  split_ifs <;> omega

theorem toAsciiUppercase_idem (value : String) :
    toAsciiUppercase (toAsciiUppercase value) = toAsciiUppercase value := by
  have hcomp : asciiUpperChar ∘ asciiUpperChar = asciiUpperChar := funext asciiUpperChar_idem
  rw [toAsciiUppercase, toAsciiUppercase, String.toList_ofList, List.map_map, hcomp]

theorem trim_toAsciiUppercase (value : String) :
    trim (toAsciiUppercase value) = toAsciiUppercase (trim value) := by
  have hp : isWhitespace ∘ asciiUpperChar = isWhitespace := funext isWhitespace_asciiUpperChar
  simp only [trim, toAsciiUppercase, String.toList_ofList, List.dropWhile_map, ← List.map_reverse,
    hp]

/-- The character tables behind `str::to_lowercase`. -/
structure CaseTables where
  lower : Char → List Char
  cased : Char → Bool
  caseIgnorable : Char → Bool
  ascii : ∀ c : Char, c.toNat < 128 → lower c = [asciiLowerChar c]

namespace CaseTables

variable (tables : CaseTables)

/-- `case_ignorable_then_cased`. -/
def ignorableThenCased (characters : List Char) : Bool :=
  (characters.dropWhile tables.caseIgnorable).head?.any tables.cased

/-- The lowercase of a text that stands after the reverse of `before`; a capital sigma at the
end of a word becomes a final one. -/
def lowerAfter (before : List Char) : List Char → List Char
  | [] => []
  | c :: rest =>
    (if c = 'Σ' then
      if tables.ignorableThenCased before && !tables.ignorableThenCased rest then ['ς'] else ['σ']
    else tables.lower c) ++ lowerAfter (c :: before) rest

def toLowercase (value : String) : String :=
  String.ofList (tables.lowerAfter [] value.toList)

def IsAsciiLower (c : Char) : Prop :=
  c.toNat < 128 ∧ asciiLowerChar c = c

variable {tables}

theorem lowerAfter_ascii {text : List Char} (h : ∀ c ∈ text, IsAsciiLower c) :
    ∀ before, tables.lowerAfter before text = text := by
  induction text with
  | nil => simp [lowerAfter]
  | cons c text ih =>
    intro before
    obtain ⟨⟨hascii, hlower⟩, hrest⟩ := List.forall_mem_cons.1 h
    have hsigma : c ≠ 'Σ' := by
      rintro rfl
      exact absurd hascii (by decide)
    rw [lowerAfter, if_neg hsigma, tables.ascii c hascii, hlower, ih hrest]
    rfl

/-- An end in lowercase ASCII stays as it is. -/
theorem lowerAfter_suffix (tables : CaseTables) (text : List Char) {suffix : List Char}
    (h : ∀ c ∈ suffix, IsAsciiLower c) :
    ∀ before, ∃ start, tables.lowerAfter before (text ++ suffix) = start ++ suffix := by
  induction text with
  | nil => exact fun before => ⟨[], lowerAfter_ascii h before⟩
  | cons c text ih =>
    intro before
    obtain ⟨start, hstart⟩ := ih (c :: before)
    rw [List.cons_append, lowerAfter, hstart, ← List.append_assoc]
    exact ⟨_, rfl⟩

end CaseTables

/-- The longest prefix of whole characters within a number of bytes. -/
def truncateBytes : ℕ → List Char → List Char
  | _, [] => []
  | available, c :: rest =>
    if c.utf8Size ≤ available then c :: truncateBytes (available - c.utf8Size) rest else []

theorem utf8ByteSize_ofList (text : List Char) :
    (String.ofList text).utf8ByteSize = (text.map Char.utf8Size).sum := by
  induction text with
  | nil => rfl
  | cons c text ih =>
    rw [← List.singleton_append, String.ofList_append, String.utf8ByteSize_append, ih]
    simp

theorem utf8ByteSize_eq (value : String) :
    value.utf8ByteSize = (value.toList.map Char.utf8Size).sum := by
  rw [← utf8ByteSize_ofList, String.ofList_toList]

theorem utf8ByteSize_ascii {text : List Char} (h : ∀ c ∈ text, c.toNat < 128) :
    (String.ofList text).utf8ByteSize = text.length := by
  rw [utf8ByteSize_ofList]
  induction text with
  | nil => rfl
  | cons c text ih =>
    obtain ⟨hc, hrest⟩ := List.forall_mem_cons.1 h
    have hsize : c.utf8Size = 1 :=
      Char.utf8Size_eq_one_iff.2 (UInt32.le_iff_toNat_le.2 (Nat.lt_succ_iff.1 hc))
    rw [List.map_cons, List.sum_cons, ih hrest, hsize, List.length_cons, Nat.add_comm]

theorem truncateBytes_size (available : ℕ) (text : List Char) :
    (String.ofList (truncateBytes available text)).utf8ByteSize ≤ available := by
  rw [utf8ByteSize_ofList]
  induction text generalizing available with
  | nil => simp [truncateBytes]
  | cons c text ih =>
    unfold truncateBytes
    split_ifs with h
    · have hrest := ih (available - c.utf8Size)
      rw [List.map_cons, List.sum_cons]
      omega
    · simp

theorem utf8ByteSize_trim (value : String) : (trim value).utf8ByteSize ≤ value.utf8ByteSize := by
  rw [utf8ByteSize_eq, utf8ByteSize_eq, trim_toList]
  have hsublist := ((List.rdropWhile_prefix isWhitespace
    (l := value.toList.dropWhile isWhitespace)).sublist).trans (List.dropWhile_sublist _)
  exact (hsublist.map _).sum_le_sum fun _ _ => Nat.zero_le _

/-- Two texts agree before a separator that neither holds earlier, and after it. -/
theorem append_separator_inj {α : Type} {separator : α} {first first' rest rest' : List α}
    (h : separator ∉ first) (h' : separator ∉ first')
    (heq : first ++ separator :: rest = first' ++ separator :: rest') :
    first = first' ∧ rest = rest' := by
  induction first generalizing first' with
  | nil =>
    cases first' with
    | nil => exact ⟨rfl, (List.cons.inj heq).2⟩
    | cons a first' =>
      obtain rfl := (List.cons.inj heq).1
      exact absurd List.mem_cons_self h'
  | cons a first ih =>
    cases first' with
    | nil =>
      obtain rfl := (List.cons.inj heq).1
      exact absurd List.mem_cons_self h
    | cons b first' =>
      obtain ⟨rfl, htail⟩ := List.cons.inj heq
      obtain ⟨hfirst, hrest⟩ := ih (fun hmem => h (List.mem_cons_of_mem _ hmem))
        (fun hmem => h' (List.mem_cons_of_mem _ hmem)) htail
      exact ⟨by rw [hfirst], hrest⟩

theorem toString_toList (n : ℕ) : (toString n).toList = Nat.toDigits 10 n :=
  Nat.toList_repr

theorem toString_inj {a b : ℕ} (h : toString a = toString b) : a = b := by
  have hdigits : Nat.toDigits 10 a = Nat.toDigits 10 b := by
    rw [← toString_toList, h, toString_toList]
  rw [← Nat.ofDigitChars_toDigits (b := 10) (n := a) (by decide) (by decide), hdigits,
    Nat.ofDigitChars_toDigits (by decide) (by decide)]

theorem toString_isDigit {n : ℕ} {c : Char} (h : c ∈ (toString n).toList) : c.isDigit = true := by
  rw [toString_toList] at h
  exact Nat.isDigit_of_mem_toDigits (by decide) (by decide) h

theorem isWhitespace_of_isDigit {c : Char} (h : c.isDigit = true) : isWhitespace c = false := by
  rw [Char.isDigit, Bool.and_eq_true, decide_eq_true_eq, decide_eq_true_eq] at h
  have hlow : 48 ≤ c.toNat := UInt32.le_iff_toNat_le.1 h.1
  have hhigh : c.toNat ≤ 57 := UInt32.le_iff_toNat_le.1 h.2
  unfold isWhitespace
  simp only [Bool.or_eq_false_iff, Bool.and_eq_false_iff, decide_eq_false_iff_not,
    beq_eq_false_iff_ne]
  omega

theorem notMem_toString {c : Char} (h : c.isDigit = false) (n : ℕ) :
    c ∉ (toString n).toList := by
  intro hmem
  have hdigit := toString_isDigit hmem
  rw [h] at hdigit
  cases hdigit

end AntennaBench
