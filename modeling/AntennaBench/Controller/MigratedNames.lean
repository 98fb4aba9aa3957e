import AntennaBench.Controller.Catalog
import AntennaBench.Timeline.FirstFree

/-!
# Migrated profile names

A renamed profile keeps as much of its name as the suffix with its ordinal leaves room for.
The ordinal can be read off the normal form of the new name, so the search for a name that
no other profile has comes to an end.
-/

namespace AntennaBench

open Timeline

def migratedSuffix (ordinal : ℕ) : String :=
  " (migrated " ++ toString ordinal ++ ")"

def migratedCandidate (base : String) (ordinal : ℕ) : String :=
  let suffix := migratedSuffix ordinal
  String.ofList (truncateBytes (profileNameMaxBytes - suffix.utf8ByteSize) base.toList) ++ suffix

def migratedWord : List Char :=
  ['(', 'm', 'i', 'g', 'r', 'a', 't', 'e', 'd', ' ']

/-- What the normal form of a migrated name ends in. -/
def migratedEnd (ordinal : ℕ) : List Char :=
  migratedWord ++ Nat.toDigits 10 ordinal ++ [')']

theorem migratedSuffix_toList (ordinal : ℕ) :
    (migratedSuffix ordinal).toList = ' ' :: migratedEnd ordinal := by
  have hword : " (migrated ".toList = ' ' :: migratedWord := by decide
  have hclose : ")".toList = [')'] := by decide
  rw [migratedSuffix, String.toList_append, String.toList_append, hword, hclose, migratedEnd,
    ← Nat.toList_repr]
  rfl

theorem migratedEnd_ascii (ordinal : ℕ) : ∀ c ∈ migratedEnd ordinal, CaseTables.IsAsciiLower c := by
  intro c hc
  have htext : ∀ c ∈ migratedWord ++ [')'], c.toNat < 128 ∧ asciiLowerChar c = c := by
    simp only [migratedWord, List.cons_append, List.nil_append, List.forall_mem_cons,
      List.not_mem_nil, false_implies, implies_true, and_true]
    decide
  simp only [migratedEnd, List.mem_append] at hc
  rcases hc with (hc | hc) | hc
  · exact htext c (List.mem_append_left _ hc)
  · have hdigit := Nat.isDigit_of_mem_toDigits (by decide) (by decide) hc
    have hhigh : c.toNat ≤ 57 := (Char.isDigit_iff_toNat.1 hdigit).2
    refine ⟨by omega, if_neg ?_⟩
    simp only [Bool.and_eq_true, decide_eq_true_eq, Char.le_def, UInt32.le_iff_toNat_le]
    intro hcapital
    have hlow : 65 ≤ c.toNat := hcapital.1
    omega
  · exact htext c (List.mem_append_right _ hc)

theorem migratedEnd_injective {xs ys : List Char} {i j : ℕ}
    (h : xs ++ migratedEnd i = ys ++ migratedEnd j) : i = j := by
  have hdigits : ∀ (start : List Char) (k : ℕ),
      (start ++ migratedEnd k).dropLast.rtakeWhile Char.isDigit = Nat.toDigits 10 k := by
    intro start k
    have hall : ∀ c ∈ (Nat.toDigits 10 k).reverse, c.isDigit = true := fun c hc =>
      Nat.isDigit_of_mem_toDigits (by decide) (by decide) (List.mem_reverse.1 hc)
    rw [migratedEnd, ← List.append_assoc, ← List.append_assoc, List.dropLast_concat,
      List.rtakeWhile, List.reverse_append, List.takeWhile_append_of_pos hall]
    simp [migratedWord]
  have hsame := hdigits xs i
  rw [h, hdigits ys j] at hsame
  rw [← Nat.ofDigitChars_ten_toDigits (n := i), ← hsame, Nat.ofDigitChars_ten_toDigits]

theorem trim_append {text : List Char} {value : String} (start : List Char)
    (hvalue : value.toList = start ++ text) (hne : text ≠ [])
    (hhead : isWhitespace (text.head hne) = false)
    (hlast : isWhitespace (text.getLast hne) = false) :
    (trim value).toList = start.dropWhile isWhitespace ++ text := by
  have hdrop : text.dropWhile isWhitespace = text := by
    rw [List.dropWhile_eq_self_iff]
    intro hl
    rw [← List.head_eq_getElem hne, hhead]
    decide
  rw [trim_toList, hvalue, List.dropWhile_append, hdrop]
  have hstart : (if (start.dropWhile isWhitespace).isEmpty then text
      else start.dropWhile isWhitespace ++ text) = start.dropWhile isWhitespace ++ text := by
    cases start.dropWhile isWhitespace <;> rfl
  rw [hstart, List.rdropWhile_eq_self_iff]
  intro hl
  rw [List.getLast_append_of_ne_nil hl hne, hlast]
  decide

theorem trim_migratedCandidate (base : String) (ordinal : ℕ) :
    ∃ start, (trim (migratedCandidate base ordinal)).toList = start ++ migratedEnd ordinal := by
  have hsplit : (migratedCandidate base ordinal).toList =
      (truncateBytes (profileNameMaxBytes - (migratedSuffix ordinal).utf8ByteSize) base.toList ++
        [' ']) ++ migratedEnd ordinal := by
    rw [migratedCandidate, String.toList_append, String.toList_ofList, migratedSuffix_toList,
      List.append_assoc]
    rfl
  have hne : migratedEnd ordinal ≠ [] := by simp [migratedEnd]
  have hhead : isWhitespace ((migratedEnd ordinal).head hne) = false := by
    simp only [migratedEnd, migratedWord, List.cons_append, List.head_cons]
    decide
  have hlast : isWhitespace ((migratedEnd ordinal).getLast hne) = false := by
    simp only [migratedEnd, List.getLast_append_singleton]
    decide
  exact ⟨_, trim_append _ hsplit hne hhead hlast⟩

variable (tables : CaseTables)

theorem normalized_migratedCandidate (base : String) (ordinal : ℕ) :
    ∃ start, (normalizedProfileName tables (migratedCandidate base ordinal)).toList =
      start ++ migratedEnd ordinal := by
  obtain ⟨start, htrim⟩ := trim_migratedCandidate base ordinal
  obtain ⟨before, hlower⟩ := tables.lowerAfter_suffix start (migratedEnd_ascii ordinal) []
  refine ⟨before, ?_⟩
  rw [normalizedProfileName, CaseTables.toLowercase, String.toList_ofList, htrim, hlower]

/-- No normal form of a migrated name has two ordinals. -/
def migratedNames (base : String) : Numbering String where
  name ordinal := normalizedProfileName tables (migratedCandidate base ordinal)
  injective := by
    intro i j h
    obtain ⟨start, hi⟩ := normalized_migratedCandidate tables base i
    obtain ⟨start', hj⟩ := normalized_migratedCandidate tables base j
    exact migratedEnd_injective (hi.symm.trans ((congrArg String.toList h).trans hj))

def migratedProfileName (base : String) (ordinal : ℕ) (reservedNames usedNames : List String) :
    String :=
  migratedCandidate base
    ((migratedNames tables base).firstFree (reservedNames ++ usedNames) ordinal)

theorem migratedSuffix_size {ordinal : ℕ} (h : ordinal < 2 ^ 64) :
    (migratedSuffix ordinal).utf8ByteSize ≤ 32 := by
  have hdigits : (Nat.toDigits 10 ordinal).length ≤ 20 := by
    rw [Nat.length_toDigits_le_iff (by decide) (by decide)]
    exact h.trans (by decide)
  have hascii : ∀ c ∈ ' ' :: migratedEnd ordinal, c.toNat < 128 :=
    List.forall_mem_cons.2 ⟨by decide, fun c hc => (migratedEnd_ascii ordinal c hc).1⟩
  rw [← String.ofList_toList (s := migratedSuffix ordinal), migratedSuffix_toList,
    utf8ByteSize_ascii hascii]
  simp only [List.length_cons, migratedEnd, migratedWord, List.length_append, List.length_nil]
  omega

theorem migratedCandidate_size (base : String) {ordinal : ℕ} (h : ordinal < 2 ^ 64) :
    (migratedCandidate base ordinal).utf8ByteSize ≤ profileNameMaxBytes := by
  have hsuffix := migratedSuffix_size h
  have hbase := truncateBytes_size (profileNameMaxBytes - (migratedSuffix ordinal).utf8ByteSize)
    base.toList
  rw [migratedCandidate, String.utf8ByteSize_append]
  have hmax : profileNameMaxBytes = 256 := rfl
  omega

theorem migratedProfileName_free (base : String) (ordinal : ℕ)
    (reservedNames usedNames : List String) :
    normalizedProfileName tables
      (migratedProfileName tables base ordinal reservedNames usedNames) ∉
        reservedNames ++ usedNames :=
  (migratedNames tables base).firstFree_not_mem _ ordinal

theorem invalidName_migratedProfileName (base : String) {ordinal : ℕ}
    {reservedNames usedNames : List String}
    (h : ordinal + reservedNames.length + usedNames.length < 2 ^ 64) :
    (trim (migratedProfileName tables base ordinal reservedNames usedNames)).isEmpty = false ∧
      (migratedProfileName tables base ordinal reservedNames usedNames).utf8ByteSize ≤
        profileNameMaxBytes := by
  have hfirst := (migratedNames tables base).firstFree_le (reservedNames ++ usedNames) ordinal
  have hahead := (migratedNames tables base).ahead_card_le (reservedNames ++ usedNames) ordinal
  rw [List.length_append] at hahead
  constructor
  · obtain ⟨start, hstart⟩ := trim_migratedCandidate base
      ((migratedNames tables base).firstFree (reservedNames ++ usedNames) ordinal)
    rw [migratedProfileName, Bool.eq_false_iff]
    intro hempty
    rw [String.isEmpty_iff.1 hempty] at hstart
    exact absurd hstart (by simp [migratedEnd])
  · exact migratedCandidate_size base (by omega)

end AntennaBench
