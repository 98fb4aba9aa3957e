import AntennaBench.Core.Text
import AntennaBench.Rbn.PreparedRows
import Mathlib.Data.List.Nodup

/-!
# The identifiers of an import

A record ID spells the kind of its record, the import and, for a row, the row number, and no
two records of different imports are spelled alike. A spot identity spells the reporter, the
call sign, the time, the frequency and the mode of the spot.
-/

namespace AntennaBench

/-- What a spot identity spells. -/
structure RbnSpotIdentity where
  reporterCall : String
  heardCall : String
  observedAt : DateTime
  frequencyHz : ℕ
  mode : SignalModeV3
  deriving DecidableEq

def RbnSpot.identity (spot : RbnSpot) : RbnSpotIdentity :=
  ⟨spot.reporterCall, spot.heardCall, spot.observedAt, spot.frequencyHz, spot.mode⟩

/-- What a record ID spells. -/
inductive RbnRecordKey where
  | capture (importId : String)
  | summary (importId : String)
  | row (importId : String) (rowNumber : ℕ)

def RbnRecordKey.text : RbnRecordKey → String
  | .capture importId => "rbn-capture-" ++ importId
  | .summary importId => "rbn-summary-" ++ importId
  | .row importId rowNumber => "rbn-row-" ++ importId ++ "-" ++ toString rowNumber

theorem numbered_inj {start importId importId' : String} {n n' : ℕ}
    (h : start ++ importId ++ "-" ++ toString n = start ++ importId' ++ "-" ++ toString n') :
    importId = importId' ∧ n = n' := by
  have hlist := congrArg (fun text : String => text.toList.reverse) h
  simp only [String.toList_append, List.reverse_append] at hlist
  have hdash : "-".toList.reverse = ['-'] := by decide
  rw [hdash] at hlist
  have hdigits : ∀ k : ℕ, '-' ∉ (toString k).toList.reverse := fun k hmem =>
    notMem_toString (by decide) k (List.mem_reverse.1 hmem)
  obtain ⟨hnumber, hrest⟩ := append_separator_inj (hdigits n) (hdigits n') hlist
  have himport : importId.toList.reverse ++ start.toList.reverse =
      importId'.toList.reverse ++ start.toList.reverse := hrest
  exact ⟨String.toList_injective (List.reverse_injective
    (List.append_cancel_right himport)),
    toString_inj (String.toList_injective (List.reverse_injective hnumber))⟩

/-- The fifth character of a record ID tells what kind of record it names. -/
theorem RbnRecordKey.text_kind (key : RbnRecordKey) : key.text.toList[4]? =
    some (match key with | .capture _ => 'c' | .summary _ => 's' | .row _ _ => 'r') := by
  have hcapture : "rbn-capture-".toList[4]? = some 'c' := by decide
  have hsummary : "rbn-summary-".toList[4]? = some 's' := by decide
  have hrow : "rbn-row-".toList[4]? = some 'r' := by decide
  have hstart : ∀ (start rest : String) (c : Char), start.toList[4]? = some c →
      (start ++ rest).toList[4]? = some c := by
    intro start rest c h
    rw [String.toList_append, List.getElem?_append_left (List.getElem?_eq_some_iff.1 h).1, h]
  cases key with
  | capture importId => exact hstart _ _ _ hcapture
  | summary importId => exact hstart _ _ _ hsummary
  | row importId n =>
    rw [RbnRecordKey.text, String.append_assoc, String.append_assoc]
    exact hstart _ _ _ hrow

theorem RbnRecordKey.text_injective : Function.Injective RbnRecordKey.text := by
  intro key key' h
  have hkind := key.text_kind
  rw [h, key'.text_kind] at hkind
  cases key <;> cases key' <;> simp only [Option.some.injEq, Char.reduceEq] at hkind
  · rw [(String.append_right_inj _).1 h]
  · rw [(String.append_right_inj _).1 h]
  · obtain ⟨rfl, rfl⟩ := numbered_inj h
    rfl

theorem isCallByte_separator : isCallByte '|' = false := by
  decide

theorem notMem_of_validCall {value : String} (h : validCall value = true) :
    '|' ∉ value.toList := by
  intro hmem
  simp only [validCall, Bool.and_eq_true, List.all_eq_true] at h
  have hbyte := h.2 _ hmem
  rw [isCallByte_separator] at hbyte
  revert hbyte
  decide

theorem debugName_injective : Function.Injective SignalModeV3.debugName := by
  intro mode mode' h
  cases mode <;> cases mode' <;> first | rfl | (revert h; decide)

namespace RbnEnv

variable (env : RbnEnv)

/-- The texts of two times are different texts without separators. -/
structure TimesTold (s t : RbnSpot) : Prop where
  plain : '|' ∉ (env.displayTime s.observedAt).toList
  plain' : '|' ∉ (env.displayTime t.observedAt).toList
  injective : env.displayTime s.observedAt = env.displayTime t.observedAt →
    s.observedAt = t.observedAt

variable {env}

theorem spotIdentity_congr {s t : RbnSpot} (h : s.identity = t.identity) :
    env.spotIdentity s = env.spotIdentity t := by
  obtain ⟨hreporter, hheard, htime, hfrequency, hmode⟩ := RbnSpotIdentity.mk.inj h
  rw [spotIdentity, spotIdentity, hreporter, hheard, htime, hfrequency, hmode]

theorem spotIdentity_inj {s t : RbnSpot} (hs : validCall s.reporterCall = true)
    (hs' : validCall s.heardCall = true) (ht : validCall t.reporterCall = true)
    (ht' : validCall t.heardCall = true) (htimes : env.TimesTold s t)
    (h : env.spotIdentity s = env.spotIdentity t) : s.identity = t.identity := by
  have hbar : "|".toList = ['|'] := by decide
  have hlist := congrArg String.toList h
  simp only [spotIdentity, String.toList_append, hbar, List.append_assoc,
    List.singleton_append] at hlist
  obtain ⟨hreporter, hlist⟩ := append_separator_inj (notMem_of_validCall hs)
    (notMem_of_validCall ht) hlist
  obtain ⟨hheard, hlist⟩ := append_separator_inj (notMem_of_validCall hs')
    (notMem_of_validCall ht') hlist
  obtain ⟨htime, hlist⟩ := append_separator_inj htimes.plain htimes.plain' hlist
  obtain ⟨hfrequency, hmode⟩ := append_separator_inj (notMem_toString (by decide) _)
    (notMem_toString (by decide) _) hlist
  rw [RbnSpot.identity, RbnSpot.identity, String.toList_injective hreporter,
    String.toList_injective hheard, htimes.injective (String.toList_injective htime),
    toString_inj (String.toList_injective hfrequency),
    debugName_injective (String.toList_injective hmode)]

end RbnEnv

end AntennaBench
