import AntennaBench.Analysis.Comparison
import AntennaBench.Core.Text

/-!
# Stratum keys

The key of a stratum gives the stratum back: a normalized mode is its own normal form,
so the panic of `stratum_from_key` is out of reach of the keys the grouping builds.
-/

namespace AntennaBench

/-- A normalized mode is its own normal form. -/
theorem SignalMode.normalize_normalize {value : String} {mode : SignalMode}
    (h : SignalMode.normalize value = some mode) : SignalMode.normalize mode.text = some mode := by
  simp only [SignalMode.normalize] at h
  by_cases hinvalid : ((trim value).isEmpty || (trim value).toList.any isControl) = true
  · rw [if_pos hinvalid] at h
    cases h
  · rw [if_neg hinvalid] at h
    obtain rfl := Option.some.inj h
    have hempty : (toAsciiUppercase (trim value)).isEmpty = (trim value).isEmpty := by
      rw [Bool.eq_iff_iff, String.isEmpty_iff, String.isEmpty_iff, ← String.toList_eq_nil_iff,
        ← String.toList_eq_nil_iff, toAsciiUppercase, String.toList_ofList, List.map_eq_nil_iff]
    have hcontrol : (toAsciiUppercase (trim value)).toList.any isControl =
        (trim value).toList.any isControl := by
      rw [toAsciiUppercase, String.toList_ofList, List.any_map]
      exact congrArg _ (funext isControl_asciiUpperChar)
    simp only [SignalMode.normalize]
    rw [trim_toAsciiUppercase, trim_trim, toAsciiUppercase_idem, hempty, hcontrol,
      if_neg hinvalid]

theorem stratumFromKey_stratumKey {stratum : ComparisonStratum} {value : String}
    (h : SignalMode.normalize value = some stratum.mode) :
    stratumFromKey (stratumKey stratum) = some stratum := by
  obtain ⟨direction, band, mode, kind, source⟩ := stratum
  have hband : bands[band.ctorIdx]?.getD .m2 = band := by cases band <;> rfl
  have hsource : recordSources[source.ctorIdx]?.getD .derived = source := by cases source <;> rfl
  simp only [stratumKey, stratumFromKey, ofLex_toLex, SignalMode.normalize_normalize h,
    Option.map_some, hband, hsource]
  cases direction <;> cases kind <;> rfl

end AntennaBench
