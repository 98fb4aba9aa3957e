import Mathlib.Data.List.ReduceOption
import AntennaBench.Storage.ReadV3

/-!
# What the bounded serializer accepts

The scan of a JSON text and the loop that writes a stream, inverted: each passes exactly when
every string, depth and line is within the profile, and the bytes are then the obvious ones.
-/

namespace AntennaBench

section

variable (E : Env) (profile : BundleResourceProfile)

/-- No string and no nesting of the text exceeds the profile, from a depth on. -/
def EventsFit : ℕ → List JsonEvent → Prop
  | _, [] => True
  | depth, .enter :: rest => depth + 1 ≤ profile.jsonDepth ∧ EventsFit (depth + 1) rest
  | depth, .leave :: rest => EventsFit (depth - 1) rest
  | depth, .string byteLength :: rest =>
    byteLength ≤ profile.scalarStringBytes ∧ EventsFit depth rest

def JsonFits (text : Bytes) : Prop :=
  EventsFit profile 0 (E.jsonEvents text)

/-- A record can be written as one line. -/
structure LineWrites {α : Type} (codec : Codec α) (record : α) : Prop where
  size : (codec.toVec record).length + 1 ≤ profile.jsonlLineBytes
  json : JsonFits E profile (codec.toVec record)

end

section

variable {E : Env} {profile : BundleResourceProfile}

theorem firstViolation_eq_none {operation : ResourceOperation} {path : Path} {depth : ℕ}
    {events : List JsonEvent} :
    firstViolation profile operation path depth events = none ↔
      EventsFit profile depth events := by
  induction events generalizing depth with
  | nil => simp [firstViolation, EventsFit]
  | cons event rest ih =>
    cases event with
    | enter =>
      unfold firstViolation EventsFit
      split_ifs with h
      · simp; omega
      · rw [ih]
        exact ⟨fun hrest => ⟨by omega, hrest⟩, And.right⟩
    | leave => exact ih
    | string byteLength =>
      unfold firstViolation EventsFit
      split_ifs with h
      · simp; omega
      · rw [ih]
        exact ⟨fun hrest => ⟨by omega, hrest⟩, And.right⟩

theorem scanJsonLimits_eq_ok {path : Path} {text : Bytes} {operation : ResourceOperation}
    {u : Unit} : scanJsonLimits E profile path text operation = .ok u ↔
      JsonFits E profile text := by
  unfold scanJsonLimits JsonFits
  rw [← @firstViolation_eq_none profile operation path]
  cases firstViolation profile operation path 0 (E.jsonEvents text) <;> simp

end

end AntennaBench
