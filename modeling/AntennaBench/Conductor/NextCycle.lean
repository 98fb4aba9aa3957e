import Mathlib.Tactic.Linarith
import AntennaBench.Conductor.Actions
import AntennaBench.Core.Occupancy
import AntennaBench.Scenario.Session

/-!
# The next WSPR cycle

The cycle that is chosen for an instant is the first one at or after it, unless the instant
lies in the first millisecond of a cycle: the computation drops the part below a millisecond
and takes the cycle that has begun already.
-/

namespace AntennaBench

open DateTime

def wsprCycleNanos : ℤ := wsprCycleSeconds * nanosPerSecond

/-- The time since the last cycle start, at the start itself zero. -/
def sinceCycleStart (at_ : ℤ) : ℤ :=
  (at_ - wsprNominalStartOffsetSeconds * nanosPerSecond) % wsprCycleNanos

/-- Inside the first millisecond of a cycle, but not at its start. -/
def JustStarted (at_ : ℤ) : Prop :=
  0 < sinceCycleStart at_ ∧ sinceCycleStart at_ < nanosPerMilli

instance (at_ : ℤ) : Decidable (JustStarted at_) := inferInstanceAs (Decidable (_ ∧ _))

/-- The least cycle start that is not before the instant. -/
structure IsNextStart (at_ startsAt : ℤ) : Prop where
  start : isWsprCycleStart startsAt = true
  notBefore : at_ ≤ startsAt
  least : ∀ other : ℤ, isWsprCycleStart other = true → at_ ≤ other → startsAt ≤ other
  soon : startsAt - at_ < wsprCycleNanos

/-- The start the computation arrives at. -/
def chosenStart (at_ : ℤ) : ℤ :=
  if sinceCycleStart at_ < nanosPerMilli then at_ - sinceCycleStart at_
  else at_ - sinceCycleStart at_ + wsprCycleNanos

theorem sinceCycleStart_eq (n : ℤ) : sinceCycleStart n = (n - 1000000000) % 120000000000 := rfl

theorem isWsprCycleStart_iff (n : ℤ) : isWsprCycleStart n = true ↔ sinceCycleStart n = 0 := by
  have hseconds : isWsprCycleStart n = true ↔ n % 1000000000 = 0 ∧ n / 1000000000 % 120 = 1 := by
    simp [isWsprCycleStart, nanosPerSecond, wsprCycleSeconds, wsprNominalStartOffsetSeconds]
  rw [hseconds, sinceCycleStart_eq]
  omega

theorem chosenStart_cases (n : ℤ) :
    sinceCycleStart n < 1000000 ∧ chosenStart n = n - sinceCycleStart n ∨
      1000000 ≤ sinceCycleStart n ∧ chosenStart n = n - sinceCycleStart n + 120000000000 := by
  by_cases h : sinceCycleStart n < nanosPerMilli
  · exact .inl ⟨h, if_pos h⟩
  · exact .inr ⟨not_lt.1 h, if_neg h⟩

theorem isWsprCycleStart_chosenStart (n : ℤ) : isWsprCycleStart (chosenStart n) = true := by
  rw [isWsprCycleStart_iff, sinceCycleStart_eq]
  have hcases := chosenStart_cases n
  rw [sinceCycleStart_eq] at hcases
  generalize chosenStart n = start at hcases ⊢
  omega

/-- A start that is not before an instant is the one the time since the last start leads to,
or a later one. -/
theorem le_of_isWsprCycleStart {n other : ℤ} (hother : isWsprCycleStart other = true)
    (hle : n ≤ other) : n - sinceCycleStart n ≤ other ∧
      (0 < sinceCycleStart n → n - sinceCycleStart n + 120000000000 ≤ other) := by
  rw [isWsprCycleStart_iff, sinceCycleStart_eq] at hother
  rw [sinceCycleStart_eq]
  omega

theorem sinceCycleStart_bounds (n : ℤ) :
    0 ≤ sinceCycleStart n ∧ sinceCycleStart n < 120000000000 := by
  rw [sinceCycleStart_eq]
  omega

/-- The chosen start is the next one, but for the first millisecond of a cycle. -/
theorem isNextStart_chosenStart_iff (n : ℤ) : IsNextStart n (chosenStart n) ↔ ¬JustStarted n := by
  have hbounds := sinceCycleStart_bounds n
  have hcases := chosenStart_cases n
  have hjust : JustStarted n ↔ 0 < sinceCycleStart n ∧ sinceCycleStart n < 1000000 := Iff.rfl
  constructor
  · intro hnext hstarted
    have hnotBefore := hnext.notBefore
    rw [hjust] at hstarted
    omega
  · intro hstarted
    rw [hjust] at hstarted
    refine ⟨isWsprCycleStart_chosenStart n, by omega, ?_, ?_⟩
    · intro other hother hle
      obtain ⟨hfirst, hlater⟩ := le_of_isWsprCycleStart hother hle
      omega
    · change chosenStart n - n < 120000000000
      omega

/-- The computation in whole milliseconds. -/
theorem chosenStart_eq (n : ℤ) :
    (if (n / 1000000 - 1000) / 120000 * 120000 + 1000 < n / 1000000
      then (n / 1000000 - 1000) / 120000 * 120000 + 1000 + 120000
      else (n / 1000000 - 1000) / 120000 * 120000 + 1000) * 1000000 = chosenStart n := by
  have hcases := chosenStart_cases n
  rw [sinceCycleStart_eq] at hcases
  generalize chosenStart n = start at hcases ⊢
  split_ifs <;> omega

theorem fromStart?_startsAt {startsAt : DateTime} {window : WsprCycleWindow}
    (h : WsprCycleWindow.fromStart? startsAt = some window) : window.startsAt = startsAt := by
  simp only [WsprCycleWindow.fromStart?, Option.bind_eq_bind, Option.bind_eq_some_iff] at h
  obtain ⟨-, -, transmissionEndsAt, -, nextCycleStartsAt, -, h⟩ := h
  rw [← Option.some.inj h]

theorem fromStart?_isSome {n : ℤ} (hstart : isWsprCycleStart n = true) (hmin : minUtc ≤ n)
    (hmax : n + wsprCycleNanos ≤ maxUtc) : (WsprCycleWindow.fromStart? n).isSome := by
  have htransmission : checkedAdd n (wsprTransmissionMilliseconds * nanosPerMilli) =
      some (n + 110592000000) := by
    rw [checkedAdd_eq_some]
    change n + 120000000000 ≤ maxUtc at hmax
    change minUtc ≤ n + 110592000000 ∧ n + 110592000000 ≤ maxUtc ∧ _
    exact ⟨by linarith, by linarith, rfl⟩
  have hcycle : checkedAdd n (wsprCycleSeconds * nanosPerSecond) = some (n + 120000000000) := by
    rw [checkedAdd_eq_some]
    change minUtc ≤ n + 120000000000 ∧ _
    exact ⟨by linarith, hmax, rfl⟩
  simp [WsprCycleWindow.fromStart?, hstart, htransmission, hcycle]

theorem nextWsprCycleAtOrAfter?_eq (n : ℤ) : nextWsprCycleAtOrAfter? n =
    if minUtc ≤ chosenStart n ∧ chosenStart n ≤ maxUtc then
      WsprCycleWindow.fromStart? (chosenStart n)
    else none := by
  rw [← chosenStart_eq n]
  rfl

theorem nextWsprCycleAtOrAfter?_startsAt {n : ℤ} {window : WsprCycleWindow}
    (h : nextWsprCycleAtOrAfter? n = some window) : window.startsAt = chosenStart n := by
  rw [nextWsprCycleAtOrAfter?_eq] at h
  split_ifs at h
  exact fromStart?_startsAt h

/-- The instant is one of `DateTime`, and so is the window of a cycle that starts after it or
less than a millisecond before it. -/
structure LeavesRoom (n : ℤ) : Prop where
  min : minUtc ≤ n
  max : ∃ startsAt : ℤ, isWsprCycleStart startsAt = true ∧ n < startsAt + nanosPerMilli ∧
    startsAt + wsprCycleNanos ≤ maxUtc

/-- No cycle starts before the second second of `DateTime`. -/
theorem minUtc_le_chosenStart {n : ℤ} (h : minUtc ≤ n) : minUtc ≤ chosenStart n := by
  have hcases := chosenStart_cases n
  rw [sinceCycleStart_eq] at hcases
  change -8334601228800000000000 ≤ n at h
  change -8334601228800000000000 ≤ chosenStart n
  omega

theorem chosenStart_le {n other : ℤ} (hother : isWsprCycleStart other = true)
    (hlt : n < other + 1000000) : chosenStart n ≤ other := by
  have hcases := chosenStart_cases n
  rw [sinceCycleStart_eq] at hcases
  rw [isWsprCycleStart_iff, sinceCycleStart_eq] at hother
  generalize chosenStart n = start at hcases ⊢
  omega

theorem LeavesRoom.chosenStart_le {n : ℤ} (h : LeavesRoom n) :
    chosenStart n + wsprCycleNanos ≤ maxUtc := by
  obtain ⟨startsAt, hstart, hlt, hmax⟩ := h.max
  have hle := AntennaBench.chosenStart_le hstart hlt
  linarith

theorem nextWsprCycleAtOrAfter?_isSome {n : ℤ} (h : LeavesRoom n) :
    (nextWsprCycleAtOrAfter? n).isSome := by
  have hmin := minUtc_le_chosenStart h.min
  have hmax := h.chosenStart_le
  have hle : chosenStart n ≤ maxUtc := by
    change chosenStart n + 120000000000 ≤ maxUtc at hmax
    linarith
  rw [nextWsprCycleAtOrAfter?_eq, if_pos ⟨hmin, hle⟩]
  exact fromStart?_isSome (isWsprCycleStart_chosenStart n) hmin hmax

theorem LeavesRoom.le_maxUtc {n : ℤ} (h : LeavesRoom n) : n ≤ maxUtc := by
  have hmax : chosenStart n + 120000000000 ≤ maxUtc := h.chosenStart_le
  have hbounds := sinceCycleStart_bounds n
  rcases chosenStart_cases n with ⟨-, hchosen⟩ | ⟨-, hchosen⟩ <;> rw [hchosen] at hmax <;>
    linarith

theorem nextWsprCycleAfterReady?_eq {readyAt lead : ℤ} (hlead : 0 ≤ lead)
    (hroom : LeavesRoom (readyAt + lead)) :
    nextWsprCycleAfterReady? readyAt lead = nextWsprCycleAtOrAfter? (readyAt + lead) := by
  have hadd : checkedAdd readyAt lead = some (readyAt + lead) :=
    checkedAdd_eq_some.2 ⟨hroom.min, hroom.le_maxUtc, rfl⟩
  simp [nextWsprCycleAfterReady?, hlead, hadd]

def startsBeforeReady : String := "armed WSPR cycle cannot start before the antenna was ready"

/-- The event arms a cycle that starts then, for an antenna that was ready at that time. -/
def Arms (event : OperatorEventV3) (readyAt startsAt : DateTime) : Prop :=
  event.occurredAt = readyAt ∧
    ∃ antennaLabel readiness, event.payload = .wsprCycleArmed antennaLabel startsAt readiness

theorem slotRequired_ne (slotId : Option String) :
    slotRequired slotId "armed WSPR cycle" ≠ some startsBeforeReady := by
  unfold slotRequired
  split_ifs
  · decide
  · simp

theorem Arms.passes {event : OperatorEventV3} {readyAt startsAt : DateTime}
    (h : Arms event readyAt startsAt) (hready : readyAt ≤ startsAt) :
    eventShapeErrorV3 event ≠ some startsBeforeReady := by
  obtain ⟨rfl, antennaLabel, readiness, hpayload⟩ := h
  have hlifecycle : event.payload.isLifecycle = false := by rw [hpayload]; rfl
  have hafter : decide (startsAt < event.occurredAt) = false := by simpa using hready
  have hslot := slotRequired_ne event.slotId
  unfold eventShapeErrorV3
  rw [hlifecycle, hpayload]
  simp only [Bool.false_and, Bool.false_eq_true, if_false, hafter, thenText]
  cases hrequired : slotRequired event.slotId "armed WSPR cycle" with
  | some text => simpa [hrequired] using hslot
  | none => split_ifs <;> simp [startsBeforeReady]

/-- The cycle that is returned is the next one, and an event that arms it is not refused for
starting before the antenna was ready. -/
def SelectsNextCycle (readyAt lead : ℤ) : Prop :=
  ∃ window, nextWsprCycleAtOrAfter? (readyAt + lead) = some window ∧
    nextWsprCycleAfterReady? readyAt lead = some window ∧
    IsNextStart (readyAt + lead) window.startsAt ∧
    ∀ event, Arms event readyAt window.startsAt → eventShapeErrorV3 event ≠ some startsBeforeReady

/-- The next cycle is selected exactly when the instant is not inside the first millisecond
of a cycle. -/
theorem selectsNextCycle_iff (readyAt lead : ℤ) (hlead : 0 ≤ lead)
    (hroom : LeavesRoom (readyAt + lead)) :
    SelectsNextCycle readyAt lead ↔ ¬JustStarted (readyAt + lead) := by
  have hready := nextWsprCycleAfterReady?_eq hlead hroom
  obtain ⟨window, hwindow⟩ := Option.isSome_iff_exists.1 (nextWsprCycleAtOrAfter?_isSome hroom)
  have hstart := nextWsprCycleAtOrAfter?_startsAt hwindow
  rw [← isNextStart_chosenStart_iff, ← hstart]
  constructor
  · rintro ⟨other, hother, -, hnext, -⟩
    rw [hwindow] at hother
    rw [Option.some.inj hother]
    exact hnext
  · intro hnext
    refine ⟨window, hwindow, hready.trans hwindow, hnext, fun event harms => ?_⟩
    have hnotBefore := hnext.notBefore
    exact harms.passes (by linarith)

namespace Scenario

/-- Half a microsecond into the cycle of 12:00:01. -/
def justStarted : ℤ := noon 1 + 500

/-- The antenna is ready at that instant and the cycle is armed for it. -/
def armedJustStarted (startsAt : DateTime) : OperatorEventV3 :=
  eventAt "armed" justStarted (some "c1")
    (.wsprCycleArmed "A" startsAt (some .operatorConfirmed))

/-- The cycle that has begun is selected, and the event that arms it is refused. -/
theorem justStarted_selectsBegunCycle : LeavesRoom (justStarted + 0) ∧
    ¬SelectsNextCycle justStarted 0 ∧
    ∃ window, nextWsprCycleAfterReady? justStarted 0 = some window ∧
      window.startsAt < justStarted ∧
      eventShapeErrorV3 (armedJustStarted window.startsAt) = some startsBeforeReady := by
  refine ⟨⟨by decide, noon 1, by decide⟩, ?_, ?_⟩
  · rintro ⟨window, hwindow, -, hnext, -⟩
    rw [nextWsprCycleAtOrAfter?_startsAt hwindow, isNextStart_chosenStart_iff] at hnext
    exact hnext (by decide)
  · exact ⟨⟨noon 1, noon 1 + 110592000000, noon 121⟩, by decide, by decide, by decide⟩

theorem noonReady_selectsNextCycle : SelectsNextCycle (noon 0) nanosPerSecond :=
  (selectsNextCycle_iff (noon 0) nanosPerSecond (by decide)
    ⟨by decide, noon 1, by decide⟩).2 (by decide)

end Scenario

end AntennaBench
