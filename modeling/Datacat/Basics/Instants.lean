import Datacat.Basics.Durations

/-!
# Monotonic Instants

The durations and the instants of the standard library, in nanoseconds: the seconds of a duration
fit in a `u64`, those of an instant in an `i64`. Their operators panic on anything larger, which is
`none` here. The time elapsed between two instants is never larger, since it stops at zero.
-/

namespace Datacat.Basics.Instants

/-- `Duration::MAX`. -/
def maxDuration : Nat := 2 ^ 64 * 1000000000 - 1

/-- The last instant that has a representation. -/
def maxInstant : Nat := 2 ^ 63 * 1000000000 - 1

/-- `duration * times`. -/
def multiplied (duration times : Nat) : Option Nat :=
  if duration * times ≤ maxDuration then some (duration * times) else none

/-- `now + duration`. -/
def later (now duration : Nat) : Option Nat :=
  if now + duration ≤ maxInstant then some (now + duration) else none

theorem multiplied_isSome_iff {duration times : Nat} :
    (multiplied duration times).isSome = true ↔ duration * times ≤ maxDuration := by
  unfold multiplied
  split
  · exact iff_of_true rfl ‹_›
  · exact iff_of_false Bool.false_ne_true ‹_›

theorem multiplied_eq_some {duration times product : Nat}
    (h : multiplied duration times = some product) : product = duration * times := by
  unfold multiplied at h
  split at h
  · exact (Option.some.inj h).symm
  · cases h

theorem maxInstant_le_maxDuration : maxInstant ≤ maxDuration := by
  unfold maxInstant maxDuration
  apply Nat.sub_le_sub_right
  apply Nat.mul_le_mul_right
  exact Nat.pow_le_pow_right Nat.two_pos (Nat.le_succ 63)

/-- `now.saturating_duration_since(earlier)` is a duration. -/
theorem elapsed_le {now : Nat} (h : now ≤ maxInstant) (earlier : Nat) :
    now - earlier ≤ maxDuration :=
  (Nat.sub_le now earlier).trans (h.trans maxInstant_le_maxDuration)

theorem fromSecs_le (secs : UInt64) : fromSecs secs ≤ maxDuration := by
  apply Nat.le_sub_one_of_lt
  exact Nat.mul_lt_mul_of_pos_right secs.toNat_lt (Nat.succ_pos _)

/-- Whatever `parse_duration` accepts is a duration. -/
theorem parseDuration_le {texts : DurationTexts} {s : String} {nanos : Nat}
    (h : parseDuration texts s = .ok nanos) : nanos ≤ maxDuration := by
  by_cases hwritten : ∃ value unit, Written s (UInt64.toNat value) unit
  · obtain ⟨value, unit, hvalue⟩ := hwritten
    rw [parseDuration_of_written hvalue] at h
    obtain rfl := Except.ok.inj h
    cases unit with
    | millisecond =>
      have hmillis : value.toNat * 1000000 ≤ fromSecs value :=
        Nat.mul_le_mul_left _ (Nat.le_of_ble_eq_true rfl)
      exact hmillis.trans (fromSecs_le value)
    | second => exact fromSecs_le value
    | minute => exact fromSecs_le (value * 60)
    | hour => exact fromSecs_le (value * 3600)
    | day => exact fromSecs_le (value * 86400)
  · have hnone : ∀ value unit, ¬Written s (UInt64.toNat value) unit :=
      fun value unit hvalue => hwritten ⟨value, unit, hvalue⟩
    obtain ⟨error, hrefused, -⟩ := @refused_of_not_written texts s hnone
    rw [h] at hrefused
    cases hrefused

end Datacat.Basics.Instants
