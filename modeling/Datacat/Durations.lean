import Datacat.Basics.Durations
import Datacat.Companion.Config
import Datacat.Settings

/-!
# Exactness of the Durations

Both programs read their durations with the same code. A number of minutes, hours or days whose
seconds do not fit in 64 bits is accepted with another value in a release build, and panics in a
debug build; `duration_exact_iff` says that nothing else goes wrong.
-/

namespace Datacat.Durations

open Basics

/-- The value is the product of the number and the unit that the string says. -/
def Denotes (s : String) (nanos : Nat) : Prop :=
  ∃ number unit, Written s number unit ∧ number < 2 ^ 64 ∧ nanos = number * unit.nanos

/-- An error, or the exact product. -/
def ExactOn (texts : DurationTexts) (s : String) : Prop :=
  ∀ nanos, parseDuration texts s = .ok nanos → Denotes s nanos

/-- The seconds of the number that the string says, if it fits in 64 bits, fit too. -/
def SecondsFit (s : String) : Prop :=
  ∀ number unit, Written s number unit → number < 2 ^ 64 →
    number * unit.factor.toNat < 2 ^ 64

section OneCopy

variable {texts : DurationTexts} {s : String}

theorem exactOn_iff_of_written {value : UInt64} {unit : DurationUnit}
    (h : Written s value.toNat unit) :
    ExactOn texts s ↔ value.toNat * unit.factor.toNat < 2 ^ 64 := by
  rw [← unit.computed_eq_iff]
  constructor
  · intro hexact
    obtain ⟨number, unit', hwritten, -, hproduct⟩ := hexact _ (parseDuration_of_written h)
    obtain ⟨rfl, rfl⟩ := hwritten.unique h
    exact hproduct
  · intro hproduct nanos hparse
    rw [parseDuration_of_written h] at hparse
    exact ⟨value.toNat, unit, h, value.toNat_lt, (Except.ok.inj hparse).symm.trans hproduct⟩

theorem secondsFit_iff_of_written {value : UInt64} {unit : DurationUnit}
    (h : Written s value.toNat unit) :
    SecondsFit s ↔ value.toNat * unit.factor.toNat < 2 ^ 64 := by
  constructor
  · exact fun hfit => hfit _ _ h value.toNat_lt
  · intro hproduct number unit' hwritten _
    obtain ⟨rfl, rfl⟩ := hwritten.unique h
    exact hproduct

theorem exactOn_iff : ExactOn texts s ↔ SecondsFit s := by
  by_cases hwritten : ∃ value unit, Written s (UInt64.toNat value) unit
  · obtain ⟨value, unit, h⟩ := hwritten
    rw [exactOn_iff_of_written h, secondsFit_iff_of_written h]
  · have hnone : ∀ value unit, ¬Written s (UInt64.toNat value) unit :=
      fun value unit h => hwritten ⟨value, unit, h⟩
    refine iff_of_true ?_ ?_
    · obtain ⟨error, hparse, -⟩ := @refused_of_not_written texts s hnone
      intro nanos hok
      rw [hparse] at hok
      cases hok
    · intro number unit h hlt
      have hnumber : (UInt64.ofNat number).toNat = number := UInt64.toNat_ofNat_of_lt' hlt
      exact absurd (hnumber.symm ▸ h) (hnone (UInt64.ofNat number) unit)

/-- A debug build panics exactly where a release build goes wrong. -/
theorem debugDuration_ne_none_iff : debugDuration texts s ≠ none ↔ ExactOn texts s := by
  by_cases hwritten : ∃ value unit, Written s (UInt64.toNat value) unit
  · obtain ⟨value, unit, h⟩ := hwritten
    rw [exactOn_iff_of_written h, debugDuration_of_written h]
    split
    · exact iff_of_true (Option.some_ne_none _) ‹_›
    · exact iff_of_false (fun hnone => hnone rfl) ‹_›
  · have hnone : ∀ value unit, ¬Written s (UInt64.toNat value) unit :=
      fun value unit h => hwritten ⟨value, unit, h⟩
    obtain ⟨error, hparse, hdebug⟩ := @refused_of_not_written texts s hnone
    rw [hdebug]
    refine iff_of_true (Option.some_ne_none _) ?_
    intro nanos hok
    rw [hparse] at hok
    cases hok

end OneCopy

/-- The two copies accept the same strings, with the same values. -/
theorem copies_agree {first second : DurationTexts} {s : String} {m n : Nat}
    (hfirst : parseDuration first s = .ok m) (hsecond : parseDuration second s = .ok n) :
    m = n := by
  by_cases hwritten : ∃ value unit, Written s (UInt64.toNat value) unit
  · obtain ⟨value, unit, h⟩ := hwritten
    rw [parseDuration_of_written h] at hfirst hsecond
    exact (Except.ok.inj hfirst).symm.trans (Except.ok.inj hsecond)
  · have hnone : ∀ value unit, ¬Written s (UInt64.toNat value) unit :=
      fun value unit h => hwritten ⟨value, unit, h⟩
    obtain ⟨error, hparse, -⟩ := @refused_of_not_written first s hnone
    rw [hparse] at hfirst
    cases hfirst

/-- **Exact durations.** In a release build, both copies give an error or the exact product; and a
debug build does not panic: each holds exactly when the seconds fit. On every string that both
accept, they agree. -/
theorem duration_exact_iff (s : String) :
    (ExactOn Settings.durationTexts s ∧ ExactOn Companion.durationTexts s ↔ SecondsFit s) ∧
    (debugDuration Settings.durationTexts s ≠ none ∧
      debugDuration Companion.durationTexts s ≠ none ↔ SecondsFit s) ∧
    ∀ m n, parseDuration Settings.durationTexts s = .ok m →
      parseDuration Companion.durationTexts s = .ok n → m = n := by
  refine ⟨?_, ?_, fun m n => copies_agree⟩
  · rw [exactOn_iff, exactOn_iff, and_self]
  · rw [debugDuration_ne_none_iff, debugDuration_ne_none_iff, exactOn_iff, exactOn_iff, and_self]

/-- A number of minutes that is 2^64 and 44 seconds: 44 seconds are what is left of it. -/
theorem not_duration_exact :
    parseDuration Settings.durationTexts "307445734561825861m" = .ok (44 * 1000000000) ∧
    ¬ExactOn Settings.durationTexts "307445734561825861m" := by
  have hwritten : Written "307445734561825861m" (UInt64.toNat 307445734561825861) .minute :=
    written_iff.mpr ⟨by decide +kernel, parseU64_eq_some_iff.mp (by decide +kernel)⟩
  refine ⟨parseDuration_of_written hwritten, ?_⟩
  rw [exactOn_iff_of_written hwritten]
  decide

end Datacat.Durations
