/-
  Mosn.Config.ConvertXds
  **DURATIONS FROM XDS** (`pkg/config/convertxds.go`).

  A protobuf duration is a number of seconds and one of nanoseconds of the same
  sign.  `convertDuration` adds the nanoseconds up in a variable of the test
  for overflow, and returns the seconds alone:

      d := time.Duration(p.Seconds) * time.Second
      if p.Nanos != 0 {
          if dur := d + time.Duration(p.Nanos); (dur < 0) != (p.Nanos < 0) { warn }
      }
      return d

    • `converted_exact_iff` — exact for whole seconds only; so are the jitter
      of a health check and the two times of the outlier detection.
-/
import Mathlib.Algebra.Ring.Int.Defs

namespace Mosn.Config

/-- `types.Duration` of protobuf. -/
structure XdsDuration where
  seconds : Int64
  nanos : Int32

/-- `convertDuration`; the flag says whether the warning is logged. -/
def convertDuration : Option XdsDuration → Int64 × Bool
  | none => (0, false)
  | some p =>
    let d := p.seconds * 1000000000
    let dur := d + p.nanos.toInt64
    (d, p.nanos ≠ 0 ∧ (dur < 0) ≠ (p.nanos < 0))

/-- `xdscore.HealthCheck`: the times that are pointers to a `time.Duration`,
the thresholds and the jitter. -/
structure XdsHealthCheck where
  timeout : Option Int64
  healthyThreshold : UInt32
  unhealthyThreshold : UInt32
  interval : Option Int64
  intervalJitter : Option XdsDuration

/-- `v2.HealthCheck`, as far as it is filled. -/
structure HealthCheck where
  timeout : Int64
  healthyThreshold : UInt32
  unhealthyThreshold : UInt32
  interval : Int64
  intervalJitter : Int64

/-- `convertHealthChecks`; `none` is the panic on a missing time. -/
def convertHealthChecks : List (Option XdsHealthCheck) → Option HealthCheck
  | some xds :: _ => do
    let timeout ← xds.timeout
    let interval ← xds.interval
    return ⟨timeout, xds.healthyThreshold, xds.unhealthyThreshold, interval,
      (convertDuration xds.intervalJitter).1⟩
  | _ => some ⟨0, 0, 0, 0, 0⟩

/-- `xdscluster.OutlierDetection`: its two times. -/
structure XdsOutlierDetection where
  interval : Option XdsDuration
  baseEjectionTime : Option XdsDuration

/-- `v2.OutlierDetection`: its two times. -/
structure OutlierDetection where
  interval : Int64
  baseEjectionTime : Int64

/-- `convertOutlierDetection`. -/
def convertOutlierDetection : Option XdsOutlierDetection → OutlierDetection
  | none => ⟨0, 0⟩
  | some xds => ⟨(convertDuration xds.interval).1, (convertDuration xds.baseEjectionTime).1⟩

namespace XdsDuration

/-- The nanoseconds that are meant; no duration is none at all. -/
def value : Option XdsDuration → Int
  | none => 0
  | some p => p.seconds.toInt * 1000000000 + p.nanos.toInt

/-- A well-formed duration that fits into a `time.Duration`. -/
structure Valid (p : Option XdsDuration) : Prop where
  sign : ∀ d ∈ p, 0 ≤ d.seconds.toInt ∧ 0 ≤ d.nanos.toInt ∨ d.seconds.toInt ≤ 0 ∧ d.nanos.toInt ≤ 0
  fits : -9223372036854775808 ≤ value p ∧ value p < 9223372036854775808

/-- Whole seconds. -/
def Whole (p : Option XdsDuration) : Prop := ∀ d ∈ p, d.nanos.toInt = 0

end XdsDuration

open XdsDuration

theorem convertDuration_iff {p : Option XdsDuration} (h : Valid p) :
    (convertDuration p).1.toInt = value p ↔ Whole p := by
  cases p with
  | none => simp [convertDuration, value, Whole]
  | some d =>
    have hsign := h.sign d rfl
    have hfits := h.fits
    simp only [value] at hfits
    -- of the same sign, the seconds alone do not wrap either
    have hseconds : (d.seconds * 1000000000).toInt = d.seconds.toInt * 1000000000 := by
      rw [Int64.toInt_mul]
      show (d.seconds.toInt * 1000000000).bmod (2 ^ 64) = _
      rw [Int.bmod_def]
      omega
    simp only [convertDuration, value, Whole, hseconds, Option.mem_some_iff, forall_eq']
    omega

/-- **The times of a converted cluster**: wherever a duration is configured, it
is kept exactly if it is whole seconds. -/
theorem converted_exact_iff {p : Option XdsDuration} (h : Valid p) :
    ((convertDuration p).1.toInt = value p ↔ Whole p)
    ∧ (∀ xds rest hc, xds.intervalJitter = p → convertHealthChecks (some xds :: rest) = some hc →
      (hc.intervalJitter.toInt = value p ↔ Whole p))
    ∧ (∀ xds, xds.interval = p →
      ((convertOutlierDetection (some xds)).interval.toInt = value p ↔ Whole p))
    ∧ ∀ xds, xds.baseEjectionTime = p →
      ((convertOutlierDetection (some xds)).baseEjectionTime.toInt = value p ↔ Whole p) := by
  have hiff := convertDuration_iff h
  refine ⟨hiff, ?_, ?_, ?_⟩
  · rintro xds rest hc rfl hconvert
    simp only [convertHealthChecks, Option.bind_eq_bind, Option.bind_eq_some_iff] at hconvert
    obtain ⟨timeout, -, interval, -, hhc⟩ := hconvert
    cases hhc
    exact hiff
  · rintro xds rfl
    exact hiff
  · rintro xds rfl
    exact hiff

/-- Minus two seconds. -/
theorem converted_exact_two :
    Valid (some ⟨-2, 0⟩) ∧ (convertDuration (some ⟨-2, 0⟩)).1.toInt = -2000000000 := by
  have hvalid : Valid (some ⟨-2, 0⟩) := ⟨by simp, by decide⟩
  exact ⟨hvalid, (converted_exact_iff hvalid).1.mpr (by simp [Whole])⟩

/-- **Half a second is lost.** -/
theorem half_second_lost :
    Valid (some ⟨1, 500000000⟩) ∧ (convertDuration (some ⟨1, 500000000⟩)).1.toInt = 1000000000
      ∧ value (some ⟨1, 500000000⟩) = 1500000000 := by
  exact ⟨⟨by simp, by decide⟩, by decide, by decide⟩

end Mosn.Config
