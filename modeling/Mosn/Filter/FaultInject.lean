/-
  Mosn.Filter.FaultInject
  **INJECTED DELAYS** (`ParseFaultInjectFilter` in `pkg/config/parser.go`, and
  the two `faultinject.go` of `pkg/filter/stream` and `pkg/filter/network`).

  The configured duration is stored as a number of NANOSECONDS.  The filters
  take that number for MILLISECONDS:

      faultInject.DelayDuration = uint64(duration)                      // parser
      <-time.After(time.Duration(duration) * time.Millisecond)          // filters

    • `delay_exact_iff` — the wait has the configured length only where
      there is none: with percentage 0, or duration 0.
-/
import Mosn.Lib.Strconv
import Mosn.Lib.GoMap

namespace Mosn.Filter

open Mosn.Lib

/-! ## §1. The configuration. -/

/-- A value of the configuration; a number as its conversion to `uint32`. -/
inductive Value where
  | number (asUint32 : UInt32)
  | text (s : GoString)
  | other

/-- `v2.FaultInject`. -/
structure FaultInject where
  delayPercent : UInt32
  delayDuration : UInt64

/-- `strings.Trim(s, "\"")`. -/
def trimQuotes (s : GoString) : GoString :=
  ((s.dropWhile (· == 34)).reverse.dropWhile (· == 34)).reverse

/-- The percentage of a configuration, or what `Fatalln` says. -/
def parsePercent (config : GoMap GoString Value) : Except String UInt32 :=
  match config.lookup (str "delay_percent") with
  | some (.number percent) => .ok percent
  | some _ => .error "[delay_percent] in fault inject filter config is not integer"
  | none => .error "[delay_percent] is required in fault inject filter config"

/-- The duration of a configuration, read by `time.ParseDuration`. -/
def parseDelay (parseDuration : GoString → Except String Int64)
    (config : GoMap GoString Value) : Except String Int64 :=
  match config.lookup (str "delay_duration") with
  | some (.text duration) =>
    match parseDuration (trimQuotes duration) with
    | .ok d => .ok d
    | .error e => .error ("[delay_duration] in fault inject filter config is not valid , " ++ e)
  | some _ =>
    .error "[delay_duration] in fault inject filter config is not a numeric string, like '30s'"
  | none => .error "[delay_duration] is required in fault inject filter config"

/-- `ParseFaultInjectFilter`. -/
def parseFaultInjectFilter (parseDuration : GoString → Except String Int64)
    (config : GoMap GoString Value) : Except String FaultInject := do
  let percent ← parsePercent config
  let duration ← parseDelay parseDuration config
  return ⟨percent, duration.toUInt64⟩

/-! ## §2. The filters. -/

/-- `faultInjectFilter` of a stream and `faultInjector` of a connection, which
have the same fields and the same methods. -/
structure Injector where
  delayPercent : UInt32
  delayDuration : UInt64
  delaying : Bool

/-- `NewFaultInjectFilter`. -/
def newFaultInjectFilter (config : FaultInject) : Injector :=
  ⟨config.delayPercent, config.delayDuration, false⟩

/-- `NewFaultInjector`. -/
def newFaultInjector (config : FaultInject) : Injector :=
  ⟨config.delayPercent, config.delayDuration, false⟩

/-- `getDelayDuration`, when `rand.Intn(100)` gives `draw`. -/
def Injector.getDelayDuration (f : Injector) (draw : Fin 100) : UInt64 :=
  if f.delayPercent = 0 then 0
  else if UInt32.ofNat draw + 1 > f.delayPercent then 0
  else f.delayDuration

/-- `tryInjectDelay`: the filter and what `time.After` is called with.  The
compare-and-swap fails only if another call has begun to delay in between; that
call is then the one that waits. -/
def Injector.tryInjectDelay (f : Injector) (draw : Fin 100) : Injector × Option Int64 :=
  if f.delaying then (f, none)
  else
    let duration := f.getDelayDuration draw
    if duration > 0 then ({ f with delaying := true }, some (duration.toInt64 * 1000000))
    else (f, none)

/-- The nanoseconds that pass before `time.After(d)` sends. -/
def interval (d : Int64) : Int := max 0 d.toInt

/-- Whenever the filter decides to delay, it waits for `d`. -/
def Injector.Exact (f : Injector) (d : Int64) : Prop :=
  ∀ delaying draw wait, ({ f with delaying := delaying }.tryInjectDelay draw).2 = some wait →
    interval wait = d.toInt

/-! ## §3. The length of a delay. -/

/-- **A positive duration is never the one that is waited for**, also where the
product wraps: the factor minus one is odd. -/
theorem interval_scaled_ne (d : Int64) (hd : 0 < d.toInt) : interval (d * 1000000) ≠ d.toInt := by
  intro h
  have hlt := d.toInt_lt
  have hmul : (d * 1000000).toInt = (d.toInt * 1000000).bmod (2 ^ 64) := Int64.toInt_mul d 1000000
  unfold interval at h
  rw [hmul, Int.bmod_def] at h
  omega

theorem Injector.getDelayDuration_zero (f : Injector)
    (h : f.delayPercent = 0 ∨ f.delayDuration = 0) (draw : Fin 100) :
    f.getDelayDuration draw = 0 := by
  unfold getDelayDuration
  grind

theorem Injector.getDelayDuration_first (f : Injector) (h : f.delayPercent ≠ 0) :
    f.getDelayDuration 0 = f.delayDuration := by
  unfold getDelayDuration
  rw [if_neg h, if_neg]
  intro hgt
  have hzero : f.delayPercent.toNat < 1 := UInt32.lt_iff_toNat_lt.mp hgt
  exact h (UInt32.toNat_inj.mp (Nat.lt_one_iff.mp hzero))

theorem Injector.exact_iff (f : Injector) {d : Int64} (hd : 0 ≤ d)
    (hduration : f.delayDuration = d.toUInt64) : f.Exact d ↔ f.delayPercent = 0 ∨ d = 0 := by
  have hback : f.delayDuration.toInt64 = d := by rw [hduration, Int64.toInt64_toUInt64]
  constructor
  · intro h
    by_contra hcon
    obtain ⟨hpercent, hzero⟩ := not_or.mp hcon
    have hpos : f.delayDuration > 0 := by
      apply UInt64.pos_iff_ne_zero.mpr
      intro hnone
      rw [hnone] at hback
      exact hzero hback.symm
    have hstarted : ({ f with delaying := false }.tryInjectDelay 0).2 = some (d * 1000000) := by
      have hfirst := getDelayDuration_first { f with delaying := false } hpercent
      simp only [tryInjectDelay, Bool.false_eq_true, if_false, hfirst, if_pos hpos, hback]
    have hlt : 0 < d := by grind
    exact interval_scaled_ne d (Int64.lt_iff_toInt_lt.mp hlt) (h false 0 _ hstarted)
  · intro h delaying draw wait hwait
    have hnone : f.delayPercent = 0 ∨ f.delayDuration = 0 := by
      rcases h with h | h
      · exact Or.inl h
      · rw [h] at hduration
        exact Or.inr hduration
    unfold tryInjectDelay at hwait
    rw [getDelayDuration_zero { f with delaying := delaying } hnone draw] at hwait
    grind

/-- **When injected delays have the configured length.** -/
theorem delay_exact_iff (parseDuration : GoString → Except String Int64)
    (config : GoMap GoString Value) (percent : UInt32) (d : Int64)
    (hpercent : parsePercent config = .ok percent)
    (hdelay : parseDelay parseDuration config = .ok d) (hd : 0 ≤ d) :
    ∃ fi, parseFaultInjectFilter parseDuration config = .ok fi
      ∧ ∀ f ∈ [newFaultInjectFilter fi, newFaultInjector fi],
        (f.Exact d ↔ percent = 0 ∨ d = 0) := by
  refine ⟨⟨percent, d.toUInt64⟩, ?_, ?_⟩
  · unfold parseFaultInjectFilter
    rw [hpercent, hdelay]
    rfl
  · intro f hf
    -- the two filters are built alike
    have hf : f = ⟨percent, d.toUInt64, false⟩ := by
      simpa [newFaultInjectFilter, newFaultInjector] using hf
    rw [hf]
    exact Injector.exact_iff _ hd rfl

/-- A delay of one second for some of the requests. -/
def oneSecond (percent : UInt32) : GoMap GoString Value :=
  GoMap.insertAll ∅
    [(str "delay_percent", .number percent), (str "delay_duration", .text (str "1s"))]

/-- `time.ParseDuration` of that text. -/
def readSecond (s : GoString) : Except String Int64 :=
  if s = str "1s" then .ok 1000000000 else .error "time: invalid duration"

/-- No requests are delayed. -/
theorem delay_exact_none : ∃ fi, parseFaultInjectFilter readSecond (oneSecond 0) = .ok fi
    ∧ ∀ f ∈ [newFaultInjectFilter fi, newFaultInjector fi], f.Exact 1000000000 := by
  obtain ⟨fi, hfi, hexact⟩ :=
    delay_exact_iff readSecond (oneSecond 0) 0 1000000000 (by rfl) (by rfl) (by decide)
  exact ⟨fi, hfi, fun f hf => (hexact f hf).mpr (.inl rfl)⟩

/-- **A second becomes eleven days.** -/
theorem second_delays_days : ∃ fi, parseFaultInjectFilter readSecond (oneSecond 100) = .ok fi
    ∧ ((newFaultInjectFilter fi).tryInjectDelay 0).2 = some 1000000000000000
    ∧ interval 1000000000000000 ≠ (1000000000 : Int64).toInt :=
  ⟨⟨100, 1000000000⟩, by rfl, by decide +kernel, by decide +kernel⟩

end Mosn.Filter
