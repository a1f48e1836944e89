/-
  Mosn.HealthCheck.Session
  **THE RESULTS OF A HEALTH-CHECK SESSION** (`healthCheckSession` of
  `pkg/upstream/healthcheck/healthchecker.go`).

  A session counts successes while its host has the flag `FAILED_ACTIVE_HC`
  and failures while it has not.  It keeps TWO counters, each set back in the
  handler of the other result only, and compares them for EQUALITY with the
  configured threshold.  What it should compute needs one counter:

      flag      success                      failure
      clear     streak := 0                  streak + 1, set the flag at U
      set       streak + 1, clear it at H    streak := 0

  No counter is set back at a transition.  It does not have to be: the result
  that makes one counter run sets the other back to 0.

    • `hysteresis` — the flag and the callbacks follow the automaton for
      every sequence of results.

  The timers, which both handlers of a result also serve, are in
  `Mosn.HealthCheck.Timer`.
-/
import Mosn.Upstream.HostHealth

namespace Mosn.HealthCheck

open Mosn.Upstream

/-! ## §1. The session. -/

/-- `types.FailureType`. -/
inductive FailureType where
  | network
  | passive
  | active
  deriving Repr, DecidableEq

/-- `healthCheckStats`: the counters and the gauge that are updated. -/
structure HealthCheckStats where
  attempt : Nat := 0
  success : Nat := 0
  failure : Nat := 0
  passiveFailure : Nat := 0
  networkFailure : Nat := 0
  healthy : Int64 := 0

/-- `healthChecker`, as far as a session uses it; `κ` are the callbacks. -/
structure HealthChecker (κ : Type) where
  healthCheckCbs : List κ
  localProcessHealthy : UInt64
  healthyThreshold : UInt32
  unhealthyThreshold : UInt32
  stats : HealthCheckStats

namespace HealthChecker

variable {κ : Type}

def refreshHealthyStat (c : HealthChecker κ) : HealthChecker κ :=
  { c with stats := { c.stats with healthy := c.localProcessHealthy.toInt64 } }

def decHealthy (c : HealthChecker κ) : HealthChecker κ :=
  { c with localProcessHealthy := c.localProcessHealthy - 1 }.refreshHealthyStat

def incHealthy (c : HealthChecker κ) : HealthChecker κ :=
  { c with localProcessHealthy := c.localProcessHealthy + 1 }.refreshHealthyStat

end HealthChecker

/-- `healthCheckSession`, with the checker it belongs to, the flags of its
host, and the calls of the callbacks so far. -/
structure HealthCheckSession (κ : Type) where
  healthChecker : HealthChecker κ
  numHealthy : UInt32
  numUnHealthy : UInt32
  healthFlags : UInt64
  calls : List (κ × Bool)

/-- `newHealthCheckSession`. -/
def newHealthCheckSession {κ : Type} (hc : HealthChecker κ) (healthFlags : UInt64) :
    HealthCheckSession κ where
  healthChecker := if containHealthFlag healthFlags .failedActiveHC then hc else hc.decHealthy
  numHealthy := 0
  numUnHealthy := 0
  healthFlags := healthFlags
  calls := []

namespace HealthCheckSession

variable {κ : Type}

/-- The host has the flag `FAILED_ACTIVE_HC`. -/
def failed (s : HealthCheckSession κ) : Bool := containHealthFlag s.healthFlags .failedActiveHC

/-- `runCallbacks`. -/
def runCallbacks (s : HealthCheckSession κ) (changed : Bool) : HealthCheckSession κ :=
  { s with
    healthChecker := s.healthChecker.refreshHealthyStat
    calls := s.calls ++ s.healthChecker.healthCheckCbs.map (·, changed) }

/-- `handleSuccess`, up to the timers. -/
def handleSuccess (s : HealthCheckSession κ) : HealthCheckSession κ :=
  let s := { s with numUnHealthy := 0 }
  let r : HealthCheckSession κ × Bool :=
    if s.failed then
      let s := { s with numHealthy := s.numHealthy + 1 }
      if s.numHealthy = s.healthChecker.healthyThreshold then
        ({ s with
            healthFlags := clearHealthFlag s.healthFlags .failedActiveHC
            healthChecker := s.healthChecker.incHealthy }, true)
      else (s, false)
    else (s, false)
  let stats := r.1.healthChecker.stats
  { r.1 with
    healthChecker.stats := { stats with success := stats.success + 1 } }.runCallbacks r.2

/-- `SetUnhealthy`. -/
def setUnhealthy (s : HealthCheckSession κ) (fType : FailureType) : HealthCheckSession κ :=
  let s := { s with numHealthy := 0 }
  let r : HealthCheckSession κ × Bool :=
    if s.failed then (s, false)
    else
      let s := { s with numUnHealthy := s.numUnHealthy + 1 }
      if s.numUnHealthy = s.healthChecker.unhealthyThreshold then
        ({ s with
            healthFlags := setHealthFlag s.healthFlags .failedActiveHC
            healthChecker := s.healthChecker.decHealthy }, true)
      else (s, false)
  let stats := r.1.healthChecker.stats
  let stats := { stats with failure := stats.failure + 1 }
  let stats := match fType with
    | .network => { stats with networkFailure := stats.networkFailure + 1 }
    | .passive => { stats with passiveFailure := stats.passiveFailure + 1 }
    | .active => stats
  { r.1 with healthChecker.stats := stats }.runCallbacks r.2

end HealthCheckSession

/-- The result of one check. -/
inductive CheckResult where
  | success
  | failure (fType : FailureType)
  deriving Repr, DecidableEq

/-- The handler of a result. -/
def HealthCheckSession.onResult {κ : Type} (s : HealthCheckSession κ) :
    CheckResult → HealthCheckSession κ
  | .success => s.handleSuccess
  | .failure fType => s.setUnhealthy fType

/-- The results of a session, in order. -/
def HealthCheckSession.onResults {κ : Type} (s : HealthCheckSession κ)
    (results : List CheckResult) : HealthCheckSession κ :=
  results.foldl onResult s

/-! ## §2. The automaton. -/

/-- The flag, and how many results in a row have spoken against it. -/
structure Reference where
  failed : Bool
  streak : Nat
  deriving Repr, DecidableEq

namespace Reference

/-- The streak is long enough: `H` successes while the flag is set, `U`
failures while it is clear. -/
def threshold (H U : Nat) (r : Reference) : Nat := if r.failed then H else U

/-- The result speaks against the flag: a success while it is set, a failure
while it is clear. -/
def Against (r : Reference) : CheckResult → Bool
  | .success => r.failed
  | .failure _ => !r.failed

/-- The result is the last one of a long enough streak. -/
def changes (H U : Nat) (r : Reference) (result : CheckResult) : Bool :=
  r.Against result && r.streak + 1 == r.threshold H U

def next (H U : Nat) (r : Reference) (result : CheckResult) : Reference :=
  if r.changes H U result then ⟨!r.failed, 0⟩
  else if r.Against result then ⟨r.failed, r.streak + 1⟩
  else ⟨r.failed, 0⟩

/-- The flag after all results. -/
def run (H U : Nat) (r : Reference) (results : List CheckResult) : Reference :=
  results.foldl (next H U) r

/-- For each result, whether the flag changes with it. -/
def transitions (H U : Nat) : Reference → List CheckResult → List Bool
  | _, [] => []
  | r, result :: results => r.changes H U result :: transitions H U (r.next H U result) results

end Reference

/-! ## §3. The flag as a bit. -/

theorem containHealthFlag_clear (healthFlags : UInt64) (flag : HealthFlag) :
    containHealthFlag (clearHealthFlag healthFlags flag) flag = false := by
  apply decide_eq_false
  unfold clearHealthFlag
  rw [UInt64.and_assoc, UInt64.not_and_self, UInt64.and_zero]
  exact UInt64.lt_irrefl 0

theorem containHealthFlag_set (healthFlags : UInt64) (flag : HealthFlag) :
    containHealthFlag (setHealthFlag healthFlags flag) flag = true := by
  have hself : (healthFlags ||| flag.mask) &&& flag.mask = flag.mask := by
    apply UInt64.toBitVec_inj.mp
    ext i
    simp only [UInt64.toBitVec_and, UInt64.toBitVec_or, BitVec.getElem_and, BitVec.getElem_or]
    cases healthFlags.toBitVec[i] <;> cases flag.mask.toBitVec[i] <;> rfl
  apply decide_eq_true
  unfold setHealthFlag
  rw [hself]
  cases flag with
  | failedActiveHC => decide
  | failedOutlierCheck => decide

/-! ## §4. One result. -/

namespace HealthCheckSession

variable {κ : Type}

/-- The thresholds, as numbers. -/
def successesNeeded (s : HealthCheckSession κ) : Nat := s.healthChecker.healthyThreshold.toNat

def failuresNeeded (s : HealthCheckSession κ) : Nat := s.healthChecker.unhealthyThreshold.toNat

/-- Both thresholds are at least 1. -/
def Positive (s : HealthCheckSession κ) : Prop :=
  1 ≤ s.healthChecker.healthyThreshold ∧ 1 ≤ s.healthChecker.unhealthyThreshold

/-- What no handler changes of the checker. -/
structure SameSettings (s s' : HealthCheckSession κ) : Prop where
  healthCheckCbs_eq : s'.healthChecker.healthCheckCbs = s.healthChecker.healthCheckCbs
  healthyThreshold_eq : s'.healthChecker.healthyThreshold = s.healthChecker.healthyThreshold
  unhealthyThreshold_eq :
    s'.healthChecker.unhealthyThreshold = s.healthChecker.unhealthyThreshold

namespace SameSettings

variable {s s' : HealthCheckSession κ}

theorem successesNeeded_eq (h : s.SameSettings s') : s'.successesNeeded = s.successesNeeded :=
  congrArg UInt32.toNat h.healthyThreshold_eq

theorem failuresNeeded_eq (h : s.SameSettings s') : s'.failuresNeeded = s.failuresNeeded :=
  congrArg UInt32.toNat h.unhealthyThreshold_eq

theorem positive (h : s.SameSettings s') (hpos : s.Positive) : s'.Positive := by
  unfold Positive
  rw [h.healthyThreshold_eq, h.unhealthyThreshold_eq]
  exact hpos

end SameSettings

theorem onResult_sameSettings (s : HealthCheckSession κ) (result : CheckResult) :
    s.SameSettings (s.onResult result) := by
  cases result with
  | success =>
    simp only [onResult, handleSuccess]
    split_ifs <;> exact ⟨rfl, rfl, rfl⟩
  | failure fType =>
    simp only [onResult, setUnhealthy]
    split_ifs <;> exact ⟨rfl, rfl, rfl⟩

/-- The counter that runs while the flag is `failed`. -/
def running (s : HealthCheckSession κ) (failed : Bool) : UInt32 :=
  if failed then s.numHealthy else s.numUnHealthy

/-- The session after a handler: its flag, the counter that runs now, and what
the callbacks were told. -/
structure After (s s' : HealthCheckSession κ) (failed : Bool) (count : UInt32)
    (changed : Bool) : Prop where
  failed_eq : s'.failed = failed
  running_eq : s'.running failed = count
  calls_eq : s'.calls = s.calls ++ s.healthChecker.healthCheckCbs.map (·, changed)

variable {s : HealthCheckSession κ}

theorem handleSuccess_clear (h : s.failed = false) : s.After s.handleSuccess false 0 false := by
  have hguard : ({ s with numUnHealthy := 0 } : HealthCheckSession κ).failed = false := h
  unfold handleSuccess
  simp only [hguard]
  exact ⟨h, rfl, rfl⟩

theorem handleSuccess_last (h : s.failed = true)
    (hcount : s.numHealthy + 1 = s.healthChecker.healthyThreshold) :
    s.After s.handleSuccess false 0 true := by
  have hguard : ({ s with numUnHealthy := 0 } : HealthCheckSession κ).failed = true := h
  unfold handleSuccess
  simp only [hguard, if_true, hcount]
  exact ⟨containHealthFlag_clear s.healthFlags .failedActiveHC, rfl, rfl⟩

theorem handleSuccess_more (h : s.failed = true)
    (hcount : s.numHealthy + 1 ≠ s.healthChecker.healthyThreshold) :
    s.After s.handleSuccess true (s.numHealthy + 1) false := by
  have hguard : ({ s with numUnHealthy := 0 } : HealthCheckSession κ).failed = true := h
  unfold handleSuccess
  simp only [hguard, if_true, hcount, if_false]
  exact ⟨h, rfl, rfl⟩

theorem setUnhealthy_set (h : s.failed = true)
    (fType : FailureType) : s.After (s.setUnhealthy fType) true 0 false := by
  have hguard : ({ s with numHealthy := 0 } : HealthCheckSession κ).failed = true := h
  unfold setUnhealthy
  simp only [hguard, if_true]
  exact ⟨h, rfl, rfl⟩

theorem setUnhealthy_last (h : s.failed = false)
    (hcount : s.numUnHealthy + 1 = s.healthChecker.unhealthyThreshold)
    (fType : FailureType) : s.After (s.setUnhealthy fType) true 0 true := by
  have hguard : ({ s with numHealthy := 0 } : HealthCheckSession κ).failed = false := h
  unfold setUnhealthy
  simp only [hguard, hcount, if_true]
  exact ⟨containHealthFlag_set s.healthFlags .failedActiveHC, rfl, rfl⟩

theorem setUnhealthy_more (h : s.failed = false)
    (hcount : s.numUnHealthy + 1 ≠ s.healthChecker.unhealthyThreshold) (fType : FailureType) :
    s.After (s.setUnhealthy fType) false (s.numUnHealthy + 1) false := by
  have hguard : ({ s with numHealthy := 0 } : HealthCheckSession κ).failed = false := h
  unfold setUnhealthy
  simp only [hguard, hcount, if_false]
  exact ⟨h, rfl, rfl⟩

end HealthCheckSession

/-! ## §5. The simulation. -/

namespace Reference

theorem counter_succ {count threshold : UInt32} (h : count.toNat < threshold.toNat) :
    (count + 1).toNat = count.toNat + 1 ∧
      (count + 1 = threshold ↔ count.toNat + 1 = threshold.toNat) := by
  have hbound : threshold.toNat < 2 ^ 32 := threshold.toNat_lt
  have hsucc : (count + 1).toNat = count.toNat + 1 := by
    rw [UInt32.toNat_add]
    exact Nat.mod_eq_of_lt (by change count.toNat + 1 < 2 ^ 32; omega)
  refine ⟨hsucc, ?_⟩
  rw [← UInt32.toNat_inj, hsucc]

/-- The session and the automaton agree on the flag, the counter that runs is
the streak, and the streak is below its threshold. -/
structure Simulates {κ : Type} (s : HealthCheckSession κ) (r : Reference) : Prop where
  failed_eq : s.failed = r.failed
  running_eq : (s.running r.failed).toNat = r.streak
  below : r.streak < r.threshold s.successesNeeded s.failuresNeeded

section

variable {κ : Type} {s s' : HealthCheckSession κ} {r : Reference} {result : CheckResult}

/-- `s'` is what the automaton makes of `s` and the result: the next state, with
the callbacks told whether the flag changed. -/
def Agrees (s s' : HealthCheckSession κ) (r : Reference) (result : CheckResult) : Prop :=
  Simulates s' (r.next s.successesNeeded s.failuresNeeded result) ∧
    s'.calls = s.calls ++ s.healthChecker.healthCheckCbs.map
      (·, r.changes s.successesNeeded s.failuresNeeded result)

theorem threshold_pos (hpos : s.Positive) : 0 < r.threshold s.successesNeeded s.failuresNeeded := by
  have hH : 1 ≤ s.successesNeeded := UInt32.le_iff_toNat_le.mp hpos.1
  have hU : 1 ≤ s.failuresNeeded := UInt32.le_iff_toNat_le.mp hpos.2
  unfold threshold
  split <;> omega

theorem simulates_of_after {failed changed : Bool} {count : UInt32}
    (hafter : s.After s' failed count changed) (hsame : s.SameSettings s')
    (hbelow : count.toNat < (⟨failed, count.toNat⟩ : Reference).threshold
      s.successesNeeded s.failuresNeeded) :
    Simulates s' ⟨failed, count.toNat⟩ := by
  refine ⟨hafter.failed_eq, congrArg UInt32.toNat hafter.running_eq, ?_⟩
  rw [hsame.successesNeeded_eq, hsame.failuresNeeded_eq]
  exact hbelow

theorem agrees_confirmed (hpos : s.Positive) (hsame : s.SameSettings s')
    (hagainst : r.Against result = false) (hafter : s.After s' r.failed 0 false) :
    Agrees s s' r result := by
  have hchanges : r.changes s.successesNeeded s.failuresNeeded result = false := by
    simp [changes, hagainst]
  unfold Agrees
  simp only [next, hchanges, hagainst]
  exact ⟨simulates_of_after hafter hsame (threshold_pos hpos), hafter.calls_eq⟩

theorem agrees_last (hpos : s.Positive) (hsame : s.SameSettings s')
    (hagainst : r.Against result = true)
    (hlast : r.streak + 1 = r.threshold s.successesNeeded s.failuresNeeded)
    (hafter : s.After s' (!r.failed) 0 true) : Agrees s s' r result := by
  have hchanges : r.changes s.successesNeeded s.failuresNeeded result = true := by
    simp [changes, hagainst, hlast]
  unfold Agrees
  simp only [next, hchanges, if_true]
  exact ⟨simulates_of_after hafter hsame (threshold_pos hpos), hafter.calls_eq⟩

theorem agrees_more {count : UInt32} (hsame : s.SameSettings s') (h : Simulates s r)
    (hagainst : r.Against result = true)
    (hmore : r.streak + 1 ≠ r.threshold s.successesNeeded s.failuresNeeded)
    (hcount : count.toNat = r.streak + 1) (hafter : s.After s' r.failed count false) :
    Agrees s s' r result := by
  have hchanges : r.changes s.successesNeeded s.failuresNeeded result = false := by
    simp [changes, hmore]
  have hbelow : r.streak + 1 < r.threshold s.successesNeeded s.failuresNeeded := by
    have := h.below
    omega
  unfold Agrees
  simp only [next, hchanges, hagainst, if_true, if_false, Bool.false_eq_true, ← hcount]
  refine ⟨simulates_of_after hafter hsame ?_, hafter.calls_eq⟩
  rw [hcount]
  exact hbelow

/-- **The step.**  One result keeps the simulation. -/
theorem Simulates.onResult (h : Simulates s r) (hpos : s.Positive) (result : CheckResult) :
    Agrees s (s.onResult result) r result := by
  have hsame := s.onResult_sameSettings result
  obtain ⟨failed, streak⟩ := r
  have hfailed : s.failed = failed := h.failed_eq
  -- The flag and the result decide which counter the handler looks at.
  cases failed with
  | false =>
    have hcount : s.numUnHealthy.toNat = streak := h.running_eq
    have hlt : streak < s.failuresNeeded := h.below
    obtain ⟨hsucc, hlast⟩ := counter_succ (hcount.trans_lt hlt)
    rw [hcount] at hsucc hlast
    cases result with
    | success =>
      exact agrees_confirmed hpos hsame rfl (HealthCheckSession.handleSuccess_clear hfailed)
    | failure fType =>
      by_cases hthr : s.numUnHealthy + 1 = s.healthChecker.unhealthyThreshold
      · exact agrees_last hpos hsame rfl (hlast.mp hthr)
          (HealthCheckSession.setUnhealthy_last hfailed hthr fType)
      · exact agrees_more hsame h rfl (fun heq => hthr (hlast.mpr heq)) hsucc
          (HealthCheckSession.setUnhealthy_more hfailed hthr fType)
  | true =>
    have hcount : s.numHealthy.toNat = streak := h.running_eq
    have hlt : streak < s.successesNeeded := h.below
    obtain ⟨hsucc, hlast⟩ := counter_succ (hcount.trans_lt hlt)
    rw [hcount] at hsucc hlast
    cases result with
    | success =>
      by_cases hthr : s.numHealthy + 1 = s.healthChecker.healthyThreshold
      · exact agrees_last hpos hsame rfl (hlast.mp hthr)
          (HealthCheckSession.handleSuccess_last hfailed hthr)
      · exact agrees_more hsame h rfl (fun heq => hthr (hlast.mpr heq)) hsucc
          (HealthCheckSession.handleSuccess_more hfailed hthr)
    | failure fType =>
      exact agrees_confirmed hpos hsame rfl
        (HealthCheckSession.setUnhealthy_set hfailed fType)

/-- **The run**, from any session that simulates a state of the automaton. -/
theorem Simulates.onResults (results : List CheckResult) :
    ∀ {s : HealthCheckSession κ} {r : Reference}, Simulates s r → s.Positive →
      (s.onResults results).failed
          = (r.run s.successesNeeded s.failuresNeeded results).failed ∧
        (s.onResults results).calls
          = s.calls ++ (r.transitions s.successesNeeded s.failuresNeeded results).flatMap
              fun changed => s.healthChecker.healthCheckCbs.map (·, changed) := by
  -- Induction on the results: the settings, which both sides read, stay the same.
  induction results with
  | nil =>
    intro s r h _
    exact ⟨h.failed_eq, (List.append_nil s.calls).symm⟩
  | cons result results ih =>
    intro s r h hpos
    have hsame := s.onResult_sameSettings result
    obtain ⟨hnext, hcalls⟩ := h.onResult hpos result
    obtain ⟨hflag, hrest⟩ := ih hnext (hsame.positive hpos)
    rw [hsame.successesNeeded_eq, hsame.failuresNeeded_eq] at hflag hrest
    refine ⟨hflag, ?_⟩
    rw [hcalls, hsame.healthCheckCbs_eq, List.append_assoc] at hrest
    exact hrest

end

end Reference

/-- **Hysteresis.**  With thresholds of at least 1, from any flags of the host
and after every sequence of results, the flag is the automaton's, and each
callback was called once for every result, with `changed` exactly where the
automaton turned its flag. -/
theorem hysteresis {κ : Type} (hc : HealthChecker κ) (healthFlags : UInt64)
    (results : List CheckResult) (hH : 1 ≤ hc.healthyThreshold) (hU : 1 ≤ hc.unhealthyThreshold) :
    let s := (newHealthCheckSession hc healthFlags).onResults results
    let start : Reference := ⟨containHealthFlag healthFlags .failedActiveHC, 0⟩
    let H := hc.healthyThreshold.toNat
    let U := hc.unhealthyThreshold.toNat
    s.failed = (start.run H U results).failed ∧
      s.calls = (start.transitions H U results).flatMap
        fun changed => hc.healthCheckCbs.map (·, changed) := by
  intro s start H U
  have hsettings : (newHealthCheckSession hc healthFlags).healthChecker.healthCheckCbs
        = hc.healthCheckCbs ∧
      (newHealthCheckSession hc healthFlags).healthChecker.healthyThreshold
        = hc.healthyThreshold ∧
      (newHealthCheckSession hc healthFlags).healthChecker.unhealthyThreshold
        = hc.unhealthyThreshold := by
    unfold newHealthCheckSession
    split_ifs <;> exact ⟨rfl, rfl, rfl⟩
  obtain ⟨hcbs, hhealthy, hunhealthy⟩ := hsettings
  have hpos : (newHealthCheckSession hc healthFlags).Positive := by
    unfold HealthCheckSession.Positive
    rw [hhealthy, hunhealthy]
    exact ⟨hH, hU⟩
  have hstart : Reference.Simulates (newHealthCheckSession hc healthFlags) start := by
    refine ⟨rfl, ?_, Reference.threshold_pos hpos⟩
    unfold HealthCheckSession.running
    split_ifs <;> rfl
  have hrun := hstart.onResults results hpos
  unfold HealthCheckSession.successesNeeded HealthCheckSession.failuresNeeded at hrun
  rw [hcbs, hhealthy, hunhealthy] at hrun
  exact hrun

/-- With thresholds 2 and 3 and one callback, three failures set the flag of a
healthy host; a success, a failure and two successes later it is cleared. -/
theorem hysteresis_two_three : let hc : HealthChecker Unit := ⟨[()], 0, 2, 3, {}⟩
    let results : List CheckResult :=
      [.failure .network, .failure .active, .failure .network, .success, .failure .passive,
        .success, .success]
    let s := (newHealthCheckSession hc 0).onResults results
    s.failed = false ∧
      s.calls = [false, false, true, false, false, false, true].map ((), ·) :=
  hysteresis ⟨[()], 0, 2, 3, {}⟩ 0
    [.failure .network, .failure .active, .failure .network, .success, .failure .passive,
      .success, .success] (by decide) (by decide)

/-- How often the flag turns in the course of some results. -/
def HealthCheckSession.flips {κ : Type} (s : HealthCheckSession κ) : List CheckResult → Nat
  | [] => 0
  | result :: results =>
    (if (s.onResult result).failed = s.failed then 0 else 1) + (s.onResult result).flips results

/-- **The flag does not flap**: with thresholds of at least `k` it turns at most
once in `k` results, those that have already spoken against it included. -/
theorem flips_bounded {κ : Type} {k : Nat} (results : List CheckResult) :
    ∀ {s : HealthCheckSession κ} {r : Reference}, Reference.Simulates s r → s.Positive →
      k ≤ s.successesNeeded → k ≤ s.failuresNeeded →
      k * s.flips results ≤ r.streak + results.length := by
  induction results with
  | nil => exact fun _ _ _ _ => Nat.zero_le _
  | cons result results ih =>
    intro s r h hpos hH hU
    have hsame := s.onResult_sameSettings result
    obtain ⟨hnext, -⟩ := h.onResult hpos result
    have hrest := ih hnext (hsame.positive hpos) (hsame.successesNeeded_eq ▸ hH)
      (hsame.failuresNeeded_eq ▸ hU)
    rw [HealthCheckSession.flips, hnext.failed_eq, h.failed_eq, Nat.mul_add, List.length_cons]
    unfold Reference.next at hrest ⊢
    cases hchanges : r.changes s.successesNeeded s.failuresNeeded result with
    | true =>
      -- a whole streak is used up
      have hfull := beq_iff_eq.mp (Bool.and_eq_true_iff.mp hchanges).2
      unfold Reference.threshold at hfull
      simp only [hchanges, if_true, Bool.not_eq_self, if_false] at hrest ⊢
      split at hfull <;> omega
    | false =>
      simp only [hchanges, Bool.false_eq_true, if_false] at hrest ⊢
      cases hagainst : r.Against result <;> simp [hagainst] at hrest ⊢ <;> omega

theorem flips_bounded_two_three :
    let s := newHealthCheckSession (⟨[()], 0, 2, 3, {}⟩ : HealthChecker Unit) 0
    2 * s.flips [.failure .network, .failure .active, .failure .network, .success, .success] ≤ 5 :=
  flips_bounded _ (r := ⟨false, 0⟩) ⟨rfl, rfl, by decide⟩ ⟨by decide, by decide⟩ (by decide)
    (by decide)

end Mosn.HealthCheck
