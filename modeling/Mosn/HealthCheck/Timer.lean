/-
  Mosn.HealthCheck.Timer
  **THE REUSABLE TIMER** of `pkg/upstream/healthcheck/util.go`.

  `start` and `stop` are called from many goroutines.  Each of their accesses
  to the shared fields is one operation here, so that those of other
  goroutines come between:

      start:  CAS started 0→1  ·  reset the inner timer  ·  go round
      round:  select { tick → callback | token → }  ·  stop the inner timer
              ·  started = 0  ·  stopped = 0
      stop:   CAS stopped 0→1  ·  send a token

  The channel holds one token.  A token that no round takes stays in it: the
  NEXT round takes it, however long it was to wait.  And `started` is still 1
  while the callback runs, so that a `start` from the callback returns at the
  CAS.
-/
import Mosn.Lib.Threads
import Mathlib.Data.Multiset.Count

namespace Mosn.HealthCheck

open Mosn.Lib

/-- `time.Timer`: it runs, or its channel holds a tick. -/
structure InnerTimer where
  running : Bool
  tick : Bool
  deriving Repr, DecidableEq

/-- `timer`; `stopChan` holds a token or not. -/
structure Timer where
  innerTimer : Option InnerTimer
  stopped : Bool
  started : Bool
  stopChan : Bool
  deriving Repr, DecidableEq

/-- `newTimer`. -/
def newTimer : Timer := ⟨none, false, false, false⟩

namespace Timer

/-- `time.NewTimer`, or `Reset`, which leaves a tick in the channel. -/
def reset (x : Timer) : Timer :=
  { x with innerTimer := some ⟨true, (x.innerTimer.map InnerTimer.tick).getD false⟩ }

/-- The inner timer runs. -/
def running (x : Timer) : Bool := x.innerTimer.any InnerTimer.running

/-- The duration of the inner timer is over. -/
def expire (x : Timer) : Timer :=
  { x with innerTimer := x.innerTimer.map fun _ => ⟨false, true⟩ }

/-- The inner timer runs or has left a tick: a `select` on it ends. -/
def live (x : Timer) : Bool := x.innerTimer.any fun inner => inner.running || inner.tick

end Timer

/-- Why an operation is not executed: it waits, or the process is over. -/
inductive Halt where
  | blocked
  | panic
  deriving Repr, DecidableEq

/-- The operations of `start`, of the goroutine it starts, and of `stop`. -/
inductive TimerOp where
  | start
  | reset
  | spawn
  | select
  | innerStop
  | clearStarted
  | clearStopped
  | stop
  | sendStop
  deriving Repr, DecidableEq

/-- Between the CAS of `started` and its reset. -/
def TimerOp.holds : TimerOp → Bool
  | .reset | .spawn | .select | .innerStop | .clearStarted => true
  | .start | .clearStopped | .stop | .sendStop => false

/-- Before the `select` is over. -/
def TimerOp.waits : TimerOp → Bool
  | .reset | .spawn | .select => true
  | .start | .innerStop | .clearStarted | .clearStopped | .stop | .sendStop => false

namespace Timer

variable {ω : Type}

/-- One operation.  `select` takes the tick when `preferTick` says so and when
there is no token. -/
def exec (preferTick : Bool) (callback : List ω) (on : TimerOp → ω) (x : Timer) :
    TimerOp → Except Halt (Effect Timer ω)
  | .start =>
    if x.started then .ok { shared := x }
    else .ok { shared := { x with started := true }, calls := [on .reset] }
  | .reset => .ok { shared := x.reset, calls := [on .spawn] }
  | .spawn => .ok { shared := x, spawned := [[on .select]] }
  | .select =>
    match x.innerTimer with
    | none => .error .panic
    | some inner =>
      if inner.tick ∧ (preferTick ∨ x.stopChan = false) then
        .ok { shared := { x with innerTimer := some { inner with tick := false } },
              calls := callback ++ [on .innerStop] }
      else if x.stopChan then
        .ok { shared := { x with stopChan := false }, calls := [on .innerStop] }
      else .error .blocked
  | .innerStop =>
    match x.innerTimer with
    | none => .error .panic
    | some inner =>
      .ok { shared := { x with innerTimer := some { inner with running := false } },
            calls := [on .clearStarted] }
  | .clearStarted => .ok { shared := { x with started := false }, calls := [on .clearStopped] }
  | .clearStopped => .ok { shared := { x with stopped := false } }
  | .stop =>
    if x.stopped then .ok { shared := x }
    else .ok { shared := { x with stopped := true }, calls := [on .sendStop] }
  | .sendStop =>
    if x.stopChan then .error .blocked else .ok { shared := { x with stopChan := true } }

/-- What an operation can do: the timer it leaves and the operations that come
in its place, on the same goroutine or a new one. -/
inductive Does (callback : List ω) (on : TimerOp → ω) (x : Timer) :
    TimerOp → Timer → List ω → Prop where
  | startLost : x.started = true → Does callback on x .start x []
  | startTaken : x.started = false →
      Does callback on x .start { x with started := true } [on .reset]
  | reset : Does callback on x .reset x.reset [on .spawn]
  | spawn : Does callback on x .spawn x [on .select]
  | tick {inner : InnerTimer} : x.innerTimer = some inner → inner.tick = true →
      Does callback on x .select { x with innerTimer := some { inner with tick := false } }
        (callback ++ [on .innerStop])
  | token : x.stopChan = true →
      Does callback on x .select { x with stopChan := false } [on .innerStop]
  | innerStop {inner : InnerTimer} : x.innerTimer = some inner →
      Does callback on x .innerStop
        { x with innerTimer := some { inner with running := false } } [on .clearStarted]
  | clearStarted : Does callback on x .clearStarted { x with started := false } [on .clearStopped]
  | clearStopped : Does callback on x .clearStopped { x with stopped := false } []
  | stopLost : x.stopped = true → Does callback on x .stop x []
  | stopTaken : x.stopped = false →
      Does callback on x .stop { x with stopped := true } [on .sendStop]
  | sendStop : x.stopChan = false → Does callback on x .sendStop { x with stopChan := true } []

variable {preferTick : Bool} {callback : List ω} {on : TimerOp → ω} {x : Timer} {op : TimerOp}
  {e : Effect Timer ω}

theorem does_of_exec (h : x.exec preferTick callback on op = .ok e) :
    Does callback on x op e.shared (e.calls ++ e.spawned.flatten) := by
  obtain ⟨innerTimer, stopped, started, stopChan⟩ := x
  cases op with
  | start =>
    simp only [exec] at h
    split at h
    case isTrue hstarted =>
      cases h
      exact .startLost hstarted
    case isFalse hstarted =>
      cases h
      exact .startTaken (Bool.eq_false_iff.mpr hstarted)
  | reset =>
    cases h
    exact .reset
  | spawn =>
    cases h
    exact .spawn
  | select =>
    cases innerTimer with
    | none => cases h
    | some inner =>
      simp only [exec] at h
      split_ifs at h with htick htoken
      · cases h
        simpa using Does.tick rfl htick.1
      · cases h
        exact .token htoken
  | innerStop =>
    cases innerTimer with
    | none => cases h
    | some inner =>
      cases h
      exact .innerStop rfl
  | clearStarted =>
    cases h
    exact .clearStarted
  | clearStopped =>
    cases h
    exact .clearStopped
  | stop =>
    simp only [exec] at h
    split at h
    case isTrue hstopped =>
      cases h
      exact .stopLost hstopped
    case isFalse hstopped =>
      cases h
      exact .stopTaken (Bool.eq_false_iff.mpr hstopped)
  | sendStop =>
    simp only [exec] at h
    split at h
    case isTrue => cases h
    case isFalse htoken =>
      cases h
      exact .sendStop (Bool.eq_false_iff.mpr htoken)

theorem spawned_of_exec (h : x.exec preferTick callback on op = .ok e) :
    e.spawned = [] ∨ op = .spawn ∧ e.calls = [] ∧ e.spawned = [[on .select]] := by
  obtain ⟨innerTimer, stopped, started, stopChan⟩ := x
  cases op with
  | spawn =>
    cases h
    exact .inr ⟨rfl, rfl, rfl⟩
  | reset | clearStarted | clearStopped =>
    cases h
    exact .inl rfl
  | start | stop | sendStop =>
    simp only [exec] at h
    split_ifs at h <;> cases h <;> exact .inl rfl
  | select =>
    cases innerTimer with
    | none => cases h
    | some inner =>
      simp only [exec] at h
      split_ifs at h <;> cases h <;> exact .inl rfl
  | innerStop =>
    cases innerTimer <;> cases h
    exact .inl rfl

/-- There is no tick and no token. -/
def Idle (x : Timer) : Prop :=
  (∃ inner, x.innerTimer = some inner ∧ inner.tick = false) ∧ x.stopChan = false

theorem Idle.running (h : x.Idle) (hlive : x.live = true) : x.running = true := by
  obtain ⟨⟨inner, hinner, htick⟩, -⟩ := h
  unfold live at hlive
  unfold Timer.running
  rw [hinner] at hlive ⊢
  simpa [htick] using hlive

theorem blocked_cases (h : x.exec preferTick callback on op = .error .blocked) :
    (op = .select ∧ x.Idle) ∨ (op = .sendStop ∧ x.stopChan = true) := by
  cases op with
  | reset | spawn | clearStarted | clearStopped => cases h
  | start | stop =>
    simp only [exec] at h
    split_ifs at h
  | innerStop =>
    simp only [exec] at h
    split at h <;> cases h
  | select =>
    simp only [exec] at h
    split at h
    case h_1 => cases h
    case h_2 inner hinner =>
      split_ifs at h with htick htoken
      have htoken := Bool.eq_false_iff.mpr htoken
      refine .inl ⟨rfl, ⟨inner, hinner, ?_⟩, htoken⟩
      rw [Bool.eq_false_iff]
      exact fun hready => htick ⟨hready, .inr htoken⟩
  | sendStop =>
    simp only [exec] at h
    split_ifs at h with htoken
    exact .inr ⟨rfl, htoken⟩

/-! ## The goroutines of a timer.

`ops` are all operations still to execute, `on` names those of this timer. -/

section

variable [DecidableEq ω] (on : TimerOp → ω)

/-- How many goroutines are between the CAS of `started` and its reset. -/
def holders (ops : Multiset ω) : Nat :=
  ops.count (on .reset) + ops.count (on .spawn) + ops.count (on .select)
    + ops.count (on .innerStop) + ops.count (on .clearStarted)

/-- At most one goroutine has the timer, and `started` says whether there is
one; it will not wait in vain; and no `stop` will wait to send its token. -/
structure Sound (x : Timer) (ops : Multiset ω) : Prop where
  holders_eq : holders on ops = x.started.toNat
  live : 0 < ops.count (on .spawn) + ops.count (on .select) → x.live = true
  room : ops.count (on .sendStop) + x.stopChan.toNat ≤ 1

/-- A `stop` that does nothing, or whose token has a place. -/
def Room (x : Timer) (ops : Multiset ω) : Prop :=
  x.stopped = true ∨ (x.stopChan = false ∧ on .sendStop ∉ ops)

variable {on} {x x' : Timer} {op : TimerOp} {others : Multiset ω} {callback new : List ω}

theorem sound_newTimer {ops : Multiset ω} (h : ∀ op, on op ∉ ops) : Sound on newTimer ops := by
  have hzero : ∀ op, ops.count (on op) = 0 := fun op => Multiset.count_eq_zero.mpr (h op)
  constructor
  · simp [holders, hzero, newTimer]
  · simp [hzero]
  · simp [hzero, newTimer]

theorem Sound.congr {ops ops' : Multiset ω} (h : Sound on x ops)
    (hcount : ∀ op, op ≠ .start → op ≠ .stop → ops'.count (on op) = ops.count (on op)) :
    Sound on x ops' := by
  have hreset := hcount .reset (by decide) (by decide)
  have hspawn := hcount .spawn (by decide) (by decide)
  have hselect := hcount .select (by decide) (by decide)
  have hinner := hcount .innerStop (by decide) (by decide)
  have hclear := hcount .clearStarted (by decide) (by decide)
  have hsend := hcount .sendStop (by decide) (by decide)
  obtain ⟨hholders, hlive, hroom⟩ := h
  constructor
  · unfold holders at hholders ⊢
    omega
  · rw [hspawn, hselect]
    exact hlive
  · rw [hsend]
    exact hroom

theorem Sound.expire {ops : Multiset ω} (h : Sound on x ops) (hrunning : x.running = true) :
    Sound on x.expire ops := by
  refine ⟨h.holders_eq, fun _ => ?_, h.room⟩
  obtain ⟨innerTimer, stopped, started, stopChan⟩ := x
  cases innerTimer with
  | none => cases hrunning
  | some inner => rfl

theorem holders_cons (hon : Function.Injective on) (a : TimerOp) (ops : Multiset ω) :
    holders on (on a ::ₘ ops) = a.holds.toNat + holders on ops := by
  unfold holders
  simp only [Multiset.count_cons, hon.eq_iff]
  cases a <;> simp [TimerOp.holds] <;> omega

theorem holders_append (l : List ω) (ops : Multiset ω) (h : ∀ op, on op ∉ l) :
    holders on (↑l + ops) = holders on ops := by
  have hzero : ∀ op, l.count (on op) = 0 := fun op => List.count_eq_zero.mpr (h op)
  unfold holders
  simp only [Multiset.count_add, Multiset.coe_count, hzero, Nat.zero_add]

theorem Sound.holders_step (hon : Function.Injective on) (hcallback : ∀ op, on op ∉ callback)
    (h : Sound on x (on op ::ₘ others)) (hdoes : Does callback on x op x' new) :
    holders on (↑new + others) = x'.started.toNat := by
  have hholders := h.holders_eq
  rw [holders_cons hon] at hholders
  cases hdoes with
  | startLost | clearStopped | stopLost | sendStop =>
    change holders on (0 + others) = _
    rw [Multiset.zero_add]
    simpa [TimerOp.holds] using hholders
  | startTaken hstarted =>
    rw [Multiset.coe_singleton, Multiset.singleton_add, holders_cons hon]
    simpa [TimerOp.holds, hstarted] using hholders
  | tick =>
    rw [← Multiset.coe_add, add_assoc, holders_append _ _ hcallback, Multiset.coe_singleton,
      Multiset.singleton_add, holders_cons hon]
    exact hholders
  | clearStarted =>
    have hle : x.started.toNat ≤ 1 := Bool.toNat_le x.started
    rw [Multiset.coe_singleton, Multiset.singleton_add, holders_cons hon]
    simp [TimerOp.holds] at hholders ⊢
    omega
  | reset | spawn | token | innerStop | stopTaken =>
    rw [Multiset.coe_singleton, Multiset.singleton_add, holders_cons hon]
    exact hholders

theorem Sound.count_waiting (hon : Function.Injective on) (h : Sound on x (on op ::ₘ others))
    (hholds : op.holds = true) : others.count (on .spawn) + others.count (on .select) = 0 := by
  have hholders := h.holders_eq
  have hle : x.started.toNat ≤ 1 := Bool.toNat_le x.started
  rw [holders_cons hon, hholds] at hholders
  unfold holders at hholders
  simp at hholders
  omega

theorem count_step (a : TimerOp) :
    Multiset.count (on a) (↑new + others) = new.count (on a) + others.count (on a) := by
  rw [Multiset.count_add, Multiset.coe_count]

theorem Sound.live_step (hon : Function.Injective on) (hcallback : ∀ op, on op ∉ callback)
    (h : Sound on x (on op ::ₘ others)) (hdoes : Does callback on x op x' new)
    (hcount : 0 < Multiset.count (on .spawn) (↑new + others)
      + Multiset.count (on .select) (↑new + others)) : x'.live = true := by
  have hzero : ∀ op, callback.count (on op) = 0 := fun op =>
    List.count_eq_zero.mpr (hcallback op)
  have hlive := h.live
  rw [count_step, count_step] at hcount
  simp only [Multiset.count_cons, hon.eq_iff] at hlive
  cases hdoes with
  | reset => rfl
  | spawn =>
    refine hlive ?_
    rw [if_pos rfl]
    omega
  | startLost | startTaken | clearStopped | stopLost | stopTaken | sendStop =>
    -- the operation is none that waits, so one of the others waits
    refine hlive ?_
    simpa [hon.eq_iff] using hcount
  | tick | token | innerStop | clearStarted =>
    -- the goroutine that took the step is the only holder, and does not wait
    have hnone := h.count_waiting hon rfl
    simp [List.count_append, hzero, hon.eq_iff] at hcount
    omega

theorem Sound.room_step (hon : Function.Injective on) (hcallback : ∀ op, on op ∉ callback)
    (h : Sound on x (on op ::ₘ others)) (hroom : op = .stop → Room on x (on op ::ₘ others))
    (hdoes : Does callback on x op x' new) :
    Multiset.count (on .sendStop) (↑new + others) + x'.stopChan.toNat ≤ 1 := by
  have hzero : ∀ op, callback.count (on op) = 0 := fun op =>
    List.count_eq_zero.mpr (hcallback op)
  have hbefore := h.room
  rw [count_step]
  simp only [Multiset.count_cons, hon.eq_iff] at hbefore
  cases hdoes with
  | stopTaken hstopped =>
    obtain hlost | ⟨htoken, hnone⟩ := hroom rfl
    · rw [hstopped] at hlost
      cases hlost
    · have hothers : on .sendStop ∉ others := fun hmem => hnone (Multiset.mem_cons_of_mem hmem)
      simp [htoken, Multiset.count_eq_zero.mpr hothers]
  | sendStop htoken =>
    simp [htoken] at hbefore
    simp [hbefore]
  | token htoken =>
    simp [htoken] at hbefore
    simp [hbefore, hon.eq_iff]
  | _ => simpa [List.count_append, hzero, hon.eq_iff, Timer.reset] using hbefore

/-- **The step.** -/
theorem Sound.step (hon : Function.Injective on) (hcallback : ∀ op, on op ∉ callback)
    (h : Sound on x (on op ::ₘ others)) (hroom : op = .stop → Room on x (on op ::ₘ others))
    (hdoes : Does callback on x op x' new) : Sound on x' (↑new + others) :=
  ⟨h.holders_step hon hcallback hdoes, h.live_step hon hcallback hdoes,
    h.room_step hon hcallback hroom hdoes⟩

end

end Timer

end Mosn.HealthCheck
