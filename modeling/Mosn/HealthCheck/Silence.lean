/-
  Mosn.HealthCheck.Silence
  **DOES A SESSION GO SILENT?**

  Every handler ends by starting a timer, so one should expect a timer to be
  armed whenever nothing else is going on.  It is not so:

      Start, the connect fails        interval timer armed
      it fires, the connect fails     `handleFailure` starts the interval timer
                                      IN ITS OWN CALLBACK: `started` is still 1,
                                      `start` returns
      the goroutine ends              nothing is armed, for ever

  A `start` can also be lost to a token that an earlier `stop` left in the
  channel, and a `stop` can wait for ever to send one.

    • `never_silent_of_kept` — if no `start` is lost and no `stop` waits, a
      timer is armed whenever no goroutine can take a step,
    • `silent_refusedTwice` — the run above.
-/
import Mosn.Lib.Transition
import Mosn.HealthCheck.Heartbeat

namespace Mosn.HealthCheck

open Mosn.Lib

/-! ## §1. Operations that lead to a start. -/

namespace Op

/-- The operation is a `start`, or calls an operation of this kind. -/
def promises : Op → Bool
  | .timer _ .start | .onInterval | .connect | .sessionOnInterval | .onTimeout
  | .sessionOnTimeout | .onResponseComplete | .handleSuccess | .handleFailure _ => true
  | _ => false

/-- A part of `stop`. -/
def stops : Op → Bool
  | .timer _ .stop | .timer _ .sendStop => true
  | _ => false

/-- No operation of a timer except the calls of `start` and `stop`. -/
def plain : Op → Bool
  | .timer _ .start | .timer _ .stop => true
  | .timer _ _ => false
  | _ => true

/-- After every part of a `stop` comes an operation that leads to a start. -/
def followed : List Op → Bool
  | [] => true
  | op :: rest => (!op.stops || rest.any promises) && followed rest

theorem followed_append {l rest : List Op} (hl : followed l = true) (hrest : followed rest = true) :
    followed (l ++ rest) = true := by
  induction l with
  | nil => exact hrest
  | cons op l ih =>
    simp only [followed, Bool.and_eq_true, Bool.or_eq_true, List.cons_append,
      List.any_append] at hl ⊢
    grind

theorem followed_tail {op : Op} {rest : List Op} (h : followed (op :: rest) = true) :
    followed rest = true := by
  simp only [followed, Bool.and_eq_true] at h
  exact h.2

theorem exists_promises {op : Op} {rest : List Op} (h : followed (op :: rest) = true)
    (hstops : op.stops = true) : ∃ p ∈ rest, p.promises = true := by
  simp only [followed, hstops, Bool.not_true, Bool.false_or, Bool.and_eq_true,
    List.any_eq_true] at h
  exact h.1

end Op

namespace Heartbeat

variable {κ : Type} {o : Oracle} {s : Heartbeat κ} {op : Op} {e : Effect (Heartbeat κ) Op}

/-- What an operation calls that is not one of a timer. -/
def Calls (op : Op) (calls : List Op) : Bool :=
  calls.all Op.plain && Op.followed calls && (!op.promises || calls.any Op.promises)

theorem calls_replicate (n : Nat) : Calls .closeClient (.replicate n .onResetStream) = true := by
  have hplain : (List.replicate n Op.onResetStream).all Op.plain = true := by
    simp [Op.plain]
  have hfollowed : Op.followed (.replicate n .onResetStream) = true := by
    induction n with
    | zero => rfl
    | succ n ih =>
      rw [List.replicate_succ]
      exact ih (by simp [Op.plain])
  unfold Calls
  rw [hplain, hfollowed]
  rfl

theorem handler_exec (hop : ∀ t top, op ≠ .timer t top) (h : exec o s op = .ok e) :
    e.shared.timers = s.timers ∧ e.spawned = [] ∧ Calls op e.calls = true := by
  cases op with
  | timer t top => exact absurd rfl (hop t top)
  | closeClient =>
    simp only [exec] at h
    split at h
    · cases h
      exact ⟨rfl, rfl, calls_replicate _⟩
    · cases h
  | newStream =>
    simp only [exec] at h
    split at h
    · cases h
      exact ⟨rfl, rfl, rfl⟩
    · cases h
  | onInterval | connect | onResetStream =>
    simp only [exec] at h
    split at h
    · cases h
      exact ⟨rfl, rfl, rfl⟩
    · cases h
      exact ⟨rfl, rfl, rfl⟩
  | onResponseComplete =>
    simp only [exec] at h
    cases h
    refine ⟨rfl, rfl, ?_⟩
    dsimp only
    split <;> rfl
  | _ =>
    cases h
    exact ⟨rfl, rfl, rfl⟩

variable {t : TimerName} {top : TimerOp} {others : Multiset Op}

/-- **What an operation does**: one of a timer changes this timer, one of a
handler leaves the timers alone. -/
theorem exec_cases (h : exec o s op = .ok e) :
    (∃ t top x, op = .timer t top ∧ e.shared = s.setTimer t x
      ∧ (s.timers t).Does (callback t) (.timer t) top x (e.calls ++ e.spawned.flatten)
      ∧ (e.spawned = [] ∨ top = .spawn ∧ e.calls = [] ∧ e.spawned = [[.timer t .select]]))
    ∨ (∀ t top, op ≠ .timer t top) ∧ e.shared.timers = s.timers ∧ e.spawned = []
      ∧ Calls op e.calls = true := by
  by_cases hop : ∃ t top, op = .timer t top
  · obtain ⟨t, top, rfl⟩ := hop
    obtain ⟨x, hx, rfl⟩ := map_eq_ok.mp h
    exact .inl ⟨t, top, _, rfl, rfl, Timer.does_of_exec hx, Timer.spawned_of_exec hx⟩
  · have hhandler : ∀ t top, op ≠ .timer t top := fun t top heq => hop ⟨t, top, heq⟩
    exact .inr ⟨hhandler, handler_exec hhandler h⟩

theorem timer_injective (t : TimerName) : Function.Injective (Op.timer t) := by
  intro a b hab
  cases hab
  rfl

theorem timer_notMem_callback (t t' : TimerName) (top : TimerOp) :
    Op.timer t top ∉ callback t' := by
  cases t' <;> simp [callback]

theorem timer_new {t' : TimerName} {top' : TimerOp} {x x' : Timer} {new : List Op}
    (h : Timer.Does (callback t) (.timer t) x top x' new) (hmem : .timer t' top' ∈ new) :
    t' = t := by
  cases h with
  | tick => grind [timer_notMem_callback]
  | startLost | clearStopped | stopLost | sendStop => cases hmem
  | startTaken | reset | spawn | token | innerStop | clearStarted | stopTaken =>
    simp at hmem
    exact hmem.1

/-! ## §2. The timers stay sound. -/

/-- The condition on an operation: a `start` finds the timer idle or waiting,
and no token in its channel; a `stop` does not wait. -/
def Effective (s : Heartbeat κ) (ops : Multiset Op) (t : TimerName) : Prop :=
  (s.timers t).stopChan = false ∧
    ((s.timers t).started = false ∨ ∃ top, top.waits = true ∧ Op.timer t top ∈ ops)

def Allowed (s : Heartbeat κ) (ops : Multiset Op) : Op → Prop
  | .timer t .start => s.Effective ops t
  | .timer t .stop => (s.timers t).Room (.timer t) ops
  | _ => True

/-- All timers are sound. -/
def Sound (s : Heartbeat κ) (ops : Multiset Op) : Prop :=
  ∀ t, (s.timers t).Sound (.timer t) ops

theorem Sound.exec (h : s.Sound (op ::ₘ others))
    (hallowed : s.Allowed (op ::ₘ others) op) (hexec : exec o s op = .ok e) :
    e.shared.Sound (↑e.calls + ↑e.spawned.flatten + others) := by
  intro t
  rcases exec_cases hexec
    with ⟨t', top, x, rfl, hshared, hdoes, -⟩ | ⟨hhandler, htimers, hspawned, hcalls⟩
  · rw [hshared, Multiset.coe_add]
    by_cases ht : t = t'
    · subst ht
      simp only [setTimer, Function.update_self]
      refine (h t).step (timer_injective t) (timer_notMem_callback t t) ?_ hdoes
      intro hstop
      subst hstop
      exact hallowed
    · -- the other timer and its operations are the same
      simp only [setTimer, Function.update_of_ne ht]
      refine (h t).congr fun a _ _ => ?_
      have hnew : Op.timer t a ∉ e.calls ++ e.spawned.flatten := fun hmem =>
        ht (timer_new hdoes hmem)
      have hne : Op.timer t a ≠ .timer t' top := fun heq => ht (by cases heq; rfl)
      rw [Multiset.count_add, Multiset.coe_count, List.count_eq_zero.mpr hnew, Nat.zero_add,
        Multiset.count_cons_of_ne hne]
  · simp only [Calls, Bool.and_eq_true, List.all_eq_true] at hcalls
    rw [htimers, hspawned]
    refine (h t).congr fun a hstart hstop => ?_
    have hnew : Op.timer t a ∉ e.calls := by
      intro hmem
      have hplain := hcalls.1.1 _ hmem
      cases a <;> first | exact hstart rfl | exact hstop rfl | cases hplain
    simp [Multiset.count_cons_of_ne (hhandler t a).symm, List.count_eq_zero.mpr hnew]

/-! ## §3. A start follows every stop. -/

theorem followed_exec (h : exec o s op = .ok e) :
    (∀ rest, Op.followed (op :: rest) = true → Op.followed (e.calls ++ rest) = true) ∧
      ∀ thread ∈ e.spawned, Op.followed thread = true := by
  rcases exec_cases h with ⟨t, top, x, rfl, -, hdoes, hspawned | ⟨-, hcalls, hspawned⟩⟩
    | ⟨-, -, hspawned, hcalls⟩
  · rw [hspawned, List.flatten_nil, List.append_nil] at hdoes
    rw [hspawned]
    refine ⟨fun rest hrest => ?_, fun thread hthread => by cases hthread⟩
    have htail := Op.followed_tail hrest
    generalize e.calls = calls at hdoes
    cases hdoes with
    | stopTaken =>
      -- the token that is sent is followed by what followed the call
      obtain ⟨p, hp, hpromises⟩ := Op.exists_promises hrest rfl
      have hany : rest.any Op.promises = true := List.any_eq_true.mpr ⟨p, hp, hpromises⟩
      simp [Op.followed, hany, htail]
    | tick =>
      refine Op.followed_append ?_ htail
      cases t <;> rfl
    | startLost | clearStopped | stopLost | sendStop => exact htail
    | startTaken | reset | spawn | token | innerStop | clearStarted =>
      exact Op.followed_append rfl htail
  · rw [hcalls, hspawned]
    refine ⟨fun rest hrest => Op.followed_tail hrest, fun thread hthread => ?_⟩
    rw [List.mem_singleton.mp hthread]
    rfl
  · simp only [Calls, Bool.and_eq_true] at hcalls
    grind [Op.followed_append, Op.followed_tail]

/-! ## §4. Some operation will arm a timer. -/

/-- The operation leads to a start, or to a `select` that no token ends. -/
def Hope (s : Heartbeat κ) (op : Op) : Prop :=
  op.promises = true ∨
    ∃ t top, op = .timer t top ∧ top.waits = true ∧ (s.timers t).stopChan = false

theorem token_exec (h : exec o s op = .ok e) (hop : op ≠ .timer t .sendStop)
    (htoken : (s.timers t).stopChan = false) : (e.shared.timers t).stopChan = false := by
  rcases exec_cases h with ⟨t', top, x, rfl, hshared, hdoes, -⟩ | ⟨-, htimers, -⟩
  · rw [hshared]
    by_cases ht : t = t'
    · subst ht
      simp only [setTimer, Function.update_self]
      generalize e.calls ++ e.spawned.flatten = new at hdoes
      cases hdoes with
      | sendStop => exact absurd rfl hop
      | _ => first | exact htoken | rfl
    · simp only [setTimer, Function.update_of_ne ht]
      exact htoken
  · rw [htimers]
    exact htoken

theorem Hope.mono {s' : Heartbeat κ} (hhope : s.Hope op)
    (h : ∀ t, (s.timers t).stopChan = false → (s'.timers t).stopChan = false) : s'.Hope op := by
  obtain hpromises | ⟨t, top, rfl, hwaits, htoken⟩ := hhope
  · exact .inl hpromises
  · exact .inr ⟨t, top, rfl, hwaits, h t htoken⟩

/-- Hope in the operation that is executed passes to one that comes in its
place, unless it is a `start`. -/
theorem Hope.executed (hhope : s.Hope op) (h : exec o s op = .ok e)
    (hop : ∀ t, op ≠ .timer t .start) :
    ∃ next ∈ e.calls ++ e.spawned.flatten, e.shared.Hope next := by
  rcases exec_cases h with ⟨t, top, x, rfl, -, hdoes, -⟩ | ⟨hhandler, -, -, hcalls⟩
  · obtain hpromises | ⟨t', top', heq, hwaits, htoken⟩ := hhope
    · cases top <;> first | exact absurd rfl (hop t) | cases hpromises
    · cases heq
      have hstill := token_exec h (fun heq => by cases heq; cases hwaits) htoken
      have hnext : ∀ top', top'.waits = true → e.shared.Hope (.timer t top') :=
        fun top' hwaits' => .inr ⟨t, top', rfl, hwaits', hstill⟩
      generalize e.calls ++ e.spawned.flatten = new at hdoes
      cases hdoes with
      | reset => exact ⟨_, List.mem_singleton_self _, hnext .spawn rfl⟩
      | spawn => exact ⟨_, List.mem_singleton_self _, hnext .select rfl⟩
      | tick =>
        cases t with
        | interval => exact ⟨.onInterval, by simp [callback], .inl rfl⟩
        | timeout => exact ⟨.onTimeout, by simp [callback], .inl rfl⟩
      | token htaken =>
        rw [htoken] at htaken
        cases htaken
      | _ => cases hwaits
  · obtain hpromises | ⟨t, top, heq, -⟩ := hhope
    · simp only [Calls, hpromises, Bool.and_eq_true, Bool.not_true, Bool.false_or,
        List.any_eq_true] at hcalls
      obtain ⟨next, hnext, hleads⟩ := hcalls.2
      exact ⟨next, List.mem_append_left _ hnext, .inl hleads⟩
    · exact absurd heq (hhandler t top)

theorem hope_start (heffective : s.Effective (.timer t .start ::ₘ others) t)
    (h : exec o s (.timer t .start) = .ok e) :
    ∃ next ∈ ↑(e.calls ++ e.spawned.flatten) + others, e.shared.Hope next := by
  obtain ⟨htoken, hidle⟩ := heffective
  have hstill := token_exec h (t := t) (by simp) htoken
  have hnext : ∀ top, top.waits = true → e.shared.Hope (.timer t top) := fun top hwaits =>
    .inr ⟨t, top, rfl, hwaits, hstill⟩
  obtain ⟨t', top, x, heq, -, hdoes, -⟩ | ⟨hhandler, -⟩ := exec_cases h
  swap
  · exact absurd rfl (hhandler t .start)
  cases heq
  generalize e.calls ++ e.spawned.flatten = new at hdoes
  cases hdoes with
  | startTaken => exact ⟨_, by simp, hnext .reset rfl⟩
  | startLost hstarted =>
    obtain hfree | ⟨top, hwaits, hmem⟩ := hidle
    · rw [hstarted] at hfree
      cases hfree
    · have hne : Op.timer t top ≠ .timer t .start := by
        intro heq
        cases heq
        cases hwaits
      grind

theorem hope_exec {rest : List Op} (hhope : ∃ next ∈ op ::ₘ (↑rest + others), s.Hope next)
    (hfollowed : Op.followed (op :: rest) = true)
    (hallowed : s.Allowed (op ::ₘ (↑rest + others)) op) (h : exec o s op = .ok e) :
    ∃ next ∈ ↑(e.calls ++ e.spawned.flatten) + (↑rest + others), e.shared.Hope next := by
  by_cases hsend : ∃ t, op = .timer t .sendStop
  · -- the token may end the only round there is, but a start follows
    obtain ⟨t, rfl⟩ := hsend
    obtain ⟨p, hp, hpromises⟩ := Op.exists_promises hfollowed rfl
    exact ⟨p, by simp [hp], .inl hpromises⟩
  by_cases hstart : ∃ t, op = .timer t .start
  · obtain ⟨t, rfl⟩ := hstart
    exact hope_start hallowed h
  obtain ⟨next, hnext, hhope⟩ := hhope
  obtain rfl | hnext := Multiset.mem_cons.mp hnext
  · obtain ⟨next, hnew, hhope⟩ := hhope.executed h fun t heq => hstart ⟨t, heq⟩
    exact ⟨next, Multiset.mem_add.mpr (.inl (Multiset.mem_coe.mpr hnew)), hhope⟩
  · exact ⟨next, Multiset.mem_add.mpr (.inr hnext),
      hhope.mono fun t => token_exec h fun heq => hsend ⟨t, heq⟩⟩

end Heartbeat

/-! ## §5. The invariant of a session. -/

namespace Goroutines

variable {κ : Type} {s s' : Goroutines κ}

structure Serving (s : Goroutines κ) : Prop where
  sound : s.shared.Sound s.ops
  followed : ∀ thread ∈ s.threads, Op.followed thread = true
  hope : ∃ op ∈ s.ops, s.shared.Hope op

/-- The condition on a step: the operation it executes is allowed. -/
def Kept (s : Goroutines κ) : Event → Prop
  | .execute i _ => ∀ op rest, s.threads[i]? = some (op :: rest) → s.shared.Allowed s.ops op
  | _ => True

theorem serving_started (hc : HealthChecker κ) (healthFlags : UInt64) (client : Bool) :
    (started hc healthFlags client).Serving where
  sound t := Timer.sound_newTimer (by simp [started, Pool.ops])
  followed := by simp [started, Op.followed, Op.stops]
  hope := ⟨.onInterval, by simp [started, Pool.ops], .inl rfl⟩

theorem Serving.execute {i : Nat} {o : Oracle} (h : s.Serving) (hkept : s.Kept (.execute i o))
    (hstep : Pool.step (Heartbeat.exec o) s i = some (.ok s')) : s'.Serving := by
  have hfollowed := Pool.forall_step (Op.followed · = true)
    (fun op e hexec => Heartbeat.followed_exec hexec) h.followed hstep
  obtain ⟨op, rest, e, others, hthread, hexec, hshared, hops, hops'⟩ := Pool.step_ops hstep
  have hallowed := hkept op rest hthread
  have hsound := h.sound
  have hhope := h.hope
  rw [hops] at hallowed hsound hhope
  refine ⟨?_, hfollowed, ?_⟩
  · rw [hshared, hops']
    exact hsound.exec hallowed hexec
  · rw [hshared, hops', Multiset.coe_add]
    exact Heartbeat.hope_exec hhope (h.followed _ (List.mem_of_getElem? hthread)) hallowed hexec

theorem Serving.fork (h : s.Serving) {shared : Heartbeat κ} {thread : List Op}
    (htimers : shared.timers = s.shared.timers) (hplain : thread.all Op.plain = true)
    (hfollowed : Op.followed thread = true) :
    Serving (Pool.fork { s with shared := shared } thread) := by
  have hops : (Pool.fork { s with shared := shared } thread).ops = ↑thread + s.ops :=
    Pool.ops_fork _ thread
  refine ⟨?_, ?_, ?_⟩
  · intro t
    rw [hops]
    change (shared.timers t).Sound _ _
    rw [htimers]
    refine (h.sound t).congr fun a hstart hstop => ?_
    have hnone : Op.timer t a ∉ thread := by
      intro hmem
      have hop := List.all_eq_true.mp hplain _ hmem
      cases a <;> first | exact hstart rfl | exact hstop rfl | cases hop
    rw [Multiset.count_add, Multiset.coe_count, List.count_eq_zero.mpr hnone, Nat.zero_add]
  · intro thread' hthread'
    obtain hold | hnew := List.mem_append.mp hthread'
    · exact h.followed thread' hold
    · rw [List.mem_singleton.mp hnew]
      exact hfollowed
  · obtain ⟨op, hop, hhope⟩ := h.hope
    rw [hops]
    refine ⟨op, Multiset.mem_add.mpr (.inr hop), hhope.mono fun t htoken => ?_⟩
    change (shared.timers t).stopChan = false
    rw [htimers]
    exact htoken

theorem Serving.expire (h : s.Serving) {t : TimerName}
    (hrunning : (s.shared.timers t).running = true) :
    Serving { s with shared := s.shared.setTimer t (s.shared.timers t).expire } := by
  refine ⟨?_, h.followed, ?_⟩
  · intro t'
    by_cases ht : t' = t
    · subst ht
      simp only [Heartbeat.setTimer, Function.update_self]
      exact (h.sound t').expire hrunning
    · simp only [Heartbeat.setTimer, Function.update_of_ne ht]
      exact h.sound t'
  · obtain ⟨op, hop, hhope⟩ := h.hope
    refine ⟨op, hop, hhope.mono fun t' htoken => ?_⟩
    by_cases ht : t' = t
    · subst ht
      simp only [Heartbeat.setTimer, Function.update_self]
      exact htoken
    · simp only [Heartbeat.setTimer, Function.update_of_ne ht]
      exact htoken

theorem followed_plain_receiver (frame : Frame) :
    frame.receiver.all Op.plain = true ∧ Op.followed frame.receiver = true := by
  cases frame with
  | headers status endStream => cases status <;> cases endStream <;> exact ⟨rfl, rfl⟩
  | data endStream => cases endStream <;> exact ⟨rfl, rfl⟩
  | trailers => exact ⟨rfl, rfl⟩

/-- **The step.** -/
theorem Serving.step {e : Event} (h : s.Serving) (hkept : s.Kept e) (hstep : Step s e s') :
    s'.Serving := by
  unfold Step Goroutines.step at hstep
  cases e with
  | expire t =>
    simp only at hstep
    split_ifs at hstep with hrunning
    cases hstep
    exact h.expire hrunning
  | receive first frame =>
    obtain ⟨hplain, hfollowed⟩ := followed_plain_receiver frame
    cases first with
    | true =>
      by_cases hactive : 0 < s.shared.active
      · simp only [if_pos hactive] at hstep
        cases hstep
        exact h.fork rfl hplain hfollowed
      · simp only [if_neg hactive] at hstep
        cases hstep
    | false =>
      simp only at hstep
      split_ifs at hstep
      cases hstep
      exact h.fork rfl hplain hfollowed
  | connectionClosed requests =>
    have hcalls := Heartbeat.calls_replicate requests
    simp only [Heartbeat.Calls, Bool.and_eq_true] at hcalls
    simp only at hstep
    split_ifs at hstep
    cases hstep
    exact h.fork rfl hcalls.1.1 hcalls.1.2
  | execute i o =>
    simp only at hstep
    split at hstep
    case h_1 s'' hpool =>
      cases hstep
      exact h.execute hkept hpool
    case h_2 => cases hstep
    case h_3 => cases hstep

/-! ## §6. Silence. -/

theorem blocked_cases {shared : Heartbeat κ} {op : Op}
    (h : ∀ o, Heartbeat.exec o shared op = .error .blocked) :
    (∃ t, op = .timer t .select ∧ (shared.timers t).Idle) ∨
      ∃ t, op = .timer t .sendStop ∧ (shared.timers t).stopChan = true := by
  have hsome := h ⟨true, true, 0⟩
  cases op with
  | timer t top =>
    simp only [Heartbeat.exec] at hsome
    cases hexec : (shared.timers t).exec true (callback t) (.timer t) top with
    | ok x =>
      rw [hexec] at hsome
      cases hsome
    | error halt =>
      rw [hexec] at hsome
      cases hsome
      grind [Timer.blocked_cases]
  | onInterval | connect | newStream | closeClient | onResetStream =>
    simp only [Heartbeat.exec] at hsome
    split at hsome <;> cases hsome
  | _ => cases hsome

theorem Serving.armed (h : s.Serving) (hquiescent : s.Quiescent) : ∃ t, s.Armed t := by
  obtain ⟨op, hop, -⟩ := h.hope
  obtain ⟨thread, hthread, hmem⟩ := List.mem_flatten.mp (Multiset.mem_coe.mp hop)
  cases thread with
  | nil => cases hmem
  | cons first rest =>
    have hfirst : first ∈ s.ops :=
      Multiset.mem_coe.mpr (List.mem_flatten.mpr ⟨_, hthread, List.mem_cons_self⟩)
    have hcount : 0 < s.ops.count first := Multiset.count_pos.mpr hfirst
    obtain ⟨t, rfl, hidle⟩ | ⟨t, rfl, htoken⟩ :=
      blocked_cases (hquiescent _ hthread first rest rfl)
    · have hlive := (h.sound t).live (by omega)
      exact ⟨t, hidle.running hlive, _, hthread, rfl⟩
    · -- there is never a second token to send
      have hroom := (h.sound t).room
      rw [htoken, Bool.toNat_true] at hroom
      omega

/-- **No silence**, while no `start` is lost and no `stop` waits: whenever no
goroutine can take a step, the interval timer or the timeout timer is armed. -/
theorem never_silent_of_kept (hc : HealthChecker κ) (healthFlags : UInt64) (client : Bool)
    (es : List Event) (hkept : EveryStep Step Kept (started hc healthFlags client) es) :
    EveryState Step (fun s => s.Quiescent → ∃ t, s.Armed t) (started hc healthFlags client) es := by
  have hserving : EveryState Step Serving (started hc healthFlags client) es :=
    hkept.everyState Serving (fun s e s' h hk hstep => h.step hk hstep)
      (serving_started hc healthFlags client)
  intro before after s hes hrun hquiescent
  exact (hserving before after s hes hrun).armed hquiescent

/-! ## §7. Two runs. -/

/-- Every goroutine has ended or waits in a `select`, with no tick and no
token. -/
def waiting (s : Goroutines κ) : Bool :=
  s.threads.all fun thread => match thread with
    | [] => true
    | .timer t .select :: _ =>
      (s.shared.timers t).innerTimer.any (!InnerTimer.tick ·) && !(s.shared.timers t).stopChan
    | _ :: _ => false

theorem quiescent_of_waiting (h : s.waiting = true) : s.Quiescent := by
  intro thread hthread op rest hop o
  have hall := List.all_eq_true.mp h thread hthread
  subst hop
  split at hall
  case h_1 hnil => cases hnil
  case h_2 t rest' hcons =>
    cases hcons
    simp only [Bool.and_eq_true, Option.any_eq_true_iff_get, Bool.not_eq_true'] at hall
    obtain ⟨⟨hinner, htick⟩, htoken⟩ := hall
    obtain ⟨inner, hsome⟩ := Option.isSome_iff_exists.mp hinner
    have hquiet : inner.tick = false := by simpa [hsome] using htick
    simp [Heartbeat.exec, Timer.exec, hsome, hquiet, htoken, Except.map]
  case h_3 => cases hall

/-- A stricter condition on a step: a `start` finds the timer idle, a `stop` an
empty channel and no other `stop`. -/
def clean (s : Goroutines κ) : Event → Bool
  | .execute i _ =>
    match (s.threads[i]?).bind List.head? with
    | some (.timer t .start) => !(s.shared.timers t).stopChan && !(s.shared.timers t).started
    | some (.timer t .stop) =>
      !(s.shared.timers t).stopChan && !s.threads.flatten.contains (.timer t .sendStop)
    | _ => true
  | _ => true

theorem kept_of_clean (s : Goroutines κ) (e : Event) (h : s.clean e = true) : s.Kept e := by
  cases e with
  | execute i o =>
    intro op rest hthread
    simp only [clean, hthread, Option.bind_some, List.head?_cons] at h
    cases op with
    | timer t top =>
      cases top with
      | start =>
        simp only [Bool.and_eq_true, Bool.not_eq_true'] at h
        exact ⟨h.1, .inl h.2⟩
      | stop =>
        simp only [Bool.and_eq_true, Bool.not_eq_true'] at h
        refine .inr ⟨h.1, ?_⟩
        simpa [Pool.ops] using h.2
      | _ => trivial
    | _ => trivial
  | _ => trivial

/-- A checker with thresholds of 1 and no callbacks. -/
def soleChecker : HealthChecker Unit := ⟨[], 0, 1, 1, {}⟩

/-- The heartbeat of `Start` is answered, the next one times out. -/
def answeredOnce : List Event :=
  let o : Oracle := ⟨true, false, 1⟩
  List.replicate 10 (Event.execute 0 o) ++ [Event.receive true (.headers (some 0) true)]
    ++ List.replicate 9 (Event.execute 2 o) ++ List.replicate 4 (Event.execute 1 o)
    ++ [Event.expire .interval] ++ List.replicate 11 (Event.execute 3 o)
    ++ [Event.expire .timeout] ++ List.replicate 12 (Event.execute 4 o)

theorem never_silent_answeredOnce :
    ∃ s, Run Step (started soleChecker 0 false) answeredOnce s ∧ s.Quiescent ∧ ∃ t, s.Armed t := by
  have hends : (runSteps step (started soleChecker 0 false) answeredOnce).any waiting = true := by
    decide +kernel
  have hclean : checkSteps step clean (started soleChecker 0 false) answeredOnce = true := by
    decide +kernel
  obtain ⟨s, hs, hwaiting⟩ := Option.any_eq_true _ _ |>.mp hends
  have hrun : Run Step (started soleChecker 0 false) answeredOnce s := run_of_runSteps hs
  have hkept : EveryStep Step Kept (started soleChecker 0 false) answeredOnce :=
    everyStep_of_checkSteps kept_of_clean hclean
  have hquiescent : s.Quiescent := quiescent_of_waiting hwaiting
  exact ⟨s, hrun, hquiescent, never_silent_of_kept soleChecker 0 false answeredOnce hkept
    answeredOnce [] s (List.append_nil _).symm hrun hquiescent⟩

/-- The host refuses the connection of `Start` and the next one. -/
def refusedTwice : List Event :=
  let o : Oracle := ⟨false, false, 0⟩
  List.replicate 8 (Event.execute 0 o) ++ [Event.expire .interval] ++
    List.replicate 9 (Event.execute 1 o)

/-- **Silence.**  Every goroutine has ended and no timer is armed. -/
theorem silent_refusedTwice :
    ∃ s, Run Step (started soleChecker 0 false) refusedTwice s ∧ s.Quiescent
      ∧ ¬ ∃ t, s.Armed t := by
  have hends : (runSteps step (started soleChecker 0 false) refusedTwice).any
      (·.threads.all List.isEmpty) = true := by
    decide +kernel
  obtain ⟨s, hs, hover⟩ := Option.any_eq_true _ _ |>.mp hends
  have hnil : ∀ thread ∈ s.threads, thread = [] := fun thread hthread =>
    List.isEmpty_iff.mp (List.all_eq_true.mp hover thread hthread)
  refine ⟨s, run_of_runSteps hs, ?_, ?_⟩
  · intro thread hthread op rest hop
    rw [hnil thread hthread] at hop
    cases hop
  · rintro ⟨t, -, thread, hthread, hhead⟩
    rw [hnil thread hthread] at hhead
    cases hhead

end Goroutines

end Mosn.HealthCheck
