/-
  Mosn.Stream.SofaRpc.ConnPool
  **NEW STREAMS AGAINST CLOSING CONNECTIONS**
  (`pkg/stream/sofarpc/connpool.go`, `OnEvent` and `NewStream` of
  `pkg/stream/codecclient.go`).

  `NewStream` holds the pool's lock only while it looks for a client.  After
  that it reads `p.activeClient` three more times; the handler of a close
  event clears the field without the lock, after the codec client has reset
  its requests.

  Calls and handlers run in small steps here, one read or write of
  `p.activeClient` or one operation on the lock each, in every order; there
  can be any number of them.

    • `undisturbed_safe` — then no call panics, and no request is left on a
      client that has reset its requests,
    • `closed_in_between` — both happen otherwise.
-/
import Mosn.Lib.Transition

namespace Mosn.Stream.SofaRpc.ConnPool

open Mosn.Lib

/-! ## §1. The steps of a call. -/

/-- Where a call of `NewStream` is. -/
inductive Pc where
  /-- At `p.mux.Lock()`. -/
  | lock
  /-- At the test of `p.activeClient` under the lock. -/
  | look
  /-- In `newActiveClient`. -/
  | dial
  /-- At `p.activeClient = ac`. -/
  | store (ac : Option Nat)
  | unlock
  /-- At the test of `p.activeClient` without the lock. -/
  | test
  | canCreate
  /-- At `p.activeClient.totalStream++`. -/
  | count
  | increase
  /-- At the read of `p.activeClient.codecClient`. -/
  | read
  /-- In `NewStream` of the codec client of `c`. -/
  | register (c : Nat)
  /-- Over: `OnFailure` was called. -/
  | failed
  /-- Over: the request was made on `c`, and `OnReady` called. -/
  | ready (c : Nat)
  /-- Over: a nil client was dereferenced. -/
  | panicked
  deriving Repr, DecidableEq

/-- `connPool`, with the calls that are under way. -/
structure Pool where
  /-- Who holds `p.mux`. -/
  mux : Option Nat := none
  activeClient : Option Nat := none
  /-- The number of the next client. -/
  next : Nat := 0
  /-- The connection of the client is up. -/
  connected : Nat → Bool := fun _ => false
  /-- The codec client has handled the close event: its requests are reset. -/
  reset : Nat → Bool := fun _ => false
  /-- The pool has handled it too. -/
  cleared : Nat → Bool := fun _ => false
  /-- The requests in `ActiveRequests` of the client, by their calls. -/
  activeRequests : Nat → List Nat := fun _ => []
  pc : Nat → Pc := fun _ => .lock

namespace Pool

def goto (s : Pool) (i : Nat) (pc : Pc) : Pool := { s with pc := Function.update s.pc i pc }

/-- `newActiveClient`: whether it connects.  If not, the event of the failure
clears `p.activeClient`. -/
def newActiveClient (s : Pool) (i : Nat) (connects : Bool) : Pool :=
  if connects then
    ({ s with next := s.next + 1, connected := Function.update s.connected s.next true }).goto i
      (.store (some s.next))
  else ({ s with activeClient := none }).goto i (.store none)

/-- `PushBack` of the request. -/
def pushBack (s : Pool) (i c : Nat) : Pool :=
  { s with activeRequests := Function.update s.activeRequests c (s.activeRequests c ++ [i]) }

/-- The next step of call `i`; `answer` is what `Connect` or `CanCreate` says.
A call waits for the lock. -/
def callStep (s : Pool) (i : Nat) (answer : Bool) : Option Pool :=
  match s.pc i with
  | .lock => if s.mux = none then some (({ s with mux := some i }).goto i .look) else none
  | .look => some (s.goto i (if s.activeClient = none then .dial else .unlock))
  | .dial => some (s.newActiveClient i answer)
  | .store ac => some (({ s with activeClient := ac }).goto i .unlock)
  | .unlock => some (({ s with mux := none }).goto i .test)
  | .test => some (s.goto i (if s.activeClient = none then .failed else .canCreate))
  | .canCreate => some (s.goto i (if answer then .count else .failed))
  | .count => some (s.goto i (if s.activeClient = none then .panicked else .increase))
  | .increase => some (s.goto i .read)
  | .read =>
    match s.activeClient with
    | none => some (s.goto i .panicked)
    | some c => some (s.goto i (.register c))
  | .register c => some ((s.pushBack i c).goto i (.ready c))
  | .failed => none
  | .ready _ => none
  | .panicked => none

/-- `OnEvent` of the codec client for a close event: every active request is
reset, and with that deleted. -/
def codecOnEvent (s : Pool) (c : Nat) : Pool :=
  { s with
    reset := Function.update s.reset c true
    activeRequests := Function.update s.activeRequests c [] }

/-- `OnEvent` of the pool's client, which is told next: the field is cleared,
whichever client it holds. -/
def onConnectionEvent (s : Pool) (c : Nat) : Pool :=
  { s with activeClient := none, cleared := Function.update s.cleared c true }

end Pool

/-- What can happen. -/
inductive Action where
  | call (i : Nat) (answer : Bool)
  /-- The connection of the client is closed: the codec client is told. -/
  | codecOnEvent (c : Nat)
  /-- Then the pool's client is. -/
  | onConnectionEvent (c : Nat)
  deriving Repr, DecidableEq

namespace Pool

def step (s : Pool) : Action → Option Pool
  | .call i answer => s.callStep i answer
  | .codecOnEvent c =>
    if s.connected c = true ∧ s.reset c = false then some (s.codecOnEvent c) else none
  | .onConnectionEvent c =>
    if s.reset c = true ∧ s.cleared c = false then some (s.onConnectionEvent c) else none

/-- `step` as a relation. -/
def Step (s : Pool) (a : Action) (s' : Pool) : Prop := s.step a = some s'

/-- A pool in any state, with no call under way. -/
structure Idle (s : Pool) : Prop where
  mux : s.mux = none
  pc : ∀ i, s.pc i = .lock
  activeRequests : ∀ c, s.reset c = true → s.activeRequests c = []

/-! ## §2. What the calls rely on. -/

/-- The call has been admitted and will use `p.activeClient`. -/
def Relies (s : Pool) (i : Nat) : Prop :=
  s.pc i = .count ∨ s.pc i = .increase ∨ s.pc i = .read

/-- **The condition on a step.**  A request is admitted only while the pool has
a client that has not reset its requests; a client resets its requests only
while no admitted request is on its way to it; the field is not cleared while
an admitted request will still read it. -/
def Undisturbed (s : Pool) : Action → Prop
  | .call i answer => s.pc i = .canCreate → answer = true →
      ∃ c, s.activeClient = some c ∧ s.reset c = false
  | .codecOnEvent c => ∀ i, s.pc i ≠ .register c ∧ (s.Relies i → s.activeClient ≠ some c)
  | .onConnectionEvent _ => ∀ i, ¬ s.Relies i

/-- **Safety.**  No call has panicked; a request that was made is active on a
client that has not reset its requests, or was reset; no other is left. -/
structure Safe (s : Pool) : Prop where
  panicked : ∀ i, s.pc i ≠ .panicked
  registered : ∀ i c, s.pc i = .ready c →
    (s.reset c = false ∧ i ∈ s.activeRequests c) ∨ (s.reset c = true ∧ s.activeRequests c = [])
  left : ∀ c, s.reset c = true → s.activeRequests c = []

/-- What a call at a program point can count on. -/
def Holds (s : Pool) (i : Nat) : Pc → Prop
  | .look => s.mux = some i
  | .unlock => s.mux = some i
  | .dial => s.mux = some i ∧ s.activeClient = none
  | .store _ => s.mux = some i ∧ s.activeClient = none
  | .count => ∃ c, s.activeClient = some c ∧ s.reset c = false
  | .increase => ∃ c, s.activeClient = some c ∧ s.reset c = false
  | .read => ∃ c, s.activeClient = some c ∧ s.reset c = false
  | .register c => s.reset c = false
  | .ready c => s.reset c = false → i ∈ s.activeRequests c
  | .panicked => False
  | _ => True

/-- **The invariant** of undisturbed runs. -/
structure Inv (s : Pool) : Prop where
  holds : ∀ i, s.Holds i (s.pc i)
  left : ∀ c, s.reset c = true → s.activeRequests c = []

section Steps

variable {s s' : Pool}

theorem Inv.safe (h : s.Inv) : s.Safe := by
  refine ⟨fun i hpc => ?_, fun i c hpc => ?_, h.left⟩
  · have hi := h.holds i
    rw [hpc] at hi
    exact hi
  · have hi := h.holds i
    rw [hpc] at hi
    cases hreset : s.reset c with
    | false => exact Or.inl ⟨rfl, hi hreset⟩
    | true => exact Or.inr ⟨rfl, h.left c hreset⟩

theorem Idle.inv (h : s.Idle) : s.Inv := by
  refine ⟨fun i => ?_, h.activeRequests⟩
  rw [h.pc i]
  trivial

variable {i j c : Nat} {pc : Pc}

theorem Inv.goto (h : s.Inv) (hpc : s'.pc = s.pc) (hi : s'.Holds i pc)
    (hothers : ∀ j, j ≠ i → s.Holds j (s.pc j) → s'.Holds j (s.pc j))
    (hleft : ∀ c, s'.reset c = true → s'.activeRequests c = []) : (s'.goto i pc).Inv := by
  have hsame : ∀ j pc', (s'.goto i pc).Holds j pc' = s'.Holds j pc' := by
    intro j pc'
    cases pc' <;> rfl
  refine ⟨fun j => ?_, hleft⟩
  rw [hsame]
  by_cases hj : j = i
  · subst hj
    simp only [Pool.goto, Function.update_self]
    exact hi
  · simp only [Pool.goto, Function.update_of_ne hj, hpc]
    exact hothers j hj (h.holds j)

theorem Inv.moves (h : s.Inv) (hi : s.Holds i pc) : (s.goto i pc).Inv :=
  h.goto rfl hi (fun _ _ hj => hj) h.left

theorem holds_mux (hne : j ≠ i) (hmux : s.mux = none ∨ s.mux = some i)
    (mux : Option Nat) (h : s.Holds j pc) : Holds { s with mux := mux } j pc := by
  have hnot : s.mux ≠ some j := by
    rcases hmux with hmux | hmux
    · rw [hmux]
      exact fun h => by cases h
    · rw [hmux]
      exact fun h => hne (Option.some.inj h).symm
  cases pc with
  | look => exact absurd h hnot
  | unlock => exact absurd h hnot
  | dial => exact absurd h.1 hnot
  | store ac => exact absurd h.1 hnot
  | _ => exact h

theorem holds_store (hne : j ≠ i) (hmux : s.mux = some i)
    (hnone : s.activeClient = none) (ac : Option Nat) (h : s.Holds j pc) :
    Holds { s with activeClient := ac } j pc := by
  have hnot : s.mux ≠ some j := by
    rw [hmux]
    exact fun h => hne (Option.some.inj h).symm
  have hnoclient : ¬ ∃ c, s.activeClient = some c ∧ s.reset c = false := by
    rintro ⟨c, hc, -⟩
    rw [hnone] at hc
    cases hc
  cases pc with
  | dial => exact absurd h.1 hnot
  | store ac => exact absurd h.1 hnot
  | count | increase | read => exact absurd h hnoclient
  | _ => exact h

theorem Inv.newActiveClient (h : s.Inv) (hmux : s.mux = some i)
    (hnone : s.activeClient = none) (connects : Bool) : (s.newActiveClient i connects).Inv := by
  unfold Pool.newActiveClient
  split
  · refine h.goto rfl ⟨hmux, hnone⟩ (fun j _ hj => ?_) h.left
    cases hj' : s.pc j <;> rw [hj'] at hj <;> exact hj
  · exact h.goto rfl ⟨hmux, rfl⟩ (fun j hj => holds_store hj hmux hnone none) h.left

theorem Inv.register (h : s.Inv) (hup : s.reset c = false) :
    ((s.pushBack i c).goto i (.ready c)).Inv := by
  have hlist : ∀ c', c' ≠ c → (s.pushBack i c).activeRequests c' = s.activeRequests c' :=
    fun c' hne => Function.update_of_ne hne _ _
  have hpushed : (s.pushBack i c).activeRequests c = s.activeRequests c ++ [i] :=
    Function.update_self _ _ _
  refine h.goto rfl ?_ (fun j _ hj => ?_) (fun c' hreset => ?_)
  · intro _
    rw [hpushed]
    exact List.mem_append_right _ (List.mem_singleton_self i)
  · cases hj' : s.pc j with
    | ready c' =>
      -- the other requests of the client stay in its list
      rw [hj'] at hj
      intro hreset
      by_cases hne : c' = c
      · subst hne
        rw [hpushed]
        exact List.mem_append_left _ (hj hreset)
      · rw [hlist c' hne]
        exact hj hreset
    | _ =>
      rw [hj'] at hj
      exact hj
  · rw [hlist c' (fun heq => absurd (hup.symm.trans (heq ▸ hreset)) Bool.false_ne_true)]
    exact h.left c' hreset

/-- **A step of a call** keeps the invariant. -/
theorem Inv.call (h : s.Inv) {answer : Bool} (hcond : s.Undisturbed (.call i answer))
    (hstep : s.callStep i answer = some s') : s'.Inv := by
  have hi := h.holds i
  unfold callStep at hstep
  cases hpc : s.pc i with
  | lock =>
    rw [hpc] at hstep
    dsimp only at hstep
    split at hstep
    next hfree =>
      cases hstep
      exact h.goto rfl rfl (fun j hj => holds_mux hj (Or.inl hfree) _) h.left
    next => cases hstep
  | look =>
    rw [hpc] at hstep hi
    cases hstep
    refine h.moves ?_
    split
    next hnone => exact ⟨hi, hnone⟩
    next => exact hi
  | dial =>
    rw [hpc] at hstep hi
    cases hstep
    exact h.newActiveClient hi.1 hi.2 answer
  | store ac =>
    rw [hpc] at hstep hi
    cases hstep
    obtain ⟨hmux, hnone⟩ := hi
    exact h.goto rfl hmux (fun j hj => holds_store hj hmux hnone ac) h.left
  | unlock =>
    rw [hpc] at hstep hi
    cases hstep
    exact h.goto rfl trivial (fun j hj => holds_mux hj (Or.inr hi) _) h.left
  | test =>
    rw [hpc] at hstep
    cases hstep
    refine h.moves ?_
    split <;> trivial
  | canCreate =>
    rw [hpc] at hstep
    cases hstep
    refine h.moves ?_
    -- admitted only with a client that is up
    split
    next hanswer => exact hcond hpc hanswer
    next => trivial
  | count =>
    rw [hpc] at hstep hi
    cases hstep
    obtain ⟨c, hc, hreset⟩ := hi
    refine h.moves ?_
    -- the field was not cleared in the meantime
    rw [if_neg (by rw [hc]; exact fun h => by cases h)]
    exact ⟨c, hc, hreset⟩
  | increase =>
    rw [hpc] at hstep hi
    cases hstep
    exact h.moves hi
  | read =>
    rw [hpc] at hstep hi
    obtain ⟨c, hc, hreset⟩ := hi
    simp only [hc] at hstep
    cases hstep
    exact h.moves hreset
  | register c =>
    rw [hpc] at hstep hi
    cases hstep
    exact h.register hi
  | failed | ready | panicked =>
    rw [hpc] at hstep
    cases hstep

/-- **The codec client resets its requests** while none is on its way. -/
theorem Inv.codecOnEvent (h : s.Inv) (hcond : s.Undisturbed (.codecOnEvent c)) :
    (s.codecOnEvent c).Inv := by
  have hother : ∀ c', c' ≠ c → s.reset c' = false → (s.codecOnEvent c).reset c' = false := by
    intro c' hne hreset
    exact (Function.update_of_ne hne _ _).trans hreset
  -- a call that relies on a client relies on another one
  have hrelies : ∀ i, s.Relies i → (∃ c', s.activeClient = some c' ∧ s.reset c' = false) →
      ∃ c', s.activeClient = some c' ∧ (s.codecOnEvent c).reset c' = false := by
    rintro i hi ⟨c', hc', hreset⟩
    refine ⟨c', hc', hother c' ?_ hreset⟩
    rintro rfl
    exact (hcond i).2 hi hc'
  refine ⟨fun i => ?_, fun c' hreset => ?_⟩
  · have hi := h.holds i
    show (s.codecOnEvent c).Holds i (s.pc i)
    cases hpc : s.pc i with
    | count =>
      rw [hpc] at hi
      exact hrelies i (Or.inl hpc) hi
    | increase =>
      rw [hpc] at hi
      exact hrelies i (Or.inr (Or.inl hpc)) hi
    | read =>
      rw [hpc] at hi
      exact hrelies i (Or.inr (Or.inr hpc)) hi
    | register c' =>
      rw [hpc] at hi
      refine hother c' ?_ hi
      rintro rfl
      exact (hcond i).1 hpc
    | ready c' =>
      rw [hpc] at hi
      intro hreset
      by_cases hne : c' = c
      · subst hne
        rw [show (s.codecOnEvent c').reset c' = true from Function.update_self _ _ _] at hreset
        cases hreset
      · rw [show (s.codecOnEvent c).activeRequests c' = s.activeRequests c'
          from Function.update_of_ne hne _ _]
        exact hi ((Function.update_of_ne hne _ _).symm.trans hreset)
    | _ =>
      rw [hpc] at hi
      exact hi
  · by_cases hne : c' = c
    · subst hne
      exact Function.update_self _ _ _
    · rw [show (s.codecOnEvent c).activeRequests c' = s.activeRequests c'
        from Function.update_of_ne hne _ _]
      exact h.left c' ((Function.update_of_ne hne _ _).symm.trans hreset)

/-- **The field is cleared** while no call relies on it. -/
theorem Inv.onConnectionEvent (h : s.Inv)
    (hcond : s.Undisturbed (.onConnectionEvent c)) : (s.onConnectionEvent c).Inv := by
  refine ⟨fun i => ?_, h.left⟩
  have hi := h.holds i
  show (s.onConnectionEvent c).Holds i (s.pc i)
  cases hpc : s.pc i with
  | count => exact absurd (Or.inl hpc) (hcond i)
  | increase => exact absurd (Or.inr (Or.inl hpc)) (hcond i)
  | read => exact absurd (Or.inr (Or.inr hpc)) (hcond i)
  | dial | store =>
    rw [hpc] at hi
    exact ⟨hi.1, rfl⟩
  | _ =>
    rw [hpc] at hi
    exact hi

theorem Inv.step (h : s.Inv) {a : Action} (hcond : s.Undisturbed a) (hstep : Step s a s') :
    s'.Inv := by
  unfold Step Pool.step at hstep
  cases a with
  | call i answer => exact h.call hcond hstep
  | codecOnEvent c =>
    dsimp only at hstep
    split at hstep
    · cases hstep
      exact h.codecOnEvent hcond
    · cases hstep
  | onConnectionEvent c =>
    dsimp only at hstep
    split at hstep
    · cases hstep
      exact h.onConnectionEvent hcond
    · cases hstep

end Steps

/-! ## §3. Every order of steps. -/

/-- **Opening streams against closing connections.**  From a pool in any state,
with any number of calls and close events in any order: if every step meets
the condition, no call dereferences a nil client, and no request is left on a
client that has reset its requests. -/
theorem undisturbed_safe {s₀ s : Pool} {as : List Action} (hidle : s₀.Idle)
    (hrun : Run Step s₀ as s) (hcond : EveryStep Step Undisturbed s₀ as) : s.Safe :=
  (hrun.guarded Inv (fun _ _ _ h hcond hstep => h.step hcond hstep) hidle.inv hcond).safe

/-- A pool with a client that is up. -/
def connectedPool : Pool where
  activeClient := some 0
  next := 1
  connected := fun c => c == 0

theorem connectedPool_idle : connectedPool.Idle := ⟨rfl, fun _ => rfl, fun _ _ => rfl⟩

/-- A call runs to its end, and then the connection is closed. -/
def wholeCall : List Action :=
  List.replicate 9 (.call 0 true) ++ [.codecOnEvent 0, .onConnectionEvent 0]

/-- A test for steps of the first call, and of a close when it is over. -/
def admitsUp (s : Pool) : Action → Bool
  | .call i answer =>
    i == 0 && (s.pc i ≠ .canCreate || !answer || s.activeClient.any fun c => !s.reset c)
  | _ => s.pc 0 = .ready 0

/-- No other call has begun. -/
def Alone (s : Pool) : Prop := ∀ i, i ≠ 0 → s.pc i = .lock

variable {s s' : Pool} {i j : Nat}

theorem goto_pc (s : Pool) (pc : Pc) (hne : j ≠ i) : (s.goto i pc).pc j = s.pc j := by
  simp only [goto, Function.update_of_ne hne]

theorem callStep_pc {answer : Bool} (h : s.callStep i answer = some s') (hne : j ≠ i) :
    s'.pc j = s.pc j := by
  unfold callStep at h
  split at h <;> grind [goto_pc, Pool.newActiveClient, pushBack]

theorem Alone.step (h : s.Alone) {a : Action} (ha : s.admitsUp a = true) (hstep : Step s a s') :
    s'.Alone := by
  intro i hi
  cases a with
  | call k answer =>
    have hk : k = 0 := by
      simp only [admitsUp, Bool.and_eq_true, beq_iff_eq] at ha
      exact ha.1
    rw [callStep_pc hstep (by rwa [hk]), h i hi]
  | codecOnEvent c =>
    obtain ⟨-, hs'⟩ := Option.ite_none_right_eq_some.mp hstep
    cases hs'
    exact h i hi
  | onConnectionEvent c =>
    obtain ⟨-, hs'⟩ := Option.ite_none_right_eq_some.mp hstep
    cases hs'
    exact h i hi

theorem Alone.over (h : s.Alone) (hready : s.pc 0 = .ready 0) (i : Nat) :
    (∀ c, s.pc i ≠ .register c) ∧ ¬ s.Relies i := by
  unfold Relies
  by_cases hi : i = 0
  · rw [hi, hready]
    simp
  · rw [h i hi]
    simp

theorem undisturbed_of_admitsUp (h : s.Alone) {a : Action} (ha : s.admitsUp a = true) :
    s.Undisturbed a := by
  cases a with
  | call i answer =>
    intro hpc hanswer
    simp only [admitsUp, hpc, hanswer, ne_eq, not_true_eq_false, decide_false, Bool.not_true,
      Bool.or_false, Bool.false_or, Bool.and_eq_true, Option.any_eq_true, Bool.not_eq_true'] at ha
    exact ha.2
  | codecOnEvent c =>
    intro i
    obtain ⟨hregister, hrelies⟩ := h.over (of_decide_eq_true ha) i
    exact ⟨hregister c, fun hi => absurd hi hrelies⟩
  | onConnectionEvent c =>
    intro i
    exact (h.over (of_decide_eq_true ha) i).2

theorem wholeCall_safe : ∃ s, Run Step connectedPool wholeCall s ∧ s.pc 0 = .ready 0
    ∧ s.reset 0 = true ∧ s.Safe := by
  have hrun : ∃ s, runSteps Pool.step connectedPool wholeCall = some s ∧ s.pc 0 = .ready 0
      ∧ s.reset 0 = true := ⟨_, rfl, by decide, by decide⟩
  have hcheck : checkSteps Pool.step admitsUp connectedPool wholeCall = true := by decide
  have hup : EveryStep Step (fun s a => s.admitsUp a = true) connectedPool wholeCall :=
    everyStep_of_checkSteps (fun _ _ h => h) hcheck
  have halone : EveryState Step Alone connectedPool wholeCall :=
    hup.everyState Alone (fun _ _ _ h ha hstep => h.step ha hstep) fun _ _ => rfl
  have hcond : EveryStep Step Undisturbed connectedPool wholeCall := by
    intro before a after t hall hbefore
    exact undisturbed_of_admitsUp (halone before (a :: after) t hall hbefore)
      (hup before a after t hall hbefore)
  obtain ⟨s, hsteps, hready, hreset⟩ := hrun
  exact ⟨s, run_of_runSteps hsteps, hready, hreset,
    undisturbed_safe connectedPool_idle (run_of_runSteps hsteps) hcond⟩

/-- The connection is closed after the second test of the field. -/
def closedBeforeUse : List Action :=
  List.replicate 5 (.call 0 true) ++ [.codecOnEvent 0, .onConnectionEvent 0, .call 0 true]

/-- The same, with the pool told only at the end. -/
def registeredTooLate : List Action :=
  List.replicate 5 (.call 0 true) ++ .codecOnEvent 0 :: List.replicate 4 (.call 0 true)
    ++ [.onConnectionEvent 0]

/-- **Both go wrong**: the one call dereferences a nil client, the request of
the other stays on a client whose close event is over. -/
theorem closed_in_between : (∃ s, Run Step connectedPool closedBeforeUse s ∧ s.pc 0 = .panicked)
      ∧ ∃ s, Run Step connectedPool registeredTooLate s ∧ s.pc 0 = .ready 0
        ∧ s.reset 0 = true ∧ s.cleared 0 = true ∧ s.activeRequests 0 = [0] :=
  ⟨⟨_, run_of_runSteps (f := Pool.step) rfl, by decide⟩,
    ⟨_, run_of_runSteps (f := Pool.step) rfl, by decide, by decide, by decide, by decide⟩⟩

end Pool

end Mosn.Stream.SofaRpc.ConnPool
