/-
  Mosn.Stream.RequestLimit
  **THE LIMIT ON REQUESTS, UNDER CONCURRENT CALLS.**

  `NewStream` of every pool reads the cluster's counter (`CanCreate`) and, if
  there is room, adds to it (`Increase`).  The two are separate atomic
  operations on a counter that all pools of the cluster share, and calls on
  different workers interleave between them:

    • `doubleCheck_over_limit` — two calls that look before either counts are
      both let in,
    • `Alone`, `limit_of_alone` — while no call looks between the look and
      the count of another one the limit is kept, and nobody is turned away
      while there is room.
-/
import Mosn.Lib.Table
import Mosn.Stream.CodecClient

namespace Mosn.Stream.Codec

open Mosn.Lib

/-! ## §1. The counter. -/

theorem Resource.canCreate_iff (r : Resource) :
    r.canCreate = true ↔ r.current.toInt < r.max.toNat := by
  unfold canCreate
  have hzero : (0 : Int64).toInt = 0 := rfl
  split
  next hneg =>
    rw [Int64.lt_iff_toInt_lt, hzero] at hneg
    constructor
    · intro _
      omega
    · intro _
      rfl
  next hpos =>
    have hle : 0 ≤ r.current := Int64.not_lt.mp hpos
    rw [Int64.lt_iff_toInt_lt, hzero] at hpos
    have hnat : (r.current.toUInt64.toNat : Int) = r.current.toInt := by
      rw [Int64.toNat_toUInt64_of_le hle]
      show (r.current.toInt.toNat : Int) = r.current.toInt
      omega
    rw [decide_eq_true_iff, UInt64.lt_iff_toNat_lt]
    omega

/-! ## §2. Calls, step by step. -/

/-- Where a call of `NewStream` stands. -/
inductive Pc where
  /-- It gets a client of its host. -/
  | client
  | canCreate
  | increase
  /-- The request is counted and made (`OnReady`). -/
  | ready
  /-- `OnFailure`. -/
  | connectionFailure
  | overflow
  /-- The request was destroyed. -/
  | destroyed
  deriving Repr, DecidableEq

/-- The call has not returned. -/
def Pc.inProgress : Pc → Bool
  | .client | .canCreate | .increase => true
  | _ => false

/-- The requests of a cluster, and all calls of `NewStream` on its pools. -/
structure Calls where
  requests : Resource
  calls : List Pc := []

/-- One atomic operation, or what lies between two of them. -/
inductive CallAction where
  /-- `NewStream` is called, on any pool of any protocol. -/
  | newStream
  /-- There is a client, or there is none. -/
  | getClient (i : Nat) (found : Bool)
  | canCreate (i : Nat)
  | increase (i : Nat)
  /-- The request completes or is reset: `onStreamDestroy`. -/
  | onStreamDestroy (i : Nat)
  deriving Repr, DecidableEq

/-- An operation of call `i`, or the end of a request. -/
def CallAction.Own (i : Nat) : CallAction → Prop
  | .newStream => False
  | .getClient j _ => j = i
  | .canCreate j => j = i
  | .increase j => j = i
  | .onStreamDestroy _ => True

namespace Calls

@[local grind]
def goto (s : Calls) (i : Nat) (pc : Pc) : Calls := { s with calls := s.calls.set i pc }

/-- An operation of call `i`, which stands at `pc`. -/
def act (s : Calls) (i : Nat) (pc : Pc) (f : Calls → Calls) : Option Calls :=
  if s.calls[i]? = some pc then some (f s) else none

def step (s : Calls) : CallAction → Option Calls
  | .newStream => some { s with calls := s.calls ++ [.client] }
  | .getClient i found =>
    s.act i .client fun s => s.goto i (if found then .canCreate else .connectionFailure)
  | .canCreate i =>
    s.act i .canCreate fun s => s.goto i (if !s.requests.canCreate then .overflow else .increase)
  | .increase i =>
    s.act i .increase fun s => { s.goto i .ready with requests := s.requests.increase }
  | .onStreamDestroy i =>
    s.act i .ready fun s => { s.goto i .destroyed with requests := s.requests.decrease }

/-- `step` as a relation. -/
def Step (s : Calls) (a : CallAction) (s' : Calls) : Prop := s.step a = some s'

/-- A cluster without requests. -/
def new (max : UInt64) : Calls where
  requests := ⟨0, max⟩

/-- The number of calls at `pc`. -/
def standing (s : Calls) (pc : Pc) : Nat := (s.calls.map fun pc' => if pc' = pc then 1 else 0).sum

/-- **What a step does**: a call is made, or one call moves on and the counter
with it. -/
theorem step_cases {s s' : Calls} {a : CallAction} (h : s.Step a s') :
    (a = .newStream ∧ s' = { s with calls := s.calls ++ [.client] })
      ∨ (∃ i found, a = .getClient i found ∧ s.calls[i]? = some .client
          ∧ s' = s.goto i (if found then .canCreate else .connectionFailure))
      ∨ (∃ i, a = .canCreate i ∧ s.calls[i]? = some .canCreate
          ∧ s' = s.goto i (if !s.requests.canCreate then .overflow else .increase))
      ∨ (∃ i, a = .increase i ∧ s.calls[i]? = some .increase
          ∧ s' = { s.goto i .ready with requests := s.requests.increase })
      ∨ (∃ i, a = .onStreamDestroy i ∧ s.calls[i]? = some .ready
          ∧ s' = { s.goto i .destroyed with requests := s.requests.decrease }) := by
  unfold Step step act at h
  cases a with
  | newStream =>
    cases h
    exact Or.inl ⟨rfl, rfl⟩
  | getClient | canCreate | increase | onStreamDestroy => grind

theorem standing_goto {s : Calls} {i : Nat} {old : Pc} (hi : s.calls[i]? = some old) (new pc : Pc) :
    (s.goto i new).standing pc + (if old = pc then 1 else 0)
      = s.standing pc + (if new = pc then 1 else 0) :=
  sum_map_set (fun pc' => if pc' = pc then 1 else 0) new hi

theorem standing_newStream (s : Calls) (pc : Pc) (hpc : pc ≠ .client) :
    ({ s with calls := s.calls ++ [.client] } : Calls).standing pc = s.standing pc := by
  show ((s.calls ++ [Pc.client]).map fun pc' => if pc' = pc then 1 else 0).sum = _
  rw [List.map_append, List.sum_append]
  simp [standing, Ne.symm hpc]

/-! ## §3. The limit is kept. -/

/-- No call looks at the counter while another one has looked and not yet
counted itself. -/
def Alone (s : Calls) : CallAction → Prop
  | .canCreate _ => Pc.increase ∉ s.calls
  | _ => True

instance (s : Calls) : (a : CallAction) → Decidable (s.Alone a)
  | .newStream => instDecidableTrue
  | .getClient .. => instDecidableTrue
  | .canCreate _ => inferInstanceAs (Decidable (Pc.increase ∉ s.calls))
  | .increase _ => instDecidableTrue
  | .onStreamDestroy _ => instDecidableTrue

/-- The counter counts the requests; with those that are let in there are no
more than the limit, if it is one that the counter can reach. -/
@[local grind cases]
structure Within (max : UInt64) (s : Calls) : Prop where
  max_eq : s.requests.max = max
  current : s.requests.current = Int64.ofNat (s.standing .ready)
  within : max.toNat < 2 ^ 63 → s.standing .ready + s.standing .increase ≤ max.toNat

theorem new_within (max : UInt64) : (new max).Within max where
  max_eq := rfl
  current := rfl
  within := fun _ => Nat.zero_le _

variable {max : UInt64} {s s' : Calls} {as : List CallAction}

theorem Within.toInt (h : s.Within max) (hmax : max.toNat < 2 ^ 63) :
    s.requests.current.toInt = s.standing .ready := by
  have hle := h.within hmax
  rw [h.current, Int64.toInt_ofNat_of_lt (by omega)]

/-- **The invariant says that the limit is kept.**  A limit from 2⁶³ on is
above every value of the counter. -/
theorem Within.le (h : s.Within max) : s.requests.current.toInt ≤ max.toNat := by
  by_cases hmax : max.toNat < 2 ^ 63
  · have hle := h.within hmax
    rw [h.toInt hmax]
    omega
  · have hlt := s.requests.current.toInt_lt
    omega

theorem Within.lt_iff (h : s.Within max) : s.requests.current.toInt < max.toNat
      ↔ (max.toNat < 2 ^ 63 → s.standing .ready < max.toNat) := by
  by_cases hmax : max.toNat < 2 ^ 63
  · rw [h.toInt hmax]
    grind
  · have hlt := s.requests.current.toInt_lt
    constructor
    · intro _ hmax'
      omega
    · intro _
      omega

variable {pc old : Pc} {i j : Nat} {a : CallAction}

theorem standing_eq_zero (h : pc ∉ s.calls) : s.standing pc = 0 := by
  unfold standing
  generalize s.calls = calls at h
  induction calls with
  | nil => rfl
  | cons pc' calls ih => grind

theorem Within.goto (h : s.Within max) {new : Pc} (hi : s.calls[i]? = some old)
    (hold : old ≠ .ready) (hnew : new ≠ .ready)
    (hroom : max.toNat < 2 ^ 63 → new = .increase → s.standing .ready + s.standing .increase
      < max.toNat) : (s.goto i new).Within max := by
  have hready := standing_goto hi new .ready
  have hincrease := standing_goto hi new .increase
  rw [if_neg hold, if_neg hnew] at hready
  refine ⟨h.max_eq, ?_, ?_⟩
  · show s.requests.current = _
    rw [h.current]
    congr 1
    omega
  · grind

/-- **Steps of calls that look alone keep the limit.** -/
theorem Within.step (h : s.Within max) (ha : s.Alone a) (hstep : s.Step a s') : s'.Within max := by
  rcases step_cases hstep with ⟨-, rfl⟩ | ⟨i, found, -, hi, rfl⟩ | ⟨i, rfl, hi, rfl⟩
    | ⟨i, -, hi, rfl⟩ | ⟨i, -, hi, rfl⟩
  · refine ⟨h.max_eq, ?_, ?_⟩
    · rw [standing_newStream s .ready (by decide)]
      exact h.current
    · grind [standing_newStream]
  · refine h.goto hi (by decide) ?_ ?_
    · cases found <;> decide
    · intro _ hin
      cases found <;> cases hin
  · -- the call that looks is the only one that may still count itself
    have hnone := standing_eq_zero ha
    cases hcan : s.requests.canCreate with
    | false => exact h.goto hi (by decide) (by decide) fun _ hin => by cases hin
    | true =>
      refine h.goto hi (by decide) (by decide) fun hmax _ => ?_
      have hlt := s.requests.canCreate_iff.mp hcan
      rw [h.toInt hmax, h.max_eq] at hlt
      omega
  · have hready := standing_goto hi .ready .ready
    have hincrease := standing_goto hi .ready .increase
    rw [if_neg (by decide), if_pos rfl] at hready
    rw [if_pos rfl, if_neg (by decide)] at hincrease
    refine ⟨h.max_eq, ?_, ?_⟩
    · show s.requests.current + 1 = Int64.ofNat ((s.goto i .ready).standing .ready)
      rw [h.current, show (s.goto i .ready).standing .ready = s.standing .ready + 1 from by omega,
        Int64.ofNat_add]
      rfl
    · intro hmax
      have hle := h.within hmax
      show (s.goto i .ready).standing .ready + (s.goto i .ready).standing .increase ≤ _
      omega
  · have hready := standing_goto hi .destroyed .ready
    have hincrease := standing_goto hi .destroyed .increase
    rw [if_pos rfl, if_neg (by decide)] at hready
    rw [if_neg (by decide), if_neg (by decide)] at hincrease
    refine ⟨h.max_eq, ?_, ?_⟩
    · show s.requests.current - 1 = Int64.ofNat ((s.goto i .destroyed).standing .ready)
      rw [h.current, show s.standing .ready = (s.goto i .destroyed).standing .ready + 1 from by
        omega, Int64.ofNat_add]
      exact Int64.add_sub_cancel _ _
    · intro hmax
      have hle := h.within hmax
      show (s.goto i .destroyed).standing .ready + (s.goto i .destroyed).standing .increase ≤ _
      omega

/-! ## §4. Nobody is turned away while there is room. -/

/-- No call other than `i` is in progress. -/
@[local grind]
def QuietBut (i : Nat) (s : Calls) : Prop :=
  ∀ (j : Nat) (pc : Pc), s.calls[j]? = some pc → j ≠ i → pc.inProgress = false

/-- No call is in progress. -/
@[local grind]
def Quiet (s : Calls) : Prop := ∀ pc ∈ s.calls, pc.inProgress = false

/-- Call `i` on its own: it has not been turned away, and as long as it has
not looked there is room for it. -/
@[local grind cases]
structure Welcome (max : UInt64) (i : Nat) (s : Calls) : Prop where
  within : s.Within max
  quiet : s.QuietBut i
  stands : ∃ pc, s.calls[i]? = some pc ∧ pc ≠ .overflow
    ∧ (pc = .client ∨ pc = .canCreate → s.requests.current.toInt < max.toNat)

theorem getElem?_goto_self (hi : s.calls[i]? = some old) (pc : Pc) :
    (s.goto i pc).calls[i]? = some pc := by
  obtain ⟨hlt, -⟩ := List.getElem?_eq_some_iff.mp hi
  exact List.getElem?_set_self hlt

theorem QuietBut.goto (h : s.QuietBut i) (pc : Pc)
    (hpc : j ≠ i → pc.inProgress = false) : (s.goto j pc).QuietBut i := by
  intro k pc' hk hne
  grind

theorem Welcome.alone (h : s.Welcome max i) (ha : a.Own i) (hstep : s.Step a s') : s.Alone a := by
  cases a with
  | canCreate j =>
    cases ha
    intro hmem
    obtain ⟨j, hlt, hj⟩ := List.getElem_of_mem hmem
    have hlook : s.calls[j]? = some .increase := by
      rw [List.getElem?_eq_getElem hlt, hj]
    have hi : s.calls[i]? = some .canCreate :=
      (Option.ite_none_right_eq_some.mp hstep).1
    by_cases hji : j = i
    · rw [hji, hi] at hlook
      cases hlook
    · exact absurd (h.quiet j _ hlook hji) (by decide)
  | newStream | getClient | increase | onStreamDestroy => trivial

/-- **The call on its own is let in**, whatever requests end meanwhile. -/
theorem Welcome.step (h : s.Welcome max i) (ha : a.Own i)
    (hstep : s.Step a s') : s'.Welcome max i := by
  have hwithin := h.within.step (h.alone ha hstep) hstep
  obtain ⟨pc, hi, hpc, hroom⟩ := h.stands
  rcases step_cases hstep with ⟨rfl, -⟩ | ⟨j, found, rfl, hj, rfl⟩ | ⟨j, rfl, hj, rfl⟩
    | ⟨j, rfl, hj, rfl⟩ | ⟨j, rfl, hj, rfl⟩
  · exact absurd ha id
  · cases ha
    refine ⟨hwithin, h.quiet.goto _ (fun hne => absurd rfl hne), _, getElem?_goto_self hj _, ?_, ?_⟩
    · cases found <;> decide
    · intro _
      rw [hi] at hj
      cases hj
      exact hroom (Or.inl rfl)
  · cases ha
    rw [hi] at hj
    cases hj
    have hlt := hroom (Or.inr rfl)
    have hcan : s.requests.canCreate = true := by
      rw [Resource.canCreate_iff, h.within.max_eq]
      exact hlt
    rw [hcan] at hwithin ⊢
    refine ⟨hwithin, h.quiet.goto _ (fun hne => absurd rfl hne), _, getElem?_goto_self hi _, ?_, ?_⟩
    · decide
    · intro hpc'
      rcases hpc' with hpc' | hpc' <;> cases hpc'
  · cases ha
    refine ⟨hwithin, h.quiet.goto _ (fun hne => absurd rfl hne), _, getElem?_goto_self hj _, ?_, ?_⟩
    · decide
    · intro hpc'
      rcases hpc' with hpc' | hpc' <;> cases hpc'
  · refine ⟨hwithin, h.quiet.goto _ (fun _ => rfl), ?_⟩
    by_cases hji : j = i
    · grind
    · refine ⟨pc, ?_, hpc, ?_⟩
      · show (s.calls.set j _)[i]? = _
        rw [List.getElem?_set_ne hji, hi]
      · intro hpc'
        -- a request less
        rw [hwithin.lt_iff]
        intro hmax
        have hlt := h.within.lt_iff.mp (hroom hpc') hmax
        have hready := standing_goto hj .destroyed .ready
        rw [if_pos rfl, if_neg (by decide)] at hready
        show (s.goto j .destroyed).standing .ready < _
        omega

/-- **The limit on requests.**  In every run in which no call looks at the
counter while another one has looked and not yet counted itself, the counter
stays within the limit; and a call that is made while it is below the limit
and no other call is in progress is not turned away, whatever requests end
before it returns. -/
theorem limit_of_alone (h : Run Step (new max) as s) (halone : EveryStep Step Alone (new max) as) :
    s.requests.max = max ∧ s.requests.current.toInt ≤ max.toNat
      ∧ (s.requests.current.toInt < max.toNat → s.Quiet → ∀ (as' : List CallAction) (s' : Calls),
          (∀ a ∈ as', a.Own s.calls.length) → Run Step s (.newStream :: as') s' →
          s'.calls[s.calls.length]? ≠ some .overflow) := by
  have hwithin := h.guarded (Within max) (fun t a u ht ha hstep => ht.step ha hstep)
    (new_within max) halone
  refine ⟨hwithin.max_eq, hwithin.le, ?_⟩
  intro hlt hquiet as' s' hown hrun hover
  obtain ⟨t, hfirst, hrest⟩ := hrun.first
  have hstart : t.Welcome max s.calls.length := by
    have ht := hwithin.step (a := .newStream) trivial hfirst
    cases hfirst
    refine ⟨ht, ?_, .client, List.getElem?_concat_length, by decide, fun _ => hlt⟩
    grind
  have hend := hrest.guarded (Welcome max s.calls.length) (P := fun _ a => a.Own s.calls.length)
    (fun u a v hu ha hstep => hu.step ha hstep) hstart
    (fun before a after u has _ => hown a (by rw [has]; simp))
  grind

/-- Two requests, one after the other, with a limit of one: the second call is
made when the first request has ended. -/
def oneAfterTheOther : List CallAction :=
  [.newStream, .getClient 0 true, .canCreate 0, .increase 0, .onStreamDestroy 0, .newStream,
    .getClient 1 true, .canCreate 1, .increase 1]

theorem oneAfterTheOther_limit : ∃ s, Run Step (new 1) oneAfterTheOther s
    ∧ EveryStep Step Alone (new 1) oneAfterTheOther
    ∧ s.requests.current.toInt ≤ (1 : UInt64).toNat := by
  have hrun : Run Step (new 1) oneAfterTheOther _ := run_of_runSteps (f := step) rfl
  have halone : EveryStep Step Alone (new 1) oneAfterTheOther :=
    everyStep_of_checkSteps (f := step) (p := fun s a => decide (s.Alone a))
      (fun _ _ h => of_decide_eq_true h) (by decide)
  exact ⟨_, hrun, halone, (limit_of_alone hrun halone).2.1⟩

/-- Two calls that look before either has counted itself. -/
def doubleCheck : List CallAction :=
  [.newStream, .newStream, .getClient 0 true, .getClient 1 true, .canCreate 0, .canCreate 1,
    .increase 0, .increase 1]

/-- **Over the limit**: both calls are let in where there is room for one. -/
theorem doubleCheck_over_limit : ∃ s, Run Step (new 1) doubleCheck s ∧ s.requests.max = 1
    ∧ s.requests.current = 2 ∧ ¬ s.requests.current.toInt ≤ s.requests.max.toNat :=
  ⟨_, run_of_runSteps (f := step) rfl, rfl, by decide, by decide⟩

end Calls

end Mosn.Stream.Codec
