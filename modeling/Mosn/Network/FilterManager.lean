/-
  Mosn.Network.FilterManager
  **READ FILTERS ARE OPENED ONCE AND IN ORDER**
  (`pkg/network/filtermanager.go`).

  `onContinueReading` walks over the filters, from the first one or from behind
  the one that continues, and its callbacks may call it again: so there is a
  STACK of walks.  A filter is marked before its `OnNewConnection` is called,
  and no walk is ever behind a filter that is not marked.

    • `filters_opened_in_order` — for all nested and resumed walks.
-/
import Mosn.Lib.Table
import Mosn.Lib.Transition
import Mosn.Types.Exception

namespace Mosn.Network

open Mosn.Lib Mosn.Types

/-- `activeReadFilter`. -/
structure ActiveReadFilter where
  index : Nat := 0
  initialized : Bool := false

/-- Where a call of `onContinueReading` is: at the head of its loop, in
`OnNewConnection`, at the test of the read buffer, in `OnData`. -/
inductive Walk where
  | head (index : Nat)
  | opening (index : Nat)
  | opened (index : Nat)
  | reading (index : Nat)

/-- All filters in front of this index were visited. -/
def Walk.reached : Walk → Nat
  | .head i => i
  | .opening i | .opened i | .reading i => i + 1

/-- A callback of the filter at an index. -/
inductive FilterCallback where
  | onNewConnection (index : Nat)
  | onData (index : Nat)

/-- `filterManager`, with the walks that run, the innermost one first, and the
callbacks that were called. -/
structure FilterManager where
  upstreamFilters : List ActiveReadFilter := []
  walks : List Walk := []
  log : List FilterCallback := []

/-- What can happen. -/
inductive FilterAction where
  | addReadFilter
  | onRead
  | initializeReadFilters
  /-- `ContinueReading` of the filter at an index. -/
  | continueReading (index : Nat)
  /-- The innermost walk goes on; `data` says whether the read buffer has any. -/
  | walk (data : Bool)
  /-- The callback of the innermost walk returns. -/
  | answer (status : FilterStatus)

namespace FilterManager

/-- A walk can be started: none runs, or the innermost one is in a callback. -/
def callable (s : FilterManager) : Bool :=
  match s.walks with
  | [] | .opening _ :: _ | .reading _ :: _ => true
  | _ => false

def enter (s : FilterManager) (index : Nat) : FilterManager :=
  { s with walks := .head index :: s.walks }

def step (s : FilterManager) : FilterAction → Option FilterManager
  | .addReadFilter => some { s with upstreamFilters := s.upstreamFilters ++ [{}] }
  | .onRead => if s.callable then s.enter 0 else none
  | .initializeReadFilters =>
    if s.callable then if s.upstreamFilters = [] then s else s.enter 0 else none
  | .continueReading i =>
    -- the filter was visited, so it is marked
    match s.upstreamFilters[i]? with
    | some uf => if s.callable ∧ uf.initialized then s.enter (uf.index + 1) else none
    | none => none
  | .walk data =>
    match s.walks with
    | .head i :: rest =>
      match s.upstreamFilters[i]? with
      | some uf =>
        let visited := s.upstreamFilters.modify i fun _ => ⟨i, true⟩
        if uf.initialized then some ⟨visited, .opened i :: rest, s.log⟩
        else some ⟨visited, .opening i :: rest, s.log ++ [.onNewConnection i]⟩
      | none => some { s with walks := rest }
    | .opened i :: rest =>
      if data then some { s with walks := .reading i :: rest, log := s.log ++ [.onData i] }
      else some { s with walks := .head (i + 1) :: rest }
    | _ => none
  | .answer status =>
    match s.walks with
    | .opening i :: rest =>
      some { s with walks := if status = .stopIteration then rest else .opened i :: rest }
    | .reading i :: rest =>
      some { s with walks := if status = .stopIteration then rest else .head (i + 1) :: rest }
    | _ => none

def Step (s : FilterManager) (a : FilterAction) (s' : FilterManager) : Prop := s.step a = some s'

/-- The filters whose `OnNewConnection` was called, in this order. -/
def connected (log : List FilterCallback) : List Nat :=
  log.filterMap fun
    | .onNewConnection i => some i
    | .onData _ => none

/-- `OnData` of a filter comes after its `OnNewConnection`. -/
def Ordered (log : List FilterCallback) : Prop :=
  ∀ t i : Nat, log[t]? = some (.onData i) → ∃ t' < t, log[t']? = some (.onNewConnection i)

theorem Ordered.append {log : List FilterCallback} {c : FilterCallback} (h : Ordered log)
    (hc : ∀ i, c = .onData i → .onNewConnection i ∈ log) : Ordered (log ++ [c]) := by
  intro t i ht
  rcases getElem?_added ht with hold | ⟨rfl, heq⟩
  · obtain ⟨t', hlt, ht'⟩ := h t i hold
    exact ⟨t', hlt, getElem?_kept ht'⟩
  · obtain ⟨t', hlt, ht'⟩ := List.getElem_of_mem (hc i heq.symm)
    exact ⟨t', hlt, getElem?_kept (List.getElem?_eq_some_iff.mpr ⟨hlt, ht'⟩)⟩

/-- The first `k` filters are open. -/
structure Opened (s : FilterManager) (k : Nat) : Prop where
  le : k ≤ s.upstreamFilters.length
  marked : ∀ i uf, s.upstreamFilters[i]? = some uf → (uf.initialized = true ↔ i < k)
  index : ∀ i uf, s.upstreamFilters[i]? = some uf → i < k → uf.index = i
  walks : ∀ w ∈ s.walks, w.reached ≤ k
  called : connected s.log = List.range k
  ordered : Ordered s.log

variable {s s' : FilterManager} {k i : Nat} {walks : List Walk}

theorem Opened.walking (h : s.Opened k) (hwalks : ∀ w ∈ walks, w.reached ≤ k) :
    Opened { s with walks } k :=
  ⟨h.le, h.marked, h.index, hwalks, h.called, h.ordered⟩

theorem Opened.enter (h : s.Opened k) (hi : i ≤ k) : (s.enter i).Opened k :=
  h.walking (List.forall_mem_cons.mpr ⟨hi, h.walks⟩)

theorem Opened.onData (h : s.Opened k) (hi : i < k) (hwalks : ∀ w ∈ walks, w.reached ≤ k) :
    Opened { s with walks, log := s.log ++ [.onData i] } k := by
  have hmem : i ∈ connected s.log := by rw [h.called]; exact List.mem_range.mpr hi
  refine ⟨h.le, h.marked, h.index, hwalks, ?_, h.ordered.append ?_⟩
  · rw [← h.called]
    simp [connected]
  · grind [connected]

theorem Opened.onNewConnection (h : s.Opened k) (hk : k < s.upstreamFilters.length)
    (hwalks : ∀ w ∈ walks, w.reached ≤ k + 1) :
    Opened ⟨s.upstreamFilters.modify k fun _ => ⟨k, true⟩, walks, s.log ++ [.onNewConnection k]⟩
      (k + 1) := by
  refine ⟨by rwa [List.length_modify], ?_, ?_, hwalks, ?_, h.ordered.append nofun⟩
  · intro i uf huf
    obtain ⟨x, hx, rfl⟩ := getElem?_modified huf
    grind [h.marked i x hx]
  · intro i uf huf hi
    obtain ⟨x, hx, rfl⟩ := getElem?_modified huf
    grind [h.index i x hx]
  · rw [List.range_succ, ← h.called]
    simp [connected]

theorem Opened.addReadFilter (h : s.Opened k) :
    Opened { s with upstreamFilters := s.upstreamFilters ++ [{}] } k := by
  have hle := h.le
  refine ⟨?_, fun i uf huf => ?_, fun i uf huf => ?_, h.walks, h.called, h.ordered⟩
  · grind
  · rcases getElem?_added huf with hold | ⟨rfl, rfl⟩
    · exact h.marked i uf hold
    · exact iff_of_false Bool.false_ne_true (Nat.not_lt.mpr hle)
  · grind [getElem?_added huf, h.index i uf]

theorem Opened.revisited {uf : ActiveReadFilter} (h : s.Opened k)
    (huf : s.upstreamFilters[i]? = some uf) (hi : i < k) :
    (s.upstreamFilters.modify i fun _ => ⟨i, true⟩) = s.upstreamFilters := by
  have hself : uf = ⟨i, true⟩ := by
    have hindex := h.index i uf huf hi
    have hmarked := (h.marked i uf huf).mpr hi
    cases uf
    cases hindex
    cases hmarked
    rfl
  apply List.ext_getElem?
  grind

/-- **What one action does to the open filters.** -/
theorem Opened.step {a : FilterAction} (h : s.Opened k) (hstep : Step s a s') :
    ∃ k', s'.Opened k' := by
  have hwalks := h.walks
  simp only [Step] at hstep
  cases a with
  | addReadFilter =>
    cases hstep
    exact ⟨k, h.addReadFilter⟩
  | onRead | initializeReadFilters => grind [FilterManager.step, h.enter (Nat.zero_le k)]
  | continueReading i =>
    simp only [FilterManager.step] at hstep
    split at hstep
    next uf huf =>
      -- the next filter is the one behind it
      obtain ⟨⟨-, hvisited⟩, hs'⟩ := Option.ite_none_right_eq_some.mp hstep
      have hi := (h.marked i uf huf).mp hvisited
      rw [h.index i uf huf hi] at hs'
      cases hs'
      exact ⟨k, h.enter hi⟩
    next => cases hstep
  | walk data =>
    simp only [FilterManager.step] at hstep
    split at hstep
    next i rest htop =>
      rw [htop, List.forall_mem_cons] at hwalks
      split at hstep
      next uf huf =>
        split at hstep
        next hvisited =>
          have hi := (h.marked i uf huf).mp hvisited
          rw [h.revisited huf hi] at hstep
          cases hstep
          exact ⟨k, h.walking (List.forall_mem_cons.mpr ⟨hi, hwalks.2⟩)⟩
        next hfresh =>
          cases hstep
          obtain rfl : i = k := by grind [h.marked i uf huf, Walk.reached]
          refine ⟨i + 1, h.onNewConnection (List.getElem?_eq_some_iff.mp huf).1 ?_⟩
          exact List.forall_mem_cons.mpr
            ⟨Nat.le_refl _, fun w hw => Nat.le_succ_of_le (hwalks.2 w hw)⟩
      next =>
        cases hstep
        exact ⟨k, h.walking hwalks.2⟩
    next i rest htop =>
      rw [htop, List.forall_mem_cons] at hwalks
      split at hstep
      · cases hstep
        exact ⟨k, h.onData hwalks.1 (List.forall_mem_cons.mpr hwalks)⟩
      · cases hstep
        exact ⟨k, h.walking (List.forall_mem_cons.mpr hwalks)⟩
    next => cases hstep
  | answer status =>
    simp only [FilterManager.step] at hstep
    split at hstep
    case h_1 i rest htop | h_2 i rest htop =>
      rw [htop, List.forall_mem_cons] at hwalks
      cases hstep
      refine ⟨k, h.walking ?_⟩
      split
      · exact hwalks.2
      · exact List.forall_mem_cons.mpr hwalks
    case h_3 => cases hstep

/-- **The filters are opened once and in order**: after any calls, from outside
or from inside of callbacks, the marked filters are the first ones, their
`OnNewConnection` was called once each in the order of the list, and `OnData` of
a filter only later. -/
theorem filters_opened_in_order {as : List FilterAction} (hrun : Run Step {} as s) :
    ∃ k ≤ s.upstreamFilters.length,
      (∀ i uf, s.upstreamFilters[i]? = some uf → (uf.initialized = true ↔ i < k))
      ∧ connected s.log = List.range k ∧ Ordered s.log := by
  have hnew : ({} : FilterManager).Opened 0 := by constructor <;> simp [connected, Ordered]
  obtain ⟨k, h⟩ := hrun.invariant (fun s => ∃ k, s.Opened k)
    (fun _ _ _ ⟨_, h⟩ hstep => h.step hstep) ⟨0, hnew⟩
  exact ⟨k, h.le, h.marked, h.called, h.ordered⟩

/-- The first of two filters stops the new connection, but has continued from
inside of that callback; then there is data. -/
def continuedInside : List FilterAction :=
  [.addReadFilter, .addReadFilter, .initializeReadFilters, .walk false, .continueReading 0,
    .walk false, .answer .stopIteration, .answer .stopIteration, .onRead, .walk true, .walk true]

theorem continuedInside_opened :
    ∃ s, Run Step {} continuedInside s ∧ connected s.log = [0, 1] ∧ Ordered s.log := by
  obtain ⟨s, hsteps, hlog⟩ : ∃ s, runSteps step {} continuedInside = some s
      ∧ connected s.log = [0, 1] := ⟨_, rfl, rfl⟩
  have hrun := run_of_runSteps hsteps
  obtain ⟨k, -, -, -, hordered⟩ := filters_opened_in_order hrun
  exact ⟨s, hrun, hlog, hordered⟩

end FilterManager

end Mosn.Network
