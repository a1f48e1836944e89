/-
  Mosn.Lib.Threads
  **THREADS OVER A SHARED STATE.**

  A thread is the list of operations it still has to execute.  A step takes
  the first operation of one thread and executes it on the shared state; the
  operation is replaced by the operations it calls, and it may start further
  threads.  An operation that cannot be executed now, or not at all, says why
  (`exec` returns an error).

    • `Pool.split_of_step` — a step, with the list of threads split at the
      thread that moves,
    • `Pool.ops`           — all operations still to execute; `step_ops` and
      `ops_fork` say how they change,
    • `Pool.forall_step`   — a property of every thread that survives a step.

  The operations are a multiset: an invariant says how many of a kind there
  are, or that there is one, and not which thread has them.
-/
import Mathlib.Algebra.Order.Group.Multiset
import Mathlib.Tactic.Abel
import Mosn.Lib.Loop

namespace Mosn.Lib

/-- What an operation does: the shared state it leaves, the operations executed
in its place, and the threads it starts. -/
structure Effect (σ ω : Type) where
  shared : σ
  calls : List ω := []
  spawned : List (List ω) := []

structure Pool (σ ω : Type) where
  shared : σ
  threads : List (List ω)

namespace Pool

variable {σ ω ε : Type}

/-- All operations still to execute. -/
def ops (p : Pool σ ω) : Multiset ω := p.threads.flatten

/-- One more thread. -/
def fork (p : Pool σ ω) (thread : List ω) : Pool σ ω :=
  { p with threads := p.threads ++ [thread] }

/-- The thread `i` executes its first operation, if it has one. -/
def step (exec : σ → ω → Except ε (Effect σ ω)) (p : Pool σ ω) (i : Nat) :
    Option (Except ε (Pool σ ω)) :=
  match p.threads[i]? with
  | some (op :: rest) =>
    some ((exec p.shared op).map fun e =>
      ⟨e.shared, p.threads.set i (e.calls ++ rest) ++ e.spawned⟩)
  | some [] | none => none

variable {exec : σ → ω → Except ε (Effect σ ω)} {p p' : Pool σ ω} {i : Nat}

theorem split_of_step (h : step exec p i = some (.ok p')) :
    ∃ before op rest after e, p.threads = before ++ (op :: rest) :: after ∧ before.length = i ∧
      exec p.shared op = .ok e ∧
      p' = ⟨e.shared, before ++ (e.calls ++ rest) :: (after ++ e.spawned)⟩ := by
  unfold step at h
  split at h
  case h_1 op rest hthread =>
    obtain ⟨hi, hget⟩ := List.getElem?_eq_some_iff.mp hthread
    have hsplit : p.threads = p.threads.take i ++ (op :: rest) :: p.threads.drop (i + 1) := by
      rw [← hget, List.getElem_cons_drop, List.take_append_drop]
    obtain ⟨e, hexec, rfl⟩ := map_eq_ok.mp (Option.some.inj h)
    refine ⟨_, op, rest, _, e, hsplit, List.length_take_of_le (Nat.le_of_lt hi), hexec, ?_⟩
    simp [List.set_eq_take_append_cons_drop, hi]
  case h_2 => cases h
  case h_3 => cases h

/-- The operations after a step: the executed one is replaced by what it calls
and starts; the rest of its thread and the other threads stay. -/
theorem step_ops (h : step exec p i = some (.ok p')) :
    ∃ op rest e others, p.threads[i]? = some (op :: rest) ∧ exec p.shared op = .ok e ∧
      p'.shared = e.shared ∧ p.ops = op ::ₘ (↑rest + others) ∧
      p'.ops = ↑e.calls + ↑e.spawned.flatten + (↑rest + others) := by
  obtain ⟨before, op, rest, after, e, hthreads, rfl, hexec, rfl⟩ := split_of_step h
  refine ⟨op, rest, e, ↑before.flatten + ↑after.flatten, ?_, hexec, rfl, ?_, ?_⟩
  · rw [hthreads, List.getElem?_append_right (Nat.le_refl _), Nat.sub_self]
    rfl
  · unfold ops
    rw [hthreads]
    simp only [List.flatten_append, List.flatten_cons, ← Multiset.coe_add, List.cons_append,
      ← Multiset.cons_coe, ← Multiset.singleton_add]
    abel
  · unfold ops
    simp only [List.flatten_append, List.flatten_cons, ← Multiset.coe_add]
    abel

theorem ops_fork (p : Pool σ ω) (thread : List ω) : (p.fork thread).ops = ↑thread + p.ops := by
  unfold fork ops
  rw [List.flatten_append, ← Multiset.coe_add, List.flatten_singleton]
  abel

/-- **The rule for threads**: a property of every thread holds after a step, if
it holds of the rest of the thread that moved and of the threads it starts. -/
theorem forall_step (P : List ω → Prop) (hexec : ∀ op e, exec p.shared op = .ok e →
      (∀ rest, P (op :: rest) → P (e.calls ++ rest)) ∧ ∀ thread ∈ e.spawned, P thread)
    (hall : ∀ thread ∈ p.threads, P thread) (h : step exec p i = some (.ok p')) :
    ∀ thread ∈ p'.threads, P thread := by
  obtain ⟨before, op, rest, after, e, hthreads, -, hop, rfl⟩ := split_of_step h
  obtain ⟨hcalls, hspawned⟩ := hexec op e hop
  rw [hthreads] at hall
  intro thread hthread
  simp only [List.mem_append, List.mem_cons] at hthread hall
  obtain hbefore | rfl | hafter | hnew := hthread
  · exact hall thread (.inl hbefore)
  · exact hcalls rest (hall _ (.inr (.inl rfl)))
  · exact hall thread (.inr (.inr hafter))
  · exact hspawned thread hnew

end Pool

end Mosn.Lib
