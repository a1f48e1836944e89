/-
  Mosn.Lib.Loop
  **`for` LOOPS THAT MAY PANIC AND MAY NOT END.**

  A loop body takes the state at the loop head and either panics, asks for
  another iteration (`again`) or leaves the loop (`done`).  `run body n s`
  executes at most `n` iterations; `none` means the fuel was not enough, so
  a loop RETURNS when some fuel gives an answer and DIVERGES when none does.

    • `returns_of_measure`        — a decreasing measure on the states that
      satisfy an invariant gives an answer,
    • `not_returns_of_invariant`  — an invariant under which every iteration
      asks for another one gives none,
    • `Reaches`                   — the states seen at the loop head.
-/
import Mathlib.Data.List.Basic

namespace Mosn.Lib

/-- Run-time panics. -/
inductive Panic where
  /-- A slice expression or index out of range. -/
  | sliceBounds
  /-- `make` with a negative length or capacity. -/
  | makeSlice
  /-- A type assertion on a value of another dynamic type. -/
  | typeAssertion
  /-- A call through a nil interface or pointer. -/
  | nilDereference
  deriving Repr, DecidableEq

theorem toOption_eq_some {ε α : Type} {x : Except ε α} {a : α} (h : x.toOption = some a) :
    x = .ok a := by
  cases x with
  | error e => cases h
  | ok b =>
    cases h
    rfl

theorem bind_eq_ok {ε α β : Type} {x : Except ε α} {f : α → Except ε β} {b : β} :
    (x >>= f) = .ok b ↔ ∃ a, x = .ok a ∧ f a = .ok b := by
  cases x with
  | error e => exact ⟨(nomatch ·), fun ⟨_, h, _⟩ => nomatch h⟩
  | ok a => exact ⟨fun h => ⟨a, rfl, h⟩, fun ⟨_, h, hf⟩ => by cases h; exact hf⟩

theorem map_eq_ok {ε α β : Type} {x : Except ε α} {f : α → β} {b : β} :
    x.map f = .ok b ↔ ∃ a, x = .ok a ∧ f a = b := by
  cases x with
  | error e => exact ⟨(nomatch ·), fun ⟨_, h, _⟩ => nomatch h⟩
  | ok a => exact ⟨fun h => ⟨a, rfl, Except.ok.inj h⟩, fun ⟨_, h, hf⟩ => by cases h; rw [← hf]; rfl⟩

/-- How an iteration ends: back to the loop head, or out of the loop. -/
inductive Next (σ : Type) where
  | again (s : σ)
  | done (s : σ)

namespace Loop

variable {ε σ : Type} (body : σ → Except ε (Next σ))

/-- At most `n` iterations from `s`. -/
def run : Nat → σ → Option (Except ε σ)
  | 0, _ => none
  | n + 1, s =>
    match body s with
    | .error e => some (.error e)
    | .ok (.done s') => some (.ok s')
    | .ok (.again s') => run n s'

/-- The loop entered in `s` ends with `r`. -/
def Returns (s : σ) (r : Except ε σ) : Prop := ∃ n, run body n s = some r

/-- The states met at the loop head by the loop entered in `s`. -/
inductive Reaches : σ → σ → Prop where
  | here (s : σ) : Reaches s s
  | next {s s' t : σ} : body s = .ok (.again s') → Reaches s' t → Reaches s t

variable {body}

/-! ## §1. One iteration. -/

variable {s s' t : σ} {r : Except ε σ}

theorem Returns.of_error {e : ε} (h : body s = .error e) : Returns body s (.error e) :=
  ⟨1, by simp only [run, h]⟩

theorem Returns.of_done (h : body s = .ok (.done s')) : Returns body s (.ok s') :=
  ⟨1, by simp only [run, h]⟩

theorem Returns.of_again (h : body s = .ok (.again s'))
    (hr : Returns body s' r) : Returns body s r := by
  obtain ⟨n, hn⟩ := hr
  exact ⟨n + 1, by simp only [run, h, hn]⟩

theorem Returns.cases (h : Returns body s r) : (∃ e, body s = .error e ∧ r = .error e)
      ∨ (∃ s', body s = .ok (.done s') ∧ r = .ok s')
      ∨ (∃ s', body s = .ok (.again s') ∧ Returns body s' r) := by
  obtain ⟨n, hn⟩ := h
  cases n with
  | zero => simp [run] at hn
  | succ n =>
    cases hb : body s with
    | error e =>
      simp only [run, hb, Option.some.injEq] at hn
      exact Or.inl ⟨e, rfl, hn.symm⟩
    | ok nx =>
      cases nx with
      | done s' =>
        simp only [run, hb, Option.some.injEq] at hn
        exact Or.inr (Or.inl ⟨s', rfl, hn.symm⟩)
      | again s' =>
        simp only [run, hb] at hn
        exact Or.inr (Or.inr ⟨s', rfl, n, hn⟩)

theorem run_mono {n : Nat} : ∀ {s : σ} {r : Except ε σ} (k : Nat),
    run body n s = some r → run body (n + k) s = some r := by
  induction n with
  | zero => intro s r k h; simp [run] at h
  | succ n ih =>
    intro s r k h
    rw [Nat.succ_add]
    cases hb : body s with
    | error e => simpa only [run, hb] using h
    | ok nx =>
      cases nx with
      | done s' => simpa only [run, hb] using h
      | again s' =>
        simp only [run, hb] at h ⊢
        exact ih k h

theorem Returns.unique {r' : Except ε σ} (h : Returns body s r)
    (h' : Returns body s r') : r = r' := by
  obtain ⟨n, hn⟩ := h
  obtain ⟨m, hm⟩ := h'
  have h1 := run_mono m hn
  have h2 := run_mono n hm
  rw [Nat.add_comm, h2] at h1
  exact (Option.some.inj h1).symm

/-! ## §2. Whole runs. -/

theorem Returns.induction {P : σ → Except ε σ → Prop}
    (error : ∀ s e, body s = .error e → P s (.error e))
    (done : ∀ s s', body s = .ok (.done s') → P s (.ok s'))
    (again : ∀ s s' r, body s = .ok (.again s') → P s' r → P s r)
    (h : Returns body s r) : P s r := by
  obtain ⟨n, hn⟩ := h
  induction n generalizing s with
  | zero => simp [run] at hn
  | succ n ih =>
    cases hb : body s with
    | error e =>
      simp only [run, hb, Option.some.injEq] at hn
      exact hn ▸ error s e hb
    | ok nx =>
      cases nx with
      | done s' =>
        simp only [run, hb, Option.some.injEq] at hn
        exact hn ▸ done s s' hb
      | again s' =>
        simp only [run, hb] at hn
        exact again s s' r hb (ih hn)

variable (inv : σ → Prop)

/-- **Termination by a measure**, on the states where `inv` holds. -/
theorem returns_of_measure (μ : σ → Nat)
    (step : ∀ s s', inv s → body s = .ok (.again s') → inv s' ∧ μ s' < μ s) :
    ∀ s, inv s → ∃ r, Returns body s r := by
  intro s
  induction hμ : μ s using Nat.strongRecOn generalizing s with
  | _ k ih =>
    intro hs
    cases hb : body s with
    | error e => exact ⟨_, Returns.of_error hb⟩
    | ok nx =>
      cases nx with
      | done s' => exact ⟨_, Returns.of_done hb⟩
      | again s' =>
        obtain ⟨hs', hlt⟩ := step s s' hs hb
        obtain ⟨r, hr⟩ := ih (μ s') (hμ ▸ hlt) s' rfl hs'
        exact ⟨r, hr.of_again hb⟩

/-- **Divergence by an invariant** that keeps asking for another iteration. -/
theorem not_returns_of_invariant (step : ∀ s, inv s → ∃ s', body s = .ok (.again s') ∧ inv s')
    (s : σ) (hs : inv s) (r : Except ε σ) : ¬ Returns body s r := by
  rintro ⟨n, hn⟩
  induction n generalizing s with
  | zero => simp [run] at hn
  | succ n ih =>
    obtain ⟨s', hb, hs'⟩ := step s hs
    simp only [run, hb] at hn
    exact ih s' hs' hn

/-- **No answer by an invariant** that asks for another iteration or fails. -/
theorem not_returns_ok_of_invariant
    (step : ∀ s, inv s → (∃ e, body s = .error e) ∨ ∃ s', body s = .ok (.again s') ∧ inv s')
    (hs : inv s) : ¬ Returns body s (.ok s') := by
  intro h
  refine Returns.induction (P := fun s r => inv s → ∃ e, r = .error e) ?_ ?_ ?_ h hs |>.elim ?_
  · intro s e _ _
    exact ⟨e, rfl⟩
  · intro s s' hb hs
    rcases step s hs with ⟨e, he⟩ | ⟨t, ht, -⟩
    · rw [hb] at he
      cases he
    · rw [hb] at ht
      cases ht
  · intro s s' r hb ih hs
    rcases step s hs with ⟨e, he⟩ | ⟨t, ht, hinv⟩
    · rw [hb] at he
      cases he
    · rw [hb] at ht
      cases ht
      exact ih hinv
  · intro e he
    cases he

theorem Reaches.invariant (step : ∀ s s', inv s → body s = .ok (.again s') → inv s')
    (h : Reaches body s t) : inv s → inv t := by
  induction h with
  | here s => exact id
  | next hb _ ih => exact fun hs => ih (step _ _ hs hb)

theorem Reaches.returns (h : Reaches body s t) (hr : Returns body s r) : Returns body t r := by
  induction h with
  | here s => exact hr
  | next hb _ ih =>
    apply ih
    rcases hr.cases with ⟨e, he, -⟩ | ⟨s', hs', -⟩ | ⟨s', hs', hr'⟩
    · rw [hb] at he
      cases he
    · rw [hb] at hs'
      cases hs'
    · rw [hb] at hs'
      cases hs'
      exact hr'

theorem Reaches.trans {u : σ} (h : Reaches body s t) (h' : Reaches body t u) :
    Reaches body s u := by
  induction h with
  | here s => exact h'
  | next hb _ ih => exact Reaches.next hb (ih h')

theorem Reaches.step {t' : σ} (h : Reaches body s t) (hb : body t = .ok (.again t')) :
    Reaches body s t' :=
  h.trans (Reaches.next hb (Reaches.here t'))

theorem Returns.last (h : Returns body s (.ok s')) :
    ∃ t, Reaches body s t ∧ body t = .ok (.done s') := by
  refine Returns.induction
    (P := fun s r => ∀ s', r = .ok s' → ∃ t, Reaches body s t ∧ body t = .ok (.done s'))
    ?_ ?_ ?_ h s' rfl
  · intro s e _ s' hr
    cases hr
  · intro s t hb s' hr
    cases hr
    exact ⟨s, Reaches.here s, hb⟩
  · intro s t r hb ih s' hr
    obtain ⟨u, hu, hdone⟩ := ih s' hr
    exact ⟨u, Reaches.next hb hu, hdone⟩

end Loop

end Mosn.Lib
