/-
  Mosn.Lib.Transition
  **RUNS OF A LABELLED TRANSITION SYSTEM.**

  A system is a relation `step s e t`: in state `s` the event `e` can lead to
  `t`.  `Run step s es t` says that the events `es`, in this order, can lead
  from `s` to `t`.

    • `Run.invariant`     — what every step preserves holds after every run,
    • `Run.first`, `Run.last`, `Run.split`, `Run.append` — runs in two parts,
    • `EveryStep`         — a property of each event of a run in the state it
      happens in,
    • `Run.guarded`       — the invariant rule for runs whose events all have
      such a property,
    • `everyStep_congr`   — two such properties that agree where the
      invariant holds agree along every run,
    • `everyStep_congr_guarded` — the same for an invariant that only the
      steps with one of the properties keep,
    • `EveryStep.everyState` — what the events with a property preserve holds
      throughout a run of such events,
    • `everyState_iff`    — a property of states holds throughout a run
      exactly when no event of the run breaks it,
    • `runSteps`, `checkSteps` — runs of a system given by a function, and
      tests along them, can be computed.
-/
import Mathlib.Data.List.Basic
import Mathlib.Data.List.Induction

namespace Mosn.Lib

variable {σ ε : Type}

/-- The events `es` can lead from `s` to the last argument. -/
inductive Run (step : σ → ε → σ → Prop) (s : σ) : List ε → σ → Prop where
  | nil : Run step s [] s
  | snoc {es : List ε} {t u : σ} {e : ε} : Run step s es t → step t e u → Run step s (es ++ [e]) u

variable {step : σ → ε → σ → Prop} {s t u : σ} {es es' : List ε} {e : ε}
  {P Q : σ → ε → Prop}

variable (inv : σ → Prop)

/-- **The invariant rule.** -/
theorem Run.invariant
    (hstep : ∀ t e u, inv t → step t e u → inv u) (hinit : inv s) (hrun : Run step s es t) :
    inv t := by
  induction hrun with
  | nil => exact hinit
  | snoc _ hlast ih => exact hstep _ _ _ ih hlast

theorem Run.append
    (hrun : Run step s es t) (hrun' : Run step t es' u) : Run step s (es ++ es') u := by
  induction hrun' with
  | nil => rwa [List.append_nil]
  | snoc _ hlast ih =>
    rw [← List.append_assoc]
    exact ih.snoc hlast

theorem Run.last (hrun : Run step s (es ++ [e]) u) : ∃ t, Run step s es t ∧ step t e u := by
  generalize hall : es ++ [e] = all at hrun
  cases hrun with
  | nil => exact absurd hall (by simp)
  | @snoc es' t _ e' hinit hlast =>
    obtain ⟨rfl, he⟩ := List.append_inj' hall rfl
    cases he
    exact ⟨t, hinit, hlast⟩

theorem Run.split (hrun : Run step s (es ++ es') u) : ∃ t, Run step s es t ∧ Run step t es' u := by
  induction es' using List.reverseRecOn generalizing u with
  | nil =>
    rw [List.append_nil] at hrun
    exact ⟨u, hrun, .nil⟩
  | append_singleton es' e ih =>
    rw [← List.append_assoc] at hrun
    obtain ⟨v, hinit, hlast⟩ := hrun.last
    obtain ⟨t, hfirst, hrest⟩ := ih hinit
    exact ⟨t, hfirst, hrest.snoc hlast⟩

theorem Run.of_nil (hrun : Run step s [] t) : t = s := by
  generalize hnil : ([] : List ε) = es at hrun
  cases hrun with
  | nil => rfl
  | snoc => exact absurd hnil (by simp)

theorem Run.first (hrun : Run step s (e :: es) u) : ∃ t, step s e t ∧ Run step t es u := by
  have hparts : Run step s ([e] ++ es) u := hrun
  obtain ⟨t, hfirst, hrest⟩ := hparts.split
  have hlast : Run step s ([] ++ [e]) t := hfirst
  obtain ⟨v, hv, hstep⟩ := hlast.last
  rw [hv.of_nil] at hstep
  exact ⟨t, hstep, hrest⟩

theorem Run.unique {t' : σ}
    (hstep : ∀ s e t t', step s e t → step s e t' → t = t') (hrun : Run step s es t)
    (hrun' : Run step s es t') : t = t' := by
  induction hrun generalizing t' with
  | nil => exact hrun'.of_nil.symm
  | @snoc es u t e _ hlast ih =>
    obtain ⟨u', hinit, hlast'⟩ := hrun'.last
    rw [ih hinit] at hlast
    exact hstep _ _ _ _ hlast hlast'

/-- `P` holds of every event of `es`, in every state that the events before it
can lead to. -/
def EveryStep (step : σ → ε → σ → Prop) (P : σ → ε → Prop) (s : σ) (es : List ε) : Prop :=
  ∀ before e after t, es = before ++ e :: after → Run step s before t → P t e

theorem EveryStep.init (h : EveryStep step P s (es ++ [e])) : EveryStep step P s es := by
  intro before e' after t hes hrun
  refine h before e' (after ++ [e]) t ?_ hrun
  rw [hes, List.append_assoc]
  rfl

theorem EveryStep.cons (he : P s e) (hes : ∀ t, step s e t → EveryStep step P t es) :
    EveryStep step P s (e :: es) := by
  intro before e' after u hall hrun
  cases before with
  | nil =>
    cases hall
    rw [hrun.of_nil]
    exact he
  | cons e₀ before =>
    obtain ⟨rfl, hrest⟩ := List.cons_eq_cons.mp hall
    obtain ⟨t, hstep, hrun⟩ := hrun.first
    exact hes t hstep before e' after u hrest hrun

theorem EveryStep.nil : EveryStep step P s [] := by
  intro before e after t hall _
  exact absurd hall (by simp)

/-- **The invariant rule for runs under a condition**: what the steps with `P`
preserve holds after every run whose steps all have it. -/
theorem Run.guarded
    (hstep : ∀ t e u, inv t → P t e → step t e u → inv u) (hinit : inv s)
    (hrun : Run step s es t) (hP : EveryStep step P s es) : inv t := by
  induction hrun with
  | nil => exact hinit
  | @snoc es t u e hrun hlast ih =>
    exact hstep t e u (ih hP.init) (hP es e [] t rfl hrun) hlast

/-- `P` holds in every state that a beginning of `es` can lead to. -/
def EveryState (step : σ → ε → σ → Prop) (P : σ → Prop) (s : σ) (es : List ε) : Prop :=
  ∀ before after t, es = before ++ after → Run step s before t → P t

/-- **The invariant rule for all states of a run under a condition.** -/
theorem EveryStep.everyState (hP : EveryStep step P s es) (inv : σ → Prop)
    (hstep : ∀ t e u, inv t → P t e → step t e u → inv u) (hinit : inv s) :
    EveryState step inv s es := by
  intro before after t hes hrun
  refine hrun.guarded inv hstep hinit ?_
  intro before' e after' u hbefore hu
  refine hP before' e (after' ++ after) u ?_ hu
  rw [hes, hbefore, List.append_assoc]
  rfl

/-- Two conditions that agree where an invariant holds, and of which one keeps
the invariant, agree along every run. -/
theorem everyStep_congr_guarded
    (hkeep : ∀ t e u, inv t → Q t e → step t e u → inv u)
    (hinit : inv s) (h : ∀ t e, inv t → (P t e ↔ Q t e)) :
    EveryStep step P s es ↔ EveryStep step Q s es := by
  constructor
  · intro hP before e after t hes hrun
    have hkeepP : ∀ t e u, inv t → P t e → step t e u → inv u :=
      fun t e u ht hPe => hkeep t e u ht ((h t e ht).mp hPe)
    have ht : inv t := hP.everyState inv hkeepP hinit before _ t hes hrun
    exact (h t e ht).mp (hP before e after t hes hrun)
  · intro hQ before e after t hes hrun
    have ht : inv t := hQ.everyState inv hkeep hinit before _ t hes hrun
    exact (h t e ht).mpr (hQ before e after t hes hrun)

theorem everyStep_congr
    (hstep : ∀ t e u, inv t → step t e u → inv u) (hinit : inv s)
    (h : ∀ t e, inv t → (P t e ↔ Q t e)) : EveryStep step P s es ↔ EveryStep step Q s es :=
  everyStep_congr_guarded inv (fun t e u ht _ => hstep t e u ht) hinit h

/-- **Throughout a run.**  If events with `Q` keep `P`, and an event without
`Q` can happen and breaks it where it held, then `P` holds throughout exactly when every
event has `Q`. -/
theorem everyState_iff {P : σ → Prop}
    (hstep : ∀ t e u, inv t → step t e u → inv u) (hinit : inv s)
    (hP : P s) (hkeep : ∀ t e u, inv t → P t → Q t e → step t e u → P u)
    (hbreak : ∀ t e, inv t → P t → ¬ Q t e → ∃ u, step t e u ∧ ¬ P u) :
    EveryState step P s es ↔ EveryStep step Q s es := by
  constructor
  · intro hall before e after t hes hrun
    by_contra hQ
    have ht : P t := hall before (e :: after) t hes hrun
    obtain ⟨u, hu, hPu⟩ := hbreak t e (hrun.invariant inv hstep hinit) ht hQ
    refine hPu (hall (before ++ [e]) after u ?_ (hrun.snoc hu))
    rw [hes, List.append_assoc]
    rfl
  · intro hQ before after t hes hrun
    have hboth := hQ.everyState (fun t => inv t ∧ P t)
      (fun t e u ht hQe hu => ⟨hstep t e u ht.1 hu, hkeep t e u ht.1 ht.2 hQe hu⟩) ⟨hinit, hP⟩
    exact (hboth before after t hes hrun).2

/-! ## Systems given by a function. -/

section Function

variable (f : σ → ε → Option σ)

/-- One event after the other. -/
def runSteps : σ → List ε → Option σ
  | s, [] => some s
  | s, e :: es => (f s e).bind fun t => runSteps t es

/-- A test of every event of a run. -/
def checkSteps (p : σ → ε → Bool) : σ → List ε → Bool
  | _, [] => true
  | s, e :: es => p s e && ((f s e).map fun t => checkSteps p t es).getD true

variable {f}

theorem run_of_runSteps {es : List ε} : ∀ {s t : σ}, runSteps f s es = some t →
    Run (fun s e t => f s e = some t) s es t := by
  induction es with
  | nil =>
    intro s t h
    cases h
    exact .nil
  | cons e es ih =>
    intro s t h
    obtain ⟨u, hfirst, hrest⟩ := Option.bind_eq_some_iff.mp h
    have hrun : Run (fun s e t => f s e = some t) s [e] u := Run.nil.snoc hfirst
    exact hrun.append (ih hrest)

theorem everyStep_of_checkSteps {p : σ → ε → Bool}
    (hp : ∀ s e, p s e = true → P s e) {es : List ε} : ∀ {s : σ},
    checkSteps f p s es = true → EveryStep (fun s e t => f s e = some t) P s es := by
  induction es with
  | nil => exact fun _ => .nil
  | cons e es ih =>
    intro s h
    obtain ⟨hfirst, hrest⟩ := Bool.and_eq_true_iff.mp h
    refine .cons (hp s e hfirst) fun t ht => ih ?_
    rwa [ht] at hrest

end Function

end Mosn.Lib
