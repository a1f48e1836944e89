/-
  Mosn.Proxy.StreamOrder
  **DONE STREAMS ARE INERT, JOBS RUN IN ORDER, AND WHICH HEADERS ARE LOST.**

    • `inert_and_ordered` — a stream's handlers run before its stop event and
      before the handler that leaves it done, and its jobs run in the order in
      which they were offered;
    • `firstHeaders_handled` — the headers that begin a request are handled
      unless the stream was made between the two `select`s of the turn that
      takes them.
-/
import Mosn.Proxy.StreamView

namespace Mosn.Proxy.Dispatch

open Mosn.Lib Mosn.Types

section System

variable {κ : Type} [DecidableEq κ] {streamID : κ → GoString} {shardOf : Int → Nat}

/-! ## §1. What holds of every view. -/

/-- After such an event no handler of the stream runs: its stop, or one that
left the stream done. -/
@[local grind]
def Record.Closes (r : Record κ) : Prop :=
  r.event.body = .stop ∨ (r.handled = true ∧ r.left = true)

/-- The jobs among some events. -/
def normals (es : List (Event κ)) : List (Event κ) := es.filter fun e => e.type = .normal

omit [DecidableEq κ] in
theorem normals_snoc (es : List (Event κ)) (e : Event κ) :
    normals (es ++ [e]) = normals es ++ if e.type = .normal then [e] else [] := by
  unfold normals
  rw [List.filter_append, List.filter_singleton]
  cases e.type <;> rfl

namespace View

attribute [local grind] note

omit [DecidableEq κ]

/-- The start event is still in the channel. -/
@[local grind]
def Pending (v : View κ) : Prop := ∃ e ∈ v.ctrl, e.body = .start

/-- What is true of a stream whose events come from its channels in order. -/
@[local grind cases]
structure Good (v : View κ) : Prop where
  /-- Nothing happens to a stream before it is made. -/
  fresh : v.created = false → v = {}
  control : ∀ e ∈ v.ctrl, e.type = .control
  jobs : ∀ e ∈ v.jobs, e.type = .normal
  /-- A start event is the first one in its channel. -/
  startFirst : ∀ e ∈ v.ctrl.tail, e.body ≠ .start
  /-- As long as it waits there, jobs are dropped. -/
  pending : v.Pending → v.entry = none ∧ ∀ r ∈ v.log, r.handled = false ∧ r.event.type = .normal
  started : v.created = true → v.Pending ∨ ∃ r ∈ v.log, r.event.body = .start
  shut : (∃ r ∈ v.log, r.Closes) → v.entry ≠ some false
  ordered : v.log.Pairwise fun r r' => r'.handled = true → ¬ r.Closes
  opened : (∃ r ∈ v.log, r.event.body = .start) → (∀ r ∈ v.log, r.event.body = .start) →
    v.entry = some false
  /-- The jobs that were processed and those that wait are those offered. -/
  queued : normals (v.log.map Record.event) ++ v.jobs = normals v.offered

theorem good_default : Good ({} : View κ) where
  fresh _ := rfl
  control _ h := absurd h List.not_mem_nil
  jobs _ h := absurd h List.not_mem_nil
  startFirst _ h := absurd h List.not_mem_nil
  pending h := absurd h (by rintro ⟨_, h, _⟩; exact absurd h List.not_mem_nil)
  started h := by cases h
  shut h := absurd h (by rintro ⟨_, h, _⟩; exact absurd h List.not_mem_nil)
  ordered := .nil
  opened h := absurd h (by rintro ⟨_, h, _⟩; exact absurd h List.not_mem_nil)
  queued := rfl

variable {e : Event κ} {v v' : View κ}

theorem type_of_start (h : e.body = .start) : e.type = .control := by
  unfold Event.type
  rw [h]

theorem type_of_stop (h : e.body = .stop) : e.type = .control := by
  unfold Event.type
  rw [h]

theorem good_create (hv : v.Good) (hnew : v.created = false)
    (he : e.body = .start) : (View.push { v with created := true } e).Good := by
  rw [hv.fresh hnew]
  have hpush : View.push { ({} : View κ) with created := true } e
      = { created := true, ctrl := [e], offered := [e] } := by
    unfold push
    rw [type_of_start he]
    rfl
  rw [hpush]
  exact
    { fresh := fun h => by cases h
      control := fun e' h => by rw [List.mem_singleton.mp h]; exact type_of_start he
      jobs := fun _ h => absurd h List.not_mem_nil
      startFirst := fun _ h => absurd h List.not_mem_nil
      pending := fun _ => ⟨rfl, fun _ h => absurd h List.not_mem_nil⟩
      started := fun _ => Or.inl ⟨e, List.mem_singleton.mpr rfl, he⟩
      shut := fun _ => by simp
      ordered := .nil
      opened := by
        rintro ⟨_, h, _⟩
        exact absurd h List.not_mem_nil
      queued := by
        show [] = normals ([] ++ [e])
        rw [normals_snoc, type_of_start he]
        rfl }

theorem pending_push (he : e.body ≠ .start) : (v.push e).Pending ↔ v.Pending := by
  unfold push
  cases e.type with
  | normal => rfl
  | control => grind

theorem good_offer (hv : v.Good) (hcreated : v.created = true)
    (he : e.body ≠ .start) : (v.push e).Good := by
  cases ht : e.type with
  | control =>
    have hpush : v.push e = { v with ctrl := v.ctrl ++ [e], offered := v.offered ++ [e] } := by
      unfold push
      rw [ht]
    have hpending := pending_push (v := v) he
    rw [hpush] at hpending ⊢
    exact
      { fresh := fun h => by rw [hcreated] at h; cases h
        control := fun e' h => by grind
        jobs := hv.jobs
        startFirst := fun e' h => by grind
        pending := fun h => hv.pending (hpending.mp h)
        started := fun _ => (hv.started hcreated).imp hpending.mpr id
        shut := hv.shut
        ordered := hv.ordered
        opened := hv.opened
        queued := by
          rw [normals_snoc, ht]
          simpa using hv.queued }
  | normal =>
    have hpush : v.push e = { v with jobs := v.jobs ++ [e], offered := v.offered ++ [e] } := by
      unfold push
      rw [ht]
    rw [hpush]
    exact
      { fresh := fun h => by rw [hcreated] at h; cases h
        control := hv.control
        jobs := fun e' h => by grind
        startFirst := hv.startFirst
        pending := hv.pending
        started := fun _ => hv.started hcreated
        shut := hv.shut
        ordered := hv.ordered
        opened := hv.opened
        queued := by
          rw [normals_snoc, ht, if_pos rfl, ← hv.queued, List.append_assoc] }

/-- **The entry guards the handlers**: whatever channel an event comes from, if
a start event finds no closing record. -/
theorem process_log (hstep : Process v e v') (hstart : e.body = .start → ∀ r ∈ v.log, ¬ r.Closes)
    (hshut : (∃ r ∈ v.log, r.Closes) → v.entry ≠ some false)
    (hordered : v.log.Pairwise fun r r' => r'.handled = true → ¬ r.Closes) :
    ((∃ r ∈ v'.log, r.Closes) → v'.entry ≠ some false)
      ∧ (v'.log.Pairwise fun r r' => r'.handled = true → ¬ r.Closes)
      ∧ ((∃ r ∈ v'.log, r.event.body = .start) → (∀ r ∈ v'.log, r.event.body = .start) →
          v'.entry = some false) := by
  -- the records afterwards are the old ones and one of `e`
  have hunhandled : ∀ left : Bool,
      (v.log ++ [(⟨e, false, left⟩ : Record κ)]).Pairwise
        fun r r' => r'.handled = true → ¬ r.Closes := by
    grind
  have hlast : ∀ (handled left : Bool), e.body ≠ .start →
      ¬ ∀ r ∈ v.log ++ [(⟨e, handled, left⟩ : Record κ)], r.event.body = .start := by
    intro handled left he hall
    exact he (hall _ (List.mem_append_right _ (List.mem_singleton.mpr rfl)))
  cases hstep with
  | start left he => grind
  | stop left he =>
    refine ⟨fun _ => by simp [note], hunhandled left, fun _ hall => ?_⟩
    exact absurd hall (hlast _ _ (by rw [he]; simp))
  | handled left hnostart hnostop hentry =>
    have hopen : ∀ r ∈ v.log, ¬ r.Closes := fun r hr hcloses => hshut ⟨r, hr, hcloses⟩ hentry
    refine ⟨?_, ?_, fun _ hall => absurd hall (hlast _ _ hnostart)⟩ <;> grind
  | dropped left hnostart hnostop hentry =>
    exact ⟨fun _ => hentry, hunhandled left, fun _ hall => absurd hall (hlast _ _ hnostart)⟩

theorem Process.log_eq (hstep : Process v e v') :
    ∃ handled left, v'.log = v.log ++ [⟨e, handled, left⟩] := by
  cases hstep with
  | start left => exact ⟨false, left, rfl⟩
  | stop left => exact ⟨false, left, rfl⟩
  | handled left => exact ⟨true, left, rfl⟩
  | dropped left => exact ⟨false, left, rfl⟩

theorem Process.rest (hstep : Process v e v') :
    v'.created = v.created ∧ v'.ctrl = v.ctrl ∧ v'.jobs = v.jobs ∧ v'.offered = v.offered := by
  cases hstep <;> exact ⟨rfl, rfl, rfl, rfl⟩

theorem Good.created_of_waiting (hv : v.Good) (h : v.ctrl ≠ [] ∨ v.jobs ≠ []) :
    v.created = true := by
  by_contra hnew
  rw [hv.fresh (Bool.not_eq_true _ ▸ hnew)] at h
  exact h.elim (absurd rfl) (absurd rfl)

theorem Good.open_of_pending (hv : v.Good) (hpending : v.Pending) : ∀ r ∈ v.log, ¬ r.Closes := by
  intro r hr hcloses
  grind [type_of_stop]

theorem good_control (hv : v.Good) {rest : List (Event κ)}
    (hctrl : v.ctrl = e :: rest) (hstep : Process { v with ctrl := rest } e v') : v'.Good := by
  have hcreated := hv.created_of_waiting (Or.inl (by rw [hctrl]; simp))
  have hrest : ∀ e' ∈ rest, e'.body ≠ .start := by
    have h := hv.startFirst
    rwa [hctrl] at h
  have hmem : e ∈ v.ctrl := by
    rw [hctrl]
    exact .head _
  obtain ⟨hshut, hordered, hopened⟩ :=
    process_log hstep (fun he => hv.open_of_pending ⟨e, hmem, he⟩) hv.shut hv.ordered
  obtain ⟨hcreated', hctrl', hjobs', hoffered'⟩ := hstep.rest
  obtain ⟨handled, left, hlog⟩ := hstep.log_eq
  -- no second start event can wait
  have hnone : ¬ v'.Pending := by
    rintro ⟨e', h, he'⟩
    rw [hctrl'] at h
    exact hrest e' h he'
  refine ⟨?_, ?_, ?_, ?_, fun h => absurd h hnone, ?_, hshut, hordered, hopened, ?_⟩
  · grind
  · grind
  · rw [hjobs']
    exact hv.jobs
  · intro e' h
    rw [hctrl'] at h
    exact hrest e' (List.mem_of_mem_tail h)
  · intro _
    right
    rw [hlog]
    rcases hv.started hcreated with ⟨e', h, he'⟩ | ⟨r, hr, he'⟩
    · rw [hctrl] at h
      rcases List.mem_cons.mp h with rfl | h
      · exact ⟨_, List.mem_append_right _ (List.mem_singleton.mpr rfl), he'⟩
      · exact absurd he' (hrest e' h)
    · exact ⟨r, List.mem_append_left _ hr, he'⟩
  · rw [hlog, hjobs', hoffered', List.map_append, List.map_singleton, normals_snoc,
      hv.control e hmem]
    simpa using hv.queued

theorem Process.without_entry (hstep : Process v e v')
    (hnormal : e.type = .normal) (hentry : v.entry = none)
    (hall : ∀ r ∈ v.log, r.handled = false ∧ r.event.type = .normal) :
    v'.entry = none ∧ ∀ r ∈ v'.log, r.handled = false ∧ r.event.type = .normal := by
  cases hstep with
  | start _ he =>
    rw [type_of_start he] at hnormal
    cases hnormal
  | stop _ he =>
    rw [type_of_stop he] at hnormal
    cases hnormal
  | handled _ _ _ hfound =>
    rw [hentry] at hfound
    cases hfound
  | dropped left _ _ _ => grind

theorem good_job (hv : v.Good) {rest : List (Event κ)}
    (hjobs : v.jobs = e :: rest) (hstep : Process { v with jobs := rest } e v') : v'.Good := by
  have hcreated := hv.created_of_waiting (Or.inr (by rw [hjobs]; simp))
  have hnormal : e.type = .normal := by
    apply hv.jobs
    rw [hjobs]
    exact .head _
  have hnostart : e.body ≠ .start := by
    intro he
    rw [type_of_start he] at hnormal
    cases hnormal
  obtain ⟨hshut, hordered, hopened⟩ :=
    process_log hstep (fun he => absurd he hnostart) hv.shut hv.ordered
  obtain ⟨hcreated', hctrl', hjobs', hoffered'⟩ := hstep.rest
  obtain ⟨handled, left, hlog⟩ := hstep.log_eq
  have hpending : v'.Pending ↔ v.Pending := by
    unfold Pending
    rw [hctrl']
  refine ⟨?_, ?_, ?_, ?_, ?_, ?_, hshut, hordered, hopened, ?_⟩
  · grind
  · rw [hctrl']
    exact hv.control
  · grind
  · rw [hctrl']
    exact hv.startFirst
  · intro h
    obtain ⟨hentry, hall⟩ := hv.pending (hpending.mp h)
    exact hstep.without_entry hnormal hentry hall
  · grind
  · grind [List.map_singleton, normals_snoc, List.append_assoc]

theorem good_step (hv : v.Good) (hstep : Step v v') : v'.Good := by
  cases hstep with
  | create e hnew he => exact good_create hv hnew he
  | offer e hcreated he => exact good_offer hv hcreated he
  | control e rest hctrl hstep => exact good_control hv hctrl hstep
  | job e rest hjobs hstep => exact good_job hv hjobs hstep

theorem good_steps (hv : v.Good) (hsteps : Relation.ReflTransGen Step v v') : v'.Good := by
  induction hsteps with
  | refl => exact hv
  | tail _ hstep ih => exact good_step ih hstep

end View

/-! ## §2. Every run. -/

namespace Pool

/-- What holds in every state of the pool. -/
def Sound (streamID : κ → GoString) (shardOf : Int → Nat) (s : Pool κ) : Prop :=
  s.Placed streamID shardOf ∧ ∀ k, Alone streamID k → (s.view streamID shardOf k).Good

theorem sound_new : Sound streamID shardOf ({} : Pool κ) := by
  refine ⟨?_, fun k _ => ?_⟩
  · intro w e he
    grind
  · have hview : ({} : Pool κ).view streamID shardOf k = {} := by
      unfold view workerOf
      cases home streamID shardOf k <;> rfl
    rw [hview]
    exact View.good_default

theorem sound_step {s s' : Pool κ} {a : Action κ} (hs : s.Sound streamID shardOf)
    (h : s.Step streamID shardOf a s') : s'.Sound streamID shardOf := by
  obtain ⟨hplaced, hviews⟩ := view_step hs.1 h
  exact ⟨hplaced, fun k hk => View.good_steps (hs.2 k hk) (hviews k hk)⟩

theorem sound_run {s : Pool κ} {as : List (Action κ)} (h : Run (Step streamID shardOf) {} as s) :
    s.Sound streamID shardOf :=
  h.invariant (Sound streamID shardOf) (fun _ _ _ => sound_step) sound_new

/-- **No job is lost or doubled**: those of a stream that were processed, and then
those in its channel, are those that were offered. -/
theorem jobs_conserved (as : List (Action κ)) :
    EveryState (Step streamID shardOf) (fun s => ∀ k, Alone streamID k →
      normals ((recordsOf k s.log).map Record.event) ++ (s.view streamID shardOf k).jobs
        = normals (eventsOf k s.offered)) {} as := by
  intro before after s _ hrun k hk
  exact ((sound_run hrun).2 k hk).queued

/-- **Done streams are inert, and jobs are handled in order.**  Of the records
of one stream, none that closes it precedes one of a handler; and its jobs that
were handled are, in order, some of those that were offered. -/
theorem inert_and_ordered (hid : Function.Injective streamID) {s : Pool κ} {as : List (Action κ)}
    (h : Run (Step streamID shardOf) {} as s) (k : κ) :
    ((recordsOf k s.log).Pairwise fun r r' => r'.handled = true →
        r.event.body ≠ .stop ∧ ¬ (r.handled = true ∧ r.left = true))
      ∧ (normals (((recordsOf k s.log).filter (·.handled)).map Record.event)).Sublist
          (normals (eventsOf k s.offered)) := by
  have hgood := (sound_run h).2 k fun k' hk' => hid hk'
  constructor
  · refine hgood.ordered.imp ?_
    intro r r' hrr' hhandled
    exact not_or.mp (hrr' hhandled)
  · have hsub : (normals (((recordsOf k s.log).filter (·.handled)).map Record.event)).Sublist
        (normals ((recordsOf k s.log).map Record.event)) :=
      (List.filter_sublist.map _).filter _
    refine hsub.trans ?_
    have hqueued := hgood.queued
    show (normals ((recordsOf k s.log).map Record.event)).Sublist (normals (eventsOf k s.offered))
    rw [show normals (eventsOf k s.offered) = _ from hqueued.symm]
    exact List.sublist_append_left _ _

/-- Two streams, with the ids 1 and 2. -/
def twoIDs (k : Bool) : GoString := if k then str "1" else str "2"

/-- A handler that only leaves the flag. -/
def leaves (left : Bool) : Outcome := ⟨left, []⟩

/-- The headers are the whole request of the first stream; its handler leaves it
done and stops it.  The other stream and data from upstream come in between. -/
def doneRequest : List (Action Bool) :=
  [.create true, .control 0 (leaves false), .offer true .downstream (.receiveHeaders ∅ true),
    .create false, .control 0 (leaves false), .poll 0,
    .job 0 ⟨true, [(.downstream, .stop)]⟩, .offer true .upstream (.receiveData [] true),
    .control 0 (leaves false), .poll 0, .job 0 (leaves false)]

theorem doneRequest_inert : ∃ s, Run (Step twoIDs fun _ => 0) {} doneRequest s
      ∧ (recordsOf true s.log).map (·.handled) = [false, true, false, false]
      ∧ ((recordsOf true s.log).Pairwise fun r r' => r'.handled = true →
          r.event.body ≠ .stop ∧ ¬ (r.handled = true ∧ r.left = true))
      ∧ (normals (((recordsOf true s.log).filter (·.handled)).map Record.event)).Sublist
          (normals (eventsOf true s.offered)) := by
  have hrun : ∃ s, runSteps (step twoIDs fun _ => 0) {} doneRequest = some s
      ∧ (recordsOf true s.log).map (·.handled) = [false, true, false, false] := ⟨_, rfl, rfl⟩
  obtain ⟨s, hsteps, hhandled⟩ := hrun
  exact ⟨s, run_of_runSteps hsteps, hhandled,
    inert_and_ordered (by decide) (run_of_runSteps hsteps) true⟩

/-! ## §3. The headers that begin a request. -/

/-! ### Between the two `select`s. -/

omit [DecidableEq κ] in
theorem polled_offer {s s' : Pool κ} {k : κ} {direction : Direction} {body : EventBody}
    (h : s.offer streamID shardOf k direction body = some s') (v : Nat) :
    (s'.worker v).polled = (s.worker v).polled := by
  obtain ⟨w, _, rfl⟩ := Option.map_eq_some_iff.mp h
  show (Function.update s.worker w ((s.worker w).push (event streamID k direction body)) v).polled
    = _
  grind [Function.update_self, Worker.push, Function.update_of_ne]

omit [DecidableEq κ] in
theorem polled_offerAll {k : κ} (offers : List (Direction × EventBody)) : ∀ {s s' : Pool κ},
    s.offerAll streamID shardOf k offers = some s' → ∀ v,
    (s'.worker v).polled = (s.worker v).polled := by
  induction offers with
  | nil =>
    intro s s' h v
    cases h
    rfl
  | cons o offers ih =>
    intro s s' h v
    obtain ⟨-, s₁, h₁, h⟩ := offerAll_cons h
    rw [ih h v, polled_offer h₁ v]

omit [DecidableEq κ] in
theorem polled_modifyWorker (s : Pool κ) (w : Nat) {f : Worker κ → Worker κ}
    (hf : (f (s.worker w)).polled = (s.worker w).polled) (v : Nat) :
    ((s.modifyWorker w f).worker v).polled = (s.worker v).polled := by
  by_cases hv : v = w
  · rw [hv, modifyWorker_self, hf]
  · rw [modifyWorker_of_ne s hv]

omit [DecidableEq κ] in
theorem polled_setEntry (s : Pool κ) (w : Nat) (id : GoString) (value : Option Bool) (v : Nat) :
    ((s.setEntry w id value).worker v).polled = (s.worker v).polled := by
  cases value with
  | some | none =>
    unfold setEntry
    rw [polled_modifyWorker s w rfl v]

theorem polled_eventProcess {s s' : Pool κ} {w : Nat} {e : Event κ} {outcome : Outcome}
    (h : s.eventProcess streamID shardOf w e outcome = some s') (v : Nat) :
    (s'.worker v).polled = (s.worker v).polled := by
  unfold eventProcess at h
  split at h
  · cases h
    exact polled_setEntry ..
  · cases h
    exact polled_setEntry ..
  · split at h
    · rw [polled_offerAll outcome.offers h v, polled_setEntry]
      rfl
    · cases h
      rfl

/-- A turn of the dispatcher of `w`. -/
def turnOf (w : Nat) : Action κ → Bool
  | .poll v | .control v _ | .job v _ => v = w
  | _ => false

/-- What happened since the last turn of the dispatcher of `w`. -/
def sinceTurn (w : Nat) (as : List (Action κ)) : List (Action κ) :=
  (as.reverse.takeWhile fun a => !turnOf w a).reverse

omit [DecidableEq κ] in
theorem sinceTurn_snoc (w : Nat) (as : List (Action κ)) (a : Action κ) :
    sinceTurn w (as ++ [a]) = if turnOf w a then [] else sinceTurn w as ++ [a] := by
  unfold sinceTurn
  rw [List.reverse_append, List.reverse_singleton, List.singleton_append, List.takeWhile_cons]
  cases turnOf w a
  · exact List.reverse_cons
  · rfl

variable {s s' : Pool κ} {a : Action κ} {w : Nat}

theorem polled_step (h : s.Step streamID shardOf a s') (hpolled : (s'.worker w).polled = true) :
    (turnOf w a = true ∧ (s'.worker w).ctrlChan = [])
      ∨ (turnOf w a = false ∧ (s.worker w).polled = true) := by
  cases a with
  | create k =>
    obtain ⟨-, h⟩ := Option.ite_none_right_eq_some.mp h
    rw [polled_offer h] at hpolled
    exact Or.inr ⟨rfl, hpolled⟩
  | offer k direction body =>
    obtain ⟨-, h⟩ := Option.ite_none_left_eq_some.mp h
    rw [polled_offer h] at hpolled
    exact Or.inr ⟨rfl, hpolled⟩
  | change k done =>
    obtain ⟨-, h⟩ := Option.ite_none_left_eq_some.mp h
    cases h
    exact Or.inr ⟨rfl, hpolled⟩
  | poll v =>
    obtain ⟨hempty, h⟩ := Option.ite_none_right_eq_some.mp h
    cases h
    by_cases hv : w = v
    · subst hv
      refine Or.inl ⟨decide_eq_true rfl, ?_⟩
      rw [modifyWorker_self]
      exact List.isEmpty_iff.mp hempty
    · rw [modifyWorker_of_ne s hv] at hpolled
      exact Or.inr ⟨decide_eq_false (Ne.symm hv), hpolled⟩
  | control v outcome =>
    change s.controlTurn streamID shardOf v outcome = some s' at h
    unfold controlTurn at h
    split at h
    · rw [polled_eventProcess h] at hpolled
      by_cases hv : w = v
      · rw [hv, takeControl, modifyWorker_self] at hpolled
        cases hpolled
      · rw [takeControl, modifyWorker_of_ne s hv] at hpolled
        exact Or.inr ⟨decide_eq_false (Ne.symm hv), hpolled⟩
    · cases h
  | job v outcome =>
    change s.jobTurn streamID shardOf v outcome = some s' at h
    unfold jobTurn at h
    split at h
    · obtain ⟨-, h⟩ := Option.ite_none_right_eq_some.mp h
      rw [polled_eventProcess h] at hpolled
      by_cases hv : w = v
      · rw [hv, takeJob, modifyWorker_self] at hpolled
        cases hpolled
      · rw [takeJob, modifyWorker_of_ne s hv] at hpolled
        exact Or.inr ⟨decide_eq_false (Ne.symm hv), hpolled⟩
    · cases h

theorem pending_step {k : κ} (hs : s.Placed streamID shardOf) (hk : Alone streamID k)
    (hw : home streamID shardOf k = some w) (h : s.Step streamID shardOf a s')
    (hturn : turnOf w a = false) : (s'.view streamID shardOf k).Pending
      ↔ a = .create k ∨ (s.view streamID shardOf k).Pending := by
  -- turns of other workers are about other streams
  have haway : ∀ {v : Nat}, v ≠ w → s.Turn streamID shardOf v s' →
      s'.view streamID shardOf k = s.view streamID shardOf k := by
    rintro v hv ⟨k', hk', -, hother⟩
    grind
  cases a with
  | create k' =>
    obtain ⟨-, -, hself, hother⟩ := create_cases hs h
    by_cases hkk' : k' = k
    · subst hkk'
      refine ⟨fun _ => Or.inl rfl, fun _ => ?_⟩
      rw [hself]
      exact ⟨event streamID k' .downstream .start, List.mem_append_right _ (.head _), rfl⟩
    · grind
  | offer k' direction body =>
    obtain ⟨-, -, hbody, hself, hother⟩ := offer_cases hs h
    have hview : (s'.view streamID shardOf k).Pending
        ↔ (s.view streamID shardOf k).Pending := by
      by_cases hkk' : k' = k
      · subst hkk'
        rw [hself]
        exact View.pending_push hbody
      · rw [hother k hkk']
    rw [hview]
    simp
  | change k' done =>
    rw [(change_cases hs h).2 k]
    simp
  | poll v =>
    rw [(poll_cases hs h).2 k]
    simp
  | control v outcome =>
    rw [haway (of_decide_eq_false hturn) (control_turn hs h).2]
    simp
  | job v outcome =>
    rw [haway (of_decide_eq_false hturn) (job_turn hs h).2]
    simp

/-- **The window**: when a dispatcher is at its second `select`, the start
events that wait are those of streams made since it found its control channel
empty. -/
theorem pending_iff_sinceTurn {as : List (Action κ)} {k : κ}
    (h : Run (Step streamID shardOf) {} as s) (hk : Alone streamID k)
    (hw : home streamID shardOf k = some w) :
    (.create k ∈ sinceTurn w as → (s.view streamID shardOf k).Pending)
      ∧ ((s.worker w).polled = true → (s.view streamID shardOf k).Pending →
          .create k ∈ sinceTurn w as) := by
  induction h with
  | nil => exact ⟨fun h => absurd h List.not_mem_nil, fun h => by cases h⟩
  | @snoc as s s' a hrun hstep ih =>
    rw [sinceTurn_snoc]
    by_cases hturn : turnOf w a = true
    · rw [if_pos hturn]
      refine ⟨fun h => absurd h List.not_mem_nil, fun hpolled hpending => ?_⟩
      rcases polled_step hstep hpolled with ⟨-, hempty⟩ | ⟨hno, -⟩
      · obtain ⟨e, he, -⟩ := hpending
        rw [view_of_home hw] at he
        unfold View.ofWorker at he
        rw [hempty] at he
        exact absurd he List.not_mem_nil
      · rw [hno] at hturn
        cases hturn
    · rw [if_neg hturn]
      have hpending := pending_step (sound_run hrun).1 hk hw hstep (Bool.not_eq_true _ ▸ hturn)
      constructor
      · grind
      · grind [List.mem_append_right, polled_step, List.mem_append_left]

/-! ### Handled or dropped. -/

/-- The next job of worker `w` is the `receiveHeadersEvent` of a request on
stream `k`, and nothing but the start of this stream was processed so far. -/
def FirstHeaders (streamID : κ → GoString) (s : Pool κ) (w : Nat) (k : κ) : Prop :=
  (∃ headers endStream, (s.worker w).jobChan.head?
      = some (event streamID k .downstream (.receiveHeaders headers endStream)))
    ∧ ∀ r ∈ s.log, r.event.stream = k → r.event.body = .start

/-- The start event of stream `k` was processed. -/
def Started (s : Pool κ) (k : κ) : Prop := ∃ r ∈ s.log, r.event.stream = k ∧ r.event.body = .start

/-- The last event was handled. -/
def Invoked (s : Pool κ) : Prop := ∃ r, s.log.getLast? = some r ∧ r.handled = true

omit [DecidableEq κ] in
theorem offerAll_log {k : κ} (offers : List (Direction × EventBody)) : ∀ {s s' : Pool κ},
    s.offerAll streamID shardOf k offers = some s' → s'.log = s.log := by
  induction offers with
  | nil =>
    intro s s' h
    cases h
    rfl
  | cons o offers ih =>
    intro s s' h
    obtain ⟨-, s₁, h₁, h⟩ := offerAll_cons h
    rw [ih h]
    obtain ⟨w, -, rfl⟩ := Option.map_eq_some_iff.mp h₁
    rfl

variable {s s' : Pool κ} {w : Nat} {outcome : Outcome}

theorem invoked_of_entry {e : Event κ} (hstart : e.body ≠ .start) (hstop : e.body ≠ .stop)
    (hentry : (s.worker w).streamMap.lookup e.streamID = some false)
    (h : s.eventProcess streamID shardOf w e outcome = some s') : s'.Invoked := by
  unfold eventProcess at h
  split at h
  · rename_i hbody
    exact absurd hbody hstart
  · rename_i hbody
    exact absurd hbody hstop
  · rw [if_pos hentry] at h
    refine ⟨⟨e, true, outcome.left⟩, ?_, rfl⟩
    rw [offerAll_log outcome.offers h]
    exact List.getLast?_concat ..

theorem firstHeaders_step {as : List (Action κ)} {k : κ}
    (hk : Alone streamID k) (hrun : Run (Step streamID shardOf) {} as s)
    (hfirst : s.FirstHeaders streamID w k) (h : s.Step streamID shardOf (.job w outcome) s') :
    s.Started k ∧ s'.Invoked ↔ .create k ∉ sinceTurn w as := by
  obtain ⟨⟨headers, endStream, hhead⟩, hlog⟩ := hfirst
  obtain ⟨rest, hjobs⟩ := List.head?_eq_some_iff.mp hhead
  obtain ⟨hplaced, hgood⟩ := sound_run hrun
  obtain ⟨-, hw, hdone⟩ := hplaced w _ (Or.inr (by rw [hjobs]; exact .head _))
  change home streamID shardOf k = some w at hw
  change (s.upstreamProcessDone k).isSome = true at hdone
  have hk' := hgood k hk
  obtain ⟨hpending, hwindow⟩ := pending_iff_sinceTurn hrun hk hw
  have hrecords : ∀ r ∈ (s.view streamID shardOf k).log, r.event.body = .start := by
    intro r hr
    obtain ⟨hr, hstream⟩ := List.mem_filter.mp hr
    exact hlog r hr (of_decide_eq_true hstream)
  change s.jobTurn streamID shardOf w outcome = some s' at h
  unfold jobTurn at h
  rw [hjobs] at h
  obtain ⟨hpolled, h⟩ := Option.ite_none_right_eq_some.mp h
  constructor
  · -- a processed start waits no longer
    rintro ⟨⟨r, hr, hstream, hstart⟩, -⟩ hmem
    have hview : r ∈ (s.view streamID shardOf k).log :=
      List.mem_filter.mpr ⟨hr, decide_eq_true hstream⟩
    have hnormal := ((hk'.pending (hpending hmem)).2 r hview).2
    rw [View.type_of_start hstart] at hnormal
    cases hnormal
  · intro hmem
    have hstarted := (hk'.started hdone).resolve_left fun hpend => hmem (hwindow hpolled hpend)
    refine ⟨?_, invoked_of_entry (by simp [event]) (by simp [event]) ?_ h⟩
    · obtain ⟨r, hr, hstart⟩ := hstarted
      obtain ⟨hr, hstream⟩ := List.mem_filter.mp hr
      exact ⟨r, hr, of_decide_eq_true hstream, hstart⟩
    · have hentry := hk'.opened hstarted hrecords
      rw [view_of_home hw] at hentry
      rw [takeJob, modifyWorker_self]
      exact hentry

/-- Every turn of a run that takes the headers of a request on stream `k` first,
with the actions before it, has `P`. -/
@[local grind]
def AtFirstHeaders (streamID : κ → GoString) (shardOf : Int → Nat) (k : κ)
    (P : List (Action κ) → Nat → Pool κ → Pool κ → Prop) (as : List (Action κ)) : Prop :=
  ∀ before w outcome after s s', as = before ++ .job w outcome :: after →
    Run (Step streamID shardOf) {} before s → s.Step streamID shardOf (.job w outcome) s' →
    s.FirstHeaders streamID w k → P before w s s'

/-- **A request's headers are lost exactly in the window between the two
`select`s.**  Along any run, whenever the headers that begin a request are
taken, the stream was started before and `ReceiveHeaders` is invoked, exactly
when the stream was never made after the dispatcher's first `select` of that
turn. -/
theorem firstHeaders_handled {k : κ} (hk : Alone streamID k) (as : List (Action κ)) :
    AtFirstHeaders streamID shardOf k (fun _ _ s s' => s.Started k ∧ s'.Invoked) as
      ↔ AtFirstHeaders streamID shardOf k (fun before w _ _ => .create k ∉ sinceTurn w before)
          as := by
  constructor
  · grind [firstHeaders_step]
  · intro hall before w outcome after s s' has hrun hstep hfirst
    grind [firstHeaders_step]

/-- The only stream. -/
def oneID (_ : Unit) : GoString := str "1"

theorem alone_oneID : Alone oneID () := fun _ _ => rfl

/-- The dispatcher comes by before the headers. -/
def startedInTime : List (Action Unit) :=
  [.create (), .offer () .downstream (.receiveHeaders ∅ true), .control 0 (leaves false), .poll 0,
    .job 0 (leaves false)]

theorem startedInTime_handled :
    AtFirstHeaders oneID (fun _ => 0) () (fun _ _ s s' => s.Started () ∧ s'.Invoked)
      startedInTime := by
  refine (firstHeaders_handled alone_oneID startedInTime).mpr ?_
  intro before w outcome after s s' has _ _ _
  rcases before with _ | ⟨a, _ | ⟨b, _ | ⟨c, _ | ⟨d, _ | ⟨e, before⟩⟩⟩⟩⟩
  all_goals simp [startedInTime] at has
  obtain ⟨rfl, rfl, rfl, rfl, ⟨rfl, rfl⟩, rfl⟩ := has
  simp [sinceTurn, turnOf]

/-- The stream is made, and its headers come, when the dispatcher has just
looked into the control channel. -/
def madeInWindow : List (Action Unit) :=
  [.poll 0, .create (), .offer () .downstream (.receiveHeaders ∅ true), .job 0 (leaves false),
    .control 0 (leaves false)]

/-- **They are lost**: the headers are taken before the start and dropped, and
then both channels are empty. -/
theorem madeInWindow_dropped : ∃ s, Run (Step oneID fun _ => 0) {} madeInWindow s
      ∧ s.log = [⟨event oneID () .downstream (.receiveHeaders ∅ true), false, false⟩,
          ⟨event oneID () .downstream .start, false, false⟩]
      ∧ (s.worker 0).ctrlChan = [] ∧ (s.worker 0).jobChan = [] :=
  ⟨_, run_of_runSteps (f := step oneID fun _ => 0) rfl, rfl, rfl, rfl⟩

end Pool

end System

end Mosn.Proxy.Dispatch
