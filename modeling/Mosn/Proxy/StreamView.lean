/-
  Mosn.Proxy.StreamView
  **WHAT A STREAM SEES OF ITS WORKER.**

  The workers mix the streams, but a stream only meets its own part: its
  events in the channels of its worker, its entry in the map, its part of the
  records.  `View` is that part and `View.Step` what happens to it; every step
  of the pool is, for each stream, a few steps of its view (`view_step`).  The
  other streams drop out because no two of them share an id.
-/
import Mosn.Proxy.Dispatch

namespace Mosn.Proxy.Dispatch

open Mosn.Lib Mosn.Types

/-! ## §1. Views. -/

/-- What concerns one stream. -/
@[ext] structure View (κ : Type) where
  created : Bool := false
  ctrl : List (Event κ) := []
  jobs : List (Event κ) := []
  entry : Option Bool := none
  offered : List (Event κ) := []
  log : List (Record κ) := []

namespace View

variable {κ : Type}

/-- One more event in its channel. -/
def push (v : View κ) (e : Event κ) : View κ :=
  match e.type with
  | .control => { v with ctrl := v.ctrl ++ [e], offered := v.offered ++ [e] }
  | .normal => { v with jobs := v.jobs ++ [e], offered := v.offered ++ [e] }

/-- One more event processed, the entry being the last argument afterwards. -/
def note (v : View κ) (e : Event κ) (handled left : Bool) (entry : Option Bool) : View κ :=
  { v with entry := entry, log := v.log ++ [⟨e, handled, left⟩] }

/-- `eventProcess` as the stream of the event sees it. -/
inductive Process (v : View κ) (e : Event κ) : View κ → Prop where
  | start (left : Bool) : e.body = .start → Process v e (v.note e false left (some false))
  | stop (left : Bool) : e.body = .stop → Process v e (v.note e false left none)
  | handled (left : Bool) : e.body ≠ .start → e.body ≠ .stop → v.entry = some false →
      Process v e (v.note e true left (some left))
  | dropped (left : Bool) : e.body ≠ .start → e.body ≠ .stop → v.entry ≠ some false →
      Process v e (v.note e false left v.entry)

/-- The steps of one stream. -/
inductive Step (v : View κ) : View κ → Prop where
  | create (e : Event κ) : v.created = false → e.body = .start →
      Step v (View.push { v with created := true } e)
  | offer (e : Event κ) : v.created = true → e.body ≠ .start → Step v (v.push e)
  | control (e : Event κ) (rest : List (Event κ)) {v' : View κ} : v.ctrl = e :: rest →
      Process { v with ctrl := rest } e v' → Step v v'
  | job (e : Event κ) (rest : List (Event κ)) {v' : View κ} : v.jobs = e :: rest →
      Process { v with jobs := rest } e v' → Step v v'

end View

section System

variable {κ : Type} [DecidableEq κ]

/-- The events of stream `k` in a list, and its records. -/
def eventsOf (k : κ) (es : List (Event κ)) : List (Event κ) := es.filter fun e => e.stream = k

def recordsOf (k : κ) (rs : List (Record κ)) : List (Record κ) :=
  rs.filter fun r => r.event.stream = k

theorem eventsOf_cons (k : κ) (e : Event κ) (es : List (Event κ)) :
    eventsOf k (e :: es) = if e.stream = k then e :: eventsOf k es else eventsOf k es := by
  unfold eventsOf
  rw [List.filter_cons]
  simp only [decide_eq_true_eq]

theorem eventsOf_snoc (k : κ) (e : Event κ) (es : List (Event κ)) :
    eventsOf k (es ++ [e]) = if e.stream = k then eventsOf k es ++ [e] else eventsOf k es := by
  unfold eventsOf
  grind

theorem recordsOf_snoc (k : κ) (r : Record κ) (rs : List (Record κ)) : recordsOf k (rs ++ [r])
      = if r.event.stream = k then recordsOf k rs ++ [r] else recordsOf k rs := by
  unfold recordsOf
  grind

variable (streamID : κ → GoString) (shardOf : Int → Nat)

/-- The part of stream `k` in its worker and in the records. -/
def View.ofWorker (k : κ) (done : Option Bool) (worker : Worker κ) (offered : List (Event κ))
    (log : List (Record κ)) : View κ where
  created := done.isSome
  ctrl := eventsOf k worker.ctrlChan
  jobs := eventsOf k worker.jobChan
  entry := worker.streamMap.lookup (streamID k)
  offered := eventsOf k offered
  log := recordsOf k log

/-- The worker of stream `k`. -/
def Pool.workerOf (s : Pool κ) (k : κ) : Worker κ := (home streamID shardOf k).elim {} s.worker

/-- The view of stream `k`. -/
def Pool.view (s : Pool κ) (k : κ) : View κ :=
  .ofWorker streamID k (s.upstreamProcessDone k) (s.workerOf streamID shardOf k) s.offered s.log

variable {streamID shardOf}

/-! ## §2. Each step of the pool. -/

namespace View

theorem ofWorker_push {k : κ} {e : Event κ} (hk : e.stream = k) (done : Option Bool)
    (worker : Worker κ) (offered : List (Event κ)) (log : List (Record κ)) :
    ofWorker streamID k done (worker.push e) (offered ++ [e]) log
      = (ofWorker streamID k done worker offered log).push e := by
  unfold ofWorker push Worker.push
  grind [eventsOf_snoc]

theorem ofWorker_push_other {k : κ} {e : Event κ} (hk : e.stream ≠ k) (done : Option Bool)
    (worker : Worker κ) (offered : List (Event κ)) (log : List (Record κ)) :
    ofWorker streamID k done (worker.push e) offered log
      = ofWorker streamID k done worker offered log := by
  unfold ofWorker Worker.push
  grind [eventsOf_snoc]

theorem ofWorker_offered_other {k : κ} {e : Event κ} (hk : e.stream ≠ k) (done : Option Bool)
    (worker : Worker κ) (offered : List (Event κ)) (log : List (Record κ)) :
    ofWorker streamID k done worker (offered ++ [e]) log
      = ofWorker streamID k done worker offered log := by
  unfold ofWorker
  simp only [eventsOf_snoc, if_neg hk]

end View

namespace Pool

variable {s s' : Pool κ} {k k' : κ} {w : Nat} {e : Event κ} {outcome : Outcome}
  {direction : Direction} {body : EventBody}

omit [DecidableEq κ] in
theorem modifyWorker_self (s : Pool κ) (w : Nat) (f : Worker κ → Worker κ) :
    (s.modifyWorker w f).worker w = f (s.worker w) := Function.update_self ..

omit [DecidableEq κ] in
theorem modifyWorker_of_ne (s : Pool κ) {v : Nat} (hv : v ≠ w) (f : Worker κ → Worker κ) :
    (s.modifyWorker w f).worker v = s.worker v := Function.update_of_ne hv _ _

omit [DecidableEq κ] in
theorem workerOf_of_home (hw : home streamID shardOf k = some w) (s : Pool κ) :
    s.workerOf streamID shardOf k = s.worker w := by
  unfold workerOf
  rw [hw]
  rfl

omit [DecidableEq κ] in
theorem workerOf_modifyWorker (s : Pool κ) (w : Nat) (f : Worker κ → Worker κ) (k : κ) :
    (s.modifyWorker w f).workerOf streamID shardOf k
      = if home streamID shardOf k = some w then f (s.worker w)
        else s.workerOf streamID shardOf k := by
  by_cases hw : home streamID shardOf k = some w
  · rw [if_pos hw, workerOf_of_home hw, modifyWorker_self]
  · rw [if_neg hw]
    unfold workerOf
    cases hv : home streamID shardOf k with
    | none => rfl
    | some v => grind [modifyWorker_of_ne]

theorem view_of_home (hw : home streamID shardOf k = some w) (s : Pool κ) :
    s.view streamID shardOf k
      = .ofWorker streamID k (s.upstreamProcessDone k) (s.worker w) s.offered s.log := by
  unfold view
  rw [workerOf_of_home hw]

theorem view_modifyWorker {f : Worker κ → Worker κ}
    (hf : home streamID shardOf k = some w →
      View.ofWorker streamID k (s.upstreamProcessDone k) (f (s.worker w)) s.offered s.log
        = .ofWorker streamID k (s.upstreamProcessDone k) (s.worker w) s.offered s.log) :
    (s.modifyWorker w f).view streamID shardOf k = s.view streamID shardOf k := by
  show View.ofWorker streamID k (s.upstreamProcessDone k)
    ((s.modifyWorker w f).workerOf streamID shardOf k) s.offered s.log = _
  rw [workerOf_modifyWorker]
  by_cases hw : home streamID shardOf k = some w
  · rw [if_pos hw, hf hw, view_of_home hw]
  · rw [if_neg hw]
    rfl

/-! ### Offers. -/

theorem view_offer_self
    (h : s.offer streamID shardOf k direction body = some s') : s'.view streamID shardOf k
      = (s.view streamID shardOf k).push (event streamID k direction body) := by
  obtain ⟨w, hw, rfl⟩ := Option.map_eq_some_iff.mp h
  -- the worker of an event only depends on the id
  have hhome : home streamID shardOf k = some w := hw
  rw [view_of_home hhome, view_of_home hhome]
  show View.ofWorker streamID k (s.upstreamProcessDone k)
    ((s.modifyWorker w (·.push (event streamID k direction body))).worker w)
    (s.offered ++ [event streamID k direction body]) s.log = _
  rw [modifyWorker_self]
  exact View.ofWorker_push (k := k) (e := event streamID k direction body) rfl ..

theorem view_offer_other (h : s.offer streamID shardOf k direction body = some s') (hk : k ≠ k') :
    s'.view streamID shardOf k' = s.view streamID shardOf k' := by
  obtain ⟨w, _, rfl⟩ := Option.map_eq_some_iff.mp h
  show View.ofWorker streamID k' (s.upstreamProcessDone k')
    ((s.modifyWorker w (·.push (event streamID k direction body))).workerOf streamID shardOf k')
    (s.offered ++ [event streamID k direction body]) s.log = _
  rw [View.ofWorker_offered_other hk]
  exact view_modifyWorker fun _ => View.ofWorker_push_other hk ..

omit [DecidableEq κ] in
theorem offer_done (h : s.offer streamID shardOf k direction body = some s') :
    s'.upstreamProcessDone = s.upstreamProcessDone := by
  obtain ⟨w, _, rfl⟩ := Option.map_eq_some_iff.mp h
  rfl

theorem isStart_iff : isStart body = true ↔ body = .start := by
  cases body <;> simp [isStart]

omit [DecidableEq κ] in
theorem offerAll_cons {o : Direction × EventBody}
    {offers : List (Direction × EventBody)}
    (h : s.offerAll streamID shardOf k (o :: offers) = some s') :
    o.2 ≠ .start ∧ ∃ s₁, s.offer streamID shardOf k o.1 o.2 = some s₁
      ∧ s₁.offerAll streamID shardOf k offers = some s' := by
  unfold offerAll at h
  obtain ⟨hstart, h⟩ := Option.ite_none_left_eq_some.mp h
  exact ⟨fun hb => hstart (isStart_iff.mpr hb), Option.bind_eq_some_iff.mp h⟩

theorem view_offerAll_self (offers : List (Direction × EventBody)) : ∀ {s s' : Pool κ},
    s.offerAll streamID shardOf k offers = some s' → (s.upstreamProcessDone k).isSome →
    Relation.ReflTransGen View.Step (s.view streamID shardOf k) (s'.view streamID shardOf k) := by
  induction offers with
  | nil =>
    intro s s' h _
    cases h
    exact .refl
  | cons o offers ih =>
    intro s s' h hk
    obtain ⟨hstart, s₁, h₁, h⟩ := offerAll_cons h
    have hfirst : View.Step (s.view streamID shardOf k) (s₁.view streamID shardOf k) := by
      rw [view_offer_self h₁]
      exact .offer _ hk hstart
    exact .head hfirst (ih h (by rw [offer_done h₁]; exact hk))

theorem view_offerAll_other (hk : k ≠ k') (offers : List (Direction × EventBody)) :
    ∀ {s s' : Pool κ}, s.offerAll streamID shardOf k offers = some s' →
    s'.view streamID shardOf k' = s.view streamID shardOf k' := by
  induction offers with
  | nil =>
    intro s s' h
    cases h
    rfl
  | cons o offers ih =>
    intro s s' h
    obtain ⟨-, s₁, h₁, h⟩ := offerAll_cons h
    rw [ih h, view_offer_other h₁ hk]

/-! ### What the processing of an event writes. -/

theorem view_setDone (hk : (s.upstreamProcessDone k).isSome) (done : Bool)
    (k' : κ) : (s.setDone k done).view streamID shardOf k' = s.view streamID shardOf k' := by
  by_cases h : k' = k
  · subst h
    apply View.ext
    · show (Function.update s.upstreamProcessDone k' (some done) k').isSome = _
      rw [Function.update_self]
      exact hk.symm
    all_goals rfl
  · show View.ofWorker streamID k' (Function.update s.upstreamProcessDone k (some done) k') _ _ _
      = _
    rw [Function.update_of_ne h]
    rfl

theorem view_record_self (s : Pool κ) (e : Event κ) (handled left : Bool) :
    (s.record e handled left).view streamID shardOf e.stream
      = (s.view streamID shardOf e.stream).note e handled left
          (s.view streamID shardOf e.stream).entry := by
  apply View.ext
  case log =>
    show recordsOf e.stream (s.log ++ [_]) = recordsOf e.stream s.log ++ [_]
    rw [recordsOf_snoc, if_pos rfl]
  all_goals rfl

theorem view_record_other (s : Pool κ) (hk : e.stream ≠ k)
    (handled left : Bool) :
    (s.record e handled left).view streamID shardOf k = s.view streamID shardOf k := by
  apply View.ext
  case log =>
    show recordsOf k (s.log ++ [_]) = recordsOf k s.log
    rw [recordsOf_snoc, if_neg hk]
  all_goals rfl

theorem view_setEntry_self (hw : home streamID shardOf k = some w) (value : Option Bool) :
    (s.setEntry w (streamID k) value).view streamID shardOf k
      = { s.view streamID shardOf k with entry := value } := by
  rw [view_of_home hw, view_of_home hw]
  cases value with
  | some value =>
    unfold setEntry
    rw [modifyWorker_self]
    apply View.ext
    case entry => exact Finmap.lookup_insert _
    all_goals rfl
  | none =>
    unfold setEntry
    rw [modifyWorker_self]
    apply View.ext
    case entry => exact Finmap.lookup_erase _ _
    all_goals rfl

theorem view_setEntry_other {id : GoString}
    (hk : streamID k ≠ id) (value : Option Bool) :
    (s.setEntry w id value).view streamID shardOf k = s.view streamID shardOf k := by
  cases value with
  | some value =>
    apply view_modifyWorker
    intro _
    apply View.ext
    case entry => exact Finmap.lookup_insert_of_ne _ hk
    all_goals rfl
  | none =>
    apply view_modifyWorker
    intro _
    apply View.ext
    case entry => exact Finmap.lookup_erase_ne hk
    all_goals rfl

/-! ### The processing of an event. -/

/-- The events in a worker's channels are of streams that there are, carry
their ids and are in the channels of their worker. -/
def Belongs (streamID : κ → GoString) (shardOf : Int → Nat) (s : Pool κ) (w : Nat) (e : Event κ) :
    Prop :=
  e.streamID = streamID e.stream ∧ home streamID shardOf e.stream = some w
    ∧ (s.upstreamProcessDone e.stream).isSome = true

theorem isSome_setDone (s : Pool κ) (k : κ) (done : Bool) :
    ((s.setDone k done).upstreamProcessDone k).isSome = true := by
  show (Function.update s.upstreamProcessDone k (some done) k).isSome = true
  rw [Function.update_self]
  rfl

theorem view_eventProcess_self (he : s.Belongs streamID shardOf w e)
    (h : s.eventProcess streamID shardOf w e outcome = some s') :
    ∃ v, View.Process (s.view streamID shardOf e.stream) e v
      ∧ Relation.ReflTransGen View.Step v (s'.view streamID shardOf e.stream) := by
  obtain ⟨hid, hw, hdone⟩ := he
  have hentry : (s.worker w).streamMap.lookup e.streamID
      = (s.view streamID shardOf e.stream).entry := by
    rw [view_of_home hw, hid]
    rfl
  -- the map is written after the record
  have hwrite : ∀ (t : Pool κ) (handled left : Bool) (value : Option Bool),
      t.view streamID shardOf e.stream = s.view streamID shardOf e.stream →
      ((t.record e handled left).setEntry w e.streamID value).view streamID shardOf e.stream
        = (s.view streamID shardOf e.stream).note e handled left value := by
    intro t handled left value ht
    rw [hid, view_setEntry_self hw, view_record_self, ht]
    rfl
  unfold eventProcess at h
  split at h
  · rename_i hbody
    cases h
    refine ⟨_, .start (s.doneOf e.stream) hbody, ?_⟩
    rw [hwrite s _ _ _ rfl]
  · rename_i hbody
    cases h
    refine ⟨_, .stop (s.doneOf e.stream) hbody, ?_⟩
    rw [hwrite s _ _ _ rfl]
  · rename_i hstart hstop
    split at h
    · rename_i hfound
      rw [hentry] at hfound
      refine ⟨_, .handled outcome.left hstart hstop hfound, ?_⟩
      -- the flag is the handler's own by the time its offers are made
      have hsteps := view_offerAll_self outcome.offers h (isSome_setDone s e.stream outcome.left)
      rwa [hwrite _ _ _ _ (view_setDone hdone ..), Bool.false_or] at hsteps
    · rename_i hfound
      rw [hentry] at hfound
      cases h
      refine ⟨_, .dropped (s.doneOf e.stream) hstart hstop hfound, ?_⟩
      rw [view_record_self]

theorem view_eventProcess_other
    (he : s.Belongs streamID shardOf w e) (hk : e.stream ≠ k) (hid : streamID k ≠ e.streamID)
    (h : s.eventProcess streamID shardOf w e outcome = some s') :
    s'.view streamID shardOf k = s.view streamID shardOf k := by
  unfold eventProcess at h
  split at h
  · cases h
    rw [view_setEntry_other hid, view_record_other _ hk]
  · cases h
    rw [view_setEntry_other hid, view_record_other _ hk]
  · split at h
    · rw [view_offerAll_other hk outcome.offers h, view_setEntry_other hid, view_record_other _ hk,
        view_setDone he.2.2]
    · cases h
      rw [view_record_other _ hk]

/-! ### What is in the channels. -/

/-- The events of a channel belong to its worker. -/
def Placed (streamID : κ → GoString) (shardOf : Int → Nat) (s : Pool κ) : Prop :=
  ∀ (w : Nat) (e : Event κ), e ∈ (s.worker w).ctrlChan ∨ e ∈ (s.worker w).jobChan →
    s.Belongs streamID shardOf w e

omit [DecidableEq κ] in
theorem Placed.mono (hs : s.Placed streamID shardOf)
    (hctrl : ∀ w, (s'.worker w).ctrlChan ⊆ (s.worker w).ctrlChan)
    (hjobs : ∀ w, (s'.worker w).jobChan ⊆ (s.worker w).jobChan)
    (hdone : ∀ k, (s.upstreamProcessDone k).isSome → (s'.upstreamProcessDone k).isSome) :
    s'.Placed streamID shardOf := by
  intro w e he
  obtain ⟨hid, hw, hk⟩ := hs w e (he.imp (fun h => hctrl w h) (fun h => hjobs w h))
  exact ⟨hid, hw, hdone _ hk⟩

omit [DecidableEq κ] in
theorem Placed.modifyWorker (hs : s.Placed streamID shardOf) (w : Nat)
    (f : Worker κ → Worker κ) (hctrl : (f (s.worker w)).ctrlChan ⊆ (s.worker w).ctrlChan)
    (hjobs : (f (s.worker w)).jobChan ⊆ (s.worker w).jobChan) :
    (s.modifyWorker w f).Placed streamID shardOf := by
  refine hs.mono ?_ ?_ fun _ hk => hk
  all_goals grind [modifyWorker_self, modifyWorker_of_ne, List.Subset.refl]

theorem Placed.setDone (hs : s.Placed streamID shardOf) (k : κ) (done : Bool) :
    (s.setDone k done).Placed streamID shardOf := by
  refine hs.mono (fun _ => List.Subset.refl _) (fun _ => List.Subset.refl _) fun k' hk' => ?_
  show (Function.update s.upstreamProcessDone k (some done) k').isSome
  grind

omit [DecidableEq κ] in
theorem Placed.record (hs : s.Placed streamID shardOf) (e : Event κ)
    (handled left : Bool) : (s.record e handled left).Placed streamID shardOf := hs

omit [DecidableEq κ] in
theorem Placed.setEntry (hs : s.Placed streamID shardOf) (w : Nat) (id : GoString)
    (value : Option Bool) : (s.setEntry w id value).Placed streamID shardOf := by
  cases value with
  | some | none =>
    refine hs.modifyWorker w (fun worker => _) ?_ ?_
    · exact List.Subset.refl _
    · exact List.Subset.refl _

omit [DecidableEq κ] in
theorem Placed.offer (hs : s.Placed streamID shardOf) (hk : (s.upstreamProcessDone k).isSome)
    (h : s.offer streamID shardOf k direction body = some s') : s'.Placed streamID shardOf := by
  obtain ⟨w, hw, rfl⟩ := Option.map_eq_some_iff.mp h
  have hhome : home streamID shardOf k = some w := hw
  intro v e he
  by_cases hv : v = w
  · subst hv
    have hworker : (s.put v (event streamID k direction body)).worker v
        = (s.worker v).push (event streamID k direction body) := Function.update_self ..
    rw [hworker] at he
    -- either the event was there, or it is the new one
    have hcases : e ∈ (s.worker v).ctrlChan ∨ e ∈ (s.worker v).jobChan
        ∨ e = event streamID k direction body := by
      grind [Worker.push, List.mem_singleton]
    rcases hcases with he | he | rfl
    · exact hs v e (Or.inl he)
    · exact hs v e (Or.inr he)
    · exact ⟨rfl, hhome, hk⟩
  · have hworker : (s.put w (event streamID k direction body)).worker v = s.worker v :=
      Function.update_of_ne hv _ _
    rw [hworker] at he
    exact hs v e he

omit [DecidableEq κ] in
theorem Placed.offerAll (offers : List (Direction × EventBody)) : ∀ {s s' : Pool κ},
    s.Placed streamID shardOf → (s.upstreamProcessDone k).isSome →
    s.offerAll streamID shardOf k offers = some s' → s'.Placed streamID shardOf := by
  induction offers with
  | nil =>
    intro s s' hs _ h
    cases h
    exact hs
  | cons o offers ih =>
    intro s s' hs hk h
    obtain ⟨-, s₁, h₁, h⟩ := offerAll_cons h
    exact ih (hs.offer hk h₁) (by rw [offer_done h₁]; exact hk) h

theorem Placed.eventProcess (hs : s.Placed streamID shardOf)
    (h : s.eventProcess streamID shardOf w e outcome = some s') : s'.Placed streamID shardOf := by
  unfold Pool.eventProcess at h
  split at h
  · cases h
    exact (hs.record _ _ _).setEntry _ _ _
  · cases h
    exact (hs.record _ _ _).setEntry _ _ _
  · split at h
    · refine Placed.offerAll outcome.offers (((hs.setDone _ _).record _ _ _).setEntry _ _ _) ?_ h
      exact isSome_setDone s e.stream outcome.left
    · cases h
      exact hs.record _ _ _

/-! ### The turns of a dispatcher. -/

omit [DecidableEq κ] in
theorem Placed.takeControl {rest : List (Event κ)}
    (hs : s.Placed streamID shardOf) (hctrl : (s.worker w).ctrlChan = e :: rest) :
    (s.takeControl w rest).Placed streamID shardOf := by
  refine hs.modifyWorker w (fun worker => _) ?_ ?_
  · rw [hctrl]
    exact List.subset_cons_self e rest
  · exact List.Subset.refl _

omit [DecidableEq κ] in
theorem Placed.takeJob {rest : List (Event κ)}
    (hs : s.Placed streamID shardOf) (hjobs : (s.worker w).jobChan = e :: rest) :
    (s.takeJob w rest).Placed streamID shardOf := by
  refine hs.modifyWorker w (fun worker => _) ?_ ?_
  · exact List.Subset.refl _
  · rw [hjobs]
    exact List.subset_cons_self e rest

/-- No other stream has the id of `k`. -/
def Alone (streamID : κ → GoString) (k : κ) : Prop := ∀ k', streamID k' = streamID k → k' = k

/-- What a turn of worker `w` is to the streams: one of the worker's own has
steps, the others do not see it. -/
def Turn (streamID : κ → GoString) (shardOf : Int → Nat) (s : Pool κ) (w : Nat) (s' : Pool κ) :
    Prop :=
  ∃ k, home streamID shardOf k = some w
    ∧ Relation.ReflTransGen View.Step (s.view streamID shardOf k) (s'.view streamID shardOf k)
    ∧ ∀ k', Alone streamID k' → k ≠ k' →
        s'.view streamID shardOf k' = s.view streamID shardOf k'

theorem turn_of_take {t : Pool κ}
    (he : s.Belongs streamID shardOf w e)
    (h : t.eventProcess streamID shardOf w e outcome = some s')
    (hdone : t.upstreamProcessDone = s.upstreamProcessDone)
    (hself : ∀ v, View.Process (t.view streamID shardOf e.stream) e v →
      View.Step (s.view streamID shardOf e.stream) v)
    (hother : ∀ k, e.stream ≠ k → t.view streamID shardOf k = s.view streamID shardOf k) :
    s.Turn streamID shardOf w s' := by
  have het : t.Belongs streamID shardOf w e := ⟨he.1, he.2.1, by rw [hdone]; exact he.2.2⟩
  refine ⟨e.stream, he.2.1, ?_, ?_⟩
  · obtain ⟨v, hv, hsteps⟩ := view_eventProcess_self het h
    exact .head (hself v hv) hsteps
  · intro k hk hne
    -- the map is keyed by the id, so a stream that shared it would see the write
    have hid : streamID k ≠ e.streamID := by
      rw [he.1]
      intro hid
      exact hne (hk _ hid.symm)
    rw [view_eventProcess_other het hne hid h, hother k hne]

theorem control_turn
    (hs : s.Placed streamID shardOf) (h : s.Step streamID shardOf (.control w outcome) s') :
    s'.Placed streamID shardOf ∧ s.Turn streamID shardOf w s' := by
  change s.controlTurn streamID shardOf w outcome = some s' at h
  unfold controlTurn at h
  cases hctrl : (s.worker w).ctrlChan with
  | nil =>
    rw [hctrl] at h
    cases h
  | cons e rest =>
    rw [hctrl] at h
    dsimp only at h
    -- the event's stream loses the head of its control events, the others lose nothing
    have he : s.Belongs streamID shardOf w e := hs w e (Or.inl (by rw [hctrl]; exact .head _))
    refine ⟨(hs.takeControl hctrl).eventProcess h, turn_of_take he h rfl ?_ ?_⟩
    · intro v hv
      rw [view_of_home he.2.1] at hv ⊢
      rw [takeControl, modifyWorker_self] at hv
      refine .control e (eventsOf e.stream rest) ?_ hv
      show eventsOf e.stream (s.worker w).ctrlChan = _
      rw [hctrl, eventsOf_cons, if_pos rfl]
    · intro k hk
      refine view_modifyWorker fun _ => ?_
      apply View.ext
      case ctrl =>
        show eventsOf k rest = eventsOf k (s.worker w).ctrlChan
        rw [hctrl, eventsOf_cons, if_neg hk]
      all_goals rfl

theorem job_turn
    (hs : s.Placed streamID shardOf) (h : s.Step streamID shardOf (.job w outcome) s') :
    s'.Placed streamID shardOf ∧ s.Turn streamID shardOf w s' := by
  change s.jobTurn streamID shardOf w outcome = some s' at h
  unfold jobTurn at h
  cases hjobs : (s.worker w).jobChan with
  | nil =>
    rw [hjobs] at h
    cases h
  | cons e rest =>
    rw [hjobs] at h
    -- that the worker has polled says nothing about the stream of the event
    obtain ⟨-, h⟩ := Option.ite_none_right_eq_some.mp h
    have he : s.Belongs streamID shardOf w e := hs w e (Or.inr (by rw [hjobs]; exact .head _))
    refine ⟨(hs.takeJob hjobs).eventProcess h, turn_of_take he h rfl ?_ ?_⟩
    · intro v hv
      rw [view_of_home he.2.1] at hv ⊢
      rw [takeJob, modifyWorker_self] at hv
      refine .job e (eventsOf e.stream rest) ?_ hv
      show eventsOf e.stream (s.worker w).jobChan = _
      rw [hjobs, eventsOf_cons, if_pos rfl]
    · intro k hk
      refine view_modifyWorker fun _ => ?_
      apply View.ext
      case jobs =>
        show eventsOf k rest = eventsOf k (s.worker w).jobChan
        rw [hjobs, eventsOf_cons, if_neg hk]
      all_goals rfl

/-! ### Everyone else's turns. -/

theorem create_cases (hs : s.Placed streamID shardOf)
    (h : s.Step streamID shardOf (.create k) s') :
    s'.Placed streamID shardOf ∧ (s.view streamID shardOf k).created = false
      ∧ s'.view streamID shardOf k = View.push { s.view streamID shardOf k with created := true }
          (event streamID k .downstream .start)
      ∧ ∀ k', k ≠ k' → s'.view streamID shardOf k' = s.view streamID shardOf k' := by
  obtain ⟨hnone, h⟩ := Option.ite_none_right_eq_some.mp h
  have hsome := isSome_setDone s k false
  refine ⟨(hs.setDone k false).offer hsome h, ?_, ?_, ?_⟩
  · show (s.upstreamProcessDone k).isSome = false
    rw [hnone]
    rfl
  · rw [view_offer_self h]
    congr 1
    apply View.ext
    case created => exact hsome
    all_goals rfl
  · intro k' hk
    rw [view_offer_other h hk]
    show View.ofWorker streamID k' (Function.update s.upstreamProcessDone k (some false) k') _ _ _
      = _
    rw [Function.update_of_ne (Ne.symm hk)]
    rfl

theorem offer_cases
    (hs : s.Placed streamID shardOf) (h : s.Step streamID shardOf (.offer k direction body) s') :
    s'.Placed streamID shardOf ∧ (s.view streamID shardOf k).created = true ∧ body ≠ .start
      ∧ s'.view streamID shardOf k
          = (s.view streamID shardOf k).push (event streamID k direction body)
      ∧ ∀ k', k ≠ k' → s'.view streamID shardOf k' = s.view streamID shardOf k' := by
  obtain ⟨hok, h⟩ := Option.ite_none_left_eq_some.mp h
  obtain ⟨hsome, hbody⟩ := not_or.mp hok
  have hcreated : (s.upstreamProcessDone k).isSome = true :=
    Option.isSome_iff_ne_none.mpr hsome
  exact ⟨hs.offer hcreated h, hcreated, fun hb => hbody (isStart_iff.mpr hb), view_offer_self h,
    fun k' hk => view_offer_other h hk⟩

theorem change_cases {done : Bool} (hs : s.Placed streamID shardOf)
    (h : s.Step streamID shardOf (.change k done) s') : s'.Placed streamID shardOf
      ∧ ∀ k', s'.view streamID shardOf k' = s.view streamID shardOf k' := by
  obtain ⟨hsome, h⟩ := Option.ite_none_left_eq_some.mp h
  cases h
  exact ⟨hs.setDone k done, view_setDone (Option.isSome_iff_ne_none.mpr hsome) done⟩

theorem poll_cases (hs : s.Placed streamID shardOf)
    (h : s.Step streamID shardOf (.poll w) s') : s'.Placed streamID shardOf
      ∧ ∀ k', s'.view streamID shardOf k' = s.view streamID shardOf k' := by
  obtain ⟨-, h⟩ := Option.ite_none_right_eq_some.mp h
  cases h
  refine ⟨?_, fun k' => view_modifyWorker fun _ => rfl⟩
  refine hs.modifyWorker w (fun worker => _) ?_ ?_
  · exact List.Subset.refl _
  · exact List.Subset.refl _

/-- **The simulation**: each step of the pool is, to a stream whose id no other
stream has, a few steps of its own. -/
theorem view_step {a : Action κ} (hs : s.Placed streamID shardOf)
    (h : s.Step streamID shardOf a s') : s'.Placed streamID shardOf ∧ ∀ k, Alone streamID k →
      Relation.ReflTransGen View.Step (s.view streamID shardOf k) (s'.view streamID shardOf k) := by
  cases a with
  | create k =>
    obtain ⟨hs', hnew, hself, hother⟩ := create_cases hs h
    refine ⟨hs', fun k' _ => ?_⟩
    by_cases hk : k = k'
    · subst hk
      rw [hself]
      exact .single (.create _ hnew rfl)
    · rw [hother k' hk]
  | offer k direction body =>
    obtain ⟨hs', hold, hbody, hself, hother⟩ := offer_cases hs h
    refine ⟨hs', fun k' _ => ?_⟩
    by_cases hk : k = k'
    · subst hk
      rw [hself]
      exact .single (.offer _ hold hbody)
    · rw [hother k' hk]
  | change k done =>
    obtain ⟨hs', hall⟩ := change_cases hs h
    exact ⟨hs', fun k' _ => by rw [hall k']⟩
  | poll w =>
    obtain ⟨hs', hall⟩ := poll_cases hs h
    exact ⟨hs', fun k' _ => by rw [hall k']⟩
  | control w outcome =>
    obtain ⟨hs', k, -, hself, hother⟩ := control_turn hs h
    grind
  | job w outcome =>
    obtain ⟨hs', k, -, hself, hother⟩ := job_turn hs h
    grind

end Pool

end System

end Mosn.Proxy.Dispatch
