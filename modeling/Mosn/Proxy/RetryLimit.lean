/-
  Mosn.Proxy.RetryLimit
  **THE LIMIT ON THE RETRIES OF A CLUSTER** and its statistics.

  `shouldRetry` takes room for another retry for an overflow, so the limit
  works the wrong way round; and on either way it counts up a counter that
  `newClusterStats` has left nil.

    • `Held.onUpstream_ok_iff` — with the statistics of `newCluster`, a check
      that passes is a fault,
    • `Streams.limit_iff` — with all of them, the limit is kept and no
      retry is turned away below it exactly in the runs in which no check ever
      passes.
-/
import Mosn.Proxy.RetrySlots
import Mosn.Stream.RequestLimit

namespace Mosn.Proxy.Lifecycle

open Mosn.Lib Mosn.Types
open Mosn.Stream.Codec (Resource)

namespace Held

/-! ## §1. Where a check faults. -/

section Fault

variable {stats : ClusterStats} {headers : HeaderMap} {reason : Option StreamResetReason}
  {endStream : Bool}

theorem setupRetry_total (h : Held) (endStream : Bool)
    (hrouted : h.stream.upstreamRequest.isSome = true) :
    ∃ res, h.setupRetry endStream = .ok res := by
  obtain ⟨r, hr⟩ := Option.isSome_iff_exists.mp hrouted
  have hreset : h.stream.upstreamResetStream.upstreamRequest = some r := by
    simp only [DownStream.upstreamResetStream, hr]
    split
    · rfl
    · exact hr
  simp only [setupRetry, DownStream.setupRetry]
  split
  · exact ⟨_, rfl⟩
  · cases endStream with
    | true =>
      simp only [Bool.not_true, Bool.false_eq_true, if_false, hr]
      exact ⟨_, rfl⟩
    | false =>
      simp only [Bool.not_false, if_true, hreset]
      exact ⟨_, rfl⟩

/-- The counter that a check which passes counts up. -/
def counted (h : Held) : ClusterStat :=
  if h.resetRetry.retries.canCreate then .upstreamRequestRetryOverflow else .upstreamRequestRetry

theorem inc_returns_iff {α : Type} {stat : ClusterStat} {f : Unit → α} :
    (∃ x, (stats.inc stat).map f = .ok x) ↔ stats stat = true := by
  constructor
  · rintro ⟨x, hx⟩
    obtain ⟨_, hinc, -⟩ := map_eq_ok.mp hx
    exact inc_ok hinc
  · intro hset
    rw [inc_of_set hset]
    exact ⟨_, rfl⟩

theorem retry_returns_iff (h : Held) {r : RetryState} (hr : h.stream.retryState = some r) :
    (∃ res, h.retry stats headers reason = .ok res)
      ↔ (r.Passes headers reason → stats h.counted = true) := by
  rw [retry_eq hr, counted]
  by_cases hpass : r.Passes headers reason
  · simp only [hpass, if_true, true_implies]
    split
    · exact inc_returns_iff
    · exact inc_returns_iff
  · simp only [hpass, if_false, false_implies, iff_true]
    exact ⟨_, rfl⟩

theorem retrying_returns_iff (stats : ClusterStats) (headers : HeaderMap)
    (reason : Option StreamResetReason) (endStream : Bool) (h : Held)
    (hrouted : h.stream.upstreamRequest.isSome = true) {r : RetryState}
    (hr : h.stream.retryState = some r) :
    (∃ res, h.retrying stats headers reason endStream = .ok res)
      ↔ (r.Passes headers reason → stats h.counted = true) := by
  rw [← retry_returns_iff h hr]
  constructor
  · rintro ⟨res, hres⟩
    obtain ⟨res', hretry, -⟩ := bind_eq_ok.mp hres
    exact ⟨res', hretry⟩
  · rintro ⟨⟨check, g⟩, hretry⟩
    have hrouted' : g.stream.upstreamRequest.isSome = true := by
      have hkept : g.stream.upstreamRequest = h.stream.upstreamRequest := by
        rw [retry_eq hr] at hretry
        split at hretry
        · split at hretry
          · obtain ⟨_, -, hend⟩ := map_eq_ok.mp hretry
            cases hend
            simp only [settled, stream_on, stream_resetRetry]
          · obtain ⟨_, -, hend⟩ := map_eq_ok.mp hretry
            cases hend
            simp only [scheduling, stream_on, stream_resetRetry, DownStream.startTimer]
        · cases hretry
          simp only [settled, stream_on, stream_resetRetry]
      rw [hkept]
      exact hrouted
    by_cases hcheck : check = .shouldRetry
    · obtain ⟨res, hset⟩ := setupRetry_total g endStream hrouted'
      refine ⟨res, bind_eq_ok.mpr ⟨_, hretry, ?_⟩⟩
      simp only [hcheck, if_true]
      exact hset
    · refine ⟨(false, g), bind_eq_ok.mpr ⟨_, hretry, ?_⟩⟩
      simp only [hcheck, if_false]
      rfl

theorem onUpstreamHeaders_returns_iff (stats : ClusterStats) (headers : HeaderMap)
    (endStream : Bool) (h : Held) (hrouted : h.stream.upstreamRequest.isSome = true) :
    (∃ h', h.onUpstreamHeaders stats headers endStream = .ok h')
      ↔ ∀ r, h.stream.retryState = some r → r.Passes headers none → stats h.counted = true := by
  cases hr : h.stream.retryState with
  | none =>
    simp only [onUpstreamHeaders, hr, Option.isSome_none, Bool.false_eq_true, if_false]
    refine ⟨fun _ r hnone => ?_, fun _ => ⟨_, rfl⟩⟩
    cases hnone
  | some r =>
    have hcheck := retrying_returns_iff stats headers none endStream h hrouted hr
    simp only [onUpstreamHeaders, hr, Option.isSome_some, if_true, Option.some.injEq,
      forall_eq', ← hcheck]
    constructor
    · grind [bind_eq_ok]
    · rintro ⟨⟨again, g⟩, hretrying⟩
      cases again with
      | true => exact ⟨g, bind_eq_ok.mpr ⟨_, hretrying, rfl⟩⟩
      | false => exact ⟨_, bind_eq_ok.mpr ⟨_, hretrying, rfl⟩⟩

theorem onUpstreamReset_returns (h : Held) (hrouted : h.stream.upstreamRequest.isSome = true)
    (urtype : DownStream.UpstreamResetType) (reason : StreamResetReason) :
    ∃ h', h.onUpstreamReset stats urtype reason = .ok h' := by
  simp only [onUpstreamReset]
  split
  · exact ⟨_, rfl⟩
  · split
    next hcond =>
      obtain ⟨r, hr⟩ := Option.isSome_iff_exists.mp hcond.2.2
      obtain ⟨⟨again, g⟩, hretrying⟩ := (retrying_returns_iff stats ∅ (some reason) true
        (h.on fun s => { s with upstreamReset := true }) hrouted hr).mpr
          fun hpass => absurd hpass (r.not_passes_reset (some reason))
      cases again with
      | true => exact ⟨g, bind_eq_ok.mpr ⟨_, hretrying, rfl⟩⟩
      | false => exact ⟨_, bind_eq_ok.mpr ⟨_, hretrying, rfl⟩⟩
    next => exact ⟨_, rfl⟩

theorem newCluster_counted (config : ClusterConfig) (h : Held) :
    (newCluster config).stats h.counted = false := by
  simp only [counted]
  split <;> rfl

/-- **Deciding on a retry** returns exactly when no retry is due: the response
does not pass the check, or there are no retries left.  A reset always
returns. -/
theorem onUpstream_ok_iff (config : ClusterConfig) (h : Held)
    (hrouted : h.stream.upstreamRequest.isSome = true) (headers : HeaderMap) (endStream : Bool) :
    ((∃ h', h.onUpstreamHeaders (newCluster config).stats headers endStream = .ok h')
      ↔ ¬ ∃ r, h.stream.retryState = some r ∧ r.Passes headers none)
    ∧ ∀ urtype reason,
        ∃ h', h.onUpstreamReset (newCluster config).stats urtype reason = .ok h' := by
  refine ⟨?_, onUpstreamReset_returns h hrouted⟩
  rw [onUpstreamHeaders_returns_iff _ _ _ h hrouted]
  constructor
  · grind [newCluster_counted]
  · intro hnone r hr hpass
    exact absurd ⟨r, hr, hpass⟩ hnone

/-- A response that is passed on. -/
theorem onUpstream_ok_forwarded : ∃ h', (awaiting 3).onUpstreamHeaders (newCluster ⟨[]⟩).stats
      (answered (str "200")) true = .ok h' := by
  refine (onUpstream_ok_iff ⟨[]⟩ (awaiting 3) rfl (answered (str "200")) true).1.mpr ?_
  rintro ⟨r, hr, hpasses⟩
  cases hr
  exact absurd hpasses (by decide)

/-- The first server error that a stream with a retry policy is told of. -/
theorem onUpstreamHeaders_faults :
    (awaiting 3).onUpstreamHeaders (newCluster ⟨[]⟩).stats (answered (str "500")) true
      = .error .nilDereference := by
  rfl

end Fault

end Held

namespace Streams

variable {stats : ClusterStats} {s s' : Streams} {a : Nat × Held.Call}

/-! ## §2. The limit. -/

/-- The check that a call makes: of which headers, and for which reset. -/
def asks (s : DownStream) : Held.Call → Option (HeaderMap × Option StreamResetReason)
  | .upstreamHeaders headers _ => if s.upstreamRequest.isSome then some (headers, none) else none
  | .upstreamReset reason =>
    if s.upstreamRequest.isSome && !s.upstreamReset && s.downstreamResponseStarted then
      some (∅, some reason)
    else none
  | _ => none

/-- The call asks for a retry, and the check succeeds with retries
remaining. -/
def Passing (s : Streams) (a : Nat × Held.Call) : Prop :=
  ∃ x r headers reason, s.streams[a.1]? = some x ∧ asks x.stream a.2 = some (headers, reason)
    ∧ x.stream.retryState = some r ∧ r.Passes headers reason

/-- Below the limit, a retry for which the check succeeds is scheduled. -/
def Admits (s : Streams) (a : Nat × Held.Call) (s' : Streams) : Prop :=
  s.Passing a → s.outstanding < s.retries.max.toNat →
    ∃ x x', s.streams[a.1]? = some x ∧ s'.streams[a.1]? = some x'
      ∧ x'.scheduled = x.scheduled + 1

/-- A check succeeds, and there is a limit or the retry will not be taken back
at once. -/
def Trips (s : Streams) (a : Nat × Held.Call) : Prop :=
  s.Passing a ∧ (0 < s.retries.max.toNat ∨ ∃ x, s.streams[a.1]? = some x
    ∧ x.stream.upstreamRequestSent = true)

theorem Passing.headers (h : s.Passing a) :
    ∃ x r headers endStream, s.streams[a.1]? = some x ∧ a.2 = .upstreamHeaders headers endStream
      ∧ x.stream.upstreamRequest.isSome = true ∧ x.stream.retryState = some r
      ∧ r.Passes headers none := by
  obtain ⟨x, r, headers, reason, hx, hasks, hr, hpass⟩ := h
  obtain ⟨i, c⟩ := a
  cases c with
  | upstreamHeaders headers' endStream =>
    simp only [asks] at hasks
    grind
  | upstreamReset reason' =>
    simp only [asks] at hasks
    split at hasks
    next =>
      cases hasks
      exact absurd hpass (r.not_passes_reset _)
    next => cases hasks
  | _ => cases hasks

/-- No retry is outstanding. -/
structure Idle (s : Streams) : Prop where
  balanced : s.Balanced
  outstanding : s.outstanding = 0

theorem Idle.slot (hidle : s.Idle) {x : Tracked} {i : Nat} (hx : s.streams[i]? = some x) :
    x.stream.slot = 0 := by
  obtain ⟨n, hn, -⟩ := hidle.balanced.accounts hx
  have hnone := hidle.outstanding
  omega

theorem Idle.canCreate_iff (hidle : s.Idle) {x : Tracked} {i : Nat} (hx : s.streams[i]? = some x) :
    (Held.mk x s.retries).resetRetry.retries.canCreate = true ↔ 0 < s.retries.max.toNat := by
  have hcurrent : s.retries.current.toInt = 0 := by
    rw [hidle.balanced.current, hidle.outstanding]
    rfl
  rw [Held.resetRetry_empty _ (hidle.slot hx), Resource.canCreate_iff, hcurrent]
  exact Int.natCast_pos

/-- **What goes wrong.**  The first check that succeeds finds no retry
outstanding.  With a limit it is turned away; without one its retry is
scheduled. -/
theorem Idle.trips (hset : ∀ stat, stats stat = true) (hidle : s.Idle) (htrips : s.Trips a) :
    ∃ s', Step stats s a s'
      ∧ (s'.retries.max.toNat < s'.outstanding ∨ ¬ s.Admits a s') := by
  obtain ⟨hpassing, hwhen⟩ := htrips
  obtain ⟨x, r, headers, endStream, hx, ha, hsome, hr, hpass⟩ := hpassing.headers
  obtain ⟨i, c⟩ := a
  cases ha
  change s.streams[i]? = some x at hx
  obtain ⟨h', hok⟩ := (Held.onUpstreamHeaders_returns_iff stats headers endStream
    (Held.mk x s.retries) hsome).mpr fun _ _ _ => hset _
  have hcall : (Held.mk x s.retries).call stats (.upstreamHeaders headers endStream) = .ok h' := by
    simp only [Held.call, Held.upstream, hsome, if_true]
    exact hok
  have hstep : Step stats s (i, .upstreamHeaders headers endStream)
      ⟨h'.retries, s.streams.set i h'.toTracked⟩ := by
    simp only [Step, step, hx, Option.bind_some, hcall]
    rfl
  have hroom := hidle.canCreate_iff hx
  refine ⟨_, hstep, ?_⟩
  by_cases hlimit : 0 < s.retries.max.toNat
  · right
    intro hadmits
    obtain ⟨y, y', hy, hy', hmore⟩ := hadmits hpassing (by rw [hidle.outstanding]; exact hlimit)
    obtain ⟨hlt, -⟩ := List.getElem?_eq_some_iff.mp hx
    simp only [List.getElem?_set_self hlt] at hy'
    cases hy'
    cases hx.symm.trans hy
    have hfrees := Held.onUpstreamHeaders_frees (fun r _ hno => by
      have hfull := hno.2
      rw [hroom.mpr hlimit] at hfull
      cases hfull) hok
    have hsame := hfrees.scheduled
    have hx' : (Held.mk x s.retries).scheduled = x.scheduled := rfl
    omega
  · left
    have hfull : (Held.mk x s.retries).resetRetry.retries.canCreate = false :=
      Bool.eq_false_iff.mpr fun hcan => hlimit (hroom.mp hcan)
    have hschedules := Held.onUpstreamHeaders_schedules hr hpass hfull hok
    obtain ⟨y, hy, hsent⟩ := hwhen.resolve_left hlimit
    cases hx.symm.trans hy
    have hslot := hschedules.slot
    rw [if_pos hsent] at hslot
    have hcount := outstanding_set hx h'
    have hmax : h'.retries.max.toNat = s.retries.max.toNat := congrArg _ hschedules.max
    have hnone := hidle.slot hx
    show h'.retries.max.toNat < _
    omega

theorem Idle.step (hidle : s.Idle) (hno : ¬ s.Trips a) (hstep : Step stats s a s') : s'.Idle := by
  refine ⟨hidle.balanced.step hstep, ?_⟩
  obtain ⟨x, h', hx, hok, rfl⟩ := step_call hstep
  have hcount := outstanding_set hx h'
  have hnone := hidle.slot hx
  have hempty : h'.stream.slot = 0 := by
    rcases Held.call_cases hok with hfrees | ⟨headers, endStream, r, hc, hr, hpass, -, hschedules⟩
    · have hle := hfrees.slot
      grind
    · -- the retry is taken back at once
      simp only [hc, Held.call] at hok
      obtain ⟨hsome, -⟩ := Held.upstream_ok hok
      have hpassing : s.Passing a :=
        ⟨x, r, headers, none, hx, by rw [hc]; exact if_pos hsome, hr, hpass⟩
      have hunsent : x.stream.upstreamRequestSent = false :=
        Bool.eq_false_iff.mpr fun hsent => hno ⟨hpassing, .inr ⟨x, hx, hsent⟩⟩
      have hslot := hschedules.slot
      grind
  have hidle' := hidle.outstanding
  omega

theorem Fresh.idle (hfresh : s.Fresh) : s.Idle := ⟨hfresh.balanced, hfresh.outstanding⟩

/-- **The limit on retries.**  It is kept throughout a run, and no retry is
turned away below it, exactly when no check of the run ever succeeds with
retries remaining — but for a retry without a limit that is taken back at
once. -/
theorem limit_iff {s₀ : Streams} {as : List (Nat × Held.Call)}
    (hset : ∀ stat, stats stat = true) (hfresh : s₀.Fresh) :
    (EveryState (Step stats) (fun s => s.outstanding ≤ s.retries.max.toNat) s₀ as
      ∧ EveryStep (Step stats) (fun s a => ∀ s', Step stats s a s' → s.Admits a s') s₀ as)
    ↔ EveryStep (Step stats) (fun s a => ¬ s.Trips a) s₀ as := by
  constructor
  · rintro ⟨hlimit, hadmits⟩
    -- as long as nothing has tripped no retry is outstanding, so the next step does not trip
    have hnext {before after : List (Nat × Held.Call)} {a : Nat × Held.Call} {t : Streams}
        (has : as = before ++ a :: after) (hrun : Run (Step stats) s₀ before t) (hidle : t.Idle) :
        ¬ t.Trips a := by
      intro htrips
      obtain ⟨t', hstep, hbad⟩ := hidle.trips hset htrips
      rcases hbad with hover | hturned
      · have hle := hlimit (before ++ [a]) after t' (by rw [has, List.append_assoc]; rfl)
          (hrun.snoc hstep)
        exact absurd hle (Nat.not_le.mpr hover)
      · exact hturned (hadmits before a after t has hrun t' hstep)
    have hidle {before after : List (Nat × Held.Call)} {t : Streams}
        (has : as = before ++ after) (hrun : Run (Step stats) s₀ before t) : t.Idle := by
      induction hrun generalizing after with
      | nil => exact hfresh.idle
      | snoc hrun hlast ih =>
        rw [List.append_assoc] at has
        have ht := ih has
        exact ht.step (hnext has hrun ht) hlast
    intro before a after t has hrun
    exact hnext has hrun (hidle has hrun)
  · intro hquiet
    have hidle {before after : List (Nat × Held.Call)} {t : Streams}
        (has : as = before ++ after) (hrun : Run (Step stats) s₀ before t) : t.Idle := by
      refine hrun.guarded (P := fun s a => ¬ s.Trips a) Idle
        (fun _ _ _ hidle hno hstep => hidle.step hno hstep) hfresh.idle ?_
      intro before' a after' u hbefore hrun'
      refine hquiet before' a (after' ++ after) u ?_ hrun'
      rw [has, hbefore, List.append_assoc]
      rfl
    refine ⟨fun before after t has hrun => ?_, ?_⟩
    · have hnone := (hidle has hrun).outstanding
      omega
    · intro before a after t has hrun t' _ hpassing hroom
      exact absurd ⟨hpassing, .inl (by omega)⟩ (hquiet before a after t has hrun)

/-- A response that is passed on asks for no retry. -/
theorem limit_forwarded :
    EveryState (Step fun _ => true) (fun s => s.outstanding ≤ s.retries.max.toNat) (waiting 3)
      [responded (str "200")] := by
  refine ((limit_iff (fun _ => rfl) (waiting_fresh 3)).mpr (.cons ?_ fun _ _ => .nil)).1
  rintro ⟨hpassing, -⟩
  obtain ⟨x, r, headers, endStream, hx, ha, -, hr, hpass⟩ := hpassing.headers
  cases hx
  cases ha
  cases hr
  exact absurd hpass (by decide)

/-- A server error, with retries remaining and none outstanding: with a limit
of three retries none is scheduled, with a limit of none one is. -/
theorem limit_inverted : (waiting 3).Passing (responded (str "500"))
    ∧ ((waiting 3).step (fun _ => true) (responded (str "500"))).map
        (fun s => (s.outstanding, s.streams.map Tracked.scheduled)) = some (0, [0])
    ∧ ((waiting 0).step (fun _ => true) (responded (str "500"))).map
        (fun s => (s.outstanding, s.streams.map Tracked.scheduled)) = some (1, [1]) :=
  ⟨⟨_, _, _, _, rfl, rfl, rfl, by decide⟩, rfl, rfl⟩

end Streams

end Mosn.Proxy.Lifecycle
