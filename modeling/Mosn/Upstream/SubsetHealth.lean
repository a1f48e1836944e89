/-
  Mosn.Upstream.SubsetHealth
  **THE SUBSETS DO NOT FOLLOW THE HEALTH OF THEIR HOSTS** (`refreshHealthHosts`,
  `addHealthyHost` and `delHealthHost` of `pkg/upstream/cluster/cluster.go`).

  A subset sorts out its healthy hosts when it is updated, and it is updated
  when a host it matches comes or goes.  A host that only changes its health
  is reported too, but as a change with NO hosts in it:

      UpdateHosts              added, removed    the subsets of these hosts
      a host turns unhealthy   ∅, ∅              the fallback subset only
      a host turns healthy     -                 a panic before the report

  So the entries keep a host that has turned unhealthy among the healthy ones,
  and it is chosen from there.

    • `health_followed_iff`,
    • `choose_entry_returns_iff` — while no health changes, a request with an
      entry is served exactly if a member with its pairs is healthy.
-/
import Mosn.Upstream.SubsetChoice

namespace Mosn.Upstream

open Mosn.Lib

namespace SubsetCluster

attribute [local grind] Step

/-- Every subset has exactly its healthy hosts among the healthy ones. -/
@[local grind cases]
structure HealthExact (s : SubsetCluster) : Prop where
  entries : ∀ q ps, s.lb.table q = some ps → ps.healthyHosts = ps.hosts.filter s.health
  fallback : ∀ ps, s.lb.fallbackSubset = some ps → ps.healthyHosts = ps.hosts.filter s.health

/-- The host set lists a host with this address. -/
def Listed (s : SubsetCluster) (host : Host) : Prop :=
  ∃ h ∈ s.cluster.allHosts, h.address = host.address

/-- A health check that changes nothing, or concerns a host in no entry.  If
the fallback subset has the host it has to turn unhealthy while it is listed,
and to turn healthy it must not be listed. -/
def HealthKept (s : SubsetCluster) : Event → Prop
  | .healthCheck host healthy =>
    s.health host = healthy
      ∨ (∀ q ps, s.lb.table q = some ps → host ∉ ps.hosts)
        ∧ (∀ ps, s.lb.fallbackSubset = some ps → host ∈ ps.hosts →
            healthy = false ∧ s.Listed host)
        ∧ (healthy = true → ¬ s.Listed host)
  | _ => True

/-! ## §1. What holds in every state. -/

/-- The lists of a cluster, whatever the health of its hosts. -/
structure Sound (s : SubsetCluster) : Prop where
  wf : s.cluster.Wf
  distinct : s.lb.DistinctLists
  noFallback : s.lb.fallBackPolicy = .noFallBack → s.lb.fallbackSubset = none

variable {lb lb' : SubsetLoadBalancer} {originalHosts : List Host} {health : Host → Bool}
  {notice : Notice} {addedFirst healthy : Bool} {s t : SubsetCluster}
  {context : Option MatchCriteria} {rand : Nat} {host : Host} {e : Event}

theorem update_noFallback (hd : lb.DistinctLists)
    (hno : lb.fallBackPolicy = .noFallBack → lb.fallbackSubset = none)
    (h : lb.update originalHosts health notice addedFirst = .ok lb') :
    lb'.DistinctLists ∧ (lb'.fallBackPolicy = .noFallBack → lb'.fallbackSubset = none) := by
  obtain ⟨-, hfallback, hconfig, hdist⟩ := SubsetLoadBalancer.update_of_ok hd h
  refine ⟨hdist, ?_⟩
  intro hpolicy
  rw [hconfig.fallBackPolicy] at hpolicy
  rw [hfallback, SubsetLoadBalancer.fallbackAfter, if_pos hpolicy]
  exact hno hpolicy

theorem update_healthy (hd : lb.DistinctLists)
    (hno : lb.fallBackPolicy = .noFallBack → lb.fallbackSubset = none)
    (h : lb.update originalHosts health notice addedFirst = .ok lb')
    (hentries : ∀ q ps, lb.table q = some ps → ps.healthyHosts = ps.hosts.filter health) :
    (∀ q ps, lb'.table q = some ps → ps.healthyHosts = ps.hosts.filter health)
      ∧ ∀ ps, lb'.fallbackSubset = some ps → ps.healthyHosts = ps.hosts.filter health := by
  obtain ⟨htable, hfallback, -, -⟩ := SubsetLoadBalancer.update_of_ok hd h
  refine ⟨?_, ?_⟩
  · rw [htable]
    exact visitAll_forall (fun _ ps => ps.healthyHosts = ps.hosts.filter health)
      (fun _ _ _ => rfl) _ (fun _ _ _ _ => rfl) lb.table hentries
  · intro ps hps
    rw [hfallback] at hps
    unfold SubsetLoadBalancer.fallbackAfter at hps
    split at hps
    · rename_i hpolicy
      rw [hno hpolicy] at hps
      cases hps
    · cases hps
      rfl

theorem Sound.updateHosts (h : s.Sound) (newHosts : List Host) (addedFirst : Bool) :
    ∃ t, s.Step (.updateHosts newHosts addedFirst) t ∧ t.Sound
      ∧ (s.HealthExact → t.HealthExact) := by
  cases hch : (updateDynamicHostList newHosts s.cluster.hostList).changed with
  | false => exact ⟨s, step_updateHosts_unchanged addedFirst hch, h, fun hexact => hexact⟩
  | true =>
    obtain ⟨t, hstep, hcluster, hhealth, hupdate⟩ :=
      step_updateHosts_changed h.distinct addedFirst hch
    obtain ⟨hdist, hno⟩ := update_noFallback h.distinct h.noFallback hupdate
    refine ⟨t, hstep, ⟨?_, hdist, hno⟩, ?_⟩
    · rw [hcluster]
      exact h.wf.updateHosts newHosts
    · intro hexact
      obtain ⟨hentries, hfallback⟩ :=
        update_healthy h.distinct h.noFallback hupdate hexact.entries
      rw [← hhealth] at hentries hfallback
      exact ⟨hentries, hfallback⟩

theorem Sound.chooseHost (h : s.Sound) (hstep : s.Step (.chooseHost context rand) t) :
    t.Sound ∧ (s.HealthExact → t.HealthExact) := by
  obtain ⟨hcluster, hhealth, hsame⟩ := step_chooseHost hstep
  refine ⟨⟨?_, hsame.distinctLists h.distinct, ?_⟩, ?_⟩
  · rw [hcluster]
    exact h.wf
  · intro hpolicy
    rw [hsame.config.fallBackPolicy] at hpolicy
    have hnone := hsame.fallback
    rw [h.noFallback hpolicy] at hnone
    exact Option.map_eq_none_iff.mp hnone
  · intro hexact
    refine ⟨?_, ?_⟩
    · intro q ps' hps'
      obtain ⟨ps, hps, heq⟩ := SubsetLoadBalancer.map_lists_eq_some (hsame.table q) hps'
      rw [SubsetLoadBalancer.healthyHosts_eq_of_lists heq,
        SubsetLoadBalancer.hosts_eq_of_lists heq, hhealth]
      exact hexact.entries q ps hps
    · intro ps' hps'
      obtain ⟨ps, hps, heq⟩ := SubsetLoadBalancer.map_lists_eq_some hsame.fallback hps'
      rw [SubsetLoadBalancer.healthyHosts_eq_of_lists heq,
        SubsetLoadBalancer.hosts_eq_of_lists heq, hhealth]
      exact hexact.fallback ps hps

/-! ## §2. A health check. -/

theorem filter_update_iff (hne : health host ≠ healthy) (hosts : List Host) :
    hosts.filter health = hosts.filter (Function.update health host healthy) ↔ host ∉ hosts := by
  constructor
  · intro heq hmem
    have hiff : host ∈ hosts.filter health
        ↔ host ∈ hosts.filter (Function.update health host healthy) := by rw [heq]
    grind
  · intro hnot
    apply List.filter_congr
    intro x hx
    rw [Function.update_of_ne]
    rintro rfl
    exact hnot hx

theorem step_healthCheck_same
    (h : s.health host = healthy) : s.step (.healthCheck host healthy) = .ok s := by
  unfold step
  simp only [if_pos h]

theorem listed_iff : s.cluster.allHosts.any (·.address = host.address) = true ↔ s.Listed host := by
  unfold Listed
  simp only [List.any_eq_true, decide_eq_true_eq]

theorem step_healthCheck_unlisted (h : s.Sound)
    (hne : s.health host ≠ healthy) (hlisted : ¬ s.Listed host) : s.step (.healthCheck host healthy)
      = .ok { s with health := Function.update s.health host healthy } := by
  have hany : ¬ s.cluster.allHosts.any (·.address = host.address) = true :=
    mt listed_iff.mp hlisted
  have hrefresh : s.cluster.refreshHealthHosts host healthy = .ok (s.cluster, Told.nothing) := by
    unfold SimpleInMemCluster.refreshHealthHosts
    cases healthy with
    | true => rw [if_pos rfl, h.wf.addHealthyHost_eq, if_neg hany]
    | false =>
      rw [if_neg Bool.false_ne_true]
      unfold SimpleInMemCluster.delHealthHost
      rw [if_neg hany]
  unfold step
  simp only [if_neg hne, hrefresh]
  rfl

theorem step_healthCheck_healthy (h : s.Sound)
    (hne : s.health host ≠ true) (hlisted : s.Listed host) :
    s.step (.healthCheck host true) = .error .sliceBounds := by
  have hany : s.cluster.allHosts.any (·.address = host.address) = true := listed_iff.mpr hlisted
  have hrefresh : s.cluster.refreshHealthHosts host true = .error .sliceBounds := by
    unfold SimpleInMemCluster.refreshHealthHosts
    rw [if_pos rfl, h.wf.addHealthyHost_eq, if_pos hany]
  unfold step
  simp only [if_neg hne, hrefresh]
  rfl

theorem step_healthCheck_unhealthy (h : s.Sound)
    (hne : s.health host ≠ false) (hlisted : s.Listed host) :
    ∃ t originalHosts, s.step (.healthCheck host false) = .ok t ∧ t.cluster.Wf
      ∧ t.health = Function.update s.health host false
      ∧ s.lb.update originalHosts t.health ⟨[], []⟩ true = .ok t.lb := by
  have hany : s.cluster.allHosts.any (·.address = host.address) = true := listed_iff.mpr hlisted
  obtain ⟨c', hrefresh⟩ : ∃ c', s.cluster.refreshHealthHosts host false
      = .ok (c', ⟨[⟨[], []⟩], []⟩) := by
    unfold SimpleInMemCluster.refreshHealthHosts SimpleInMemCluster.delHealthHost
    simp only [Bool.false_eq_true, if_false, hany, if_true]
    exact ⟨_, rfl⟩
  obtain ⟨lb', hok, -⟩ := SubsetLoadBalancer.update_refines h.distinct c'.allHosts
    (Function.update s.health host false) ⟨[], []⟩ true
  refine ⟨⟨c', lb', Function.update s.health host false⟩, c'.allHosts, ?_,
    h.wf.refreshHealthHosts hrefresh, rfl, hok⟩
  unfold step
  simp only [if_neg hne, hrefresh]
  change notify ⟨c', s.lb, Function.update s.health host false⟩ ⟨[⟨[], []⟩], []⟩ true = _
  rw [notify_one]
  change Except.map _ (s.lb.update c'.allHosts (Function.update s.health host false) _ _) = _
  rw [hok]
  rfl

theorem table_update_nothing (hd : lb.DistinctLists)
    (h : lb.update originalHosts health ⟨[], []⟩ addedFirst = .ok lb') : lb'.table = lb.table := by
  obtain ⟨htable, -⟩ := SubsetLoadBalancer.update_of_ok hd h
  rw [htable, SubsetLoadBalancer.visits_nil]
  rfl

/-- **Every event keeps the lists in order.** -/
theorem Sound.step (h : s.Sound) (hstep : s.Step e t) : t.Sound := by
  cases e with
  | updateHosts newHosts addedFirst =>
    obtain ⟨t', hstep', hsound, -⟩ := h.updateHosts newHosts addedFirst
    rw [hstep.unique hstep']
    exact hsound
  | chooseHost context rand => exact (h.chooseHost hstep).1
  | healthCheck host healthy =>
    by_cases hsame : s.health host = healthy
    · rw [hstep.unique (step_healthCheck_same hsame)]
      exact h
    · by_cases hlisted : s.Listed host
      · cases healthy with
        | true =>
          -- the check panics: there is no next state
          have herr := hstep.symm.trans (step_healthCheck_healthy h hsame hlisted)
          cases herr
        | false =>
          obtain ⟨t', original, hstep', hwf, -, hupdate⟩ :=
            step_healthCheck_unhealthy h hsame hlisted
          obtain ⟨hdist, hno⟩ := update_noFallback h.distinct h.noFallback hupdate
          rw [hstep.unique hstep']
          exact ⟨hwf, hdist, hno⟩
      · rw [hstep.unique (step_healthCheck_unlisted h hsame hlisted)]
        exact ⟨h.wf, h.distinct, h.noFallback⟩

/-! ## §3. Which health checks are followed. -/

/-- The event returns and leaves every subset with its healthy hosts. -/
@[local grind]
def Follows (s : SubsetCluster) (e : Event) : Prop :=
  (∃ context rand, e = .chooseHost context rand) ∨ ∃ t, s.Step e t ∧ t.HealthExact

theorem follows_unlisted_iff (h : s.Sound) (hexact : s.HealthExact)
    (hne : s.health host ≠ healthy) (hlisted : ¬ s.Listed host) :
    s.Follows (.healthCheck host healthy)
      ↔ (∀ q ps, s.lb.table q = some ps → host ∉ ps.hosts)
        ∧ ∀ ps, s.lb.fallbackSubset = some ps → host ∉ ps.hosts := by
  have hstep := step_healthCheck_unlisted h hne hlisted
  constructor
  · grind [Step.unique, filter_update_iff]
  · rintro ⟨hentries, hfallback⟩
    refine Or.inr ⟨_, hstep, fun q ps hps => ?_, fun ps hps => ?_⟩
    · rw [hexact.entries q ps hps]
      exact (filter_update_iff hne ps.hosts).mpr (hentries q ps hps)
    · rw [hexact.fallback ps hps]
      exact (filter_update_iff hne ps.hosts).mpr (hfallback ps hps)

theorem follows_unhealthy_iff (h : s.Sound) (hexact : s.HealthExact)
    (hne : s.health host ≠ false) (hlisted : s.Listed host) : s.Follows (.healthCheck host false)
      ↔ ∀ q ps, s.lb.table q = some ps → host ∉ ps.hosts := by
  obtain ⟨t, original, hstep, -, hhealth, hupdate⟩ := step_healthCheck_unhealthy h hne hlisted
  have htable : t.lb.table = s.lb.table := table_update_nothing h.distinct hupdate
  constructor
  · rintro (⟨_, _, he⟩ | ⟨t', ht, hfollows⟩)
    · cases he
    · rw [Step.unique ht hstep] at hfollows
      intro q ps hps
      apply (filter_update_iff hne ps.hosts).mp
      rw [← hexact.entries q ps hps, ← hhealth]
      exact hfollows.entries q ps (htable ▸ hps)
  · intro hentries
    have hkept : ∀ q ps, s.lb.table q = some ps → ps.healthyHosts = ps.hosts.filter t.health := by
      grind [filter_update_iff]
    obtain ⟨he, hf⟩ := update_healthy h.distinct h.noFallback hupdate hkept
    exact Or.inr ⟨t, hstep, he, hf⟩

/-- **One event** is followed exactly when it is one of those. -/
theorem follows_iff (h : s.Sound) (hexact : s.HealthExact) (e : Event) :
    s.Follows e ↔ s.HealthKept e := by
  cases e with
  | updateHosts newHosts addedFirst =>
    obtain ⟨t, hstep, -, hhealth⟩ := h.updateHosts newHosts addedFirst
    exact ⟨fun _ => trivial, fun _ => Or.inr ⟨t, hstep, hhealth hexact⟩⟩
  | chooseHost context rand => exact ⟨fun _ => trivial, fun _ => Or.inl ⟨context, rand, rfl⟩⟩
  | healthCheck host healthy =>
    by_cases hsame : s.health host = healthy
    · exact ⟨fun _ => Or.inl hsame, fun _ => Or.inr ⟨s, step_healthCheck_same hsame, hexact⟩⟩
    · by_cases hlisted : s.Listed host
      · cases healthy with
        | true =>
          -- the callback panics
          constructor
          · grind [step_healthCheck_healthy]
          · rintro (heq | ⟨-, -, hnot⟩)
            · exact absurd heq hsame
            · exact absurd hlisted (hnot rfl)
        | false =>
          rw [follows_unhealthy_iff h hexact hsame hlisted]
          constructor
          · intro hentries
            exact Or.inr ⟨hentries, fun _ _ _ => ⟨rfl, hlisted⟩, nofun⟩
          · rintro (heq | ⟨hentries, -⟩)
            · exact absurd heq hsame
            · exact hentries
      · rw [follows_unlisted_iff h hexact hsame hlisted]
        constructor
        · rintro ⟨hentries, hfallback⟩
          exact Or.inr ⟨hentries, fun ps hps hmem => absurd hmem (hfallback ps hps),
            fun _ => hlisted⟩
        · rintro (heq | ⟨hentries, hfallback, -⟩)
          · exact absurd heq hsame
          · exact ⟨hentries, fun ps hps hmem => hlisted (hfallback ps hps hmem).2⟩

theorem HealthExact.step (h : s.Sound) (hexact : s.HealthExact)
    (hkept : s.HealthKept e) (hstep : s.Step e t) : t.HealthExact := by
  rcases (follows_iff h hexact e).mpr hkept with ⟨context, rand, rfl⟩ | ⟨t', hstep', hhealth⟩
  · exact (h.chooseHost hstep).2 hexact
  · rw [hstep.unique hstep']
    exact hhealth

theorem HealthExact.guarded (t : SubsetCluster) (e : Event) (u : SubsetCluster)
    (h : t.Sound ∧ t.HealthExact) (hkept : t.HealthKept e) (hstep : t.Step e u) :
    u.Sound ∧ u.HealthExact :=
  ⟨h.1.step hstep, h.2.step h.1 hkept hstep⟩

theorem sound_new {lbType : LoadBalancerType} {subsets : LBSubsetConfig} {grow : Nat → Nat}
    {healthChecker : Bool} (h : newSubsetCluster lbType subsets grow healthChecker health = .ok s) :
    s.Sound ∧ s.HealthExact := by
  have hexact := exact_new h
  obtain ⟨s', hok, hcluster, hhealth, hdist, htable, hfallback, -⟩ :=
    newSubsetCluster_eq lbType subsets grow healthChecker health
  rw [h] at hok
  cases hok
  refine ⟨⟨?_, hdist, hexact.tracks.noFallback⟩, fun q ps hps => ?_, fun ps hps => ?_⟩
  · rw [hcluster]
    exact SimpleInMemCluster.wf_new _ _
  · rw [htable] at hps
    cases hps
  · rw [hfallback] at hps
    unfold SubsetLoadBalancer.fallbackAfter at hps
    split at hps
    · cases hps
    · cases hps
      rw [hhealth]
      rfl

/-! ## §4. Every run. -/

theorem HealthExact.chosen (h : s.HealthExact)
    (hchoose : s.lb.chooseHost context rand = .ok (some host, lb')) : s.health host = true := by
  rcases SubsetLoadBalancer.chooseHost_from hchoose with
    ⟨kvs, ps, -, htable, hhost⟩ | ⟨-, -, ps, hps, hhost⟩
  · rw [h.entries kvs ps htable] at hhost
    exact (List.mem_filter.mp hhost).2
  · rw [h.fallback ps hps] at hhost
    exact (List.mem_filter.mp hhost).2

/-- **The subsets follow the health of their hosts along a run exactly when no
health check concerns a host of an entry** (or one that turns healthy); and
then only healthy hosts are chosen. -/
theorem health_followed_iff (lbType : LoadBalancerType) (subsets : LBSubsetConfig)
    (grow : Nat → Nat) (healthChecker : Bool) (health : Host → Bool) (s : SubsetCluster)
    (es : List Event) (hnew : newSubsetCluster lbType subsets grow healthChecker health = .ok s) :
    (EveryStep Step Follows s es ↔ EveryStep Step HealthKept s es)
      ∧ (EveryStep Step HealthKept s es → ∀ t, Run Step s es t → t.HealthExact
        ∧ ∀ context rand host lb', t.lb.chooseHost context rand = .ok (some host, lb') →
          t.health host = true) := by
  refine ⟨?_, ?_⟩
  · exact everyStep_congr_guarded (fun t => t.Sound ∧ t.HealthExact) HealthExact.guarded
      (sound_new hnew)
      (fun t e ht => follows_iff ht.1 ht.2 e)
  · intro hkept t hrun
    have ht : t.Sound ∧ t.HealthExact :=
      hrun.guarded (fun t => t.Sound ∧ t.HealthExact) HealthExact.guarded (sound_new hnew) hkept
    exact ⟨ht.2, fun _ _ _ _ hchoose => ht.2.chosen hchoose⟩

theorem HealthExact.healthyHosts_ne_nil_iff {subsets : LBSubsetConfig} {kvs : SubsetMetadata}
    {ps : PrioritySubset} (h : s.HealthExact) (hexact : Exact subsets s)
    (hps : s.lb.table kvs = some ps) : ps.healthyHosts ≠ []
      ↔ ∃ host ∈ s.cluster.hostList, s.health host = true
        ∧ ∀ kv ∈ kvs, host.metadata.lookup kv.1 = some kv.2 := by
  have hmem := (hexact.tracks.entries kvs ps hps).mem
  rw [h.entries kvs ps hps]
  constructor
  · intro hne
    obtain ⟨host, hhost⟩ := List.exists_mem_of_ne_nil _ hne
    obtain ⟨hlisted, hhealthy⟩ := List.mem_filter.mp hhost
    obtain ⟨hmember, hmatches⟩ := (hmem host).mp hlisted
    exact ⟨host, hmember, hhealthy, hostMatches_iff.mp hmatches⟩
  · rintro ⟨host, hmember, hhealthy, hpairs⟩
    apply List.ne_nil_of_mem (a := host)
    exact List.mem_filter.mpr ⟨(hmem host).mpr ⟨hmember, hostMatches_iff.mpr hpairs⟩, hhealthy⟩

/-- **When a request with an entry is served**, in every state that host updates
and choices lead to: the entry has a subset with a balancer that returns, and
some member of the cluster with all the pairs is healthy. -/
theorem choose_entry_returns_iff {lbType : LoadBalancerType} {subsets : LBSubsetConfig}
    {grow : Nat → Nat} {healthChecker : Bool} {es : List Event} {kvs : SubsetMetadata}
    {entry : Trie Pair PrioritySubset}
    (hnew : newSubsetCluster lbType subsets grow healthChecker health = .ok s)
    (hrun : Run Step s es t) (hes : ∀ e ∈ es, e.isHealthCheck = false)
    (hfind : t.lb.findSubset kvs = some entry) (rand : Nat) :
    (∃ r, t.lb.chooseHost (some (.criteria kvs)) rand = .ok r)
      ↔ (∃ ps, entry.entry = some ps ∧ SubsetLoadBalancer.SubsetServes ps)
        ∧ ∃ host ∈ t.cluster.hostList, t.health host = true
          ∧ ∀ kv ∈ kvs, host.metadata.lookup kv.1 = some kv.2 := by
  have hexact : Exact subsets t := (exact_new hnew).run hrun hes
  have hkept : EveryStep Step HealthKept s es := by
    intro before e after u hall _
    have he : e.isHealthCheck = false := hes e (by rw [hall]; simp)
    cases e with
    | healthCheck host healthy => cases he
    | _ => trivial
  have hhealth : t.HealthExact := (hrun.guarded (fun t => t.Sound ∧ t.HealthExact)
    HealthExact.guarded (sound_new hnew) hkept).2
  have htable := table_of_findSubset hfind
  unfold SubsetLoadBalancer.chooseHost
  simp only [hfind]
  rw [SubsetLoadBalancer.chooseEntry_ok_iff]
  constructor
  · rintro ⟨ps, hps, hne, hserves⟩
    exact ⟨⟨ps, hps, hserves⟩,
      (hhealth.healthyHosts_ne_nil_iff hexact (htable.trans hps)).mp hne⟩
  · rintro ⟨⟨ps, hps, hserves⟩, hhost⟩
    exact ⟨ps, hps, (hhealth.healthyHosts_ne_nil_iff hexact (htable.trans hps)).mpr hhost, hserves⟩

/-- A host that is unhealthy before it is listed is followed. -/
theorem health_followed_early :
    ∃ s, newSubsetCluster .roundRobin byVersion id true (fun _ => true) = .ok s
      ∧ EveryStep Step Follows s [.healthCheck (versionHost 1 "1") false,
          .updateHosts [versionHost 1 "1"] true] := by
  obtain ⟨s, hnew, hcluster, -, -, htable, -⟩ :=
    newSubsetCluster_eq .roundRobin byVersion id true (fun _ => true)
  refine ⟨s, hnew, ((health_followed_iff _ _ _ _ _ s _ hnew).1).mpr ?_⟩
  refine EveryStep.cons (Or.inr ⟨?_, ?_, nofun⟩) fun t _ => EveryStep.cons trivial fun _ _ => .nil
  · intro q ps hps
    rw [htable] at hps
    cases hps
  · intro ps hps hmem
    -- the fallback subset of a new cluster is empty
    have hexact := exact_new hnew
    obtain ⟨ps', hps', htracks⟩ := hexact.tracks.fallback (by
      rw [hexact.configured.fallBackPolicy]
      exact nofun)
    rw [hps] at hps'
    cases hps'
    have hlist := ((htracks.mem _).mp hmem).1
    rw [hcluster] at hlist
    exact absurd hlist List.not_mem_nil

/-- A listed host turns unhealthy: its entry still has it among the healthy
hosts, and it is chosen. -/
theorem unhealthyHost_chosen : ((updatedCluster byVersion [[versionHost 1 "1"]]).bind fun s =>
      (s.step (.healthCheck (versionHost 1 "1") false)).bind fun t =>
        (t.lb.chooseHost (some (.criteria [(str "version", str "1")])) 0).map fun r =>
          (t.health (versionHost 1 "1"),
            (t.lb.table [(str "version", str "1")]).map PrioritySubset.healthyHosts, r.1))
      = .ok (false, some [versionHost 1 "1"], some (versionHost 1 "1")) := by
  rfl

end SubsetCluster

end Mosn.Upstream
