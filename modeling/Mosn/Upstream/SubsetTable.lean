/-
  Mosn.Upstream.SubsetTable
  **THE SUBSETS FOLLOW THE HOSTS OF THE CLUSTER EXACTLY.**

  A subset is created from the hosts the cluster has BY THEN, and from there on
  it is patched with what is added and removed: once for every host and
  selector that lead to it, in either order of the two.  That is exact because
  patching a list twice does nothing more:

      hosts of the subset      before   after one patch   after another
      old hosts that match     L ∩ q    T ∩ q             T ∩ q
      created meanwhile                 T ∩ q             T ∩ q

    • `subsets_exact` — every state that host updates lead to.
-/
import Mosn.Lib.Transition
import Mosn.Upstream.SubsetUpdate

namespace Mosn.Upstream

open Mosn.Lib

attribute [local grind cases] SubsetLoadBalancer.SameConfig SubsetLoadBalancer.SameLists Delta

/-! ## §1. Paths and hosts. -/

variable {kvs : SubsetMetadata} {host : Host} {cur final added removed : List Host}
  {p : Host → Bool} {ps : PrioritySubset}

theorem hostMatches_iff :
    hostMatches kvs host = true ↔ ∀ kv ∈ kvs, host.metadata.lookup kv.1 = some kv.2 := by
  unfold hostMatches
  simp only [List.all_eq_true, decide_eq_true_eq]

theorem knownPairs_eq : ∀ {kvs : SubsetMetadata}, hostMatches kvs host = true →
    knownPairs host (kvs.map Prod.fst) = kvs := by
  intro kvs
  induction kvs with
  | nil => exact fun _ => rfl
  | cons kv kvs ih =>
    intro h
    rw [hostMatches_iff] at h
    have hfirst := h kv List.mem_cons_self
    have hrest := ih (hostMatches_iff.mpr fun kv' hkv' => h kv' (List.mem_cons_of_mem kv hkv'))
    simp only [List.map_cons, knownPairs, hfirst, hrest]

theorem knownPairs_matches (host : Host) : ∀ keys : List GoString,
    hostMatches (knownPairs host keys) host = true
      ∧ ((knownPairs host keys).length = keys.length → (knownPairs host keys).map Prod.fst = keys)
  | [] => ⟨rfl, fun _ => rfl⟩
  | key :: keys => by
      obtain ⟨hmatch, hkeys⟩ := knownPairs_matches host keys
      simp only [knownPairs]
      split
      · exact ⟨rfl, fun h => absurd h (by simp)⟩
      · rename_i value hvalue
        refine ⟨?_, ?_⟩
        · rw [hostMatches_iff] at hmatch ⊢
          intro kv hkv
          rcases List.mem_cons.mp hkv with rfl | hkv
          · exact hvalue
          · exact hmatch kv hkv
        · intro hlen
          rw [List.map_cons, hkeys (Nat.succ.inj hlen)]

theorem extractSubsetMetadata_ne_nil {keys : List GoString}
    (h : extractSubsetMetadata keys host ≠ []) :
    (extractSubsetMetadata keys host).map Prod.fst = keys
      ∧ hostMatches (extractSubsetMetadata keys host) host = true := by
  unfold extractSubsetMetadata at h ⊢
  simp only at h ⊢
  grind [knownPairs_matches]

theorem extractSubsetMetadata_of_matches
    (h : hostMatches kvs host = true) : extractSubsetMetadata (kvs.map Prod.fst) host = kvs := by
  unfold extractSubsetMetadata
  simp only [knownPairs_eq h, List.length_map, ne_eq, not_true_eq_false, if_false]

/-! ## §2. One subset. -/

/-- A subset that lists exactly the members with `p`, each once. -/
@[local grind cases]
structure Tracks (members : List Host) (p : Host → Bool) (ps : PrioritySubset) : Prop where
  predicate : ps.predicateFunc = p
  distinct : Distinct ps.hosts
  mem : ∀ h, h ∈ ps.hosts ↔ h ∈ members ∧ p h = true
  healthy : ∀ h ∈ ps.healthyHosts, h ∈ ps.hosts

theorem mem_finalHosts {hosts hostsAdded hostsRemoved : List Host} (hadded : Distinct hostsAdded)
    {h : Host} : h ∈ finalHosts hosts hostsAdded hostsRemoved
      ↔ (h ∈ hosts ∨ h ∈ hostsAdded ∧ ∀ x ∈ hosts, x.address ≠ h.address)
        ∧ ∀ r ∈ hostsRemoved, r.address ≠ h.address := by
  unfold finalHosts
  rw [List.mem_filter, mem_addHosts hadded]
  simp only [ne_eq, decide_not, List.all_eq_true, Bool.not_eq_eq_eq_not, Bool.not_true,
    decide_eq_false_iff_not]

theorem tracks_fresh {members : List Host} (h : Distinct members) (lbType : LoadBalancerType)
    (p : Host → Bool) (health : Host → Bool) :
    Tracks members p (.fresh lbType p health members) where
  predicate := rfl
  distinct := PrioritySubset.distinct_fresh _ _ _ _
  mem := by
    intro x
    change x ∈ finalHosts [] (members.filter p) [] ↔ _
    rw [mem_finalHosts (List.Pairwise.filter _ h), List.mem_filter]
    simp
  healthy := fun _ hx => (List.mem_filter.mp hx).1

/-- **A patch is exact**, from the old members and from the new ones. -/
theorem updated_tracks (hdelta : Delta cur final added removed)
    (h : Tracks cur p ps ∨ Tracks final p ps) (health : Host → Bool) :
    Tracks final p (ps.updated health ⟨added, removed⟩) := by
  have hpred : ps.predicateFunc = p := h.elim Tracks.predicate Tracks.predicate
  have hdist : Distinct ps.hosts := h.elim Tracks.distinct Tracks.distinct
  refine ⟨hpred, PrioritySubset.distinct_updated hdist _ _, ?_,
    fun _ hx => (List.mem_filter.mp hx).1⟩
  intro x
  change x ∈ finalHosts ps.hosts (added.filter ps.predicateFunc)
    (removed.filter ps.predicateFunc) ↔ _
  rw [mem_finalHosts (List.Pairwise.filter _ hdelta.addedDistinct), hpred]
  simp only [List.mem_filter, and_imp]
  rcases h with h | h
  · -- from the old members: the added ones have new addresses, and a removed
    -- address is that of the removed host only
    constructor <;> grind
  · -- from the new members: there is nothing left to do
    constructor <;> grind

theorem Tracks.of_untouched (hdelta : Delta cur final added removed)
    (h : Tracks cur p ps) (hadded : ∀ a ∈ added, p a = false)
    (hremoved : ∀ r ∈ removed, p r = false) : Tracks final p ps := by
  refine ⟨h.predicate, h.distinct, ?_, h.healthy⟩
  intro x
  rw [h.mem x, hdelta.mem_final x]
  constructor <;> grind

/-! ## §3. All rounds, seen from one path. -/

section Rounds

variable {lbType : LoadBalancerType} {originalHosts : List Host} {health : Host → Bool}
  {notice : Notice}

variable {table : Table} {v : Bool × Host × List GoString} {q : SubsetMetadata}

theorem visit_other (h : extractSubsetMetadata v.2.2 v.2.1 = q → q = []) :
    visit lbType originalHosts health notice table v q = table q := by
  unfold visit
  grind

theorem visit_self (h : extractSubsetMetadata v.2.2 v.2.1 = q) (hne : q ≠ []) :
    visit lbType originalHosts health notice table v q
      = ((table q).map fun ps => ps.updated health notice).or
          (if v.1 then some (.fresh lbType (hostMatches q) health originalHosts) else none) := by
  unfold visit
  grind

theorem visitAll_at (hne : q ≠ []) {B Q : PrioritySubset → Prop}
    (hupdated : ∀ ps, B ps ∨ Q ps → Q (ps.updated health notice))
    (hfresh : Q (.fresh lbType (hostMatches q) health originalHosts))
    (vs : List (Bool × Host × List GoString)) : ∀ {table : Table},
    (∀ ps, table q = some ps → B ps ∨ Q ps) →
    (vs.foldl (visit lbType originalHosts health notice) table q = table q
        ∧ ∀ v ∈ vs, extractSubsetMetadata v.2.2 v.2.1 ≠ q)
      ∨ ∀ ps, vs.foldl (visit lbType originalHosts health notice) table q = some ps → Q ps := by
  induction vs with
  | nil => exact fun _ => Or.inl ⟨rfl, fun v hv => absurd hv List.not_mem_nil⟩
  | cons v vs ih =>
    intro table h
    rw [List.foldl_cons]
    by_cases hhit : extractSubsetMetadata v.2.2 v.2.1 = q
    · -- from this round on the subset has been patched
      have hQ : ∀ ps, visit lbType originalHosts health notice table v q = some ps → Q ps := by
        intro ps hps
        rw [visit_self hhit hne] at hps
        cases htable : table q with
        | some ps₀ => grind
        | none => grind
      grind
    · grind [visit_other]

theorem visitAll_some (hne : q ≠ [])
    (vs : List (Bool × Host × List GoString)) : ∀ {table : Table}, ((∃ ps, table q = some ps)
        ∨ ∃ v ∈ vs, v.1 = true ∧ extractSubsetMetadata v.2.2 v.2.1 = q) →
      ∃ ps, vs.foldl (visit lbType originalHosts health notice) table q = some ps := by
  induction vs with
  | nil =>
    rintro table (h | ⟨v, hv, -⟩)
    · exact h
    · exact absurd hv List.not_mem_nil
  | cons v vs ih =>
    intro table h
    rw [List.foldl_cons]
    apply ih
    by_cases hhit : extractSubsetMetadata v.2.2 v.2.1 = q
    · rw [visit_self hhit hne]
      cases htable : table q with
      | some ps => exact Or.inl ⟨_, rfl⟩
      | none =>
        rcases h with ⟨ps, hps⟩ | ⟨w, hw, hadd, hext⟩
        · rw [htable] at hps
          cases hps
        · rcases List.mem_cons.mp hw with rfl | hw
          · left
            rw [hadd]
            exact ⟨_, rfl⟩
          · exact Or.inr ⟨w, hw, hadd, hext⟩
    · grind [visit_other]

end Rounds

/-! ## §4. The whole table. -/

/-- The subsets of a balancer list exactly the members. -/
@[local grind cases]
structure TableTracks (members : List Host) (lb : SubsetLoadBalancer) : Prop where
  keys : ∀ q ps, lb.table q = some ps → q ≠ [] ∧ q.map Prod.fst ∈ lb.subSetKeys
  entries : ∀ q ps, lb.table q = some ps → Tracks members (hostMatches q) ps
  present : ∀ h ∈ members, ∀ keys ∈ lb.subSetKeys, extractSubsetMetadata keys h ≠ [] →
    ∃ ps, lb.table (extractSubsetMetadata keys h) = some ps
  noFallback : lb.fallBackPolicy = .noFallBack → lb.fallbackSubset = none
  fallback : lb.fallBackPolicy ≠ .noFallBack →
    ∃ ps, lb.fallbackSubset = some ps
      ∧ Tracks members (fallbackPredicate lb.fallBackPolicy lb.defaultSubSetMetadata) ps

theorem TableTracks.distinctLists {members : List Host} {lb : SubsetLoadBalancer}
    (h : TableTracks members lb) : lb.DistinctLists where
  entries := fun q ps hps => (h.entries q ps hps).distinct
  fallback := by grind

section Update

variable {cur final added removed : List Host} {lb lb' : SubsetLoadBalancer} {health : Host → Bool}
  {addedFirst : Bool}

theorem TableTracks.entries_update (h : TableTracks cur lb) (hdelta : Delta cur final added removed)
    (hcur : Distinct cur) {q : SubsetMetadata} {ps : PrioritySubset}
    (hkeys : q ≠ [] ∧ q.map Prod.fst ∈ lb.subSetKeys)
    (hps : (lb.visits ⟨added, removed⟩ addedFirst).foldl
      (visit lb.lbType final health ⟨added, removed⟩) lb.table q = some ps) :
    Tracks final (hostMatches q) ps := by
  have hfinal : Distinct final := hdelta.finalDistinct hcur
  rcases visitAll_at hkeys.1 (B := Tracks cur (hostMatches q)) (Q := Tracks final (hostMatches q))
      (fun ps₀ hps₀ => updated_tracks hdelta hps₀ health)
      (tracks_fresh hfinal lb.lbType (hostMatches q) health)
      (lb.visits ⟨added, removed⟩ addedFirst)
      (fun ps₀ hps₀ => Or.inl (h.entries q ps₀ hps₀)) with ⟨hsame, hmiss⟩ | hpatched
  · -- a host that matched would have led here
    rw [hsame] at hps
    have huntouched : ∀ (adding : Bool) (x : Host), (adding = true ∧ x ∈ added
        ∨ adding = false ∧ x ∈ removed) → hostMatches q x = false := by
      intro adding x hx
      by_contra hmatch
      have hmatch : hostMatches q x = true := by simpa using hmatch
      refine hmiss (adding, x, q.map Prod.fst) ?_ (extractSubsetMetadata_of_matches hmatch)
      exact SubsetLoadBalancer.mem_visits.mpr ⟨hkeys.2, hx⟩
    exact (h.entries q ps hps).of_untouched hdelta
      (fun a ha => huntouched true a (Or.inl ⟨rfl, ha⟩))
      (fun r hr => huntouched false r (Or.inr ⟨rfl, hr⟩))
  · exact hpatched ps hps

/-- **An update keeps the table exact.** -/
theorem TableTracks.update (h : TableTracks cur lb) (hdelta : Delta cur final added removed)
    (hcur : Distinct cur) (hupdate : lb.update final health ⟨added, removed⟩ addedFirst = .ok lb') :
    TableTracks final lb' := by
  obtain ⟨htable, hfallback, hconfig, -⟩ :=
    SubsetLoadBalancer.update_of_ok h.distinctLists hupdate
  have hkeys : ∀ q ps, lb'.table q = some ps → q ≠ [] ∧ q.map Prod.fst ∈ lb.subSetKeys := by
    rw [htable]
    refine visitAll_forall (fun q _ => q ≠ [] ∧ q.map Prod.fst ∈ lb.subSetKeys)
      (fun _ _ hq => hq) _ ?_ lb.table h.keys
    intro v hv _ hne
    rw [(extractSubsetMetadata_ne_nil hne).1]
    exact ⟨hne, (SubsetLoadBalancer.mem_visits.mp hv).1⟩
  refine ⟨?_, ?_, ?_, ?_, ?_⟩
  · rw [hconfig.subSetKeys]
    exact hkeys
  · intro q ps hps
    have hq := hkeys q ps hps
    rw [htable] at hps
    exact h.entries_update hdelta hcur hq hps
  · intro x hx keys hk hne
    rw [hconfig.subSetKeys] at hk
    rw [htable]
    apply visitAll_some hne
    rcases (hdelta.mem_final x).mp hx with hx | ⟨hx, -⟩
    · exact Or.inr ⟨(true, x, keys),
        SubsetLoadBalancer.mem_visits.mpr ⟨hk, Or.inl ⟨rfl, hx⟩⟩, rfl, rfl⟩
    · exact Or.inl (h.present x hx keys hk hne)
  · grind [SubsetLoadBalancer.fallbackAfter]
  · grind [SubsetLoadBalancer.fallbackAfter, SubsetLoadBalancer.fallbackBefore, updated_tracks]

end Update

variable {lb lb' : SubsetLoadBalancer} {subsets : LBSubsetConfig}

theorem TableTracks.of_sameLists {members : List Host}
    (h : TableTracks members lb) (hsame : SubsetLoadBalancer.SameLists lb lb') :
    TableTracks members lb' := by
  have htracks : ∀ {p : Host → Bool} {ps ps' : PrioritySubset}, Tracks members p ps →
      SubsetLoadBalancer.lists ps' = SubsetLoadBalancer.lists ps → Tracks members p ps' := by
    intro p ps ps' ht heq
    have hhosts := SubsetLoadBalancer.hosts_eq_of_lists heq
    refine ⟨?_, ?_, ?_, ?_⟩
    · rw [SubsetLoadBalancer.predicateFunc_eq_of_lists heq, ht.predicate]
    · rw [hhosts]
      exact ht.distinct
    · rw [hhosts]
      exact ht.mem
    · rw [hhosts, SubsetLoadBalancer.healthyHosts_eq_of_lists heq]
      exact ht.healthy
  refine ⟨?_, ?_, ?_, ?_, ?_⟩
  · grind [SubsetLoadBalancer.map_lists_eq_some]
  · grind [SubsetLoadBalancer.map_lists_eq_some]
  · grind [SubsetLoadBalancer.map_lists_eq_some]
  · grind [Option.map_eq_none_iff]
  · grind [SubsetLoadBalancer.map_lists_eq_some]

/-! ## §5. Every run. -/

theorem hostMatches_initSortedMap (input : List (GoString × GoString)) :
    hostMatches (initSortedMap input) = hostMatches input := by
  funext host
  rw [Bool.eq_iff_iff, hostMatches_iff, hostMatches_iff]
  unfold initSortedMap
  simp only [List.mem_insertionSort]

/-- A balancer for a configuration. -/
@[local grind cases]
structure Configured (subsets : LBSubsetConfig) (lb : SubsetLoadBalancer) : Prop where
  fallBackPolicy : lb.fallBackPolicy = subsets.fallBackPolicy
  defaultSubSetMetadata : lb.defaultSubSetMetadata = initSortedMap subsets.defaultSubset
  subSetKeys : lb.subSetKeys = generateSubsetKeys subsets.subsetSelectors

theorem Configured.fallbackPredicate_eq (h : Configured subsets lb) :
    fallbackPredicate lb.fallBackPolicy lb.defaultSubSetMetadata
      = fallbackPredicate subsets.fallBackPolicy subsets.defaultSubset := by
  unfold fallbackPredicate
  rw [h.fallBackPolicy, h.defaultSubSetMetadata, hostMatches_initSortedMap]

theorem Configured.of_sameConfig
    (h : Configured subsets lb) (hsame : SubsetLoadBalancer.SameConfig lb lb') :
    Configured subsets lb' :=
  ⟨hsame.fallBackPolicy.trans h.fallBackPolicy,
    hsame.defaultSubSetMetadata.trans h.defaultSubSetMetadata, hsame.subSetKeys.trans h.subSetKeys⟩

namespace SubsetCluster

/-- The event is a health check. -/
def Event.isHealthCheck : Event → Bool
  | .healthCheck _ _ => true
  | _ => false

/-- The invariant of clusters whose hosts keep their health. -/
@[local grind cases]
structure Exact (subsets : LBSubsetConfig) (s : SubsetCluster) : Prop where
  distinct : Distinct s.cluster.hostList
  tracks : TableTracks s.cluster.hostList s.lb
  configured : Configured subsets s.lb

variable {subsets : LBSubsetConfig} {s t : SubsetCluster}

theorem exact_new {lbType : LoadBalancerType} {grow : Nat → Nat}
    {healthChecker : Bool} {health : Host → Bool}
    (h : newSubsetCluster lbType subsets grow healthChecker health = .ok s) : Exact subsets s := by
  obtain ⟨s', hok, hcluster, -, -, htable, hfallback, hconfig⟩ :=
    newSubsetCluster_eq lbType subsets grow healthChecker health
  rw [h] at hok
  cases hok
  have hlist : s.cluster.hostList = [] := by
    rw [hcluster]
    rfl
  refine ⟨?_, ?_, hconfig.fallBackPolicy, hconfig.defaultSubSetMetadata, hconfig.subSetKeys⟩
  · rw [hlist]
    exact distinct_nil
  · rw [hlist]
    refine ⟨?_, ?_, ?_, ?_, ?_⟩
    · intro q ps hps
      rw [htable] at hps
      cases hps
    · intro q ps hps
      rw [htable] at hps
      cases hps
    · exact fun x hx => absurd hx List.not_mem_nil
    · grind [SubsetLoadBalancer.fallbackAfter]
    · intro hpolicy
      rw [hconfig.fallBackPolicy] at hpolicy
      rw [hfallback, SubsetLoadBalancer.fallbackAfter, if_neg hpolicy, hconfig.fallBackPolicy,
        hconfig.defaultSubSetMetadata]
      -- nothing is added and nothing removed
      have hdelta : Delta [] [] [] [] :=
        ⟨by simp, by simp, by simp, by simp, distinct_nil, fun h => h⟩
      exact ⟨_, rfl, updated_tracks hdelta
        (Or.inl (tracks_fresh distinct_nil _ _ _)) health⟩

/-- **`UpdateHosts` returns and keeps the subsets exact.** -/
theorem Exact.updateHosts (h : Exact subsets s) (newHosts : List Host) (addedFirst : Bool) :
    ∃ t, s.Step (.updateHosts newHosts addedFirst) t ∧ Exact subsets t := by
  cases hch : (updateDynamicHostList newHosts s.cluster.hostList).changed with
  | false => exact ⟨s, step_updateHosts_unchanged addedFirst hch, h⟩
  | true =>
    obtain ⟨t, hstep, hcluster, -, hupdate⟩ :=
      step_updateHosts_changed h.tracks.distinctLists addedFirst hch
    have hdelta := delta_updateDynamicHostList newHosts s.cluster.hostList
    have hlist : t.cluster.hostList
        = (updateDynamicHostList newHosts s.cluster.hostList).finalHosts := by
      rw [hcluster]
      exact (SimpleInMemCluster.updateHosts_changed hch).1
    obtain ⟨-, -, hconfig, -⟩ :=
      SubsetLoadBalancer.update_of_ok h.tracks.distinctLists hupdate
    refine ⟨t, hstep, ?_, ?_, h.configured.of_sameConfig hconfig⟩
    · rw [hlist]
      exact hdelta.finalDistinct h.distinct
    · rw [hlist]
      exact h.tracks.update hdelta h.distinct hupdate

theorem step_chooseHost {context : Option MatchCriteria} {rand : Nat}
    (h : s.Step (.chooseHost context rand) t) :
    t.cluster = s.cluster ∧ t.health = s.health ∧ SubsetLoadBalancer.SameLists s.lb t.lb := by
  obtain ⟨⟨r, lb'⟩, hchoose, heq⟩ := map_eq_ok.mp h
  cases heq
  exact ⟨rfl, rfl, SubsetLoadBalancer.chooseHost_sameLists hchoose⟩

/-- **One event.** -/
theorem Exact.step {e : Event}
    (h : Exact subsets s) (he : e.isHealthCheck = false) (hstep : s.Step e t) :
    Exact subsets t := by
  cases e with
  | updateHosts newHosts addedFirst =>
    obtain ⟨t', hstep', hexact⟩ := h.updateHosts newHosts addedFirst
    rw [hstep.unique hstep']
    exact hexact
  | healthCheck host healthy => cases he
  | chooseHost context rand =>
    obtain ⟨hcluster, -, hsame⟩ := step_chooseHost hstep
    refine ⟨?_, ?_, h.configured.of_sameConfig hsame.config⟩
    · rw [hcluster]
      exact h.distinct
    · rw [hcluster]
      exact h.tracks.of_sameLists hsame

/-- **Every run without health checks.** -/
theorem Exact.run {es : List Event}
    (h : Exact subsets s) (hrun : Run Step s es t) (hes : ∀ e ∈ es, e.isHealthCheck = false) :
    Exact subsets t := by
  refine hrun.guarded (P := fun _ e => e.isHealthCheck = false) (Exact subsets)
    (fun _ _ _ hinv he hstep => hinv.step he hstep) h ?_
  intro before e after u hall _
  apply hes
  rw [hall]
  exact List.mem_append_right _ List.mem_cons_self

/-- What the subsets of a cluster list. -/
structure SubsetsExact (subsets : LBSubsetConfig) (s : SubsetCluster) : Prop where
  /-- The values that some host has for the keys of a selector lead to an entry
  with exactly the hosts that have them. -/
  selected : ∀ sel ∈ subsets.subsetSelectors, sel ≠ [] → ∀ kvs : SubsetMetadata,
    kvs.map Prod.fst = initSet sel →
    (∃ h ∈ s.cluster.hostList, hostMatches kvs h = true) →
    ∃ entry ps, s.lb.findSubset kvs = some entry ∧ entry.entry = some ps ∧ ps.hosts.Nodup
      ∧ ∀ h, h ∈ ps.hosts ↔ h ∈ s.cluster.hostList ∧ hostMatches kvs h = true
  /-- An entry whose hosts have all left is empty. -/
  emptied : ∀ kvs entry ps, s.lb.findSubset kvs = some entry → entry.entry = some ps →
    (∀ h ∈ s.cluster.hostList, hostMatches kvs h = false) → ps.hosts = []
  /-- Without a fallback policy there is no fallback subset. -/
  noFallback : subsets.fallBackPolicy = .noFallBack → s.lb.fallbackSubset = none
  /-- The fallback subset has exactly the hosts with the fallback predicate. -/
  fallback : subsets.fallBackPolicy ≠ .noFallBack →
    ∃ ps, s.lb.fallbackSubset = some ps ∧ ps.hosts.Nodup
      ∧ ∀ h, h ∈ ps.hosts ↔ h ∈ s.cluster.hostList
        ∧ fallbackPredicate subsets.fallBackPolicy subsets.defaultSubset h = true
  /-- The next call returns. -/
  returns : ∀ newHosts addedFirst, ∃ t, s.Step (.updateHosts newHosts addedFirst) t

theorem table_of_findSubset {lb : SubsetLoadBalancer} {kvs : SubsetMetadata}
    {entry : Trie Pair PrioritySubset} (h : lb.findSubset kvs = some entry) :
    lb.table kvs = entry.entry := by
  unfold SubsetLoadBalancer.findSubset at h
  split at h
  · cases h
  · exact Trie.entryAt_of_find h

theorem Exact.subsetsExact (h : Exact subsets s) : SubsetsExact subsets s where
  selected := by
    intro sel hsel hne kvs hkeys ⟨x, hx, hmatch⟩
    have hkvs : kvs ≠ [] := by
      rintro rfl
      exact hne (initSet_eq_nil.mp hkeys.symm)
    have hmem : kvs.map Prod.fst ∈ s.lb.subSetKeys := by
      rw [h.configured.subSetKeys, hkeys]
      exact mem_generateSubsetKeys.mpr ⟨sel, hsel, rfl⟩
    have hext := extractSubsetMetadata_of_matches hmatch
    obtain ⟨ps, hps⟩ := h.tracks.present x hx (kvs.map Prod.fst) hmem (by rw [hext]; exact hkvs)
    rw [hext] at hps
    obtain ⟨entry, hfind, hentry⟩ := Trie.find_of_entryAt hps
    have htracks := h.tracks.entries kvs ps hps
    refine ⟨entry, ps, ?_, hentry, htracks.distinct.nodup, htracks.mem⟩
    unfold SubsetLoadBalancer.findSubset
    rw [if_neg hkvs, hfind]
  emptied := by
    intro kvs entry ps hfind hentry hnone
    have htracks := h.tracks.entries kvs ps ((table_of_findSubset hfind).trans hentry)
    apply List.eq_nil_iff_forall_not_mem.mpr
    grind
  noFallback := by grind
  fallback := by
    intro hpolicy
    rw [← h.configured.fallBackPolicy] at hpolicy
    obtain ⟨ps, hps, htracks⟩ := h.tracks.fallback hpolicy
    rw [h.configured.fallbackPredicate_eq] at htracks
    exact ⟨ps, hps, htracks.distinct.nodup, htracks.mem⟩
  returns := by
    intro newHosts addedFirst
    obtain ⟨t, hstep, -⟩ := h.updateHosts newHosts addedFirst
    exact ⟨t, hstep⟩

/-- **The subsets follow the hosts**, in every state that calls of `UpdateHosts`
lead to, with any choices between them. -/
theorem subsets_exact (lbType : LoadBalancerType) (subsets : LBSubsetConfig) (grow : Nat → Nat)
    (healthChecker : Bool) (health : Host → Bool) (s t : SubsetCluster) (es : List Event)
    (hnew : newSubsetCluster lbType subsets grow healthChecker health = .ok s)
    (hrun : Run Step s es t) (hes : ∀ e ∈ es, e.isHealthCheck = false) : SubsetsExact subsets t :=
  ((exact_new hnew).run hrun hes).subsetsExact

/-- A selector of one key, and hosts of any kind to fall back to. -/
def byVersion : LBSubsetConfig := ⟨.anyEndPoint, [], [[str "version"]]⟩

/-- A host of one version. -/
def versionHost (n : Nat) (version : String) : Host :=
  ⟨n, str "10.0.0." ++ [UInt8.ofNat (48 + n)], str "host",
    (∅ : GoMap GoString GoString).insert (str "version") (str version)⟩

/-- Two versions come, and one goes. -/
theorem subsets_exact_versions :
    ∃ s t, newSubsetCluster .roundRobin byVersion id false (fun _ => true) = .ok s
      ∧ Run Step s [.updateHosts [versionHost 1 "1", versionHost 2 "2"] false,
          .updateHosts [versionHost 2 "2"] true] t
      ∧ SubsetsExact byVersion t := by
  obtain ⟨s, hnew, -⟩ := newSubsetCluster_eq .roundRobin byVersion id false (fun _ => true)
  obtain ⟨t₁, hfirst⟩ := (subsets_exact _ _ _ _ _ s s [] hnew .nil (by simp)).returns
    [versionHost 1 "1", versionHost 2 "2"] false
  have hrun₁ : Run Step s [.updateHosts [versionHost 1 "1", versionHost 2 "2"] false] t₁ :=
    Run.nil.snoc hfirst
  obtain ⟨t, hsecond⟩ := (subsets_exact _ _ _ _ _ s t₁ _ hnew hrun₁ (by simp
    [Event.isHealthCheck])).returns [versionHost 2 "2"] true
  have hrun : Run Step s ([.updateHosts [versionHost 1 "1", versionHost 2 "2"] false]
      ++ [.updateHosts [versionHost 2 "2"] true]) t := hrun₁.snoc hsecond
  exact ⟨s, t, hnew, hrun, subsets_exact _ _ _ _ _ s t _ hnew hrun (by simp [Event.isHealthCheck])⟩

end SubsetCluster

end Mosn.Upstream
