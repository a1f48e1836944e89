/-
  Mosn.Upstream.SubsetChoice
  **WHICH HOST A SUBSET BALANCER CHOOSES, AND WHEN IT PANICS.**

  What is chosen is right: a member of the cluster that has the pairs of the
  request, or, when they lead nowhere, one of the fallback subset.  But the
  way to it assumes more than holds.

      criteria of a route without metadata   a nil pointer in an interface
                                             that is not nil: dereferenced
      pairs that lead half the way           a node without a subset
      a subset without a healthy host        a nil host, whose address is
                                             logged
      round robin over k · 2³² hosts         a remainder by zero

    • `choice_sound` — what is chosen,
    • `choose_returns_iff` — when `ChooseHost` returns.
-/
import Mosn.Upstream.SubsetTable

namespace Mosn.Upstream

open Mosn.Lib

/-! ## §1. One list. -/

namespace LoadBalancer

/-- Round robin divides by the number of hosts, as a 32-bit number. -/
@[local grind]
def Serves (lb : LoadBalancer) (healthyHosts : List Host) : Prop :=
  lb = .random ∨ healthyHosts = [] ∨ healthyHosts.length % 2 ^ 32 ≠ 0

theorem size_eq_zero (n : Nat) : UInt32.ofNat n = 0 ↔ n % 2 ^ 32 = 0 := by
  rw [← UInt32.toNat_inj, UInt32.toNat_ofNat']
  rfl

theorem index_lt {n : Nat} (hn : UInt32.ofNat n ≠ 0) (i : UInt32) :
    (i % UInt32.ofNat n).toNat < n := by
  have hpos : 0 < n % 2 ^ 32 := by
    have := mt (size_eq_zero n).mpr hn
    omega
  rw [UInt32.toNat_mod, UInt32.toNat_ofNat']
  have hlt := Nat.mod_lt i.toNat hpos
  have hle := Nat.mod_le n (2 ^ 32)
  omega

/-- **When a balancer returns**: a host if there is one, and nil if not. -/
theorem chooseHost_ok_iff (lb : LoadBalancer) (healthyHosts : List Host) (rand : Nat) :
    (∃ r, lb.chooseHost healthyHosts rand = .ok r) ↔ lb.Serves healthyHosts := by
  unfold chooseHost
  cases lb with
  | random =>
    simp only
    split
    · exact ⟨fun _ => Or.inl rfl, fun _ => ⟨_, rfl⟩⟩
    · exact ⟨fun _ => Or.inl rfl, fun _ => ⟨_, rfl⟩⟩
  | roundRobin rrIndex =>
    simp only
    by_cases hnil : healthyHosts.length = 0
    · rw [if_pos hnil]
      exact ⟨fun _ => Or.inr (Or.inl (List.length_eq_zero_iff.mp hnil)), fun _ => ⟨_, rfl⟩⟩
    · rw [if_neg hnil]
      by_cases hsize : UInt32.ofNat healthyHosts.length = 0
      · grind [size_eq_zero]
      · rw [if_neg hsize]
        exact ⟨fun _ => Or.inr (Or.inr (mt (size_eq_zero _).mpr hsize)), fun _ => ⟨_, rfl⟩⟩

theorem chooseHost_result {lb lb' : LoadBalancer} {healthyHosts : List Host} {rand : Nat}
    {r : Option Host} (h : lb.chooseHost healthyHosts rand = .ok (r, lb')) :
    (∀ host, r = some host → host ∈ healthyHosts) ∧ (r = none ↔ healthyHosts = []) := by
  have hsome : ∀ i, i < healthyHosts.length → healthyHosts[i]? = r →
      (∀ host, r = some host → host ∈ healthyHosts) ∧ (r = none ↔ healthyHosts = []) := by
    grind
  have hnone : healthyHosts.length = 0 → none = r →
      (∀ host, r = some host → host ∈ healthyHosts) ∧ (r = none ↔ healthyHosts = []) := by
    grind
  unfold chooseHost at h
  cases lb with
  | random => grind [Prod.mk.inj, Nat.mod_lt]
  | roundRobin rrIndex => grind [Prod.mk.inj, index_lt]

end LoadBalancer

/-! ## §2. One subset. -/

namespace SubsetLoadBalancer

/-- The subset has a balancer, which returns. -/
def SubsetServes (ps : PrioritySubset) : Prop :=
  ∃ inner, ps.loadbalancer = some inner ∧ inner.Serves ps.healthyHosts

theorem chooseFrom_ok_iff (ps : PrioritySubset) (rand : Nat) :
    (∃ r, chooseFrom ps rand = .ok r) ↔ SubsetServes ps := by
  unfold chooseFrom SubsetServes
  cases hlb : ps.loadbalancer with
  | none => exact ⟨fun ⟨_, h⟩ => (nomatch h), fun ⟨_, h, _⟩ => (nomatch h)⟩
  | some inner =>
    simp only [Option.some.injEq, exists_eq_left']
    rw [← LoadBalancer.chooseHost_ok_iff inner ps.healthyHosts rand]
    constructor
    · grind [map_eq_ok]
    · rintro ⟨r', hr'⟩
      exact ⟨_, map_eq_ok.mpr ⟨r', hr', rfl⟩⟩

variable {rand : Nat} {lb : SubsetLoadBalancer} {context : Option MatchCriteria}

theorem chooseFrom_result {ps ps' : PrioritySubset} {r : Option Host}
    (h : chooseFrom ps rand = .ok (r, ps')) :
    (∀ host, r = some host → host ∈ ps.healthyHosts) ∧ (r = none ↔ ps.healthyHosts = []) := by
  unfold chooseFrom at h
  grind [map_eq_ok, LoadBalancer.chooseHost_result]

theorem chooseHost_from {lb' : SubsetLoadBalancer}
    {host : Host} (h : lb.chooseHost context rand = .ok (some host, lb')) :
    (∃ kvs ps, context = some (.criteria kvs) ∧ lb.table kvs = some ps ∧ host ∈ ps.healthyHosts)
      ∨ (∀ kvs, context = some (.criteria kvs) → lb.findSubset kvs = none)
        ∧ context ≠ some .nilPointer
        ∧ ∃ ps, lb.fallbackSubset = some ps ∧ host ∈ ps.healthyHosts := by
  have hfallback : lb.chooseFallback rand = .ok (some host, lb') →
      ∃ ps, lb.fallbackSubset = some ps ∧ host ∈ ps.healthyHosts := by
    intro hf
    unfold chooseFallback at hf
    split at hf
    · cases hf
    · rename_i ps hps
      split at hf
      · cases hf
      · obtain ⟨⟨r, ps'⟩, hchoose, heq⟩ := map_eq_ok.mp hf
        have hr : r = some host := congrArg Prod.fst heq
        exact ⟨ps, hps, (chooseFrom_result hchoose).1 host hr⟩
  unfold chooseHost at h
  split at h
  · exact Or.inr ⟨nofun, nofun, hfallback h⟩
  · exact Or.inr ⟨nofun, nofun, hfallback h⟩
  · cases h
  · rename_i kvs
    split at h
    · grind
    · rename_i entry hfind
      left
      unfold chooseEntry at h
      split at h
      · cases h
      · rename_i ps hps
        obtain ⟨⟨r, ps'⟩, hchoose, heq⟩ := bind_eq_ok.mp h
        split at heq
        · cases heq
        · rename_i host' hhost
          have hhost' : host' = host := by
            have := congrArg Prod.fst (Except.ok.inj heq)
            exact Option.some.inj this
          grind [chooseFrom_result, SubsetCluster.table_of_findSubset]

/-! ## §3. When `ChooseHost` returns. -/

/-- The states and contexts in which nothing is dereferenced that is nil. -/
structure Safe (lb : SubsetLoadBalancer) (context : Option MatchCriteria) : Prop where
  /-- The criteria are not a nil pointer. -/
  notNil : context ≠ some .nilPointer
  /-- An entry that is found has a subset, with a healthy host. -/
  entry : ∀ kvs entry, context = some (.criteria kvs) → lb.findSubset kvs = some entry →
    ∃ ps, entry.entry = some ps ∧ ps.healthyHosts ≠ [] ∧ SubsetServes ps
  /-- If there is no entry, the fallback subset can be used unless it is empty. -/
  fallback : (∀ kvs, context = some (.criteria kvs) → lb.findSubset kvs = none) →
    ∀ ps, lb.fallbackSubset = some ps → ps.hosts ≠ [] → SubsetServes ps

theorem chooseFallback_ok_iff (lb : SubsetLoadBalancer) (rand : Nat) :
    (∃ r, lb.chooseFallback rand = .ok r)
      ↔ ∀ ps, lb.fallbackSubset = some ps → ps.hosts ≠ [] → SubsetServes ps := by
  unfold chooseFallback
  cases hf : lb.fallbackSubset with
  | none => exact ⟨fun _ => nofun, fun _ => ⟨_, rfl⟩⟩
  | some ps =>
    simp only [Option.some.injEq, forall_eq']
    by_cases hnil : ps.hosts = []
    · rw [if_pos hnil]
      exact ⟨fun _ hne => absurd hnil hne, fun _ => ⟨_, rfl⟩⟩
    · rw [if_neg hnil, ← chooseFrom_ok_iff ps rand]
      constructor
      · grind [map_eq_ok]
      · intro h
        obtain ⟨r', hr'⟩ := h hnil
        exact ⟨_, map_eq_ok.mpr ⟨r', hr', rfl⟩⟩

theorem chooseEntry_ok_iff (lb : SubsetLoadBalancer) (kvs : SubsetMetadata)
    (entry : Trie Pair PrioritySubset) (rand : Nat) : (∃ r, lb.chooseEntry kvs entry rand = .ok r)
      ↔ ∃ ps, entry.entry = some ps ∧ ps.healthyHosts ≠ [] ∧ SubsetServes ps := by
  unfold chooseEntry
  cases hentry : entry.entry with
  | none => exact ⟨fun ⟨_, h⟩ => (nomatch h), fun ⟨_, h, _⟩ => (nomatch h)⟩
  | some ps =>
    simp only [Option.some.injEq, exists_eq_left']
    rw [← chooseFrom_ok_iff ps rand]
    constructor
    · rintro ⟨r, hr⟩
      obtain ⟨⟨r', ps'⟩, hchoose, heq⟩ := bind_eq_ok.mp hr
      grind [chooseFrom_result]
    · rintro ⟨hne, ⟨⟨r', ps'⟩, hchoose⟩⟩
      cases r' with
      | none => exact absurd ((chooseFrom_result hchoose).2.mp rfl) hne
      | some host => exact ⟨_, bind_eq_ok.mpr ⟨_, hchoose, rfl⟩⟩

theorem safe_iff_fallback (hnil : context ≠ some .nilPointer)
    (hnone : ∀ kvs, context = some (.criteria kvs) → lb.findSubset kvs = none) :
    lb.Safe context ↔ ∀ ps, lb.fallbackSubset = some ps → ps.hosts ≠ [] → SubsetServes ps := by
  constructor
  · exact fun h => h.fallback hnone
  · intro h
    refine ⟨hnil, ?_, fun _ => h⟩
    intro kvs entry hctx hfind
    rw [hnone kvs hctx] at hfind
    cases hfind

theorem chooseHost_ok_iff (lb : SubsetLoadBalancer) (context : Option MatchCriteria) (rand : Nat) :
    (∃ r, lb.chooseHost context rand = .ok r) ↔ lb.Safe context := by
  unfold chooseHost
  split
  · refine (lb.chooseFallback_ok_iff rand).trans (Iff.symm (safe_iff_fallback ?_ ?_))
    · exact nofun
    · exact nofun
  · refine (lb.chooseFallback_ok_iff rand).trans (Iff.symm (safe_iff_fallback ?_ ?_))
    · exact nofun
    · exact nofun
  · exact ⟨fun ⟨_, h⟩ => (nomatch h), fun h => absurd rfl h.notNil⟩
  · rename_i kvs
    split
    · rename_i hfind
      refine (lb.chooseFallback_ok_iff rand).trans (Iff.symm (safe_iff_fallback ?_ ?_))
      · exact nofun
      · rintro kvs' heq
        cases heq
        exact hfind
    · rename_i entry hfind
      rw [chooseEntry_ok_iff]
      constructor
      · intro h
        refine ⟨nofun, ?_, ?_⟩
        · grind
        · intro hnone
          rw [hnone kvs rfl] at hfind
          cases hfind
      · exact fun h => h.entry kvs entry rfl hfind

end SubsetLoadBalancer

namespace SubsetCluster

/-- **`ChooseHost` returns exactly when the context is safe**, in every state. -/
theorem choose_returns_iff (s : SubsetCluster) (context : Option MatchCriteria) (rand : Nat) :
    (∃ t, s.Step (.chooseHost context rand) t) ↔ s.lb.Safe context := by
  rw [← s.lb.chooseHost_ok_iff context rand]
  constructor
  · rintro ⟨t, ht⟩
    obtain ⟨r, hr, -⟩ := map_eq_ok.mp ht
    exact ⟨r, hr⟩
  · rintro ⟨r, hr⟩
    exact ⟨_, map_eq_ok.mpr ⟨r, hr, rfl⟩⟩

/-- A cluster after some updates of its hosts. -/
def updatedCluster (subsets : LBSubsetConfig) (updates : List (List Host)) :
    Except Fault SubsetCluster :=
  (newSubsetCluster .roundRobin subsets id false fun _ => true).bind fun s =>
    updates.foldlM (fun s newHosts => s.step (.updateHosts newHosts true)) s

/-- The host that is chosen then. -/
def chosen (subsets : LBSubsetConfig) (updates : List (List Host))
    (context : Option MatchCriteria) : Except Fault (Option Host) :=
  (updatedCluster subsets updates).bind fun s => (s.lb.chooseHost context 0).map Prod.fst

/-- A selector of two keys. -/
def byStageAndVersion : LBSubsetConfig := ⟨.anyEndPoint, [], [[str "stage", str "version"]]⟩

/-- A host of one stage and one version. -/
def stagedHost : Host :=
  { versionHost 1 "1" with
    metadata := (versionHost 1 "1").metadata.insert (str "stage") (str "test") }

/-- The requests that panic: without metadata on the route, for a subset whose
only host has left, and with one of two keys. -/
theorem chooseHost_panics :
    chosen byVersion [[versionHost 1 "1"]] (some (routeCriteria (some ⟨false, []⟩)))
        = .error .nilDereference
      ∧ chosen byVersion [[versionHost 1 "1"], []]
          (some (routeCriteria (some ⟨true, [(str "version", str "1")]⟩)))
          = .error .nilDereference
      ∧ chosen byStageAndVersion [[stagedHost]]
          (some (routeCriteria (some ⟨true, [(str "stage", str "test")]⟩)))
          = .error .nilDereference := by
  refine ⟨?_, ?_, ?_⟩
  · rfl
  · rfl
  · rfl

/-! ## §4. What is chosen. -/

/-- **The choice is sound**, in every state that host updates lead to: a request
with criteria gets a member that has all its pairs, or, if they lead to no
entry, a member of the fallback subset. -/
theorem choice_sound (lbType : LoadBalancerType) (subsets : LBSubsetConfig) (grow : Nat → Nat)
    (healthChecker : Bool) (health : Host → Bool) (s t : SubsetCluster) (es : List Event)
    (hnew : newSubsetCluster lbType subsets grow healthChecker health = .ok s)
    (hrun : Run Step s es t) (hes : ∀ e ∈ es, e.isHealthCheck = false)
    (criteria : MatchCriteria) (hcriteria : criteria ≠ .absent) (rand : Nat) (host : Host)
    (lb' : SubsetLoadBalancer)
    (hchoose : t.lb.chooseHost (some criteria) rand = .ok (some host, lb')) :
    host ∈ t.cluster.hostList ∧ ∃ kvs, criteria = .criteria kvs
      ∧ ((∀ kv ∈ kvs, host.metadata.lookup kv.1 = some kv.2)
        ∨ t.lb.findSubset kvs = none
          ∧ fallbackPredicate subsets.fallBackPolicy subsets.defaultSubset host = true) := by
  have hexact : Exact subsets t := (exact_new hnew).run hrun hes
  rcases SubsetLoadBalancer.chooseHost_from hchoose with
    ⟨kvs, ps, hctx, htable, hhost⟩ | ⟨hnone, hnil, ps, hps, hhost⟩
  · have htracks := hexact.tracks.entries kvs ps htable
    obtain ⟨hmem, hmatch⟩ := (htracks.mem host).mp (htracks.healthy host hhost)
    exact ⟨hmem, kvs, Option.some.inj hctx, Or.inl (hostMatches_iff.mp hmatch)⟩
  · have hpolicy : t.lb.fallBackPolicy ≠ .noFallBack := by
      intro hno
      rw [hexact.tracks.noFallback hno] at hps
      cases hps
    obtain ⟨ps', hps', htracks⟩ := hexact.tracks.fallback hpolicy
    rw [hps] at hps'
    cases hps'
    obtain ⟨hmem, hpred⟩ := (htracks.mem host).mp (htracks.healthy host hhost)
    rw [hexact.configured.fallbackPredicate_eq] at hpred
    cases criteria with
    | absent => exact absurd rfl hcriteria
    | nilPointer => exact absurd rfl hnil
    | criteria kvs => exact ⟨hmem, kvs, rfl, Or.inr ⟨hnone kvs rfl, hpred⟩⟩

/-- The host of the version that is asked for. -/
theorem choice_sound_version :
    ∃ s t lb', newSubsetCluster .roundRobin byVersion id false (fun _ => true) = .ok s
      ∧ Run Step s [.updateHosts [versionHost 2 "2", versionHost 1 "1"] true] t
      ∧ t.lb.chooseHost (some (.criteria [(str "version", str "1")])) 0
          = .ok (some (versionHost 1 "1"), lb')
      ∧ versionHost 1 "1" ∈ t.cluster.hostList := by
  have hchosen : chosen byVersion [[versionHost 2 "2", versionHost 1 "1"]]
      (some (.criteria [(str "version", str "1")])) = .ok (some (versionHost 1 "1")) := rfl
  obtain ⟨t, hupdated, hchosen⟩ := bind_eq_ok.mp hchosen
  obtain ⟨s, hnew, hupdates⟩ := bind_eq_ok.mp hupdated
  obtain ⟨t', hstep, hlast⟩ := bind_eq_ok.mp hupdates
  cases hlast
  obtain ⟨⟨r, lb'⟩, hchoose, hr⟩ := map_eq_ok.mp hchosen
  have hr' : r = some (versionHost 1 "1") := hr
  rw [hr'] at hchoose
  have hrun : Run Step s [.updateHosts [versionHost 2 "2", versionHost 1 "1"] true] t :=
    Run.nil.snoc hstep
  obtain ⟨hmem, -⟩ := choice_sound _ _ _ _ _ s t _ hnew hrun (by simp [Event.isHealthCheck])
    (.criteria [(str "version", str "1")]) (by simp) 0 _ lb' hchoose
  exact ⟨s, t, lb', hnew, hrun, hchoose, hmem⟩

end SubsetCluster

end Mosn.Upstream
