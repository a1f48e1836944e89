/-
  Mosn.Upstream.RemoveHost
  **REMOVING A HOST FROM A CLUSTER** (`RemoveClusterHosts` of
  `pkg/upstream/cluster/clustermanager.go`).

  The host is cut out of `concretedCluster.hosts` IN PLACE, and the shortened
  list is then given to `UpdateHosts`, which compares it with `sc.hosts`: with
  the very cells the cut has just moved.

      sc.hosts before       a b c        remove a
      the new list          b c
      sc.hosts, compared    b c c        the same addresses: NO CHANGE

  So nothing is updated and no one is told, while the cluster's list, its
  host set and its healthy hosts have lost `a` and list `c` twice.  Only
  when the host is the LAST of the list does the cut move nothing.

    • `removeClusterHosts_exact_iff`.
-/
import Mosn.Upstream.Cluster

namespace Mosn.Upstream

open Mosn.Lib

attribute [local grind] Distinct

/-! ## §1. Lists compared by address. -/

variable {newHosts cur hosts : List Host} {gone : Host}

theorem hostsAdded_eq_nil_iff : (updateDynamicHostList newHosts cur).hostsAdded = []
      ↔ ∀ n ∈ newHosts, ∃ c ∈ cur, c.address = n.address := by
  rw [hostsAdded_eq, List.filter_eq_nil_iff]
  simp only [isNew_eq_true, ne_eq, not_forall, not_not, exists_prop]
  constructor
  · -- the first of the new hosts with this address would have been added
    intro h n hn
    obtain ⟨first, hfirst, haddr⟩ := exists_address_firstHosts.mpr ⟨n, hn, rfl⟩
    exact haddr ▸ h first hfirst
  · intro h n hn
    exact h n (List.mem_of_find?_eq_some (mem_firstHosts.mp hn))

theorem hostsRemoved_eq_nil_iff : (updateDynamicHostList newHosts cur).hostsRemoved = []
      ↔ ∀ c ∈ cur, ∃ n ∈ newHosts, n.address = c.address := by
  rw [hostsRemoved_eq, List.filter_eq_nil_iff]
  simp only [isNew_eq_true, ne_eq, not_forall, not_not, exists_prop]

theorem changed_eq (newHosts cur : List Host) : (updateDynamicHostList newHosts cur).changed
      = (decide (0 < (updateDynamicHostList newHosts cur).hostsAdded.length)
        || decide (0 < (updateDynamicHostList newHosts cur).hostsRemoved.length)) := rfl

/-- No address comes and none goes. -/
def SameAddresses (newHosts hosts : List Host) : Prop :=
  (∀ n ∈ newHosts, ∃ c ∈ hosts, c.address = n.address)
    ∧ ∀ c ∈ hosts, ∃ n ∈ newHosts, n.address = c.address

theorem changed_eq_false_iff :
    (updateDynamicHostList newHosts hosts).changed = false ↔ SameAddresses newHosts hosts := by
  rw [changed_eq, SameAddresses, ← hostsAdded_eq_nil_iff, ← hostsRemoved_eq_nil_iff]
  simp only [Bool.or_eq_false_iff, decide_eq_false_iff_not, Nat.not_lt, Nat.le_zero,
    List.length_eq_zero_iff]

theorem hostsRemoved_nodup (h : cur.Nodup) :
    (updateDynamicHostList newHosts cur).hostsRemoved.Nodup := by
  rw [hostsRemoved_eq]
  exact h.filter _

theorem updateDynamicHostList_init {init : List Host} (h : Distinct (init ++ [gone])) :
    (updateDynamicHostList init (init ++ [gone])).hostsAdded = []
      ∧ (updateDynamicHostList init (init ++ [gone])).hostsRemoved = [gone] := by
  have hother : ∀ n ∈ init, n.address ≠ gone.address := by grind
  refine ⟨hostsAdded_eq_nil_iff.mpr fun n hn => ⟨n, List.mem_append_left _ hn, rfl⟩, ?_⟩
  apply List.perm_singleton.mp
  refine (List.perm_ext_iff_of_nodup (hostsRemoved_nodup h.nodup)
    (List.nodup_singleton gone)).mpr ?_
  intro x
  rw [mem_hostsRemoved, List.mem_singleton, List.mem_append, List.mem_singleton]
  grind

/-! ## §2. The host that is cut out. -/

/-- `after` lists every host of `before` once, except `gone`. -/
def Others (before : List Host) (gone : Host) (after : List Host) : Prop :=
  after.Nodup ∧ ∀ h, h ∈ after ↔ h ∈ before ∧ h ≠ gone

/-- The host `gone` of the cluster `c`, and nothing else, is removed in `c'`,
and the listeners are told so. -/
structure RemovedExactly (c : SimpleInMemCluster) (gone : Host) (c' : SimpleInMemCluster)
    (told : Told) : Prop where
  hostList : Others c.hostList gone c'.hostList
  hosts : Others c.hostList gone c'.allHosts
  healthyHosts : Others c.hostList gone c'.healthyHosts
  callbacks : told.callbacks = [⟨[], [gone]⟩]
  healthChecker : told.healthChecker = if c.healthChecker then [⟨[], [gone]⟩] else []

theorem findIdx?_address (h : Distinct hosts) {host : Host}
    (hgone : gone ∈ hosts) (haddr : gone.address = host.address) :
    ∃ i, hosts.findIdx? (host.address = ·.address) = some i ∧ hosts[i]? = some gone := by
  have hsome : (hosts.findIdx? (host.address = ·.address)).isSome = true := by grind
  obtain ⟨i, hi⟩ := Option.isSome_iff_exists.mp hsome
  obtain ⟨hlt, hp, -⟩ := List.findIdx?_eq_some_iff_getElem.mp hi
  refine ⟨i, hi, ?_⟩
  rw [List.getElem?_eq_getElem hlt]
  have hsame : hosts[i].address = gone.address := by
    rw [haddr]
    exact (of_decide_eq_true hp).symm
  rw [h.eq_of_address (List.getElem_mem hlt) hgone hsame]

namespace SimpleInMemCluster

variable {c : SimpleInMemCluster} {host gone : Host}

/-- What `UpdateHosts` compares: the list without the host, and the cluster's
own list, which ends with its last host twice. -/
theorem removeHost_eq (hwf : c.Wf) {i : Nat}
    (hi : c.hostList.findIdx? (host.address = ·.address) = some i) :
    ∃ c₁ : SimpleInMemCluster, c.removeHost host = c₁.updateHosts (c.hostList.eraseIdx i)
      ∧ c₁.hostList = c.hostList.eraseIdx i ++ c.hostList.drop (c.hostList.length - 1)
      ∧ c₁.healthChecker = c.healthChecker := by
  have hlen : c.hostList.length = c.hosts.len := Memory.length_read hwf.valid
  have hlt : i < c.hosts.len := by
    rw [← hlen]
    exact findIdx?_lt hi
  refine ⟨{ c with memory := (c.memory.cut c.hosts i).1 }, ?_, ?_, rfl⟩
  · unfold removeHost
    rw [hi]
    change updateHosts _ _ = updateHosts _ _
    rw [Memory.read_cut hwf.valid hlt]
    rfl
  · change (c.memory.cut c.hosts i).1.read c.hosts = _
    rw [Memory.read_cut_self hwf.valid hlt, hlen]
    rfl

/-- **The last host** is removed exactly. -/
theorem removeHost_last (hwf : c.Wf) (hd : Distinct c.hostList)
    (haddr : gone.address = host.address) (hlast : c.hostList.getLast? = some gone) :
    RemovedExactly c gone (c.removeHost host).1 (c.removeHost host).2 := by
  obtain ⟨init, hinit⟩ := List.getLast?_eq_some_iff.mp hlast
  have hmem : gone ∈ c.hostList := by
    rw [hinit]
    exact List.mem_append_right _ (List.mem_singleton.mpr rfl)
  obtain ⟨i, hi, hget⟩ := findIdx?_address hd hmem haddr
  -- the index is the last one
  have hidx : i = init.length := by grind
  obtain ⟨c₁, hrem, hlist, hchecker⟩ := removeHost_eq hwf hi
  have herase : c.hostList.eraseIdx i = init := by grind
  have hsame : c₁.hostList = init ++ [gone] := by grind
  rw [hinit] at hd
  obtain ⟨hadded, hremoved⟩ := updateDynamicHostList_init hd
  have hchanged : (updateDynamicHostList init c₁.hostList).changed = true := by
    rw [hsame, changed_eq, hremoved, List.length_singleton]
    exact Bool.or_true _
  obtain ⟨h1, h2, h3, -⟩ := updateHosts_changed hchanged
  rw [hsame] at h1 h2 h3
  have hothers : Others c.hostList gone
      (updateDynamicHostList init (init ++ [gone])).finalHosts := by
    have hdelta := delta_updateDynamicHostList init (init ++ [gone])
    refine ⟨(hdelta.finalDistinct hd).nodup, ?_⟩
    intro h
    rw [hdelta.mem_final, hadded, hremoved, hinit, List.mem_singleton]
    exact ⟨fun hor => hor.resolve_left List.not_mem_nil, Or.inr⟩
  have hnotice : (⟨[], [gone]⟩ : Notice)
      = ⟨(updateDynamicHostList init c₁.hostList).hostsAdded,
        (updateDynamicHostList init c₁.hostList).hostsRemoved⟩ := by
    rw [hsame, hadded, hremoved]
  have htold := told_updateHosts hchanged hnotice
  rw [hrem, herase]
  refine ⟨h1.symm ▸ hothers, h2.symm ▸ hothers, h3.symm ▸ hothers, ?_, ?_⟩
  · rw [htold]
  · rw [htold, hchecker]

/-- **Any other host**: the comparison finds no difference and no one is told,
but the cluster's list has changed, and ends with its last host twice. -/
theorem removeHost_not_last (hwf : c.Wf) (hd : Distinct c.hostList)
    (hgone : gone ∈ c.hostList) (haddr : gone.address = host.address)
    (hlast : c.hostList.getLast? ≠ some gone) : (c.removeHost host).2 = Told.nothing
      ∧ ∃ i, c.hostList[i]? = some gone
        ∧ (c.removeHost host).1.hostList
          = c.hostList.eraseIdx i ++ c.hostList.drop (c.hostList.length - 1) := by
  obtain ⟨i, hi, hget⟩ := findIdx?_address hd hgone haddr
  obtain ⟨c₁, hrem, hlist, -⟩ := removeHost_eq hwf hi
  have hlt : i < c.hostList.length := findIdx?_lt hi
  have hidx : i < c.hostList.length - 1 := by grind
  have hnew : ∀ n ∈ c.hostList.eraseIdx i, ∃ x ∈ c₁.hostList, x.address = n.address := by
    intro n hn
    rw [hlist]
    exact ⟨n, List.mem_append_left _ hn, rfl⟩
  have hold : ∀ x ∈ c₁.hostList, ∃ n ∈ c.hostList.eraseIdx i, n.address = x.address := by
    grind [Memory.mem_eraseIdx_of_mem_drop]
  grind [changed_eq_false_iff, SameAddresses, updateHosts_unchanged]

end SimpleInMemCluster

/-! ## §3. When exactly the host is removed. -/

/-- **Removal is exact for the last host of the list, and for no other.** -/
theorem removeClusterHosts_exact_iff (cm : ClusterManager) (name : GoString)
    (c : SimpleInMemCluster) (hc : cm.primaryClusters.lookup name = some c) (hwf : c.Wf)
    (hd : Distinct c.hostList) (host gone : Host) (hgone : gone ∈ c.hostList)
    (haddr : gone.address = host.address) : ∃ c' told, cm.removeClusterHosts name (some host)
        = .ok (⟨cm.primaryClusters.insert name c'⟩, told)
      ∧ (RemovedExactly c gone c' told ↔ c.hostList.getLast? = some gone) := by
  refine ⟨(c.removeHost host).1, (c.removeHost host).2, ?_, ?_⟩
  · unfold ClusterManager.removeClusterHosts
    simp only [hc]
  · constructor
    · intro h
      by_contra hlast
      obtain ⟨htold, -⟩ := c.removeHost_not_last hwf hd hgone haddr hlast
      have hcallbacks := h.callbacks
      rw [htold] at hcallbacks
      cases hcallbacks
    · exact c.removeHost_last hwf hd haddr

/-- Hosts that differ in everything but the metadata, which is empty. -/
def plainHost (n : Nat) : Host :=
  ⟨n, str "10.0.0." ++ [UInt8.ofNat (48 + n)], str "host" ++ [UInt8.ofNat (48 + n)], ∅⟩

/-- A cluster with a health checker and two hosts. -/
def twoHosts : SimpleInMemCluster :=
  ((newSimpleInMemCluster (2 * ·) true).updateHosts [plainHost 1, plainHost 2]).1

/-- A manager of one cluster. -/
def managerOf (c : SimpleInMemCluster) : ClusterManager :=
  ⟨(∅ : GoMap GoString SimpleInMemCluster).insert (str "cluster") c⟩

/-- The second of two hosts is removed exactly. -/
theorem removeClusterHosts_second :
    ∃ c' told, (managerOf twoHosts).removeClusterHosts (str "cluster") (some (plainHost 2))
        = .ok (⟨(managerOf twoHosts).primaryClusters.insert (str "cluster") c'⟩, told)
      ∧ RemovedExactly twoHosts (plainHost 2) c' told := by
  have hdistinct : Distinct twoHosts.hostList := by
    unfold Distinct
    decide
  obtain ⟨c', told, hok, hiff⟩ := removeClusterHosts_exact_iff (managerOf twoHosts) (str "cluster")
    twoHosts (Finmap.lookup_insert _) ((SimpleInMemCluster.wf_new _ _).updateHosts _) hdistinct
    (plainHost 2) (plainHost 2) (by decide) rfl
  exact ⟨c', told, hok, hiff.mpr (by decide)⟩

/-- The first of two hosts is removed: the second one is then listed twice, by
the cluster and as a healthy host, and no one is told. -/
theorem removeClusterHosts_first :
    (((managerOf twoHosts).removeClusterHosts (str "cluster") (some (plainHost 1))).toOption.bind
        fun r => (r.1.primaryClusters.lookup (str "cluster")).map fun c =>
          (c.hostList, c.allHosts, c.healthyHosts, r.2))
      = some ([plainHost 2, plainHost 2], [plainHost 2, plainHost 2], [plainHost 2, plainHost 2],
        Told.nothing) := by
  decide

end Mosn.Upstream
