/-
  Mosn.Upstream.Cluster
  **THE HOSTS OF A CLUSTER** (`concreteclusters.go`, `host.go`, the host sets
  of `cluster.go` and `RemoveClusterHosts` of `clustermanager.go`, all in
  `pkg/upstream/cluster`).

  A `simpleInMemCluster` has a list of hosts and hands the SAME slice to its
  host set, once as all hosts and once as the healthy ones.  So the three are
  windows on one array, and the model keeps them as such.

  Only the host set of priority 0 exists: `newCluster` creates it and nothing
  asks for another one.  Of the hosts per locality only the healthy ones are
  read.  Weights, log lines and locks are left out.
-/
import Mosn.Lib.GoMap
import Mosn.Lib.Slice
import Mosn.Lib.Strconv

namespace Mosn.Upstream

open Mosn.Lib

/-- Run-time panics of this package. -/
inductive Fault where
  /-- A slice expression or index out of range. -/
  | sliceBounds
  /-- A call through a nil interface or pointer. -/
  | nilDereference
  /-- An integer division by zero. -/
  | divideByZero
  deriving Repr, DecidableEq

/-! ## §1. Hosts. -/

/-- A host object.  `object` tells objects with equal data apart. -/
structure Host where
  object : Nat
  address : GoString
  hostname : GoString
  metadata : GoMap GoString GoString
  deriving DecidableEq

/-- No two of the hosts have one address. -/
def Distinct (hosts : List Host) : Prop := hosts.Pairwise (·.address ≠ ·.address)

theorem distinct_nil : Distinct [] := List.Pairwise.nil

variable {hosts cur visited newHosts : List Host} {x nh h : Host} {a : GoString}

theorem Distinct.nodup (h : Distinct hosts) : hosts.Nodup :=
  List.Pairwise.imp (fun hne heq => hne (congrArg Host.address heq)) h

theorem Distinct.eq_of_address (h : Distinct hosts) {y : Host}
    (hx : x ∈ hosts) (hy : y ∈ hosts) (hxy : x.address = y.address) : x = y := by
  have hnodup : (hosts.map Host.address).Nodup := List.pairwise_map.mpr h
  exact List.inj_on_of_nodup_map hnodup hx hy hxy

/-! ## §2. Comparing host lists. -/

/-- The variables of `updateDynamicHostList`. -/
structure Merge where
  hostAddrs : List GoString
  finalHosts : List Host
  hostsAdded : List Host
  currentHosts : List Host

/-- One round of the outer loop.  The inner loop moves every current host with
the address of `nh` to the final ones; an address seen before is skipped. -/
def Merge.visit (m : Merge) (nh : Host) : Merge :=
  if nh.address ∈ m.hostAddrs then m
  else
    let moved := m.currentHosts.filter fun curNh => nh.address = curNh.address
    { hostAddrs := nh.address :: m.hostAddrs
      finalHosts := m.finalHosts ++ if moved = [] then [nh] else moved
      hostsAdded := m.hostsAdded ++ if moved = [] then [nh] else []
      currentHosts := m.currentHosts.filter fun curNh => nh.address ≠ curNh.address }

/-- The results of `updateDynamicHostList`. -/
structure HostUpdate where
  changed : Bool
  finalHosts : List Host
  hostsAdded : List Host
  hostsRemoved : List Host

def updateDynamicHostList (newHosts currentHosts : List Host) : HostUpdate :=
  let m := newHosts.foldl Merge.visit ⟨[], [], [], currentHosts⟩
  { changed := decide (0 < m.hostsAdded.length) || decide (0 < m.currentHosts.length)
    finalHosts := m.finalHosts
    hostsAdded := m.hostsAdded
    hostsRemoved := m.currentHosts }

theorem mem_filter_address :
    x ∈ hosts.filter (fun h => a = h.address) ↔ x ∈ hosts ∧ a = x.address := by
  rw [List.mem_filter, decide_eq_true_eq]

theorem filter_address_eq_nil :
    hosts.filter (fun h => a = h.address) = [] ↔ ∀ x ∈ hosts, x.address ≠ a := by
  rw [List.filter_eq_nil_iff]
  simp only [decide_eq_true_eq, ne_eq, @eq_comm _ a]

/-- The first host with each address, in their order. -/
def firstHosts : List Host → List Host
  | [] => []
  | nh :: newHosts => nh :: (firstHosts newHosts).filter fun h => h.address ≠ nh.address

theorem mem_firstHosts :
    h ∈ firstHosts newHosts ↔ newHosts.find? (·.address = h.address) = some h := by
  induction newHosts with
  | nil => simp [firstHosts]
  | cons nh newHosts ih =>
    rw [firstHosts, List.mem_cons, List.mem_filter, decide_eq_true_eq, ih]
    by_cases haddr : nh.address = h.address <;> grind

theorem exists_address_firstHosts :
    (∃ n ∈ firstHosts newHosts, n.address = a) ↔ ∃ n ∈ newHosts, n.address = a := by
  simp only [mem_firstHosts]
  constructor
  · rintro ⟨n, hn, ha⟩
    exact ⟨n, List.mem_of_find?_eq_some hn, ha⟩
  · rintro ⟨n, hn, rfl⟩
    obtain ⟨x, hx⟩ := Option.isSome_iff_exists.mp
      (List.find?_isSome (p := (·.address = n.address)).mpr ⟨n, hn, by simp⟩)
    have haddr : x.address = n.address := by simpa using List.find?_some hx
    exact ⟨x, by rwa [haddr], haddr⟩

theorem distinct_firstHosts (newHosts : List Host) : Distinct (firstHosts newHosts) := by
  induction newHosts with
  | nil => exact distinct_nil
  | cons nh newHosts ih =>
    refine List.pairwise_cons.mpr ⟨fun x hx => ?_, ih.filter _⟩
    exact (of_decide_eq_true (List.mem_filter.mp hx).2).symm

theorem firstHosts_snoc (visited : List Host) (nh : Host) : firstHosts (visited ++ [nh])
      = if ∃ n ∈ visited, n.address = nh.address then firstHosts visited
        else firstHosts visited ++ [nh] := by
  induction visited with
  | nil => rfl
  | cons v visited ih =>
    rw [List.cons_append, firstHosts, ih, firstHosts]
    by_cases hrest : ∃ n ∈ visited, n.address = nh.address
    · have hall : ∃ n ∈ v :: visited, n.address = nh.address := by grind
      rw [if_pos hrest, if_pos hall]
    · rw [if_neg hrest, List.filter_append]
      by_cases hv : v.address = nh.address
      · rw [if_pos ⟨v, List.mem_cons_self, hv⟩]
        simp [hv]
      · grind

/-- No current host has the address of `nh`. -/
def isNew (cur : List Host) (nh : Host) : Bool := cur.all (·.address ≠ nh.address)

theorem isNew_eq_true : isNew cur h = true ↔ ∀ c ∈ cur, c.address ≠ h.address := by
  unfold isNew
  rw [List.all_eq_true]
  simp only [decide_eq_true_eq]

theorem filter_eq_nil_iff_isNew :
    (cur.filter fun c => nh.address = c.address) = [] ↔ isNew cur nh = true := by
  rw [filter_address_eq_nil, isNew_eq_true]

/-- The hosts listed for `nh`: the current ones with its address, or itself. -/
def listedFor (cur : List Host) (nh : Host) : List Host :=
  if isNew cur nh then [nh] else cur.filter fun c => nh.address = c.address

theorem mem_listedFor : x ∈ listedFor cur nh
      ↔ x ∈ cur ∧ nh.address = x.address ∨ x = nh ∧ isNew cur nh = true := by
  unfold listedFor
  split <;> grind [isNew_eq_true]

theorem address_listedFor (hx : x ∈ listedFor cur nh) : x.address = nh.address := by
  rcases mem_listedFor.mp hx with ⟨-, haddr⟩ | ⟨rfl, -⟩
  · exact haddr.symm
  · rfl

theorem listedFor_ne_nil (cur : List Host) (nh : Host) : listedFor cur nh ≠ [] := by
  unfold listedFor
  split
  next => exact List.cons_ne_nil _ _
  next hnew => exact mt filter_eq_nil_iff_isNew.mp hnew

/-- **The whole loop**: for the first host with each address, what is listed
for it; the current hosts nobody asked for are left. -/
theorem foldl_visit (cur visited : List Host) : visited.foldl Merge.visit ⟨[], [], [], cur⟩
      = { hostAddrs := ((firstHosts visited).map Host.address).reverse
          finalHosts := (firstHosts visited).flatMap (listedFor cur)
          hostsAdded := (firstHosts visited).filter (isNew cur)
          currentHosts := cur.filter (isNew visited) } := by
  induction visited using List.reverseRecOn with
  | nil => exact congrArg (Merge.mk [] [] []) (List.filter_eq_self.mpr fun _ _ => rfl).symm
  | append_singleton visited nh ih =>
    have hmem : nh.address ∈ ((firstHosts visited).map Host.address).reverse
        ↔ ∃ n ∈ visited, n.address = nh.address := by
      rw [List.mem_reverse, List.mem_map, exists_address_firstHosts]
    have hnew : ∀ c, isNew (visited ++ [nh]) c
        = (isNew visited c && decide (nh.address ≠ c.address)) := by
      intro c
      simp [isNew]
    rw [List.foldl_append, List.foldl_cons, List.foldl_nil, ih, firstHosts_snoc]
    unfold Merge.visit
    by_cases hseen : ∃ n ∈ visited, n.address = nh.address
    · rw [if_pos (hmem.mpr hseen), if_pos hseen]
      have hsame : cur.filter (isNew (visited ++ [nh])) = cur.filter (isNew visited) := by
        apply List.filter_congr
        grind [isNew_eq_true]
      rw [hsame]
    · rw [if_neg (mt hmem.mp hseen), if_neg hseen]
      -- none of the current hosts with this address is gone
      have hmoved : (cur.filter (isNew visited)).filter (fun c => nh.address = c.address)
          = cur.filter fun c => nh.address = c.address := by
        rw [List.filter_filter]
        apply List.filter_congr
        grind [isNew_eq_true]
      have hrest : (cur.filter (isNew visited)).filter (fun c => nh.address ≠ c.address)
          = cur.filter (isNew (visited ++ [nh])) := by
        rw [List.filter_filter]
        apply List.filter_congr
        grind
      have hadded : (if isNew cur nh = true then [nh] else []) = [nh].filter (isNew cur) := by
        simp only [List.filter_cons, List.filter_nil]
      simp only [hmoved, hrest, filter_eq_nil_iff_isNew, hadded, List.map_append,
        List.reverse_append, List.flatMap_append, List.filter_append, List.flatMap_singleton]
      rfl

theorem mem_hostAddrs : a ∈ (visited.foldl Merge.visit ⟨[], [], [], cur⟩).hostAddrs
      ↔ ∃ n ∈ visited, n.address = a := by
  rw [foldl_visit, List.mem_reverse, List.mem_map, exists_address_firstHosts]

theorem finalHosts_eq (newHosts cur : List Host) :
    (updateDynamicHostList newHosts cur).finalHosts
      = (firstHosts newHosts).flatMap (listedFor cur) := by
  unfold updateDynamicHostList
  rw [foldl_visit]

theorem hostsAdded_eq (newHosts cur : List Host) :
    (updateDynamicHostList newHosts cur).hostsAdded = (firstHosts newHosts).filter (isNew cur) := by
  unfold updateDynamicHostList
  rw [foldl_visit]

theorem hostsRemoved_eq (newHosts cur : List Host) :
    (updateDynamicHostList newHosts cur).hostsRemoved = cur.filter (isNew newHosts) := by
  unfold updateDynamicHostList
  rw [foldl_visit]

theorem mem_finalHosts_iff : x ∈ (updateDynamicHostList newHosts cur).finalHosts
      ↔ ∃ nh ∈ firstHosts newHosts, x ∈ listedFor cur nh := by
  rw [finalHosts_eq, List.mem_flatMap]

/-- **The added hosts**: the first with an address that is not in the list. -/
theorem mem_hostsAdded_iff : h ∈ (updateDynamicHostList newHosts cur).hostsAdded
      ↔ newHosts.find? (·.address = h.address) = some h ∧ ∀ c ∈ cur, c.address ≠ h.address := by
  rw [hostsAdded_eq, List.mem_filter, mem_firstHosts, isNew_eq_true]

theorem mem_hostsRemoved : h ∈ (updateDynamicHostList newHosts cur).hostsRemoved
      ↔ h ∈ cur ∧ ∀ n ∈ newHosts, n.address ≠ h.address := by
  rw [hostsRemoved_eq, List.mem_filter, isNew_eq_true]

/-- **The addresses after an update are those of the new hosts.** -/
theorem exists_address_finalHosts :
    (∃ x ∈ (updateDynamicHostList newHosts cur).finalHosts, x.address = a)
      ↔ ∃ n ∈ newHosts, n.address = a := by
  simp only [mem_finalHosts_iff, ← @exists_address_firstHosts newHosts]
  constructor
  · rintro ⟨x, ⟨nh, hnh, hx⟩, rfl⟩
    exact ⟨nh, hnh, (address_listedFor hx).symm⟩
  · rintro ⟨nh, hnh, rfl⟩
    obtain ⟨x, hx⟩ := List.exists_mem_of_ne_nil _ (listedFor_ne_nil cur nh)
    exact ⟨x, ⟨nh, hnh, hx⟩, address_listedFor hx⟩

/-- How the list `cur` becomes `final`: some hosts are added and some removed. -/
structure Delta (cur final added removed : List Host) : Prop where
  mem_final : ∀ h, h ∈ final ↔ h ∈ added ∨ h ∈ cur ∧ h ∉ removed
  removed_cur : ∀ h ∈ removed, h ∈ cur
  added_fresh : ∀ h ∈ added, ∀ c ∈ cur, c.address ≠ h.address
  removed_gone : ∀ r ∈ removed, ∀ h ∈ final, h.address ≠ r.address
  addedDistinct : Distinct added
  finalDistinct : Distinct cur → Distinct final

theorem delta_updateDynamicHostList (newHosts cur : List Host) :
    Delta cur (updateDynamicHostList newHosts cur).finalHosts
      (updateDynamicHostList newHosts cur).hostsAdded
      (updateDynamicHostList newHosts cur).hostsRemoved where
  mem_final := by
    intro h
    simp only [mem_finalHosts_iff, mem_listedFor, hostsAdded_eq, hostsRemoved_eq, List.mem_filter,
      isNew_eq_true]
    have hwanted := @exists_address_firstHosts newHosts h.address
    grind
  removed_cur := fun h hh => (mem_hostsRemoved.mp hh).1
  added_fresh := fun h hh => (mem_hostsAdded_iff.mp hh).2
  removed_gone := by
    intro r hr h hh heq
    obtain ⟨n, hn, haddr⟩ := exists_address_finalHosts.mp ⟨h, hh, heq⟩
    exact (mem_hostsRemoved.mp hr).2 n hn haddr
  addedDistinct := by
    rw [hostsAdded_eq]
    exact (distinct_firstHosts newHosts).filter _
  finalDistinct := by
    intro hcur
    rw [finalHosts_eq]
    refine List.pairwise_flatMap.mpr ⟨fun nh _ => ?_, ?_⟩
    · unfold listedFor
      split
      · exact List.pairwise_singleton _ _
      · exact hcur.filter _
    · refine (distinct_firstHosts newHosts).imp fun hne x hx y hy => ?_
      rwa [address_listedFor hx, address_listedFor hy]

/-- **No host is listed twice after an update exactly when no host that stays
was listed twice before.** -/
theorem finalHosts_nodup_iff : (updateDynamicHostList newHosts cur).finalHosts.Nodup
      ↔ ∀ c ∈ cur, (∃ n ∈ newHosts, n.address = c.address) → cur.count c = 1 := by
  have hdisjoint : (firstHosts newHosts).Pairwise (Function.onFun List.Disjoint (listedFor cur)) :=
    (distinct_firstHosts newHosts).imp fun hne x hx hy =>
      hne ((address_listedFor hx).symm.trans (address_listedFor hy))
  rw [finalHosts_eq, List.nodup_flatMap, and_iff_left hdisjoint]
  have hcount : ∀ (nh c : Host), c.address = nh.address →
      (cur.filter fun c => nh.address = c.address).count c = cur.count c := by
    intro nh c hc
    exact List.count_filter (by simpa using hc.symm)
  constructor
  · intro hnodup c hc hn
    obtain ⟨nh, hnh, haddr⟩ := exists_address_firstHosts.mpr hn
    have hmem : c ∈ cur.filter fun c => nh.address = c.address := mem_filter_address.mpr ⟨hc, haddr⟩
    have hlisted := hnodup nh hnh
    unfold listedFor at hlisted
    rw [if_neg fun hnew => isNew_eq_true.mp hnew c hc haddr.symm] at hlisted
    rw [← hcount nh c haddr.symm]
    exact List.nodup_iff_count_eq_one.mp hlisted c hmem
  · intro honce nh hnh
    unfold listedFor
    split
    · exact List.nodup_singleton _
    · refine List.nodup_iff_count_eq_one.mpr fun c hc => ?_
      obtain ⟨hcur, haddr⟩ := mem_filter_address.mp hc
      rw [hcount nh c haddr.symm]
      exact honce c hcur (exists_address_firstHosts.mp ⟨nh, hnh, haddr⟩)

/-! ## §3. The cluster. -/

/-- The host set of priority 0. -/
structure HostSet where
  hosts : Slice
  healthyHosts : Slice
  healthyHostsPerLocality : List Slice

/-- What the listeners of a cluster are told. -/
structure Notice where
  hostsAdded : List Host
  hostsRemoved : List Host
  deriving DecidableEq

/-- The calls that a method makes: of the member-update callbacks, and of
`OnClusterMemberUpdate` of the health checker. -/
structure Told where
  callbacks : List Notice
  healthChecker : List Notice
  deriving DecidableEq

/-- No calls. -/
def Told.nothing : Told := ⟨[], []⟩

/-- `simpleInMemCluster`, with the arrays its slices are windows on. -/
structure SimpleInMemCluster where
  memory : Memory Host
  hosts : Slice
  hostSet : HostSet
  /-- There is a health checker. -/
  healthChecker : Bool

/-- `newSimpleInMemCluster`. -/
def newSimpleInMemCluster (grow : Nat → Nat) (healthChecker : Bool) : SimpleInMemCluster where
  memory := ⟨[], grow⟩
  hosts := Slice.empty
  hostSet := ⟨Slice.empty, Slice.empty, []⟩
  healthChecker := healthChecker

namespace SimpleInMemCluster

/-- The hosts that the cluster itself lists. -/
def hostList (c : SimpleInMemCluster) : List Host := c.memory.read c.hosts

/-- `Hosts()` of the host set. -/
def allHosts (c : SimpleInMemCluster) : List Host := c.memory.read c.hostSet.hosts

/-- `HealthyHosts()` of the host set. -/
def healthyHosts (c : SimpleInMemCluster) : List Host := c.memory.read c.hostSet.healthyHosts

/-- `UpdateHosts`. -/
def updateHosts (c : SimpleInMemCluster) (newHosts : List Host) : SimpleInMemCluster × Told :=
  let u := updateDynamicHostList newHosts c.hostList
  if u.changed then
    let finalHosts := c.memory.alloc u.finalHosts
    let notice : Notice := ⟨u.hostsAdded, u.hostsRemoved⟩
    ({ c with
        memory := finalHosts.1
        hosts := finalHosts.2
        hostSet := ⟨finalHosts.2, finalHosts.2, []⟩ },
      ⟨[notice], if c.healthChecker then [notice] else []⟩)
  else (c, Told.nothing)

/-- `append(s[:i], s[i+1:]...)` at the first element with `p`, if there is one. -/
def cutFirst (m : Memory Host) (s : Slice) (p : Host → Bool) : Memory Host × Slice :=
  match (m.read s).findIdx? p with
  | none => (m, s)
  | some i => m.cut s i

/-- `addHealthyHost`.  The last of the healthy hosts per locality is indexed
without asking whether there is one. -/
def addHealthyHost (c : SimpleInMemCluster) (host : Host) :
    Except Fault (SimpleInMemCluster × Told) :=
  if c.allHosts.any (·.address = host.address) then
    let newHealthHost := c.memory.append c.hostSet.healthyHosts [host]
    match c.hostSet.healthyHostsPerLocality.getLast? with
    | none => .error .sliceBounds
    | some last =>
      let newLast := newHealthHost.1.append last [host]
      .ok ({ c with
        memory := newLast.1
        hostSet := ⟨c.hostSet.hosts, newHealthHost.2,
          c.hostSet.healthyHostsPerLocality.dropLast ++ [newLast.2]⟩ }, ⟨[⟨[], []⟩], []⟩)
  else .ok (c, Told.nothing)

/-- `delHealthHost`.  The host is looked for by ADDRESS among all hosts and by
HOSTNAME among the healthy ones. -/
def delHealthHost (c : SimpleInMemCluster) (host : Host) : SimpleInMemCluster × Told :=
  if c.allHosts.any (·.address = host.address) then
    let newHealthHost := cutFirst c.memory c.hostSet.healthyHosts (host.hostname = ·.hostname)
    let perLocality := c.hostSet.healthyHostsPerLocality.foldl
      (fun (acc : Memory Host × List Slice) s =>
        let cut := cutFirst acc.1 s (host.hostname = ·.hostname)
        (cut.1, acc.2 ++ [cut.2]))
      (newHealthHost.1, [])
    ({ c with
        memory := perLocality.1
        hostSet := ⟨c.hostSet.hosts, newHealthHost.2, perLocality.2⟩ }, ⟨[⟨[], []⟩], []⟩)
  else (c, Told.nothing)

/-- `refreshHealthHosts`, called with a host whose health has changed. -/
def refreshHealthHosts (c : SimpleInMemCluster) (host : Host) (health : Bool) :
    Except Fault (SimpleInMemCluster × Told) :=
  if health then c.addHealthyHost host else .ok (c.delHealthHost host)

/-- The body of `RemoveClusterHosts` for the cluster that is found: the cut is
made in the cluster's own slice. -/
def removeHost (c : SimpleInMemCluster) (host : Host) : SimpleInMemCluster × Told :=
  match c.hostList.findIdx? (host.address = ·.address) with
  | none => (c, Told.nothing)
  | some i =>
    let ccHosts := c.memory.cut c.hosts i
    ({ c with memory := ccHosts.1 } : SimpleInMemCluster).updateHosts (ccHosts.1.read ccHosts.2)

end SimpleInMemCluster

/-- `clusterManager`: the primary clusters by name. -/
structure ClusterManager where
  primaryClusters : GoMap GoString SimpleInMemCluster

/-- `RemoveClusterHosts`.  A cluster that is not there is not an error. -/
def ClusterManager.removeClusterHosts (cm : ClusterManager) (clusterName : GoString)
    (host : Option Host) : Except GoString (ClusterManager × Told) :=
  match host with
  | none => .error (str "host is nil")
  | some host =>
    match cm.primaryClusters.lookup clusterName with
    | none => .ok (cm, Told.nothing)
    | some pcc =>
      let removed := pcc.removeHost host
      .ok (⟨cm.primaryClusters.insert clusterName removed.1⟩, removed.2)

/-! ## §4. What the methods keep. -/

namespace SimpleInMemCluster

/-- The cluster and its host set list the hosts in one slice, and no slice
leaves its array. -/
structure Wf (c : SimpleInMemCluster) : Prop where
  sameList : c.hostSet.hosts = c.hosts
  valid : c.memory.Valid c.hosts
  healthyValid : c.memory.Valid c.hostSet.healthyHosts
  noLocality : c.hostSet.healthyHostsPerLocality = []

theorem wf_new (grow : Nat → Nat) (healthChecker : Bool) :
    (newSimpleInMemCluster grow healthChecker).Wf :=
  ⟨rfl, Memory.valid_empty _, Memory.valid_empty _, rfl⟩

variable {c : SimpleInMemCluster} {newHosts : List Host} {p : Host → Bool}

theorem updateHosts_changed (h : (updateDynamicHostList newHosts c.hostList).changed = true) :
    (c.updateHosts newHosts).1.hostList = (updateDynamicHostList newHosts c.hostList).finalHosts
      ∧ (c.updateHosts newHosts).1.allHosts = (updateDynamicHostList newHosts c.hostList).finalHosts
      ∧ (c.updateHosts newHosts).1.healthyHosts
        = (updateDynamicHostList newHosts c.hostList).finalHosts
      ∧ (c.updateHosts newHosts).1.Wf := by
  unfold updateHosts
  simp only [h, if_true]
  refine ⟨?_, ?_, ?_, rfl, ?_, ?_, rfl⟩
  · exact Memory.read_alloc_self _ _
  · exact Memory.read_alloc_self _ _
  · exact Memory.read_alloc_self _ _
  · exact Memory.valid_alloc_self _ _
  · exact Memory.valid_alloc_self _ _

theorem told_updateHosts {notice : Notice}
    (h : (updateDynamicHostList newHosts c.hostList).changed = true)
    (hnotice : notice = ⟨(updateDynamicHostList newHosts c.hostList).hostsAdded,
      (updateDynamicHostList newHosts c.hostList).hostsRemoved⟩) :
    (c.updateHosts newHosts).2 = ⟨[notice], if c.healthChecker then [notice] else []⟩ := by
  unfold updateHosts
  simp only [h, if_true, hnotice]

theorem updateHosts_unchanged (h : (updateDynamicHostList newHosts c.hostList).changed = false) :
    c.updateHosts newHosts = (c, Told.nothing) := by
  unfold updateHosts
  simp only [h, Bool.false_eq_true, if_false]

theorem Wf.updateHosts (h : c.Wf) (newHosts : List Host) : (c.updateHosts newHosts).1.Wf := by
  cases hch : (updateDynamicHostList newHosts c.hostList).changed with
  | false =>
    rw [updateHosts_unchanged hch]
    exact h
  | true => exact (updateHosts_changed hch).2.2.2

theorem findIdx?_lt {l : List Host} {i : Nat} (h : l.findIdx? p = some i) : i < l.length :=
  (List.findIdx?_eq_some_iff_getElem.mp h).1

theorem valid_cutFirst {m : Memory Host} {s t : Slice} (h : m.Valid s) (ht : m.Valid t) :
    (cutFirst m s p).1.Valid t ∧ (cutFirst m s p).1.Valid (cutFirst m s p).2 := by
  unfold cutFirst
  split
  · exact ⟨ht, h⟩
  · grind [Memory.length_read, findIdx?_lt, Memory.valid_cut, Memory.valid_cut_self]

theorem Wf.addHealthyHost_eq (h : c.Wf) (host : Host) : c.addHealthyHost host
      = if c.allHosts.any (·.address = host.address) then .error .sliceBounds
        else .ok (c, Told.nothing) := by
  unfold addHealthyHost
  rw [h.noLocality]
  rfl

theorem Wf.delHealthHost (h : c.Wf) (host : Host) : (c.delHealthHost host).1.Wf := by
  unfold SimpleInMemCluster.delHealthHost
  split
  · obtain ⟨hhosts, hhealthy⟩ := valid_cutFirst (p := (host.hostname = ·.hostname)) h.healthyValid
      h.valid
    simp only [h.noLocality, List.foldl_nil]
    exact ⟨h.sameList, hhosts, hhealthy, rfl⟩
  · exact h

theorem Wf.refreshHealthHosts {c' : SimpleInMemCluster} {told : Told} (h : c.Wf) {host : Host}
    {health : Bool} (hr : c.refreshHealthHosts host health = .ok (c', told)) : c'.Wf := by
  unfold SimpleInMemCluster.refreshHealthHosts at hr
  cases health with
  | true =>
    rw [if_pos rfl, h.addHealthyHost_eq] at hr
    split at hr
    · cases hr
    · cases hr
      exact h
  | false =>
    have hdel : c.delHealthHost host = (c', told) := Except.ok.inj hr
    have hwf := h.delHealthHost host
    rwa [hdel] at hwf

end SimpleInMemCluster

end Mosn.Upstream
