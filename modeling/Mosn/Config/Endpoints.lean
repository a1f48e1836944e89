/-
  Mosn.Config.Endpoints
  **ENDPOINT UPDATES** (`OnUpdateEndpoints` of `pkg/config/callback.go`,
  `convertEndpointsConfig` of `convertxds.go`, and `UpdateClusterHosts` of
  `pkg/upstream/cluster/clustermanager.go`).

  A load assignment lists the endpoints of a cluster in groups, one for each
  locality.  The loop over the groups calls `UpdateClusterHosts` for EACH of
  them, and a host update replaces the hosts:

      group 1:  a b      hosts: a b
      group 2:  c        hosts: c

    • `endpoints_kept_iff` — all endpoints are there exactly when the last
      group has the addresses of all groups.
-/
import Mosn.Upstream.RemoveHost

namespace Mosn.Config

open Mosn.Lib Mosn.Upstream

/-! ## §1. Load assignments. -/

/-- `SocketAddress.PortSpecifier`. -/
inductive PortSpecifier where
  | portValue (port : UInt32)
  | namedPort (name : GoString)
  | unset

/-- `Address.Address`. -/
inductive Address where
  | socketAddress (address : GoString) (port : PortSpecifier)
  | pipe (path : GoString)
  | unset

/-- `LbEndpoint`.  The values of the metadata are their texts. -/
structure LbEndpoint where
  address : Address
  loadBalancingWeight : UInt32
  metadata : GoMap GoString GoString

/-- `LocalityLbEndpoints`. -/
structure LocalityLbEndpoints where
  lbEndpoints : List LbEndpoint

/-- `ClusterLoadAssignment`. -/
structure ClusterLoadAssignment where
  clusterName : GoString
  endpoints : List LocalityLbEndpoints

/-- `v2.Host`. -/
structure HostConfig where
  address : GoString
  hostname : GoString
  weight : UInt32
  metaData : GoMap GoString GoString

/-- The text of an address, if it is of a supported kind. -/
def addressText : Address → Option GoString
  | .socketAddress address (.portValue port) =>
    some (address ++ str ":" ++ Strconv.formatUint port.toNat)
  | .socketAddress address (.namedPort name) => some (address ++ str ":" ++ name)
  | .socketAddress _ .unset => none
  | .pipe path => some path
  | .unset => none

/-- `convertEndpointsConfig`. -/
def convertEndpointsConfig (xdsEndpoint : LocalityLbEndpoints) : List HostConfig :=
  xdsEndpoint.lbEndpoints.filterMap fun xdsHost =>
    (addressText xdsHost.address).map fun address =>
      ⟨address, [], xdsHost.loadBalancingWeight, xdsHost.metadata⟩

/-- The addresses of a group of endpoints. -/
def LocalityLbEndpoints.addresses (group : LocalityLbEndpoints) : List GoString :=
  group.lbEndpoints.filterMap fun xdsHost => addressText xdsHost.address

theorem map_address_convertEndpointsConfig (group : LocalityLbEndpoints) :
    (convertEndpointsConfig group).map HostConfig.address = group.addresses := by
  unfold convertEndpointsConfig LocalityLbEndpoints.addresses
  rw [List.map_filterMap]
  simp [Function.comp_def]

/-! ## §2. The cluster manager. -/

/-- The clusters, and a number that no host object has yet. -/
structure Manager where
  clusterManager : ClusterManager
  nextObject : Nat
  wf : ∀ name c, clusterManager.primaryClusters.lookup name = some c → c.Wf

/-- `NewHost` for each of the configurations. -/
def newHosts : Nat → List HostConfig → List Host
  | _, [] => []
  | object, config :: configs =>
    ⟨object, config.address, config.hostname, config.metaData⟩ :: newHosts (object + 1) configs

theorem map_address_newHosts (configs : List HostConfig) : ∀ object : Nat,
    (newHosts object configs).map Host.address = configs.map HostConfig.address := by
  induction configs with
  | nil => exact fun _ => rfl
  | cons config configs ih =>
    intro object
    simp only [newHosts, List.map_cons, ih]

namespace Manager

def cluster (m : Manager) (clusterName : GoString) : Option SimpleInMemCluster :=
  m.clusterManager.primaryClusters.lookup clusterName

/-- The manager with another cluster under the name. -/
def store (m : Manager) (clusterName : GoString) (c : SimpleInMemCluster) (hc : c.Wf)
    (nextObject : Nat) : Manager where
  clusterManager := ⟨m.clusterManager.primaryClusters.insert clusterName c⟩
  nextObject := nextObject
  wf := by
    intro name c' h
    rw [GoMap.lookup_insert_ite] at h
    split_ifs at h
    · cases h
      exact hc
    · exact m.wf name c' h

/-- `UpdateClusterHosts`. -/
def updateClusterHosts (m : Manager) (clusterName : GoString) (hostConfigs : List HostConfig) :
    Except GoString Manager :=
  match h : m.cluster clusterName with
  | none => .error (str "cluster " ++ clusterName ++ str " not found")
  | some c =>
    .ok (m.store clusterName (c.updateHosts (newHosts m.nextObject hostConfigs)).1
      ((m.wf clusterName c h).updateHosts _) (m.nextObject + hostConfigs.length))

/-- The loop over the groups of one assignment: the first error ends it. -/
def updateGroups (clusterName : GoString) : Manager → List LocalityLbEndpoints →
    Manager × Option GoString
  | m, [] => (m, none)
  | m, endpoints :: groups =>
    match m.updateClusterHosts clusterName (convertEndpointsConfig endpoints) with
    | .error err => (m, some err)
    | .ok m' => updateGroups clusterName m' groups

/-- `OnUpdateEndpoints`. -/
def onUpdateEndpoints : Manager → List ClusterLoadAssignment → Manager × Option GoString
  | m, [] => (m, none)
  | m, loadAssignment :: loadAssignments =>
    match m.updateGroups loadAssignment.clusterName loadAssignment.endpoints with
    | (m', some err) => (m', some err)
    | (m', none) => onUpdateEndpoints m' loadAssignments

/-! ## §3. One update replaces the addresses. -/

/-- The addresses of a cluster's hosts. -/
def addresses (c : SimpleInMemCluster) : List GoString := c.allHosts.map Host.address

variable {c : SimpleInMemCluster} {clusterName name : GoString}

theorem mem_addresses_updateHosts (hc : c.Wf) (hosts : List Host) (a : GoString) :
    a ∈ addresses (c.updateHosts hosts).1 ↔ a ∈ hosts.map Host.address := by
  unfold addresses
  rw [List.mem_map, List.mem_map]
  cases hchanged : (updateDynamicHostList hosts c.hostList).changed with
  | true =>
    rw [(SimpleInMemCluster.updateHosts_changed hchanged).2.1]
    exact exists_address_finalHosts
  | false =>
    -- nothing is written, and the old hosts have the new addresses
    obtain ⟨hnew, hold⟩ := changed_eq_false_iff.mp hchanged
    have hlist : c.allHosts = c.hostList := congrArg c.memory.read hc.sameList
    grind [SimpleInMemCluster.updateHosts_unchanged]

theorem cluster_updateClusterHosts {m m' : Manager} {group : LocalityLbEndpoints}
    (h : m.updateClusterHosts clusterName (convertEndpointsConfig group) = .ok m')
    (hc : m.cluster name = some c) : ∃ c', m'.cluster name = some c' ∧ ∀ a, a ∈ addresses c' ↔
      a ∈ if clusterName = name then group.addresses else addresses c := by
  unfold updateClusterHosts at h
  split at h
  case h_1 => cases h
  case h_2 c₀ hc₀ =>
    cases h
    have hlookup : ∀ c₁ hwf next, (m.store clusterName c₁ hwf next).cluster name
        = if name = clusterName then some c₁ else m.cluster name := fun c₁ _ _ =>
      GoMap.lookup_insert_ite m.clusterManager.primaryClusters clusterName name c₁
    rw [hlookup]
    by_cases hname : clusterName = name
    · subst hname
      refine ⟨_, if_pos rfl, fun a => ?_⟩
      rw [if_pos rfl, mem_addresses_updateHosts (m.wf _ _ hc₀), map_address_newHosts,
        map_address_convertEndpointsConfig]
    · grind

/-! ## §4. The loops. -/

/-- The groups of all assignments for the cluster. -/
def groupsOf (clusterName : GoString) (loadAssignments : List ClusterLoadAssignment) :
    List LocalityLbEndpoints :=
  (loadAssignments.filter (·.clusterName = clusterName)).flatMap ClusterLoadAssignment.endpoints

theorem groupsOf_cons (clusterName : GoString) (loadAssignment : ClusterLoadAssignment)
    (loadAssignments : List ClusterLoadAssignment) :
    groupsOf clusterName (loadAssignment :: loadAssignments)
      = (if loadAssignment.clusterName = clusterName then loadAssignment.endpoints else [])
        ++ groupsOf clusterName loadAssignments := by
  unfold groupsOf
  by_cases hname : loadAssignment.clusterName = clusterName <;> simp [hname]

/-- The last group's addresses, or the old ones if there is no group. -/
def leftover (old : List GoString) (groups : List LocalityLbEndpoints) : List GoString :=
  groups.foldl (fun _ group => group.addresses) old

theorem leftover_congr {old old' : List GoString} (h : ∀ a, a ∈ old ↔ a ∈ old')
    (groups : List LocalityLbEndpoints) (a : GoString) :
    a ∈ leftover old groups ↔ a ∈ leftover old' groups := by
  cases groups with
  | nil => exact h a
  | cons group groups => exact Iff.rfl

theorem leftover_eq_getLast? (old : List GoString) (groups : List LocalityLbEndpoints) :
    leftover old groups = (groups.getLast?.map LocalityLbEndpoints.addresses).getD old := by
  induction groups using List.reverseRecOn with
  | nil => rfl
  | append_singleton groups group _ =>
    unfold leftover
    rw [List.foldl_append, List.getLast?_concat]
    rfl

theorem cluster_updateGroups (groups : List LocalityLbEndpoints) :
    ∀ {m m' : Manager} {c : SimpleInMemCluster}, m.cluster name = some c →
      updateGroups clusterName m groups = (m', none) →
      ∃ c', m'.cluster name = some c' ∧ ∀ a, a ∈ addresses c' ↔
        a ∈ leftover (addresses c) (if clusterName = name then groups else []) := by
  induction groups with
  | nil =>
    intro m m' c hc h
    cases h
    refine ⟨c, hc, fun a => ?_⟩
    rw [ite_self]
    exact Iff.rfl
  | cons group groups ih =>
    intro m m' c hc h
    unfold updateGroups at h
    split at h
    case h_1 => cases h
    case h_2 m₁ hupdate =>
      obtain ⟨c₁, hc₁, haddr₁⟩ := cluster_updateClusterHosts hupdate hc
      obtain ⟨c', hc', haddr⟩ := ih hc₁ h
      refine ⟨c', hc', fun a => (haddr a).trans ?_⟩
      rw [leftover_congr haddr₁]
      split <;> exact Iff.rfl

/-- **What is left.**  When no update failed, a cluster has the addresses of its
last group. -/
theorem addresses_onUpdateEndpoints (loadAssignments : List ClusterLoadAssignment) :
    ∀ {m m' : Manager} {c : SimpleInMemCluster}, m.cluster name = some c →
      onUpdateEndpoints m loadAssignments = (m', none) →
      ∃ c', m'.cluster name = some c' ∧ ∀ a, a ∈ addresses c' ↔
        a ∈ leftover (addresses c) (groupsOf name loadAssignments) := by
  induction loadAssignments with
  | nil =>
    intro m m' c hc h
    cases h
    exact ⟨c, hc, fun a => Iff.rfl⟩
  | cons loadAssignment loadAssignments ih =>
    intro m m' c hc h
    unfold onUpdateEndpoints at h
    split at h
    case h_1 => cases h
    case h_2 m₁ hgroups =>
      obtain ⟨c₁, hc₁, haddr₁⟩ := cluster_updateGroups _ hc hgroups
      obtain ⟨c', hc', haddr⟩ := ih hc₁ h
      refine ⟨c', hc', fun a => (haddr a).trans ?_⟩
      rw [leftover_congr haddr₁, groupsOf_cons]
      unfold leftover
      rw [List.foldl_append]

/-- **Endpoint updates.**  If no update failed, a cluster that the manager knows
has exactly the addresses of all endpoints of all its groups precisely when the
last of the groups has them all, or there is no group and the cluster had no
hosts. -/
theorem endpoints_kept_iff (m : Manager) (loadAssignments : List ClusterLoadAssignment)
    (hnil : (m.onUpdateEndpoints loadAssignments).2 = none) (clusterName : GoString)
    (c : SimpleInMemCluster) (hknown : m.cluster clusterName = some c) :
    (∃ c', (m.onUpdateEndpoints loadAssignments).1.cluster clusterName = some c' ∧
        ∀ a, a ∈ addresses c' ↔
          ∃ group ∈ groupsOf clusterName loadAssignments, a ∈ group.addresses) ↔
      (groupsOf clusterName loadAssignments = [] ∧ c.allHosts = []) ∨
        ∃ last, (groupsOf clusterName loadAssignments).getLast? = some last ∧
          ∀ group ∈ groupsOf clusterName loadAssignments,
            ∀ a ∈ group.addresses, a ∈ last.addresses := by
  obtain ⟨c', hc', haddr⟩ := addresses_onUpdateEndpoints loadAssignments hknown
    (Prod.ext rfl hnil)
  rw [leftover_eq_getLast?] at haddr
  generalize groupsOf clusterName loadAssignments = groups at haddr
  constructor
  · rintro ⟨c'', hc'', hexact⟩
    rw [hc'] at hc''
    cases hc''
    cases hlast : groups.getLast? with
    | none =>
      have hempty : groups = [] := List.getLast?_eq_none_iff.mp hlast
      refine .inl ⟨hempty, ?_⟩
      rw [hlast] at haddr
      refine List.eq_nil_iff_forall_not_mem.mpr fun h hh => ?_
      obtain ⟨group, hgroup, -⟩ := (hexact h.address).mp ((haddr h.address).mpr
        (List.mem_map_of_mem hh))
      rw [hempty] at hgroup
      cases hgroup
    | some last => grind
  · rintro (⟨hempty, hhosts⟩ | ⟨last, hlast, hcovers⟩)
    · refine ⟨c', hc', fun a => (haddr a).trans ?_⟩
      subst hempty
      simp [addresses, hhosts]
    · grind

/-- A manager with one cluster, named `c`, that has no hosts. -/
def soleCluster : Manager :=
  (⟨⟨∅⟩, 0, fun _ _ h => by cases h⟩ : Manager).store (str "c")
    (newSimpleInMemCluster id false) (SimpleInMemCluster.wf_new id false) 0

/-- A group with one endpoint. -/
def soleEndpoint (address : String) : LocalityLbEndpoints :=
  ⟨[⟨.socketAddress (str address) (.portValue 80), 1, ∅⟩]⟩

/-- A locality with the endpoint of the first and one more. -/
def coveringGroup : LocalityLbEndpoints :=
  ⟨(soleEndpoint "10.0.0.1").lbEndpoints ++ (soleEndpoint "10.0.0.2").lbEndpoints⟩

theorem endpoints_kept_covering :
    ∃ c', (soleCluster.onUpdateEndpoints
        [⟨str "c", [soleEndpoint "10.0.0.1", coveringGroup]⟩]).1.cluster (str "c") = some c' ∧
      ∀ a, a ∈ addresses c' ↔
        ∃ group ∈ groupsOf (str "c") [⟨str "c", [soleEndpoint "10.0.0.1", coveringGroup]⟩],
          a ∈ group.addresses :=
  (endpoints_kept_iff soleCluster [⟨str "c", [soleEndpoint "10.0.0.1", coveringGroup]⟩] rfl
    (str "c") (newSimpleInMemCluster id false) rfl).mpr (.inr ⟨coveringGroup, rfl, by decide⟩)

/-- Of two localities with one endpoint each, the first is lost. -/
theorem firstLocality_lost : (soleCluster.onUpdateEndpoints
        [⟨str "c", [soleEndpoint "10.0.0.1", soleEndpoint "10.0.0.2"]⟩]).2 = none ∧
      ∃ c', (soleCluster.onUpdateEndpoints
          [⟨str "c", [soleEndpoint "10.0.0.1", soleEndpoint "10.0.0.2"]⟩]).1.cluster (str "c")
            = some c' ∧
        addresses c' = [str "10.0.0.2:80"] :=
  ⟨rfl, _, rfl, rfl⟩

end Manager

end Mosn.Config
