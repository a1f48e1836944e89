/-
  Mosn.Upstream.SubsetLoadBalancer
  **LOAD BALANCING OVER SUBSETS OF THE HOSTS**
  (`pkg/upstream/cluster/subsetlbimpl.go`, `loadbalancer.go`, `InitSet` and
  `InitSortedMap` of `pkg/types/upstream.go`, and the metadata criteria of
  `pkg/router`).

  A selector is a list of metadata keys.  Every tuple of values that a host
  has for the keys of a selector is a path of a trie, and at its end an entry
  keeps the hosts that have these values.  A request names some pairs; if they
  lead to an entry the host is chosen there, otherwise from the FALLBACK
  subset.

  The trie is a map from names to maps from values to entries, each of which
  is made together with its first value; the model has one map from pairs.
  Values are not hashed (`GenerateHashedValue` is the identity).  Statistics
  and log lines are left out, except that the address of the chosen host is
  logged: the host must not be nil.
-/
import Mathlib.Data.List.Sort
import Mosn.Lib.Loop
import Mosn.Lib.Trie
import Mosn.Upstream.Cluster

namespace Mosn.Upstream

open Mosn.Lib

/-! ## §1. Configuration. -/

/-- `Pair` of `pkg/types/loadbalancer.go`. -/
abbrev Pair := GoString × GoString

abbrev SubsetMetadata := List Pair

/-- `LoadBalancerType`; `unset` is the empty string, which a cluster has when
its configuration names neither algorithm. -/
inductive LoadBalancerType where
  | roundRobin
  | random
  | unset
  deriving Repr, DecidableEq

inductive FallBackPolicy where
  | noFallBack
  | anyEndPoint
  | defaultSubset
  deriving Repr, DecidableEq

/-- `LBSubsetConfig`.  The map `DefaultSubset` is given by its entries, in the
order in which the range loop runs through them. -/
structure LBSubsetConfig where
  fallBackPolicy : FallBackPolicy
  defaultSubset : List (GoString × GoString)
  subsetSelectors : List (List GoString)

/-- Append a value unless it is there. -/
def insertNew {α : Type} [DecidableEq α] (l : List α) (x : α) : List α :=
  if x ∈ l then l else l ++ [x]

/-- `InitSet`: without repetitions, and sorted. -/
def initSet (input : List GoString) : List GoString :=
  (input.foldl insertNew []).insertionSort (· ≤ ·)

/-- `InitSortedMap`. -/
def initSortedMap (input : List (GoString × GoString)) : List (GoString × GoString) :=
  input.insertionSort fun a b => a.1 ≤ b.1

/-- `GenerateSubsetKeys`. -/
def generateSubsetKeys (keysArray : List (List GoString)) : List (List GoString) :=
  (keysArray.map initSet).foldl insertNew []

theorem mem_foldl_insertNew {α : Type} [DecidableEq α] (xs : List α) (y : α) : ∀ l : List α,
    y ∈ xs.foldl insertNew l ↔ y ∈ l ∨ y ∈ xs := by
  induction xs with
  | nil =>
    intro l
    simp
  | cons x xs ih =>
    intro l
    rw [List.foldl_cons, ih, insertNew]
    split
    · rename_i hx
      simp only [List.mem_cons]
      constructor
      · tauto
      · rintro (h | rfl | h)
        · exact Or.inl h
        · exact Or.inl hx
        · exact Or.inr h
    · simp only [List.mem_append, List.mem_cons, List.not_mem_nil, or_false, or_assoc]

theorem mem_initSet {input : List GoString} {k : GoString} : k ∈ initSet input ↔ k ∈ input := by
  unfold initSet
  rw [List.mem_insertionSort, mem_foldl_insertNew]
  simp

theorem initSet_eq_nil {input : List GoString} : initSet input = [] ↔ input = [] := by
  simp only [List.eq_nil_iff_forall_not_mem, mem_initSet]

theorem mem_generateSubsetKeys {keysArray : List (List GoString)} {keys : List GoString} :
    keys ∈ generateSubsetKeys keysArray ↔ ∃ sel ∈ keysArray, initSet sel = keys := by
  unfold generateSubsetKeys
  rw [mem_foldl_insertNew]
  simp

/-! ## §2. Choosing from a list of healthy hosts. -/

/-- A balancer of one list.  There is one host set, so the index of the host
set stays 0. -/
inductive LoadBalancer where
  | random
  | roundRobin (rrIndex : UInt32)
  deriving Repr, DecidableEq

/-- The `switch` of `NewPrioritySubsetImpl`. -/
def newLoadBalancer : LoadBalancerType → Option LoadBalancer
  | .random => some .random
  | .roundRobin => some (.roundRobin 0)
  | .unset => none

/-- `ChooseHost` of both balancers; `rand` is the number that is drawn. -/
def LoadBalancer.chooseHost (lb : LoadBalancer) (healthyHosts : List Host) (rand : Nat) :
    Except Fault (Option Host × LoadBalancer) :=
  match lb with
  | .random =>
    if healthyHosts.length = 0 then .ok (none, .random)
    else .ok (healthyHosts[rand % healthyHosts.length]?, .random)
  | .roundRobin rrIndex =>
    let size := UInt32.ofNat healthyHosts.length
    let rrIndex := if size ≤ rrIndex then 0 else rrIndex
    if healthyHosts.length = 0 then .ok (none, .roundRobin rrIndex)
    else if size = 0 then .error .divideByZero
    else .ok (healthyHosts[(rrIndex % size).toNat]?, .roundRobin (rrIndex + 1))

/-! ## §3. The hosts of one subset. -/

/-- `PrioritySubsetImpl`, with its host set of priority 0. -/
structure PrioritySubset where
  predicateFunc : Host → Bool
  hosts : List Host
  healthyHosts : List Host
  loadbalancer : Option LoadBalancer

/-- The first loop of `GetFinalHosts`. -/
def addHosts (hosts hostsAdded : List Host) : List Host :=
  hostsAdded.foldl
    (fun hosts host => if hosts.any (host.address = ·.address) then hosts else hosts ++ [host])
    hosts

/-- One pass of the inner loop: `for i, hostOrig := range hosts` reads the
window `hosts` had at the start, while the body cuts in place. -/
def cutPass (host : Host) (window : Slice) (acc : Memory Host × Slice) (i : Nat) :
    Except Fault (Memory Host × Slice) :=
  match (acc.1.read window)[i]? with
  | none => .ok acc
  | some hostOrig =>
    if host.address = hostOrig.address then
      if i < acc.2.len then .ok (acc.1.cut acc.2 i) else .error .sliceBounds
    else .ok acc

/-- One round of the second loop of `GetFinalHosts`. -/
def cutHost (acc : Memory Host × Slice) (host : Host) : Except Fault (Memory Host × Slice) :=
  (List.range acc.2.len).foldlM (cutPass host acc.2) acc

/-- `GetFinalHosts`.  The list of a subset is seen through one slice only, so
it is an array of its own here. -/
def getFinalHosts (hosts hostsAdded hostsRemoved : List Host) : Except Fault (List Host) :=
  (hostsRemoved.foldlM cutHost ((⟨[], id⟩ : Memory Host).alloc (addHosts hosts hostsAdded))).map
    fun acc => acc.1.read acc.2

namespace PrioritySubset

/-- `UpdateHostSubset`. -/
def update (ps : PrioritySubset) (health : Host → Bool) (notice : Notice) :
    Except Fault PrioritySubset :=
  (getFinalHosts ps.hosts (notice.hostsAdded.filter ps.predicateFunc)
      (notice.hostsRemoved.filter ps.predicateFunc)).map fun finalhosts =>
    { ps with hosts := finalhosts, healthyHosts := finalhosts.filter health }

end PrioritySubset

/-- `NewPrioritySubsetImpl`. -/
def newPrioritySubset (lbType : LoadBalancerType) (predicate : Host → Bool) (health : Host → Bool)
    (originalHosts : List Host) : Except Fault PrioritySubset :=
  (⟨predicate, [], [], newLoadBalancer lbType⟩ : PrioritySubset).update health ⟨originalHosts, []⟩

/-! ## §4. The balancer. -/

/-- `HostMatches`. -/
def hostMatches (kvs : SubsetMetadata) (host : Host) : Bool :=
  kvs.all fun kv => host.metadata.lookup kv.1 = some kv.2

/-- The loop of `ExtractSubsetMetadata`: up to the first key that the host does
not have. -/
def knownPairs (host : Host) : List GoString → SubsetMetadata
  | [] => []
  | key :: subsetKeys =>
    match host.metadata.lookup key with
    | none => []
    | some value => (key, value) :: knownPairs host subsetKeys

/-- `ExtractSubsetMetadata`. -/
def extractSubsetMetadata (subsetKeys : List GoString) (host : Host) : SubsetMetadata :=
  let kvs := knownPairs host subsetKeys
  if kvs.length ≠ subsetKeys.length then [] else kvs

/-- The predicate of the fallback subset. -/
def fallbackPredicate (policy : FallBackPolicy) (defaultSubset : SubsetMetadata) : Host → Bool :=
  match policy with
  | .noFallBack => fun _ => false
  | .anyEndPoint => fun _ => true
  | .defaultSubset => hostMatches defaultSubset

/-- `subSetLoadBalancer`. -/
structure SubsetLoadBalancer where
  lbType : LoadBalancerType
  fallBackPolicy : FallBackPolicy
  defaultSubSetMetadata : SubsetMetadata
  subSetKeys : List (List GoString)
  fallbackSubset : Option PrioritySubset
  subSets : Trie Pair PrioritySubset

/-- What a request says about the hosts it wants: `MetadataMatchCriteria()`. -/
inductive MatchCriteria where
  /-- A nil interface. -/
  | absent
  /-- An interface that holds a nil pointer: the criteria of a route without
  metadata. -/
  | nilPointer
  | criteria (kvs : SubsetMetadata)
  deriving DecidableEq

/-- The metadata of a route: whether it has any (`MetadataMatch`), and the pairs
in it that are for the load balancer, in the order of the range loop. -/
structure RouteMetadata where
  hasMetadataMatch : Bool
  mosnLb : List (GoString × GoString)

/-- `MetadataMatchCriteria` of a downstream request for its route, if there is
one.  `NewRouteRuleImplBase` leaves the pointer nil without metadata, and the
interface made of it is not nil. -/
def routeCriteria : Option RouteMetadata → MatchCriteria
  | none => .absent
  | some route =>
    if route.hasMetadataMatch then .criteria (initSortedMap route.mosnLb) else .nilPointer

namespace SubsetLoadBalancer

/-- The fallback subset, created if there is none yet. -/
def createFallback (lb : SubsetLoadBalancer) (originalHosts : List Host) (health : Host → Bool) :
    Except Fault PrioritySubset :=
  match lb.fallbackSubset with
  | some ps => .ok ps
  | none => newPrioritySubset lb.lbType
      (fallbackPredicate lb.fallBackPolicy lb.defaultSubSetMetadata) health originalHosts

/-- `UpdateFallbackSubset`. -/
def updateFallbackSubset (lb : SubsetLoadBalancer) (originalHosts : List Host)
    (health : Host → Bool) (notice : Notice) : Except Fault SubsetLoadBalancer :=
  if lb.fallBackPolicy = .noFallBack then .ok lb
  else
    ((lb.createFallback originalHosts health).bind fun ps => ps.update health notice).map fun ps =>
      { lb with fallbackSubset := some ps }

/-- The body of the innermost loop of `ProcessSubsets`, with the two callbacks
that `Update` passes to it. -/
def processSubset (lb : SubsetLoadBalancer) (originalHosts : List Host) (health : Host → Bool)
    (notice : Notice) (addinghost : Bool) (host : Host) (subSetKey : List GoString) :
    Except Fault SubsetLoadBalancer :=
  let kvs := extractSubsetMetadata subSetKey host
  if kvs = [] then .ok lb
  else
    let subSets := lb.subSets.create kvs
    match subSets.entryAt kvs with
    | some ps => (ps.update health notice).map fun ps =>
      { lb with subSets := subSets.put kvs ps }
    | none =>
      if addinghost then
        (newPrioritySubset lb.lbType (hostMatches kvs) health originalHosts).map fun ps =>
          { lb with subSets := subSets.put kvs ps }
      else .ok { lb with subSets := subSets }

/-- The rounds of the three loops of `ProcessSubsets`.  The outer one runs over
a map with two entries, in either order. -/
def visits (lb : SubsetLoadBalancer) (notice : Notice) (addedFirst : Bool) :
    List (Bool × Host × List GoString) :=
  let added := notice.hostsAdded.map (true, ·)
  let removed := notice.hostsRemoved.map (false, ·)
  (if addedFirst then added ++ removed else removed ++ added).flatMap fun v =>
    lb.subSetKeys.map fun subSetKey => (v.1, v.2, subSetKey)

/-- `ProcessSubsets`. -/
def processSubsets (lb : SubsetLoadBalancer) (originalHosts : List Host) (health : Host → Bool)
    (notice : Notice) (addedFirst : Bool) : Except Fault SubsetLoadBalancer :=
  (lb.visits notice addedFirst).foldlM
    (fun lb v => lb.processSubset originalHosts health notice v.1 v.2.1 v.2.2) lb

/-- `Update`. -/
def update (lb : SubsetLoadBalancer) (originalHosts : List Host) (health : Host → Bool)
    (notice : Notice) (addedFirst : Bool) : Except Fault SubsetLoadBalancer :=
  (lb.updateFallbackSubset originalHosts health notice).bind fun lb =>
    lb.processSubsets originalHosts health notice addedFirst

/-- `FindSubset`: the node that the criteria lead to. -/
def findSubset (lb : SubsetLoadBalancer) (matchCriteria : SubsetMetadata) :
    Option (Trie Pair PrioritySubset) :=
  if matchCriteria = [] then none else lb.subSets.find matchCriteria

/-- `LB().ChooseHost` of a subset. -/
def chooseFrom (ps : PrioritySubset) (rand : Nat) : Except Fault (Option Host × PrioritySubset) :=
  match ps.loadbalancer with
  | none => .error .nilDereference
  | some inner => (inner.chooseHost ps.healthyHosts rand).map fun r =>
    (r.1, { ps with loadbalancer := some r.2 })

/-- The second half of `ChooseHost`. -/
def chooseFallback (lb : SubsetLoadBalancer) (rand : Nat) :
    Except Fault (Option Host × SubsetLoadBalancer) :=
  match lb.fallbackSubset with
  | none => .ok (none, lb)
  | some ps =>
    if ps.hosts = [] then .ok (none, lb)
    else (chooseFrom ps rand).map fun r => (r.1, { lb with fallbackSubset := some r.2 })

/-- The choice from an entry that was found.  A node on the way to an entry has
no subset, and the address of the chosen host is logged. -/
def chooseEntry (lb : SubsetLoadBalancer) (kvs : SubsetMetadata)
    (entry : Trie Pair PrioritySubset) (rand : Nat) :
    Except Fault (Option Host × SubsetLoadBalancer) :=
  match entry.entry with
  | none => .error .nilDereference
  | some ps => (chooseFrom ps rand).bind fun r =>
    match r.1 with
    | none => .error .nilDereference
    | some host => .ok (some host, { lb with subSets := lb.subSets.put kvs r.2 })

/-- `ChooseHost`; no context is a nil one. -/
def chooseHost (lb : SubsetLoadBalancer) (context : Option MatchCriteria) (rand : Nat) :
    Except Fault (Option Host × SubsetLoadBalancer) :=
  match context with
  | none => lb.chooseFallback rand
  | some .absent => lb.chooseFallback rand
  | some .nilPointer => .error .nilDereference
  | some (.criteria kvs) =>
    match lb.findSubset kvs with
    | none => lb.chooseFallback rand
    | some entry => lb.chooseEntry kvs entry rand

end SubsetLoadBalancer

/-- `NewSubsetLoadBalancer`. -/
def newSubsetLoadBalancer (lbType : LoadBalancerType) (originalHosts : List Host)
    (subsets : LBSubsetConfig) (health : Host → Bool) : Except Fault SubsetLoadBalancer :=
  (⟨lbType, subsets.fallBackPolicy, initSortedMap subsets.defaultSubset,
    generateSubsetKeys subsets.subsetSelectors, none, Trie.empty⟩ : SubsetLoadBalancer).update
      originalHosts health ⟨originalHosts, []⟩ true

/-! ## §5. The cluster. -/

/-- A cluster with a subset load balancer; `health` is `Health()` of every host
object. -/
structure SubsetCluster where
  cluster : SimpleInMemCluster
  lb : SubsetLoadBalancer
  health : Host → Bool

/-- `newSimpleInMemCluster` for a configuration with selectors.  The balancer is
made while there are no hosts yet. -/
def newSubsetCluster (lbType : LoadBalancerType) (subsets : LBSubsetConfig) (grow : Nat → Nat)
    (healthChecker : Bool) (health : Host → Bool) : Except Fault SubsetCluster :=
  let cluster := newSimpleInMemCluster grow healthChecker
  (newSubsetLoadBalancer lbType cluster.allHosts subsets health).map fun lb =>
    ⟨cluster, lb, health⟩

inductive SubsetCluster.Event where
  /-- `UpdateHosts`, and the order in which the subsets are processed. -/
  | updateHosts (newHosts : List Host) (addedFirst : Bool)
  /-- A health check that leaves a host healthy or not. -/
  | healthCheck (host : Host) (healthy : Bool)
  /-- `ChooseHost`. -/
  | chooseHost (context : Option MatchCriteria) (rand : Nat)

namespace SubsetCluster

/-- The member-update callback of the balancer, for each call of it. -/
def notify (s : SubsetCluster) (told : Told) (addedFirst : Bool) : Except Fault SubsetCluster :=
  (told.callbacks.foldlM
    (fun lb notice => SubsetLoadBalancer.update lb s.cluster.allHosts s.health notice addedFirst)
    s.lb).map fun lb => { s with lb := lb }

/-- One event.  The health checker reports changes of the state only. -/
def step (s : SubsetCluster) : Event → Except Fault SubsetCluster
  | .updateHosts newHosts addedFirst =>
    let r := s.cluster.updateHosts newHosts
    notify { s with cluster := r.1 } r.2 addedFirst
  | .healthCheck host healthy =>
    if s.health host = healthy then .ok s
    else
      let health := Function.update s.health host healthy
      (s.cluster.refreshHealthHosts host healthy).bind fun r =>
        notify { s with cluster := r.1, health := health } r.2 true
  | .chooseHost context rand =>
    (s.lb.chooseHost context rand).map fun r => { s with lb := r.2 }

/-- An event that returns. -/
def Step (s : SubsetCluster) (e : Event) (t : SubsetCluster) : Prop := s.step e = .ok t

end SubsetCluster

end Mosn.Upstream
