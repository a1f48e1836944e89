/-
  Mosn.Upstream.HostHealth
  **HOSTS CHANGE THEIR HEALTH** (the health flags of
  `pkg/upstream/cluster/host.go`, and `refreshHealthHosts`, `addHealthyHost`
  and `delHealthHost` of `cluster.go`).

  A host is healthy when none of its flags is set.  After a flag has been
  written, `refreshHealthHosts` puts the host into the list of healthy hosts
  or takes it out.  It is taken out by a cut IN PLACE, and `UpdateHosts` has
  given one array to both lists:

      Hosts()                 a b c       a turns unhealthy
      HealthyHosts()          b c
      Hosts(), read again     b c c       the same cells

  Putting a host back appends it to the last list of healthy hosts PER
  LOCALITY, and `UpdateHosts` has installed none.

    • `refresh_returns_iff` — no refresh panics exactly when no listed host
      turns healthy,
    • `membership_kept_iff` — a host that turns unhealthy leaves the lists
      of hosts as they are exactly when it is the last one, and the only one
      with its name.
-/
import Mosn.Lib.Transition
import Mosn.Upstream.RemoveHost

namespace Mosn.Upstream

open Mosn.Lib

/-! ## §1. Health flags. -/

/-- `types.HealthFlag`. -/
inductive HealthFlag where
  /-- `FAILED_ACTIVE_HC`. -/
  | failedActiveHC
  /-- `FAILED_OUTLIER_CHECK`. -/
  | failedOutlierCheck
  deriving Repr, DecidableEq

/-- The flag as a mask. -/
def HealthFlag.mask : HealthFlag → UInt64
  | .failedActiveHC => 1
  | .failedOutlierCheck => 2

/-- `ClearHealthFlag`, on the field `healthFlags` of a host. -/
def clearHealthFlag (healthFlags : UInt64) (flag : HealthFlag) : UInt64 :=
  healthFlags &&& ~~~flag.mask

/-- `ContainHealthFlag`. -/
def containHealthFlag (healthFlags : UInt64) (flag : HealthFlag) : Bool :=
  decide (healthFlags &&& flag.mask > 0)

/-- `SetHealthFlag`. -/
def setHealthFlag (healthFlags : UInt64) (flag : HealthFlag) : UInt64 :=
  healthFlags ||| flag.mask

/-- `Health`. -/
def health (healthFlags : UInt64) : Bool := healthFlags == 0

theorem health_setHealthFlag (healthFlags : UInt64) (flag : HealthFlag) :
    health (setHealthFlag healthFlags flag) = false := by
  apply beq_false_of_ne
  intro h
  have hmask : flag.mask = 0 := (UInt64.or_eq_zero_iff.mp h).2
  cases flag with
  | failedActiveHC | failedOutlierCheck => exact absurd hmask (by decide)

/-! ## §2. A cluster whose hosts are checked. -/

/-- A cluster, and the field `healthFlags` of every host object. -/
structure CheckedCluster where
  cluster : SimpleInMemCluster
  healthFlags : Host → UInt64

/-- A new cluster; the host objects may have any flags. -/
def newCheckedCluster (grow : Nat → Nat) (healthChecker : Bool) (healthFlags : Host → UInt64) :
    CheckedCluster :=
  ⟨newSimpleInMemCluster grow healthChecker, healthFlags⟩

namespace CheckedCluster

inductive Event where
  | updateHosts (newHosts : List Host)
  /-- A flag of a host is set (`failed`) or cleared, and `refreshHealthHosts`
  is called with the host. -/
  | flip (host : Host) (flag : HealthFlag) (failed : Bool)

/-- The flags of a host after a write. -/
def flagsAfter (s : CheckedCluster) (host : Host) (flag : HealthFlag) (failed : Bool) : UInt64 :=
  if failed then setHealthFlag (s.healthFlags host) flag
  else clearHealthFlag (s.healthFlags host) flag

def step (s : CheckedCluster) : Event → Except Fault CheckedCluster
  | .updateHosts newHosts => .ok { s with cluster := (s.cluster.updateHosts newHosts).1 }
  | .flip host flag failed =>
    let healthFlags := Function.update s.healthFlags host (s.flagsAfter host flag failed)
    (s.cluster.refreshHealthHosts host (health (healthFlags host))).map fun r =>
      ⟨r.1, healthFlags⟩

/-- The event `e` leads from `s` to `t`; one that panics leads nowhere. -/
@[local grind]
def Step (s : CheckedCluster) (e : Event) (t : CheckedCluster) : Prop := s.step e = .ok t

/-- The host set lists a host with this address. -/
def Listed (s : CheckedCluster) (host : Host) : Prop :=
  ∃ h ∈ s.cluster.allHosts, h.address = host.address

variable {t : CheckedCluster} {e : Event} {host : Host} {c : SimpleInMemCluster} {m : Memory Host}
  {p : Host → Bool} {i : Nat} {flag : HealthFlag} {failed : Bool} {hosts : List Host}

theorem Step.unique {s t' : CheckedCluster} (h : s.Step e t) (h' : s.Step e t') : t = t' :=
  Except.ok.inj (h.symm.trans h')

theorem any_iff_listed {s : CheckedCluster} :
    s.cluster.allHosts.any (·.address = host.address) = true ↔ s.Listed host := by
  unfold Listed
  simp only [List.any_eq_true, decide_eq_true_eq]

/-! ## §3. One array for both lists. -/

/-- The healthy hosts are the first of the hosts, in the same array. -/
@[local grind cases]
structure Shared (c : SimpleInMemCluster) : Prop where
  wf : c.Wf
  healthyPrefix : c.hostSet.healthyHosts = { c.hosts with len := c.hostSet.healthyHosts.len }
  le : c.hostSet.healthyHosts.len ≤ c.hosts.len

theorem shared_new (grow : Nat → Nat) (healthChecker : Bool) :
    Shared (newSimpleInMemCluster grow healthChecker) :=
  ⟨SimpleInMemCluster.wf_new grow healthChecker, rfl, Nat.le_refl 0⟩

theorem healthyHosts_updateHosts {newHosts : List Host}
    (h : (updateDynamicHostList newHosts c.hostList).changed = true) :
    (c.updateHosts newHosts).1.hostSet.healthyHosts = (c.updateHosts newHosts).1.hosts := by
  unfold SimpleInMemCluster.updateHosts
  simp only [h, if_true]

theorem Shared.updateHosts (h : Shared c) (newHosts : List Host) :
    Shared (c.updateHosts newHosts).1 := by
  cases hch : (updateDynamicHostList newHosts c.hostList).changed with
  | false =>
    rw [SimpleInMemCluster.updateHosts_unchanged hch]
    exact h
  | true =>
    refine ⟨h.wf.updateHosts newHosts, ?_, ?_⟩
    · rw [healthyHosts_updateHosts hch]
    · rw [healthyHosts_updateHosts hch]

theorem Shared.allHosts_eq (h : Shared c) : c.allHosts = c.hostList := by
  unfold SimpleInMemCluster.allHosts SimpleInMemCluster.hostList
  rw [h.wf.sameList]

theorem Shared.length_healthyHosts (h : Shared c) :
    c.healthyHosts.length = c.hostSet.healthyHosts.len :=
  Memory.length_read h.wf.healthyValid

theorem cutFirst_none {s : Slice}
    (h : (m.read s).findIdx? p = none) : SimpleInMemCluster.cutFirst m s p = (m, s) := by
  unfold SimpleInMemCluster.cutFirst
  rw [h]

theorem cutFirst_some {s : Slice}
    (h : (m.read s).findIdx? p = some i) : SimpleInMemCluster.cutFirst m s p = m.cut s i := by
  unfold SimpleInMemCluster.cutFirst
  rw [h]

theorem Shared.delHealthHost_eq (h : Shared c)
    (hlisted : c.allHosts.any (·.address = host.address) = true) : (c.delHealthHost host).1
      = { c with
          memory := (SimpleInMemCluster.cutFirst c.memory c.hostSet.healthyHosts
            (host.hostname = ·.hostname)).1
          hostSet := ⟨c.hostSet.hosts, (SimpleInMemCluster.cutFirst c.memory
            c.hostSet.healthyHosts (host.hostname = ·.hostname)).2, []⟩ } := by
  unfold SimpleInMemCluster.delHealthHost
  rw [if_pos hlisted, h.wf.noLocality]
  rfl

theorem Shared.delHealthHost_none (h : Shared c)
    (hlisted : c.allHosts.any (·.address = host.address) = true)
    (hnone : c.healthyHosts.findIdx? (host.hostname = ·.hostname) = none) :
    (c.delHealthHost host).1 = c := by
  have hcut : SimpleInMemCluster.cutFirst c.memory c.hostSet.healthyHosts
      (host.hostname = ·.hostname) = (c.memory, c.hostSet.healthyHosts) := cutFirst_none hnone
  rw [h.delHealthHost_eq hlisted, hcut]
  change ({ c with hostSet := ⟨c.hostSet.hosts, c.hostSet.healthyHosts, []⟩ }
    : SimpleInMemCluster) = c
  rw [← h.wf.noLocality]

/-- **The cut**: the host is gone from the healthy hosts, and in the list of
all hosts everything up to the last healthy one has moved. -/
theorem Shared.delHealthHost_some (h : Shared c)
    (hlisted : c.allHosts.any (·.address = host.address) = true)
    (hi : c.healthyHosts.findIdx? (host.hostname = ·.hostname) = some i) :
    (c.delHealthHost host).1.healthyHosts = c.healthyHosts.eraseIdx i
      ∧ (c.delHealthHost host).1.hostList
        = c.healthyHosts.eraseIdx i ++ c.hostList.drop (c.healthyHosts.length - 1)
      ∧ Shared (c.delHealthHost host).1 := by
  have hlt : i < c.hostSet.healthyHosts.len := by
    rw [← h.length_healthyHosts]
    exact SimpleInMemCluster.findIdx?_lt hi
  have hcut : SimpleInMemCluster.cutFirst c.memory c.hostSet.healthyHosts
      (host.hostname = ·.hostname) = c.memory.cut c.hostSet.healthyHosts i := cutFirst_some hi
  have hwf : (c.delHealthHost host).1.Wf := h.wf.delHealthHost host
  have hlonger : c.hosts = { c.hostSet.healthyHosts with len := c.hosts.len } := by
    rw [h.healthyPrefix]
  rw [h.delHealthHost_eq hlisted, hcut] at hwf ⊢
  have hsnd := Memory.cut_snd h.wf.healthyValid hlt
  refine ⟨?_, ?_, hwf, ?_, ?_⟩
  · exact Memory.read_cut h.wf.healthyValid hlt
  · have hread := Memory.read_cut_prefix h.wf.healthyValid hlt h.le
    rw [← hlonger, ← h.length_healthyHosts] at hread
    exact hread
  all_goals grind

theorem Shared.delHealthHost (h : Shared c) (host : Host) : Shared (c.delHealthHost host).1 := by
  by_cases hlisted : c.allHosts.any (·.address = host.address) = true
  · cases hi : c.healthyHosts.findIdx? (host.hostname = ·.hostname) with
    | none =>
      rw [h.delHealthHost_none hlisted hi]
      exact h
    | some i => exact (h.delHealthHost_some hlisted hi).2.2
  · unfold SimpleInMemCluster.delHealthHost
    rw [if_neg hlisted]
    exact h

/-! ## §4. What a flip does. -/

theorem step_unhealthy {s : CheckedCluster}
    (hhealth : health (s.flagsAfter host flag failed) = false) : s.step (.flip host flag failed)
      = .ok ⟨(s.cluster.delHealthHost host).1,
          Function.update s.healthFlags host (s.flagsAfter host flag failed)⟩ := by
  unfold step
  simp only [Function.update_self, hhealth]
  rfl

theorem step_healthy_unlisted {s : CheckedCluster} (h : Shared s.cluster)
    (hhealth : health (s.flagsAfter host flag failed) = true) (hlisted : ¬ s.Listed host) :
    s.step (.flip host flag failed)
      = .ok ⟨s.cluster,
          Function.update s.healthFlags host (s.flagsAfter host flag failed)⟩ := by
  have hrefresh : s.cluster.refreshHealthHosts host true = .ok (s.cluster, Told.nothing) := by
    unfold SimpleInMemCluster.refreshHealthHosts
    rw [if_pos rfl, h.wf.addHealthyHost_eq, if_neg (mt any_iff_listed.mp hlisted)]
  unfold step
  simp only [Function.update_self, hhealth, hrefresh]
  rfl

/-- **A listed host that turns healthy**: there is no list to put it in. -/
theorem step_healthy_listed {s : CheckedCluster} (h : Shared s.cluster)
    (hhealth : health (s.flagsAfter host flag failed) = true) (hlisted : s.Listed host) :
    s.step (.flip host flag failed) = .error .sliceBounds := by
  have hrefresh : s.cluster.refreshHealthHosts host true = .error .sliceBounds := by
    unfold SimpleInMemCluster.refreshHealthHosts
    rw [if_pos rfl, h.wf.addHealthyHost_eq, if_pos (any_iff_listed.mpr hlisted)]
  unfold step
  simp only [Function.update_self, hhealth, hrefresh]
  rfl

theorem Shared.step {s : CheckedCluster} (h : Shared s.cluster)
    (hstep : s.Step e t) : Shared t.cluster := by
  cases e with
  | updateHosts newHosts =>
    have ht : t = { s with cluster := (s.cluster.updateHosts newHosts).1 } :=
      Step.unique hstep rfl
    rw [ht]
    exact h.updateHosts newHosts
  | flip host flag failed =>
    cases hhealth : health (s.flagsAfter host flag failed) with
    | false =>
      rw [hstep.unique (step_unhealthy hhealth)]
      exact h.delHealthHost host
    | true => grind [step_healthy_listed, step_healthy_unlisted]

/-! ## §5. Which refreshes return. -/

/-- The event does not panic. -/
@[local grind]
def Returns (s : CheckedCluster) (e : Event) : Prop := ∃ t, s.Step e t

/-- No listed host is healthy after the write of its flag. -/
def NoRecovery (s : CheckedCluster) : Event → Prop
  | .updateHosts _ => True
  | .flip host flag failed =>
    health (s.flagsAfter host flag failed) = true → ¬ s.Listed host

theorem returns_iff {s : CheckedCluster} (h : Shared s.cluster) (e : Event) :
    s.Returns e ↔ s.NoRecovery e := by
  cases e with
  | updateHosts newHosts => exact ⟨fun _ => trivial, fun _ => ⟨_, rfl⟩⟩
  | flip host flag failed =>
    constructor
    · intro hreturns hhealth hlisted
      grind [step_healthy_listed]
    · intro hno
      cases hhealth : health (s.flagsAfter host flag failed) with
      | false => exact ⟨_, step_unhealthy hhealth⟩
      | true => exact ⟨_, step_healthy_unlisted h hhealth (hno hhealth)⟩

/-- **Every refresh of a run returns exactly when no listed host turns
healthy.** -/
theorem refresh_returns_iff (grow : Nat → Nat) (healthChecker : Bool)
    (healthFlags : Host → UInt64) (es : List Event) :
    EveryStep Step Returns (newCheckedCluster grow healthChecker healthFlags) es
      ↔ EveryStep Step NoRecovery (newCheckedCluster grow healthChecker healthFlags) es := by
  apply everyStep_congr (fun t => Shared t.cluster)
  · intro t e u ht hstep
    exact ht.step hstep
  · exact shared_new grow healthChecker
  · intro t e ht
    exact returns_iff ht e

/-- The only host of a cluster turns unhealthy and healthy again. -/
theorem recovery_panics :
    (((newCheckedCluster (2 * ·) true fun _ => 0).step (.updateHosts [plainHost 1])).bind fun s =>
      (s.step (.flip (plainHost 1) .failedActiveHC true)).bind fun t =>
        t.step (.flip (plainHost 1) .failedActiveHC false))
      = .error .sliceBounds := by
  rfl

/-! ## §6. Which flips leave the hosts alone. -/

/-- A cluster after updates only: the two lists are one slice. -/
structure Fresh (c : SimpleInMemCluster) : Prop where
  shared : Shared c
  same : c.hostSet.healthyHosts = c.hosts
  distinct : Distinct c.hostList

theorem fresh_new (grow : Nat → Nat) (healthChecker : Bool) :
    Fresh (newSimpleInMemCluster grow healthChecker) :=
  ⟨shared_new grow healthChecker, rfl, distinct_nil⟩

theorem Fresh.updateHosts (h : Fresh c) (newHosts : List Host) :
    Fresh (c.updateHosts newHosts).1 := by
  cases hch : (updateDynamicHostList newHosts c.hostList).changed with
  | false =>
    rw [SimpleInMemCluster.updateHosts_unchanged hch]
    exact h
  | true =>
    refine ⟨h.shared.updateHosts newHosts, healthyHosts_updateHosts hch, ?_⟩
    rw [(SimpleInMemCluster.updateHosts_changed hch).1]
    exact (delta_updateDynamicHostList newHosts c.hostList).finalDistinct h.distinct

theorem fresh_run {grow : Nat → Nat} {healthChecker : Bool} {healthFlags : Host → UInt64}
    {updates : List (List Host)} (hrun : Run Step (newCheckedCluster grow healthChecker healthFlags)
      (updates.map Event.updateHosts) t) : Fresh t.cluster := by
  refine hrun.guarded (P := fun _ e => ∃ newHosts, e = .updateHosts newHosts)
    (fun t => Fresh t.cluster) ?_ (fresh_new grow healthChecker) ?_
  · intro s e u hs he hstep
    obtain ⟨newHosts, rfl⟩ := he
    have hu : u = { s with cluster := (s.cluster.updateHosts newHosts).1 } :=
      Step.unique hstep rfl
    rw [hu]
    exact hs.updateHosts newHosts
  · intro before e after s hes _
    have he : e ∈ updates.map Event.updateHosts := by
      rw [hes]
      exact List.mem_append_right _ (List.mem_cons_self)
    obtain ⟨newHosts, -, rfl⟩ := List.mem_map.mp he
    exact ⟨newHosts, rfl⟩

theorem eraseIdx_append_drop_eq_iff (h : hosts.Nodup) (hi : i < hosts.length) :
    hosts.eraseIdx i ++ hosts.drop (hosts.length - 1) = hosts ↔ i = hosts.length - 1 := by
  constructor
  · intro heq
    by_contra hne
    have hlt : i + 1 < hosts.length := by omega
    -- cell `i` of the left side has the element that was behind it
    have hcell : (hosts.eraseIdx i ++ hosts.drop (hosts.length - 1))[i]? = hosts[i + 1]? := by grind
    rw [heq] at hcell
    have hsame := (List.getElem?_inj hi h).mp hcell
    omega
  · intro heq
    rw [heq, List.eraseIdx_eq_dropLast (by omega), List.dropLast_eq_take, List.take_append_drop]

/-- The first host with a name is the last of the list exactly when the last
one is the host itself, and no other has its name. -/
theorem findIdx?_hostname_eq_last_iff (h : hosts.Nodup) (hmem : host ∈ hosts)
    (hi : hosts.findIdx? (host.hostname = ·.hostname) = some i) :
    i = hosts.length - 1 ↔ hosts.getLast? = some host
      ∧ ∀ x ∈ hosts, x.hostname = host.hostname → x = host := by
  obtain ⟨hlt, hname, hbefore⟩ := List.findIdx?_eq_some_iff_getElem.mp hi
  -- a host with the name is at `i` or behind it
  have hbehind : ∀ (j : Nat) (hj : j < hosts.length), hosts[j].hostname = host.hostname →
      i ≤ j := by
    grind
  constructor
  · intro heq
    have hlast : ∀ x ∈ hosts, x.hostname = host.hostname → hosts.getLast? = some x := by
      intro x hx hxname
      obtain ⟨j, hj, rfl⟩ := List.getElem_of_mem hx
      have hle := hbehind j hj hxname
      rw [List.getLast?_eq_getElem?, show hosts.length - 1 = j by omega,
        List.getElem?_eq_getElem hj]
    refine ⟨hlast host hmem rfl, ?_⟩
    intro x hx hxname
    exact Option.some.inj ((hlast x hx hxname).symm.trans (hlast host hmem rfl))
  · rintro ⟨hlast, honly⟩
    have hhost : hosts[i] = host :=
      honly _ (List.getElem_mem hlt) (of_decide_eq_true hname).symm
    rw [List.getLast?_eq_getElem?] at hlast
    have hcell : hosts[i]? = hosts[hosts.length - 1]? := by
      rw [hlast, List.getElem?_eq_getElem hlt, hhost]
    exact (List.getElem?_inj hlt h).mp hcell

/-- **A host that turns unhealthy leaves the lists of hosts as they are exactly
when it is the last one, and no other host has its name.** -/
theorem membership_kept_iff (grow : Nat → Nat) (healthChecker : Bool)
    (healthFlags : Host → UInt64) (updates : List (List Host)) (t : CheckedCluster)
    (hrun : Run Step (newCheckedCluster grow healthChecker healthFlags)
      (updates.map Event.updateHosts) t)
    (host : Host) (hhost : host ∈ t.cluster.hostList) (flag : HealthFlag) :
    ∃ u, t.Step (.flip host flag true) u
      ∧ (u.cluster.hostList = t.cluster.hostList ∧ u.cluster.allHosts = t.cluster.allHosts
        ↔ t.cluster.hostList.getLast? = some host
          ∧ ∀ x ∈ t.cluster.hostList, x.hostname = host.hostname → x = host) := by
  have hfresh := fresh_run hrun
  have hsame : t.cluster.healthyHosts = t.cluster.hostList := by
    unfold SimpleInMemCluster.healthyHosts SimpleInMemCluster.hostList
    rw [hfresh.same]
  have hunhealthy : health (t.flagsAfter host flag true) = false :=
    health_setHealthFlag (t.healthFlags host) flag
  refine ⟨_, step_unhealthy hunhealthy, ?_⟩
  have hlisted : t.cluster.allHosts.any (·.address = host.address) = true := by
    rw [hfresh.shared.allHosts_eq]
    exact List.any_eq_true.mpr ⟨host, hhost, decide_eq_true rfl⟩
  have hsome : (t.cluster.healthyHosts.findIdx? (host.hostname = ·.hostname)).isSome = true := by
    grind
  obtain ⟨i, hi⟩ := Option.isSome_iff_exists.mp hsome
  obtain ⟨-, hlist, hshared⟩ := hfresh.shared.delHealthHost_some hlisted hi
  change (t.cluster.delHealthHost host).1.hostList = _
    ∧ (t.cluster.delHealthHost host).1.allHosts = _ ↔ _
  rw [hshared.allHosts_eq, hfresh.shared.allHosts_eq, and_self, hlist, hsame]
  rw [hsame] at hi
  rw [eraseIdx_append_drop_eq_iff hfresh.distinct.nodup (SimpleInMemCluster.findIdx?_lt hi)]
  exact findIdx?_hostname_eq_last_iff hfresh.distinct.nodup hhost hi

/-- A cluster with two hosts, as one update makes it. -/
def twoChecked : CheckedCluster :=
  { newCheckedCluster (2 * ·) true (fun _ => 0) with cluster := twoHosts }

theorem run_twoChecked : Run Step (newCheckedCluster (2 * ·) true fun _ => 0)
    ([[plainHost 1, plainHost 2]].map Event.updateHosts) twoChecked :=
  Run.nil.snoc rfl

/-- The second of two hosts turns unhealthy: both lists stay. -/
theorem membership_kept_second : ∃ u, twoChecked.Step (.flip (plainHost 2) .failedActiveHC true) u
      ∧ u.cluster.hostList = twoChecked.cluster.hostList
      ∧ u.cluster.allHosts = twoChecked.cluster.allHosts := by
  obtain ⟨u, hstep, hiff⟩ := membership_kept_iff _ _ _ _ _ run_twoChecked (plainHost 2)
    (by decide) .failedActiveHC
  exact ⟨u, hstep, hiff.mpr (by decide)⟩

/-- The first of two hosts turns unhealthy: the second is then listed twice,
and the first not at all. -/
theorem membership_lost_first :
    ((twoChecked.step (.flip (plainHost 1) .failedActiveHC true)).map fun u =>
        (u.cluster.hostList, u.cluster.allHosts))
      = .ok ([plainHost 2, plainHost 2], [plainHost 2, plainHost 2]) := by
  rfl

/-! ## §7. Which host leaves the healthy ones. -/

theorem eraseIdx_hostname_iff {earlier rest : List Host} (hother : host ∉ earlier ++ rest)
    (hi : (earlier ++ host :: rest).findIdx? (host.hostname = ·.hostname) = some i) :
    (earlier ++ host :: rest).eraseIdx i = earlier ++ rest
      ↔ ∀ x ∈ earlier, x.hostname ≠ host.hostname := by
  obtain ⟨hlt, hname, hbefore⟩ := List.findIdx?_eq_some_iff_getElem.mp hi
  constructor
  · intro heq x hx hsame
    obtain ⟨j, hj, rfl⟩ := List.getElem_of_mem hx
    have hle : i ≤ j := by grind
    -- then the host itself is still there
    have hstill : host ∈ (earlier ++ host :: rest).eraseIdx i := by
      rw [List.eraseIdx_append_of_lt_length (by omega)]
      exact List.mem_append_right _ List.mem_cons_self
    rw [heq] at hstill
    exact hother hstill
  · intro hall
    have hlen : i = earlier.length := by grind
    rw [hlen, List.eraseIdx_append_of_length_le (Nat.le_refl _), Nat.sub_self]
    rfl

/-- **The failed host leaves the healthy ones**, and no other, exactly if none
with its name comes before it. -/
theorem failed_host_leaves_iff (h : c.Wf) (hdistinct : Distinct c.healthyHosts)
    (hlisted : host ∈ c.allHosts) (hhealthy : host ∈ c.healthyHosts) :
    ∃ c' told, c.refreshHealthHosts host false = .ok (c', told)
      ∧ (c'.healthyHosts = c.healthyHosts.filter (·.address ≠ host.address)
        ↔ ∀ x ∈ c.healthyHosts.takeWhile (· ≠ host), x.hostname ≠ host.hostname) := by
  refine ⟨(c.delHealthHost host).1, (c.delHealthHost host).2, rfl, ?_⟩
  have hsome : (c.healthyHosts.findIdx? (host.hostname = ·.hostname)).isSome = true := by grind
  obtain ⟨i, hi⟩ := Option.isSome_iff_exists.mp hsome
  have hcut : (c.delHealthHost host).1.healthyHosts = c.healthyHosts.eraseIdx i := by
    have hany : c.allHosts.any (·.address = host.address) = true :=
      List.any_eq_true.mpr ⟨host, hlisted, decide_eq_true rfl⟩
    have hlt : i < c.hostSet.healthyHosts.len := by
      rw [← Memory.length_read h.healthyValid]
      exact SimpleInMemCluster.findIdx?_lt hi
    have hread := Memory.read_cut h.healthyValid hlt
    rw [← cutFirst_some hi] at hread
    unfold SimpleInMemCluster.delHealthHost
    rw [if_pos hany, h.noLocality]
    exact hread
  rw [hcut]
  obtain ⟨earlier, rest, hsplit⟩ := List.append_of_mem hhealthy
  rw [hsplit] at hi hdistinct ⊢
  have hother : ∀ x ∈ earlier ++ rest, x.address ≠ host.address := by
    obtain ⟨-, hrest, hearlier⟩ := List.pairwise_append.mp hdistinct
    intro x hx
    rcases List.mem_append.mp hx with hx | hx
    · exact hearlier x hx host List.mem_cons_self
    · exact ((List.pairwise_cons.mp hrest).1 x hx).symm
  have hfilter : (earlier ++ host :: rest).filter (·.address ≠ host.address) = earlier ++ rest := by
    rw [List.filter_append, List.filter_cons_of_neg (by simp), ← List.filter_append,
      List.filter_eq_self]
    exact fun x hx => decide_eq_true (hother x hx)
  have hearlier : (earlier ++ host :: rest).takeWhile (· ≠ host) = earlier := by
    rw [List.takeWhile_append_of_pos, List.takeWhile_cons_of_neg (by simp), List.append_nil]
    intro x hx
    exact decide_eq_true fun heq => hother x (List.mem_append_left _ hx) (by rw [heq])
  rw [hfilter, hearlier]
  exact eraseIdx_hostname_iff (fun hmem => hother host hmem rfl) hi

/-- The second of two hosts with names of their own. -/
theorem failed_host_leaves_second :
    ∃ c' told, twoHosts.refreshHealthHosts (plainHost 2) false = .ok (c', told)
      ∧ c'.healthyHosts = [plainHost 1] := by
  have hfresh := fresh_run run_twoChecked
  have hplain : plainHost 2 ∈ twoHosts.healthyHosts := by decide
  obtain ⟨c', told, hrefresh, hiff⟩ :=
    failed_host_leaves_iff hfresh.shared.wf hfresh.distinct hplain hplain
  exact ⟨c', told, hrefresh, hiff.mpr (by decide)⟩

/-- **Hosts without a name**: the second fails, and the first leaves. -/
theorem failed_host_stays : ∃ c told c' told', (newSimpleInMemCluster (2 * ·) true).updateHosts
        [⟨1, str "a", [], ∅⟩, ⟨2, str "b", [], ∅⟩] = (c, told)
      ∧ c.refreshHealthHosts ⟨2, str "b", [], ∅⟩ false = .ok (c', told')
      ∧ c.healthyHosts = [⟨1, str "a", [], ∅⟩, ⟨2, str "b", [], ∅⟩]
      ∧ c'.healthyHosts = [⟨2, str "b", [], ∅⟩] :=
  ⟨_, _, _, _, rfl, rfl, by decide +kernel, by decide +kernel⟩

end CheckedCluster

end Mosn.Upstream
