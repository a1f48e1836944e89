/-
  Mosn.Upstream.HealthyHosts
  **THE HEALTHY LIST AGAINST THE HEALTH OF THE HOSTS** (`UpdateHosts` of
  `pkg/upstream/cluster/concreteclusters.go`, `addHealthyHost` and
  `delHealthHost` of `cluster.go`).

  Two writers keep the list of healthy hosts.  `UpdateHosts` replaces it by
  ALL hosts, whatever their health; `delHealthHost` takes out of it the first
  host that has the NAME of the one it was called for:

      UpdateHosts a b         healthy: a b
      b turns unhealthy       healthy: a
      UpdateHosts a b c       healthy: a b c      b is back, unhealthy

    • `healthy_exact_iff` — the same along every run.
-/
import Mosn.Upstream.HostHealth

namespace Mosn.Upstream

open Mosn.Lib

namespace CheckedCluster

attribute [local grind] Step

/-- `Health()` of a host object. -/
def isHealthy (s : CheckedCluster) (host : Host) : Bool := health (s.healthFlags host)

/-- `HealthyHosts()` has exactly the healthy ones of `Hosts()`, each once. -/
@[local grind cases]
structure HealthyExact (s : CheckedCluster) : Prop where
  nodup : s.cluster.healthyHosts.Nodup
  mem : ∀ h, h ∈ s.cluster.healthyHosts ↔ h ∈ s.cluster.allHosts ∧ s.isHealthy h = true

/-- The event returns, and the list is right afterwards. -/
@[local grind]
def Follows (s : CheckedCluster) (e : Event) : Prop := ∃ t, s.Step e t ∧ t.HealthyExact

/-! ## §1. The condition. -/

/-- The hosts that stay are healthy and listed once, and the hosts that come
are healthy: for each new address, the first of the new hosts that has it. -/
def OnlyHealthy (s : CheckedCluster) (newHosts : List Host) : Prop :=
  (∀ c ∈ s.cluster.hostList, (∃ n ∈ newHosts, n.address = c.address) →
      s.isHealthy c = true ∧ s.cluster.hostList.count c = 1)
    ∧ ∀ n, newHosts.find? (·.address = n.address) = some n →
      (∀ c ∈ s.cluster.hostList, c.address ≠ n.address) → s.isHealthy n = true

/-- What the event has to be like.

An update changes no address, or leaves only healthy hosts.  A host that is
healthy after the write of its flag is not listed.  For one that is unhealthy
and listed, the first healthy host with its name is the host itself; or the
host is not among the healthy ones, and the one with its name is not listed
again from the last healthy host on. -/
def HealthyKept (s : CheckedCluster) : Event → Prop
  | .updateHosts newHosts => SameAddresses newHosts s.cluster.hostList ∨ s.OnlyHealthy newHosts
  | .flip host flag failed =>
    if health (s.flagsAfter host flag failed) then ¬ s.Listed host
    else s.Listed host → ∀ x, s.cluster.healthyHosts.find? (host.hostname = ·.hostname) = some x →
      x = host ∨ host ∉ s.cluster.healthyHosts
        ∧ x ∉ s.cluster.allHosts.drop (s.cluster.healthyHosts.length - 1)

/-! ## §2. Updates. -/

variable {s : CheckedCluster} {hosts : List Host} {i : Nat} {gone host : Host}
  {healthFlags : UInt64}

theorem onlyHealthy_iff {newHosts : List Host} : s.OnlyHealthy newHosts
      ↔ (updateDynamicHostList newHosts s.cluster.hostList).finalHosts.Nodup
        ∧ ∀ h ∈ (updateDynamicHostList newHosts s.cluster.hostList).finalHosts,
          s.isHealthy h = true := by
  have hdelta := delta_updateDynamicHostList newHosts s.cluster.hostList
  rw [finalHosts_nodup_iff]
  constructor
  · rintro ⟨hstay, hcome⟩
    refine ⟨fun c hc hn => (hstay c hc hn).2, ?_⟩
    intro h hh
    rcases (hdelta.mem_final h).mp hh with hadded | ⟨hcur, hkept⟩
    · obtain ⟨hfirst, hfresh⟩ := mem_hostsAdded_iff.mp hadded
      exact hcome h hfirst hfresh
    · grind [mem_hostsRemoved]
  · rintro ⟨honce, hhealthy⟩
    refine ⟨fun c hc hn => ⟨hhealthy c ?_, honce c hc hn⟩, ?_⟩
    · obtain ⟨n, hn, haddr⟩ := hn
      refine (hdelta.mem_final c).mpr (Or.inr ⟨hc, ?_⟩)
      intro hremoved
      exact (mem_hostsRemoved.mp hremoved).2 n hn haddr
    · intro n hfirst hfresh
      exact hhealthy n ((hdelta.mem_final n).mpr
        (Or.inl (mem_hostsAdded_iff.mpr ⟨hfirst, hfresh⟩)))

theorem healthyExact_of_all
    (hall : s.cluster.allHosts = hosts) (hhealthy : s.cluster.healthyHosts = hosts) :
    s.HealthyExact ↔ hosts.Nodup ∧ ∀ h ∈ hosts, s.isHealthy h = true := by
  constructor
  · grind
  · rintro ⟨hnodup, hmem⟩
    refine ⟨hhealthy ▸ hnodup, ?_⟩
    grind

theorem follows_updateHosts_iff (hexact : s.HealthyExact) (newHosts : List Host) :
    s.Follows (.updateHosts newHosts) ↔ s.HealthyKept (.updateHosts newHosts) := by
  have hstep : s.Step (.updateHosts newHosts)
      { s with cluster := (s.cluster.updateHosts newHosts).1 } := rfl
  have hfollows : s.Follows (.updateHosts newHosts)
      ↔ HealthyExact { s with cluster := (s.cluster.updateHosts newHosts).1 } := by
    grind
  rw [hfollows]
  change _ ↔ SameAddresses newHosts s.cluster.hostList ∨ s.OnlyHealthy newHosts
  cases hch : (updateDynamicHostList newHosts s.cluster.hostList).changed with
  | false =>
    rw [SimpleInMemCluster.updateHosts_unchanged hch]
    exact ⟨fun _ => Or.inl (changed_eq_false_iff.mp hch), fun _ => hexact⟩
  | true =>
    have hdiffer : ¬ SameAddresses newHosts s.cluster.hostList := by
      intro hsame
      rw [changed_eq_false_iff.mpr hsame] at hch
      cases hch
    obtain ⟨-, hall, hhealthy, -⟩ := SimpleInMemCluster.updateHosts_changed hch
    rw [or_iff_right hdiffer, onlyHealthy_iff]
    exact healthyExact_of_all hall hhealthy

/-! ## §3. Flips. -/

theorem mem_eraseIdx_of_nodup (h : hosts.Nodup) (hgone : hosts[i]? = some gone) {x : Host} :
    x ∈ hosts.eraseIdx i ↔ x ∈ hosts ∧ x ≠ gone := by
  have hi : i < hosts.length := (List.getElem?_eq_some_iff.mp hgone).1
  rw [List.mem_eraseIdx_iff_getElem?, List.mem_iff_getElem?]
  constructor
  · grind [List.getElem?_inj]
  · grind

/-- **The cut against the healthy part.**  `healthy` is the healthy part of
`all`; `gone` is cut out of it, and `rest` is listed behind it. -/
theorem exact_cut_iff {healthy : List Host} (all rest : List Host) (p p' : Host → Bool)
    (host : Host) (hnodup : healthy.Nodup) (hmem : ∀ x, x ∈ healthy ↔ x ∈ all ∧ p x = true)
    (hrest : ∀ x ∈ rest, x ∈ all) (hgone : healthy[i]? = some gone)
    (hother : ∀ x, x ≠ host → p' x = p x) (hhost : p' host = false) : ((healthy.eraseIdx i).Nodup
        ∧ ∀ x, x ∈ healthy.eraseIdx i ↔ x ∈ healthy.eraseIdx i ++ rest ∧ p' x = true)
      ↔ gone = host ∨ host ∉ healthy ∧ gone ∉ rest := by
  have hleft : ∀ x, x ∈ healthy.eraseIdx i ↔ x ∈ healthy ∧ x ≠ gone :=
    fun x => mem_eraseIdx_of_nodup hnodup hgone
  have hgoneMem : gone ∈ healthy := List.mem_of_getElem? hgone
  constructor
  · rintro ⟨-, hexact⟩
    by_cases hsame : gone = host
    · exact Or.inl hsame
    · refine Or.inr ⟨?_, ?_⟩
      · -- the unhealthy host would still be there
        intro hin
        grind
      · -- the one that was cut out would be listed, and healthy
        intro hin
        grind
  · intro hcond
    refine ⟨hnodup.sublist (List.eraseIdx_sublist _ _), ?_⟩
    intro x
    constructor <;> grind

theorem HealthyExact.write (h : s.HealthyExact) (hout : host ∉ s.cluster.healthyHosts)
    (hhost : host ∈ s.cluster.allHosts → health healthFlags = false) :
    HealthyExact ⟨s.cluster, Function.update s.healthFlags host healthFlags⟩ := by
  refine ⟨h.nodup, ?_⟩
  intro x
  unfold isHealthy
  by_cases hx : x = host
  · grind
  · change x ∈ s.cluster.healthyHosts ↔ x ∈ s.cluster.allHosts
      ∧ health (Function.update s.healthFlags host healthFlags x) = true
    rw [Function.update_of_ne hx]
    exact h.mem x

theorem listed_of_mem (h : host ∈ s.cluster.allHosts) : s.Listed host :=
  ⟨host, h, rfl⟩

theorem healthyExact_delHealthHost_iff (hshared : Shared s.cluster) (hexact : s.HealthyExact)
    (hhealth : health healthFlags = false) (hlisted : s.Listed host) :
    HealthyExact ⟨(s.cluster.delHealthHost host).1,
        Function.update s.healthFlags host healthFlags⟩
      ↔ ∀ x, s.cluster.healthyHosts.find? (host.hostname = ·.hostname) = some x →
        x = host ∨ host ∉ s.cluster.healthyHosts
          ∧ x ∉ s.cluster.allHosts.drop (s.cluster.healthyHosts.length - 1) := by
  have hany := any_iff_listed.mpr hlisted
  cases hi : s.cluster.healthyHosts.findIdx? (host.hostname = ·.hostname) with
  | none =>
    have hnone : s.cluster.healthyHosts.find? (host.hostname = ·.hostname) = none := by grind
    rw [hshared.delHealthHost_none hany hi, hnone]
    refine ⟨fun _ x hx => absurd hx (by simp), fun _ => hexact.write ?_ fun _ => hhealth⟩
    grind
  | some i =>
    obtain ⟨hhealthy, hlist, hshared'⟩ := hshared.delHealthHost_some hany hi
    obtain ⟨hlt, hname, hbefore⟩ := List.findIdx?_eq_some_iff_getElem.mp hi
    have hgone : s.cluster.healthyHosts[i]? = some s.cluster.healthyHosts[i] :=
      List.getElem?_eq_getElem hlt
    have hfind : s.cluster.healthyHosts.find? (host.hostname = ·.hostname)
        = some s.cluster.healthyHosts[i] := by
      refine List.find?_eq_some_iff_getElem.mpr ⟨hname, i, hlt, rfl, ?_⟩
      intro j hj
      rw [Bool.eq_false_iff.mpr (hbefore j hj)]
      rfl
    have hcut := exact_cut_iff s.cluster.allHosts
      (s.cluster.allHosts.drop (s.cluster.healthyHosts.length - 1)) s.isHealthy
      (fun x => health (Function.update s.healthFlags host healthFlags x)) host hexact.nodup
      hexact.mem (fun x hx => List.mem_of_mem_drop hx) hgone
      (fun x hx => by rw [Function.update_of_ne hx]; rfl)
      (by rw [Function.update_self]; exact hhealth)
    rw [hfind]
    refine Iff.trans ?_ (hcut.trans ⟨fun h x hx => Option.some.inj hx ▸ h, fun h => h _ rfl⟩)
    rw [hshared.allHosts_eq, ← hlist, ← hshared'.allHosts_eq, ← hhealthy]
    exact ⟨fun h => ⟨h.nodup, h.mem⟩, fun h => ⟨h.1, h.2⟩⟩

theorem follows_flip_iff (hshared : Shared s.cluster)
    (hexact : s.HealthyExact) (host : Host) (flag : HealthFlag) (failed : Bool) :
    s.Follows (.flip host flag failed) ↔ s.HealthyKept (.flip host flag failed) := by
  change _ ↔ if health (s.flagsAfter host flag failed) then _ else _
  cases hhealth : health (s.flagsAfter host flag failed) with
  | true =>
    rw [if_pos rfl]
    constructor
    · grind [step_healthy_listed]
    · intro hlisted
      have hout : host ∉ s.cluster.allHosts := fun hin => hlisted (listed_of_mem hin)
      exact ⟨_, step_healthy_unlisted hshared hhealth hlisted,
        hexact.write (fun hin => hout ((hexact.mem host).mp hin).1) fun hin => absurd hin hout⟩
  | false =>
    rw [if_neg Bool.false_ne_true]
    have hstep := step_unhealthy hhealth
    have hfollows : s.Follows (.flip host flag failed)
        ↔ HealthyExact ⟨(s.cluster.delHealthHost host).1,
          Function.update s.healthFlags host (s.flagsAfter host flag failed)⟩ := by
      grind
    rw [hfollows]
    by_cases hlisted : s.Listed host
    · grind [healthyExact_delHealthHost_iff]
    · have hsame : (s.cluster.delHealthHost host).1 = s.cluster := by
        unfold SimpleInMemCluster.delHealthHost
        rw [if_neg (mt any_iff_listed.mp hlisted)]
      rw [hsame]
      have hout : host ∉ s.cluster.allHosts := fun hin => hlisted (listed_of_mem hin)
      exact ⟨fun _ h => absurd h hlisted, fun _ => hexact.write
        (fun hin => hout ((hexact.mem host).mp hin).1) fun _ => hhealth⟩

/-! ## §4. Every run. -/

theorem follows_iff (hshared : Shared s.cluster) (hexact : s.HealthyExact)
    (e : Event) : s.Follows e ↔ s.HealthyKept e := by
  cases e with
  | updateHosts newHosts => exact follows_updateHosts_iff hexact newHosts
  | flip host flag failed => exact follows_flip_iff hshared hexact host flag failed

/-- **The healthy list is the healthy part of the hosts after every event of a
run exactly when every event meets the condition**; and then it is so in every
state of the run. -/
theorem healthy_exact_iff (grow : Nat → Nat) (healthChecker : Bool)
    (healthFlags : Host → UInt64) (es : List Event) :
    (EveryStep Step Follows (newCheckedCluster grow healthChecker healthFlags) es
        ↔ EveryStep Step HealthyKept (newCheckedCluster grow healthChecker healthFlags) es)
      ∧ (EveryStep Step HealthyKept (newCheckedCluster grow healthChecker healthFlags) es →
        EveryState Step HealthyExact (newCheckedCluster grow healthChecker healthFlags) es) := by
  have hinit : Shared (newCheckedCluster grow healthChecker healthFlags).cluster
      ∧ (newCheckedCluster grow healthChecker healthFlags).HealthyExact := by
    refine ⟨shared_new grow healthChecker, List.nodup_nil, ?_⟩
    intro h
    exact ⟨fun hin => absurd hin List.not_mem_nil, fun hin => absurd hin.1 List.not_mem_nil⟩
  have hkeep : ∀ (t : CheckedCluster) (e : Event) (u : CheckedCluster),
      Shared t.cluster ∧ t.HealthyExact → t.HealthyKept e → t.Step e u →
        Shared u.cluster ∧ u.HealthyExact := by
    rintro t e u ⟨hshared, hexact⟩ hkept hstep
    obtain ⟨u', hstep', hexact'⟩ := (follows_iff hshared hexact e).mpr hkept
    rw [hstep.unique hstep']
    exact ⟨hshared.step hstep', hexact'⟩
  refine ⟨?_, ?_⟩
  · exact everyStep_congr_guarded (fun t => Shared t.cluster ∧ t.HealthyExact) hkeep hinit
      (fun t e ht => follows_iff ht.1 ht.2 e)
  · intro hkept before after t hes hrun
    exact ((hkept.everyState (fun t => Shared t.cluster ∧ t.HealthyExact) hkeep hinit) before
      after t hes hrun).2

/-- The second of two hosts turns unhealthy, and a third host comes: the
unhealthy one is among the healthy ones again. -/
theorem unhealthyHost_listed :
    ((twoChecked.step (.flip (plainHost 2) .failedActiveHC true)).bind fun s =>
      (s.step (.updateHosts [plainHost 1, plainHost 2, plainHost 3])).map fun t =>
        (t.cluster.healthyHosts, t.cluster.allHosts, t.isHealthy (plainHost 2)))
      = .ok ([plainHost 1, plainHost 2, plainHost 3], [plainHost 1, plainHost 2, plainHost 3],
        false) := by
  rfl

end CheckedCluster

end Mosn.Upstream
