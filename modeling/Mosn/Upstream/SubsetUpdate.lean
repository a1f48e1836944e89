/-
  Mosn.Upstream.SubsetUpdate
  **WHAT AN UPDATE DOES TO THE SUBSETS.**

  The balancer patches its lists in place, inside a trie, in loops that could
  leave a slice's bounds.  This module says what comes out, in terms of lists
  and of a TABLE, a function from the pairs of a path to the subset there:

      getFinalHosts hosts added removed   =  ok (finalHosts hosts added removed)
      update                              =  ok of the `visit`s of the table

  whenever no subset lists an address twice; and then none does afterwards.
-/
import Mosn.Upstream.SubsetLoadBalancer

namespace Mosn.Upstream

open Mosn.Lib

/-! ## §1. Cutting a host out of a list with distinct addresses. -/

variable {hosts : List Host} {i : Nat} {x : Host} {m : Memory Host} {s : Slice}

theorem Distinct.address_ne_of_mem_eraseIdx (h : Distinct hosts)
    {y : Host} (hx : hosts[i]? = some x) (hy : y ∈ hosts.eraseIdx i) : x.address ≠ y.address := by
  obtain ⟨j, hji, hj⟩ := List.mem_eraseIdx_iff_getElem?.mp hy
  intro haddr
  have hxy := h.eq_of_address (List.mem_of_getElem? hx) (List.mem_of_getElem? hj) haddr
  have hlt : i < hosts.length := (List.getElem?_eq_some_iff.mp hx).1
  rw [hxy] at hx
  exact hji ((List.getElem?_inj hlt h.nodup).mp (hx.trans hj.symm)).symm

theorem Distinct.eraseIdx_eq_filter (h : Distinct hosts) (hx : hosts[i]? = some x) :
    hosts.eraseIdx i = hosts.filter fun y => x.address ≠ y.address := by
  induction hosts generalizing i with
  | nil => cases hx
  | cons y hosts ih =>
    obtain ⟨hy, hrest⟩ := List.pairwise_cons.mp h
    cases i with
    | zero =>
      cases hx
      rw [List.eraseIdx_cons_zero, List.filter_cons_of_neg (by simp)]
      symm
      apply List.filter_eq_self.mpr
      intro z hz
      exact decide_eq_true (hy z hz)
    | succ i =>
      have hxi : hosts[i]? = some x := hx
      have hne : x.address ≠ y.address := Ne.symm (hy x (List.mem_of_getElem? hxi))
      rw [List.eraseIdx_cons_succ, List.filter_cons_of_pos (by simpa using hne), ih hrest hxi]

/-- The passes of the loop up to index `k`: either the host has not been met,
or it has been cut out where it was. -/
theorem foldlM_cutPass (hv : m.Valid s) (hd : Distinct (m.read s))
    (host : Host) (k : Nat) (hk : k ≤ s.len) :
    ((List.range k).foldlM (cutPass host s) (m, s) = .ok (m, s)
        ∧ ∀ j x, j < k → (m.read s)[j]? = some x → host.address ≠ x.address)
      ∨ ∃ i x, i < k ∧ (m.read s)[i]? = some x ∧ host.address = x.address
        ∧ (List.range k).foldlM (cutPass host s) (m, s) = .ok (m.cut s i) := by
  have hlen : (m.read s).length = s.len := Memory.length_read hv
  induction k with
  | zero => exact Or.inl ⟨rfl, fun j x hj => absurd hj (Nat.not_lt_zero j)⟩
  | succ k ih =>
    have hpass : ∀ acc, (List.range k).foldlM (cutPass host s) (m, s) = .ok acc →
        (List.range (k + 1)).foldlM (cutPass host s) (m, s) = cutPass host s acc k := by
      intro acc hacc
      rw [List.range_succ, List.foldlM_append, hacc]
      change (cutPass host s acc k >>= pure) = _
      rw [bind_pure]
    rcases ih (Nat.le_of_succ_le hk) with ⟨hnone, hbefore⟩ | ⟨i, x, hi, hx, haddr, hcut⟩
    · have hget : (m.read s)[k]? = some (m.read s)[k] := List.getElem?_eq_getElem (by omega)
      rw [hpass _ hnone]
      unfold cutPass
      simp only [hget]
      by_cases haddr : host.address = (m.read s)[k].address
      · rw [if_pos haddr, if_pos (show k < s.len from hk)]
        exact Or.inr ⟨k, _, Nat.lt_succ_self k, hget, haddr, rfl⟩
      · rw [if_neg haddr]
        refine Or.inl ⟨rfl, ?_⟩
        intro j x hj hjx
        rcases Nat.lt_succ_iff_lt_or_eq.mp hj with hj | rfl
        · exact hbefore j x hj hjx
        · rw [hget] at hjx
          cases hjx
          exact haddr
    · -- what the old window still shows from here on are other hosts
      refine Or.inr ⟨i, x, Nat.lt_succ_of_lt hi, hx, haddr, ?_⟩
      rw [hpass _ hcut]
      unfold cutPass
      have hread := Memory.read_cut_self hv (show i < s.len by omega)
      cases hget : ((m.cut s i).1.read s)[k]? with
      | none => rfl
      | some y =>
        have hy : y ∈ (m.read s).eraseIdx i := by
          have hmem := List.mem_of_getElem? hget
          rw [hread, ← hlen] at hmem
          rcases List.mem_append.mp hmem with hmem | hmem
          · exact hmem
          · exact Memory.mem_eraseIdx_of_mem_drop (by omega) hmem
        have hne := hd.address_ne_of_mem_eraseIdx hx hy
        simp only
        rw [haddr, if_neg hne]

/-- **One host removed.** -/
theorem cutHost_ok (hv : m.Valid s) (hd : Distinct (m.read s)) (host : Host) :
    ∃ acc, cutHost (m, s) host = .ok acc ∧ acc.1.Valid acc.2
      ∧ acc.1.read acc.2 = (m.read s).filter fun x => host.address ≠ x.address := by
  have hlen : (m.read s).length = s.len := Memory.length_read hv
  rcases foldlM_cutPass hv hd host s.len (Nat.le_refl _) with
    ⟨hok, hnone⟩ | ⟨i, x, hi, hx, haddr, hok⟩
  · refine ⟨(m, s), hok, hv, ?_⟩
    symm
    apply List.filter_eq_self.mpr
    intro x hx
    obtain ⟨j, hj⟩ := List.mem_iff_getElem?.mp hx
    have hlt : j < (m.read s).length := (List.getElem?_eq_some_iff.mp hj).1
    exact decide_eq_true (hnone j x (by omega) hj)
  · refine ⟨m.cut s i, hok, Memory.valid_cut_self hv hi, ?_⟩
    rw [Memory.read_cut hv hi, haddr]
    exact hd.eraseIdx_eq_filter hx

/-! ## §2. The hosts of one subset. -/

/-- What `GetFinalHosts` is for. -/
def finalHosts (hosts hostsAdded hostsRemoved : List Host) : List Host :=
  (addHosts hosts hostsAdded).filter fun h => hostsRemoved.all fun r => r.address ≠ h.address

theorem distinct_addHosts (hostsAdded : List Host) : ∀ {hosts : List Host}, Distinct hosts →
    Distinct (addHosts hosts hostsAdded) := by
  induction hostsAdded with
  | nil => exact fun h => h
  | cons a hostsAdded ih =>
    intro hosts h
    change Distinct (addHosts (if _ then _ else _) hostsAdded)
    apply ih
    split
    · exact h
    · rename_i hnone
      refine List.pairwise_append.mpr ⟨h, List.pairwise_singleton _ _, ?_⟩
      intro x hx y hy heq
      rw [List.mem_singleton.mp hy] at heq
      exact hnone (List.any_eq_true.mpr ⟨x, hx, decide_eq_true heq.symm⟩)

theorem mem_addHosts {hostsAdded : List Host} (hadded : Distinct hostsAdded) (h : Host) :
    ∀ {hosts : List Host}, h ∈ addHosts hosts hostsAdded
      ↔ h ∈ hosts ∨ h ∈ hostsAdded ∧ ∀ x ∈ hosts, x.address ≠ h.address := by
  induction hostsAdded with
  | nil =>
    intro hosts
    simp [addHosts]
  | cons a hostsAdded ih =>
    intro hosts
    obtain ⟨ha, hrest⟩ := List.pairwise_cons.mp hadded
    change h ∈ addHosts (if _ then _ else _) hostsAdded ↔ _
    rw [ih hrest, List.mem_cons]
    by_cases hany : hosts.any (a.address = ·.address) = true
    · rw [if_pos hany]
      obtain ⟨x, hx, heq⟩ := List.any_eq_true.mp hany
      constructor
      · rintro (hh | ⟨hh, hne⟩)
        · exact Or.inl hh
        · exact Or.inr ⟨Or.inr hh, hne⟩
      · rintro (hh | ⟨rfl | hh, hne⟩)
        · exact Or.inl hh
        · exact absurd (of_decide_eq_true heq).symm (hne x hx)
        · exact Or.inr ⟨hh, hne⟩
    · rw [if_neg hany]
      have hnew : ∀ x ∈ hosts, x.address ≠ a.address := by
        intro x hx heq
        exact hany (List.any_eq_true.mpr ⟨x, hx, decide_eq_true heq.symm⟩)
      simp only [List.mem_append, List.mem_singleton]
      constructor
      · rintro ((hh | rfl) | ⟨hh, hne⟩)
        · exact Or.inl hh
        · exact Or.inr ⟨Or.inl rfl, hnew⟩
        · exact Or.inr ⟨Or.inr hh, fun x hx => hne x (Or.inl hx)⟩
      · rintro (hh | ⟨rfl | hh, hne⟩)
        · exact Or.inl (Or.inl hh)
        · exact Or.inl (Or.inr rfl)
        · refine Or.inr ⟨hh, ?_⟩
          rintro x (hx | rfl)
          · exact hne x hx
          · exact ha h hh

theorem foldlM_cutHost (hostsRemoved : List Host) : ∀ {m : Memory Host} {s : Slice},
    m.Valid s → Distinct (m.read s) →
    ∃ acc, hostsRemoved.foldlM cutHost (m, s) = .ok acc
      ∧ acc.1.read acc.2
        = (m.read s).filter fun h => hostsRemoved.all fun r => r.address ≠ h.address := by
  induction hostsRemoved with
  | nil =>
    intro m s _ _
    refine ⟨(m, s), rfl, ?_⟩
    simp
  | cons r hostsRemoved ih =>
    intro m s hv hd
    obtain ⟨⟨m', s'⟩, hok, hv', hread⟩ := cutHost_ok hv hd r
    obtain ⟨acc, hacc, hfinal⟩ := ih hv' (hread ▸ List.Pairwise.filter _ hd)
    refine ⟨acc, ?_, ?_⟩
    · rw [List.foldlM_cons, hok]
      exact hacc
    · rw [hfinal, hread, List.filter_filter]
      apply List.filter_congr
      intro h _
      rw [List.all_cons, Bool.and_comm]

/-- **`GetFinalHosts` on a list with distinct addresses.** -/
theorem getFinalHosts_eq (h : Distinct hosts) (hostsAdded hostsRemoved : List Host) :
    getFinalHosts hosts hostsAdded hostsRemoved
      = .ok (finalHosts hosts hostsAdded hostsRemoved) := by
  have hread := Memory.read_alloc_self (⟨[], id⟩ : Memory Host) (addHosts hosts hostsAdded)
  have hdist : Distinct (addHosts hosts hostsAdded) := distinct_addHosts hostsAdded h
  obtain ⟨acc, hok, hfinal⟩ := foldlM_cutHost hostsRemoved
    (Memory.valid_alloc_self (⟨[], id⟩ : Memory Host) (addHosts hosts hostsAdded))
    (hread.symm ▸ hdist)
  unfold getFinalHosts
  rw [show hostsRemoved.foldlM cutHost _ = Except.ok acc from hok]
  change Except.ok (acc.1.read acc.2) = _
  rw [hfinal, hread]
  rfl

theorem distinct_finalHosts (h : Distinct hosts)
    (hostsAdded hostsRemoved : List Host) : Distinct (finalHosts hosts hostsAdded hostsRemoved) :=
  List.Pairwise.filter _ (distinct_addHosts hostsAdded h)

namespace PrioritySubset

/-- The subset after `UpdateHostSubset`. -/
def updated (ps : PrioritySubset) (health : Host → Bool) (notice : Notice) : PrioritySubset :=
  let final := finalHosts ps.hosts (notice.hostsAdded.filter ps.predicateFunc)
    (notice.hostsRemoved.filter ps.predicateFunc)
  { ps with hosts := final, healthyHosts := final.filter health }

theorem update_eq_updated {ps : PrioritySubset} (h : Distinct ps.hosts) (health : Host → Bool)
    (notice : Notice) : ps.update health notice = .ok (ps.updated health notice) := by
  unfold update
  rw [getFinalHosts_eq h]
  rfl

theorem distinct_updated {ps : PrioritySubset} (h : Distinct ps.hosts) (health : Host → Bool)
    (notice : Notice) : Distinct (ps.updated health notice).hosts :=
  distinct_finalHosts h _ _

/-- The subset that `NewPrioritySubsetImpl` makes. -/
def fresh (lbType : LoadBalancerType) (predicate : Host → Bool) (health : Host → Bool)
    (originalHosts : List Host) : PrioritySubset :=
  (⟨predicate, [], [], newLoadBalancer lbType⟩ : PrioritySubset).updated health ⟨originalHosts, []⟩

theorem distinct_fresh (lbType : LoadBalancerType) (predicate : Host → Bool)
    (health : Host → Bool) (originalHosts : List Host) :
    Distinct (fresh lbType predicate health originalHosts).hosts :=
  distinct_updated distinct_nil _ _

end PrioritySubset

theorem newPrioritySubset_eq (lbType : LoadBalancerType) (predicate : Host → Bool)
    (health : Host → Bool) (originalHosts : List Host) :
    newPrioritySubset lbType predicate health originalHosts
      = .ok (PrioritySubset.fresh lbType predicate health originalHosts) :=
  PrioritySubset.update_eq_updated distinct_nil health _

/-! ## §3. The table. -/

/-- The subset at the end of each path. -/
abbrev Table := SubsetMetadata → Option PrioritySubset

/-- One round of `ProcessSubsets`, on the table. -/
def visit (lbType : LoadBalancerType) (originalHosts : List Host) (health : Host → Bool)
    (notice : Notice) (table : Table) (v : Bool × Host × List GoString) : Table :=
  let kvs := extractSubsetMetadata v.2.2 v.2.1
  if kvs = [] then table
  else Function.update table kvs
    (match table kvs with
    | some ps => some (ps.updated health notice)
    | none =>
      if v.1 then some (.fresh lbType (hostMatches kvs) health originalHosts) else none)

/-- **The rule for every subset**: what new subsets have and updates keep. -/
theorem visitAll_forall {lbType : LoadBalancerType} {originalHosts : List Host}
    {health : Host → Bool} {notice : Notice} (P : SubsetMetadata → PrioritySubset → Prop)
    (hupdated : ∀ q ps, P q ps → P q (ps.updated health notice))
    (vs : List (Bool × Host × List GoString))
    (hfresh : ∀ v ∈ vs, v.1 = true → extractSubsetMetadata v.2.2 v.2.1 ≠ [] →
      P (extractSubsetMetadata v.2.2 v.2.1) (.fresh lbType
        (hostMatches (extractSubsetMetadata v.2.2 v.2.1)) health originalHosts)) :
    ∀ table : Table, (∀ q ps, table q = some ps → P q ps) →
      ∀ q ps, vs.foldl (visit lbType originalHosts health notice) table q = some ps → P q ps := by
  induction vs with
  | nil => exact fun _ h => h
  | cons v vs ih =>
    intro table h
    rw [List.foldl_cons]
    apply ih (fun w hw => hfresh w (List.mem_cons_of_mem v hw))
    intro q ps hq
    unfold visit at hq
    by_cases hnil : extractSubsetMetadata v.2.2 v.2.1 = []
    · simp only [if_pos hnil] at hq
      exact h q ps hq
    · simp only [if_neg hnil] at hq
      by_cases hkvs : q = extractSubsetMetadata v.2.2 v.2.1
      · subst hkvs
        rw [Function.update_self] at hq
        split at hq
        · rename_i ps₀ hps
          cases hq
          exact hupdated _ _ (h _ _ hps)
        · split at hq
          · rename_i hadd
            cases hq
            exact hfresh v List.mem_cons_self hadd hnil
          · cases hq
      · rw [Function.update_of_ne hkvs] at hq
        exact h q ps hq

namespace SubsetLoadBalancer

/-- The table of a balancer. -/
def table (lb : SubsetLoadBalancer) : Table := lb.subSets.entryAt

/-- No subset lists an address twice. -/
structure DistinctLists (lb : SubsetLoadBalancer) : Prop where
  entries : ∀ q ps, lb.table q = some ps → Distinct ps.hosts
  fallback : ∀ ps, lb.fallbackSubset = some ps → Distinct ps.hosts

/-- The parts of a balancer that its configuration fixes. -/
structure SameConfig (lb lb' : SubsetLoadBalancer) : Prop where
  lbType : lb'.lbType = lb.lbType
  fallBackPolicy : lb'.fallBackPolicy = lb.fallBackPolicy
  defaultSubSetMetadata : lb'.defaultSubSetMetadata = lb.defaultSubSetMetadata
  subSetKeys : lb'.subSetKeys = lb.subSetKeys

theorem SameConfig.refl (lb : SubsetLoadBalancer) : SameConfig lb lb := ⟨rfl, rfl, rfl, rfl⟩

theorem SameConfig.trans {lb₁ lb₂ lb₃ : SubsetLoadBalancer} (h : SameConfig lb₁ lb₂)
    (h' : SameConfig lb₂ lb₃) : SameConfig lb₁ lb₃ :=
  ⟨h'.lbType.trans h.lbType, h'.fallBackPolicy.trans h.fallBackPolicy,
    h'.defaultSubSetMetadata.trans h.defaultSubSetMetadata, h'.subSetKeys.trans h.subSetKeys⟩

variable {lb lb' : SubsetLoadBalancer} {notice : Notice} {addedFirst : Bool}
  {ps' ps : PrioritySubset} {rand : Nat} {r : Option Host}

/-- **One round** of `ProcessSubsets`, on the trie and on the table. -/
theorem processSubset_refines (h : lb.DistinctLists)
    (originalHosts : List Host) (health : Host → Bool) (notice : Notice)
    (v : Bool × Host × List GoString) :
    ∃ lb', lb.processSubset originalHosts health notice v.1 v.2.1 v.2.2 = .ok lb'
      ∧ lb'.table = visit lb.lbType originalHosts health notice lb.table v
      ∧ lb'.fallbackSubset = lb.fallbackSubset ∧ SameConfig lb lb' := by
  unfold processSubset visit
  obtain ⟨kvs, hkvs⟩ : ∃ kvs, kvs = extractSubsetMetadata v.2.2 v.2.1 := ⟨_, rfl⟩
  simp only [← hkvs]
  by_cases hnil : kvs = []
  · rw [if_pos hnil, if_pos hnil]
    exact ⟨lb, rfl, rfl, rfl, .refl lb⟩
  · rw [if_neg hnil, if_neg hnil, Trie.entryAt_create]
    -- an entry that is put, and the table with it
    have hput : ∀ ps, (Trie.put kvs ps (Trie.create kvs lb.subSets)).entryAt
        = Function.update lb.table kvs (some ps) := by
      intro ps
      funext q
      rw [Trie.entryAt_put_create]
      by_cases hq : q = kvs
      · subst hq
        rw [if_pos rfl, Function.update_self]
      · rw [if_neg hq, Function.update_of_ne hq]
        rfl
    cases htable : lb.table kvs with
    | some ps =>
      have hentry : lb.subSets.entryAt kvs = some ps := htable
      simp only [hentry]
      rw [PrioritySubset.update_eq_updated (h.entries kvs ps htable)]
      exact ⟨_, rfl, hput _, rfl, rfl, rfl, rfl, rfl⟩
    | none =>
      have hentry : lb.subSets.entryAt kvs = none := htable
      simp only [hentry]
      by_cases hadd : v.1 = true
      · rw [if_pos hadd, if_pos hadd, newPrioritySubset_eq]
        exact ⟨_, rfl, hput _, rfl, rfl, rfl, rfl, rfl⟩
      · rw [if_neg hadd, if_neg hadd]
        refine ⟨_, rfl, ?_, rfl, rfl, rfl, rfl, rfl⟩
        funext q
        change (Trie.create kvs lb.subSets).entryAt q = _
        rw [Trie.entryAt_create]
        by_cases hq : q = kvs
        · subst hq
          rw [Function.update_self]
          exact htable
        · rw [Function.update_of_ne hq]
          rfl

theorem distinct_visitAll (h : lb.DistinctLists)
    (originalHosts : List Host) (health : Host → Bool) (notice : Notice)
    (vs : List (Bool × Host × List GoString)) :
    ∀ q ps, vs.foldl (visit lb.lbType originalHosts health notice) lb.table q = some ps →
      Distinct ps.hosts :=
  visitAll_forall (fun _ ps => Distinct ps.hosts)
    (fun _ _ hps => PrioritySubset.distinct_updated hps health notice) vs
    (fun _ _ _ _ => PrioritySubset.distinct_fresh _ _ _ _) lb.table h.entries

/-- **All rounds.** -/
theorem foldlM_processSubset (originalHosts : List Host) (health : Host → Bool) (notice : Notice)
    (vs : List (Bool × Host × List GoString)) : ∀ {lb : SubsetLoadBalancer}, lb.DistinctLists →
    ∃ lb', vs.foldlM
        (fun lb v => processSubset lb originalHosts health notice v.1 v.2.1 v.2.2) lb = .ok lb'
      ∧ lb'.table = vs.foldl (visit lb.lbType originalHosts health notice) lb.table
      ∧ lb'.fallbackSubset = lb.fallbackSubset ∧ SameConfig lb lb' := by
  induction vs with
  | nil => exact fun {lb} _ => ⟨lb, rfl, rfl, rfl, .refl lb⟩
  | cons v vs ih =>
    intro lb h
    obtain ⟨lb₁, hok, htable, hfallback, hconfig⟩ :=
      processSubset_refines h originalHosts health notice v
    have h₁ : lb₁.DistinctLists := by
      refine ⟨?_, ?_⟩
      · rw [htable]
        exact distinct_visitAll h originalHosts health notice [v]
      · rw [hfallback]
        exact h.fallback
    obtain ⟨lb₂, hok₂, htable₂, hfallback₂, hconfig₂⟩ := ih h₁
    refine ⟨lb₂, ?_, ?_, hfallback₂.trans hfallback, hconfig.trans hconfig₂⟩
    · rw [List.foldlM_cons, hok]
      exact hok₂
    · rw [htable₂, htable, hconfig.lbType, List.foldl_cons]

/-- The fallback subset before an update, created if there is none yet. -/
def fallbackBefore (lb : SubsetLoadBalancer) (originalHosts : List Host) (health : Host → Bool) :
    PrioritySubset :=
  lb.fallbackSubset.getD (.fresh lb.lbType
    (fallbackPredicate lb.fallBackPolicy lb.defaultSubSetMetadata) health originalHosts)

/-- The fallback subset after an update. -/
def fallbackAfter (lb : SubsetLoadBalancer) (originalHosts : List Host) (health : Host → Bool)
    (notice : Notice) : Option PrioritySubset :=
  if lb.fallBackPolicy = .noFallBack then lb.fallbackSubset
  else some ((lb.fallbackBefore originalHosts health).updated health notice)

theorem DistinctLists.fallbackBefore (h : lb.DistinctLists)
    (originalHosts : List Host) (health : Host → Bool) :
    Distinct (lb.fallbackBefore originalHosts health).hosts := by
  unfold SubsetLoadBalancer.fallbackBefore
  cases hf : lb.fallbackSubset with
  | none => exact PrioritySubset.distinct_fresh _ _ _ _
  | some ps => exact h.fallback ps hf

theorem updateFallbackSubset_eq (h : lb.DistinctLists)
    (originalHosts : List Host) (health : Host → Bool) (notice : Notice) :
    lb.updateFallbackSubset originalHosts health notice
      = .ok { lb with fallbackSubset := lb.fallbackAfter originalHosts health notice } := by
  have hcreate : lb.createFallback originalHosts health
      = .ok (lb.fallbackBefore originalHosts health) := by
    unfold createFallback fallbackBefore
    cases lb.fallbackSubset with
    | none => exact newPrioritySubset_eq _ _ _ _
    | some ps => rfl
  unfold updateFallbackSubset fallbackAfter
  by_cases hpolicy : lb.fallBackPolicy = .noFallBack
  · rw [if_pos hpolicy, if_pos hpolicy]
  · rw [if_neg hpolicy, if_neg hpolicy, hcreate]
    change ((PrioritySubset.update _ health notice).map _) = _
    rw [PrioritySubset.update_eq_updated (h.fallbackBefore originalHosts health)]
    rfl

theorem distinct_fallbackAfter (h : lb.DistinctLists)
    (originalHosts : List Host) (health : Host → Bool) (notice : Notice) (ps : PrioritySubset)
    (hps : lb.fallbackAfter originalHosts health notice = some ps) : Distinct ps.hosts := by
  unfold fallbackAfter at hps
  split at hps
  · exact h.fallback ps hps
  · cases hps
    exact PrioritySubset.distinct_updated (h.fallbackBefore originalHosts health) _ _

/-- **`Update` returns**, and on the table it is a sequence of visits. -/
theorem update_refines (h : lb.DistinctLists)
    (originalHosts : List Host) (health : Host → Bool) (notice : Notice) (addedFirst : Bool) :
    ∃ lb', lb.update originalHosts health notice addedFirst = .ok lb'
      ∧ lb'.table = (lb.visits notice addedFirst).foldl
          (visit lb.lbType originalHosts health notice) lb.table
      ∧ lb'.fallbackSubset = lb.fallbackAfter originalHosts health notice
      ∧ SameConfig lb lb' ∧ lb'.DistinctLists := by
  have hfallback : DistinctLists
      { lb with fallbackSubset := lb.fallbackAfter originalHosts health notice } :=
    ⟨h.entries, distinct_fallbackAfter h originalHosts health notice⟩
  obtain ⟨lb', hok, htable, hfall, hconfig⟩ :=
    foldlM_processSubset originalHosts health notice (lb.visits notice addedFirst) hfallback
  refine ⟨lb', ?_, htable, hfall, ⟨hconfig.lbType, hconfig.fallBackPolicy,
    hconfig.defaultSubSetMetadata, hconfig.subSetKeys⟩, ?_, ?_⟩
  · unfold update
    rw [updateFallbackSubset_eq h]
    exact hok
  · rw [htable]
    exact distinct_visitAll h originalHosts health notice _
  · rw [hfall]
    exact distinct_fallbackAfter h originalHosts health notice

theorem update_of_ok (hd : lb.DistinctLists) {originalHosts : List Host} {health : Host → Bool}
    (h : lb.update originalHosts health notice addedFirst = .ok lb') :
    lb'.table = (lb.visits notice addedFirst).foldl
        (visit lb.lbType originalHosts health notice) lb.table
      ∧ lb'.fallbackSubset = lb.fallbackAfter originalHosts health notice
      ∧ SameConfig lb lb' ∧ lb'.DistinctLists := by
  obtain ⟨lb₁, hok, hdone⟩ := update_refines hd originalHosts health notice addedFirst
  rw [h] at hok
  cases hok
  exact hdone

theorem visits_nil (lb : SubsetLoadBalancer) (addedFirst : Bool) :
    lb.visits ⟨[], []⟩ addedFirst = [] := by
  cases addedFirst with
  | true => rfl
  | false => rfl

theorem mem_visits {v : Bool × Host × List GoString} : v ∈ lb.visits notice addedFirst
      ↔ v.2.2 ∈ lb.subSetKeys ∧ (v.1 = true ∧ v.2.1 ∈ notice.hostsAdded
        ∨ v.1 = false ∧ v.2.1 ∈ notice.hostsRemoved) := by
  obtain ⟨adding, host, keys⟩ := v
  have hhosts : ∀ (flag : Bool) (hosts : List Host),
      (adding, host) ∈ hosts.map (flag, ·) ↔ adding = flag ∧ host ∈ hosts := by
    intro flag hosts
    simp only [List.mem_map, Prod.mk.injEq]
    constructor
    · rintro ⟨h, hh, rfl, rfl⟩
      exact ⟨rfl, hh⟩
    · rintro ⟨rfl, hh⟩
      exact ⟨host, hh, rfl, rfl⟩
  have hrounds : (adding, host, keys) ∈ lb.visits notice addedFirst
      ↔ keys ∈ lb.subSetKeys ∧ (adding, host) ∈ (if addedFirst
          then notice.hostsAdded.map (true, ·) ++ notice.hostsRemoved.map (false, ·)
          else notice.hostsRemoved.map (false, ·) ++ notice.hostsAdded.map (true, ·)) := by
    unfold visits
    simp only [List.mem_flatMap, List.mem_map, Prod.mk.injEq]
    constructor
    · rintro ⟨v, hv, k, hk, rfl, rfl, rfl⟩
      exact ⟨hk, hv⟩
    · rintro ⟨hk, hv⟩
      exact ⟨(adding, host), hv, keys, hk, rfl, rfl, rfl⟩
  rw [hrounds]
  refine and_congr_right fun _ => ?_
  cases addedFirst with
  | true => rw [if_pos rfl, List.mem_append, hhosts, hhosts]
  | false => rw [if_neg Bool.false_ne_true, List.mem_append, hhosts, hhosts, or_comm]

/-! ## §4. A choice changes no list. -/

/-- A subset without the state of its balancer. -/
def lists (ps : PrioritySubset) : PrioritySubset := { ps with loadbalancer := none }

/-- Two balancers with the same subsets, up to the states of their balancers. -/
structure SameLists (lb lb' : SubsetLoadBalancer) : Prop where
  config : SameConfig lb lb'
  table : ∀ q, (lb'.table q).map lists = (lb.table q).map lists
  fallback : lb'.fallbackSubset.map lists = lb.fallbackSubset.map lists

theorem map_lists_eq_some {o : Option PrioritySubset} {o' : Option PrioritySubset}
    (h : o'.map lists = o.map lists) (hps : o' = some ps') :
    ∃ ps, o = some ps ∧ lists ps' = lists ps := by
  rw [hps] at h
  obtain ⟨ps, hps, heq⟩ := Option.map_eq_some_iff.mp h.symm
  exact ⟨ps, hps, heq.symm⟩

theorem hosts_eq_of_lists (h : lists ps' = lists ps) : ps'.hosts = ps.hosts := by
  show (lists ps').hosts = (lists ps).hosts
  rw [h]

theorem healthyHosts_eq_of_lists (h : lists ps' = lists ps) :
    ps'.healthyHosts = ps.healthyHosts := by
  show (lists ps').healthyHosts = (lists ps).healthyHosts
  rw [h]

theorem predicateFunc_eq_of_lists (h : lists ps' = lists ps) :
    ps'.predicateFunc = ps.predicateFunc := by
  show (lists ps').predicateFunc = (lists ps).predicateFunc
  rw [h]

theorem chooseFrom_lists (h : chooseFrom ps rand = .ok (r, ps')) : lists ps' = lists ps := by
  unfold chooseFrom at h
  split at h
  · cases h
  · obtain ⟨_, -, heq⟩ := map_eq_ok.mp h
    cases heq
    rfl

theorem chooseFallback_sameLists
    (h : lb.chooseFallback rand = .ok (r, lb')) : SameLists lb lb' := by
  unfold chooseFallback at h
  split at h
  · cases h
    exact ⟨.refl lb, fun _ => rfl, rfl⟩
  · rename_i ps hps
    split at h
    · cases h
      exact ⟨.refl lb, fun _ => rfl, rfl⟩
    · obtain ⟨⟨r', ps'⟩, hchoose, heq⟩ := map_eq_ok.mp h
      cases heq
      refine ⟨⟨rfl, rfl, rfl, rfl⟩, fun _ => rfl, ?_⟩
      rw [hps]
      change some (lists ps') = some (lists ps)
      rw [chooseFrom_lists hchoose]

theorem chooseEntry_sameLists {kvs : SubsetMetadata} {entry : Trie Pair PrioritySubset}
    (hfind : lb.subSets.find kvs = some entry)
    (h : lb.chooseEntry kvs entry rand = .ok (r, lb')) : SameLists lb lb' := by
  unfold chooseEntry at h
  split at h
  · cases h
  · rename_i ps hps
    obtain ⟨⟨r', ps'⟩, hchoose, heq⟩ := bind_eq_ok.mp h
    split at heq
    · cases heq
    · cases heq
      refine ⟨⟨rfl, rfl, rfl, rfl⟩, ?_, rfl⟩
      intro q
      change ((Trie.put kvs ps' lb.subSets).entryAt q).map lists = (lb.subSets.entryAt q).map lists
      rw [Trie.entryAt_put kvs q ps' hfind]
      by_cases hq : q = kvs
      · rw [if_pos hq, hq, Trie.entryAt_of_find hfind, hps]
        change some (lists ps') = some (lists ps)
        rw [chooseFrom_lists hchoose]
      · rw [if_neg hq]

/-- **`ChooseHost` keeps every list.** -/
theorem chooseHost_sameLists {context : Option MatchCriteria}
    (h : lb.chooseHost context rand = .ok (r, lb')) : SameLists lb lb' := by
  unfold chooseHost at h
  split at h
  · exact chooseFallback_sameLists h
  · exact chooseFallback_sameLists h
  · cases h
  · rename_i kvs
    split at h
    · exact chooseFallback_sameLists h
    · rename_i entry hfind
      unfold findSubset at hfind
      split at hfind
      · cases hfind
      · exact chooseEntry_sameLists hfind h

theorem SameLists.distinctLists (h : SameLists lb lb')
    (hd : lb.DistinctLists) : lb'.DistinctLists where
  entries := by
    intro q ps' hps'
    obtain ⟨ps, hps, heq⟩ := map_lists_eq_some (h.table q) hps'
    rw [hosts_eq_of_lists heq]
    exact hd.entries q ps hps
  fallback := by
    intro ps' hps'
    obtain ⟨ps, hps, heq⟩ := map_lists_eq_some h.fallback hps'
    rw [hosts_eq_of_lists heq]
    exact hd.fallback ps hps

end SubsetLoadBalancer

/-! ## §5. The events of the cluster. -/

namespace SubsetCluster

variable {s : SubsetCluster} {newHosts : List Host}

theorem Step.unique {t t' : SubsetCluster} {e : Event} (h : s.Step e t) (h' : s.Step e t') :
    t = t' :=
  Except.ok.inj (h.symm.trans h')

theorem step_updateHosts_unchanged (addedFirst : Bool)
    (h : (updateDynamicHostList newHosts s.cluster.hostList).changed = false) :
    s.step (.updateHosts newHosts addedFirst) = .ok s := by
  unfold step
  simp only [SimpleInMemCluster.updateHosts_unchanged h]
  rfl

theorem notify_one (s : SubsetCluster) (notice : Notice) (checker : List Notice)
    (addedFirst : Bool) : s.notify ⟨[notice], checker⟩ addedFirst
      = (s.lb.update s.cluster.allHosts s.health notice addedFirst).map fun lb =>
          { s with lb := lb } := by
  unfold notify
  change Except.map _ (SubsetLoadBalancer.update s.lb _ _ _ _ >>= pure) = _
  rw [bind_pure]

/-- **`UpdateHosts`** with a change: the callback sees the new hosts. -/
theorem step_updateHosts_changed (hd : s.lb.DistinctLists) (addedFirst : Bool)
    (h : (updateDynamicHostList newHosts s.cluster.hostList).changed = true) :
    ∃ t, s.step (.updateHosts newHosts addedFirst) = .ok t
      ∧ t.cluster = (s.cluster.updateHosts newHosts).1 ∧ t.health = s.health
      ∧ s.lb.update (updateDynamicHostList newHosts s.cluster.hostList).finalHosts s.health
          ⟨(updateDynamicHostList newHosts s.cluster.hostList).hostsAdded,
            (updateDynamicHostList newHosts s.cluster.hostList).hostsRemoved⟩ addedFirst
          = .ok t.lb := by
  obtain ⟨lb', hok, -⟩ := SubsetLoadBalancer.update_refines hd
    (updateDynamicHostList newHosts s.cluster.hostList).finalHosts s.health
    ⟨(updateDynamicHostList newHosts s.cluster.hostList).hostsAdded,
      (updateDynamicHostList newHosts s.cluster.hostList).hostsRemoved⟩ addedFirst
  refine ⟨⟨(s.cluster.updateHosts newHosts).1, lb', s.health⟩, ?_, rfl, rfl, hok⟩
  have hall := (SimpleInMemCluster.updateHosts_changed h).2.1
  unfold step
  simp only [SimpleInMemCluster.told_updateHosts h rfl]
  rw [notify_one]
  change Except.map _ (s.lb.update (s.cluster.updateHosts newHosts).1.allHosts s.health _ _) = _
  rw [hall, hok]
  rfl

theorem newSubsetCluster_eq (lbType : LoadBalancerType) (subsets : LBSubsetConfig)
    (grow : Nat → Nat) (healthChecker : Bool) (health : Host → Bool) :
    ∃ s, newSubsetCluster lbType subsets grow healthChecker health = .ok s
      ∧ s.cluster = newSimpleInMemCluster grow healthChecker ∧ s.health = health
      ∧ s.lb.DistinctLists ∧ (∀ q, s.lb.table q = none)
      ∧ s.lb.fallbackSubset = SubsetLoadBalancer.fallbackAfter
          ⟨lbType, subsets.fallBackPolicy, initSortedMap subsets.defaultSubset,
            generateSubsetKeys subsets.subsetSelectors, none, Trie.empty⟩ [] health ⟨[], []⟩
      ∧ SubsetLoadBalancer.SameConfig
          ⟨lbType, subsets.fallBackPolicy, initSortedMap subsets.defaultSubset,
            generateSubsetKeys subsets.subsetSelectors, none, Trie.empty⟩ s.lb := by
  obtain ⟨lb₀, hlb₀⟩ : ∃ lb₀ : SubsetLoadBalancer, lb₀ = ⟨lbType, subsets.fallBackPolicy,
    initSortedMap subsets.defaultSubset, generateSubsetKeys subsets.subsetSelectors, none,
    Trie.empty⟩ := ⟨_, rfl⟩
  rw [← hlb₀]
  have hempty : ∀ q, lb₀.table q = none := by
    intro q
    rw [hlb₀]
    exact Trie.entryAt_empty q
  have hdist : lb₀.DistinctLists := by
    refine ⟨fun q ps hps => ?_, fun ps hps => ?_⟩
    · rw [hempty] at hps
      cases hps
    · rw [hlb₀] at hps
      cases hps
  obtain ⟨lb, hok, htable, hfallback, hconfig, hdist'⟩ :=
    SubsetLoadBalancer.update_refines hdist [] health ⟨[], []⟩ true
  rw [SubsetLoadBalancer.visits_nil, List.foldl_nil] at htable
  refine ⟨⟨newSimpleInMemCluster grow healthChecker, lb, health⟩, ?_, rfl, rfl, hdist', ?_,
    hfallback, hconfig⟩
  · unfold newSubsetCluster newSubsetLoadBalancer
    rw [← hlb₀]
    change Except.map _ (lb₀.update [] health ⟨[], []⟩ true) = _
    rw [hok]
    rfl
  · intro q
    rw [htable]
    exact hempty q

end SubsetCluster

end Mosn.Upstream
