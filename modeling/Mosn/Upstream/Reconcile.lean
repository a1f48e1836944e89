/-
  Mosn.Upstream.Reconcile
  **RECONCILING THE HOSTS OF A CLUSTER** (`updateDynamicHostList` and
  `UpdateHosts` of `pkg/upstream/cluster/concreteclusters.go`).

  The list-level `updateDynamicHostList` of `Mosn.Upstream.Cluster` says WHICH
  hosts move.  Here are the loops themselves: the inner one scans the current
  hosts by index and cuts every match out of the slice it is scanning,

      currentHosts   a b c d      nh = b      i = 1
                     a c d                    i stays, the next element is there
                     a c d                    i = 2, …

  and gives the host that stays the weight of the new one.  What is left of
  the slice in the end is the list of removed hosts.

    • `reconciliation_exact` — both, and the same over whole runs of
      `UpdateHosts`.

  `UpdateHosts` hands over a COPY of its list, so no other slice sees the cuts.
-/
import Mosn.Upstream.RemoveHost

namespace Mosn.Upstream

open Mosn.Lib

attribute [local grind] Distinct

/-! ## §1. The loops. -/

/-- What the loops write to: the arrays, and the weight of each host object. -/
structure HostHeap where
  memory : Memory Host
  weight : Host → UInt32

/-- `SetWeight`. -/
def HostHeap.setWeight (heap : HostHeap) (host : Host) (weight : UInt32) : HostHeap :=
  { heap with weight := Function.update heap.weight host weight }

/-- The variables of the inner loop. -/
structure Scan where
  heap : HostHeap
  finalHosts : List Host
  currentHosts : Slice
  found : Bool

/-- `curNh` is a match at index `i`: its weight is set, and it moves from the
current hosts to the final ones. -/
def Scan.take (s : Scan) (nh curNh : Host) (i : Nat) : Scan :=
  let heap := s.heap.setWeight curNh (s.heap.weight nh)
  let currentHosts := heap.memory.cut s.currentHosts i
  { heap := { heap with memory := currentHosts.1 }
    finalHosts := s.finalHosts ++ [curNh]
    currentHosts := currentHosts.2
    found := true }

/-- The inner loop from index `i` on.  The index stays where it is after a cut. -/
def Scan.loop (nh : Host) (i : Nat) (s : Scan) : Scan :=
  if i < s.currentHosts.len then
    match (s.heap.memory.read s.currentHosts)[i]? with
    | some curNh =>
      if nh.address = curNh.address then Scan.loop nh i (s.take nh curNh i)
      else Scan.loop nh (i + 1) s
    -- a slice that stays within its array has an element at every index below its length
    | none => s
  else s
termination_by s.currentHosts.len - i
decreasing_by
  · have hlt := Memory.len_cut_lt (m := s.heap.memory) (s := s.currentHosts) ‹i < _›
    change (s.heap.memory.cut s.currentHosts i).2.len - i < _
    omega
  · omega

/-- The variables of `updateDynamicHostList`. -/
structure Rounds where
  heap : HostHeap
  hostAddrs : List GoString
  finalHosts : List Host
  hostsAdded : List Host
  currentHosts : Slice

/-- One round of the outer loop. -/
def Rounds.visit (r : Rounds) (nh : Host) : Rounds :=
  if nh.address ∈ r.hostAddrs then r
  else
    let s := Scan.loop nh 0 ⟨r.heap, r.finalHosts, r.currentHosts, false⟩
    { heap := s.heap
      hostAddrs := nh.address :: r.hostAddrs
      finalHosts := if s.found then s.finalHosts else s.finalHosts ++ [nh]
      hostsAdded := if s.found then r.hostsAdded else r.hostsAdded ++ [nh]
      currentHosts := s.currentHosts }

/-- The outer loop. -/
def HostHeap.rounds (heap : HostHeap) (newHosts : List Host) (currentHosts : Slice) : Rounds :=
  newHosts.foldl Rounds.visit ⟨heap, [], [], [], currentHosts⟩

/-- `updateDynamicHostList`, on the slice of the current hosts. -/
def HostHeap.updateDynamicHostList (heap : HostHeap) (newHosts : List Host)
    (currentHosts : Slice) : HostHeap × HostUpdate :=
  let r := heap.rounds newHosts currentHosts
  let hostsRemoved := if 0 < r.currentHosts.len then r.heap.memory.read r.currentHosts else []
  (r.heap,
    { changed := decide (0 < r.hostsAdded.length) || decide (0 < hostsRemoved.length)
      finalHosts := r.finalHosts
      hostsAdded := r.hostsAdded
      hostsRemoved := hostsRemoved })

/-! ## §2. The inner loop. -/

/-- What a scan of `rest`, behind the elements `before`, makes of `s`. -/
@[local grind cases]
structure Scanned (nh : Host) (before rest : List Host) (s t : Scan) : Prop where
  valid : t.heap.memory.Valid t.currentHosts
  left : t.heap.memory.read t.currentHosts = before ++ rest.filter fun c => nh.address ≠ c.address
  final : t.finalHosts = s.finalHosts ++ rest.filter fun c => nh.address = c.address
  found : t.found = (s.found || rest.any fun c => nh.address = c.address)
  weight : ∀ h, t.heap.weight h
    = if h ∈ rest ∧ nh.address = h.address then s.heap.weight nh else s.heap.weight h
  array : t.currentHosts.array = s.currentHosts.array
  validFrame : ∀ w, s.heap.memory.Valid w → t.heap.memory.Valid w
  readFrame : ∀ w, w.array ≠ s.currentHosts.array → t.heap.memory.read w = s.heap.memory.read w

theorem Scan.weight_take (s : Scan) (nh curNh : Host) (i : Nat) (h : Host) :
    (s.take nh curNh i).heap.weight h
      = if h = curNh then s.heap.weight nh else s.heap.weight h :=
  Function.update_apply _ _ _ _

theorem eraseIdx_length_append {α : Type} (before : List α) (x : α) (rest : List α) :
    (before ++ x :: rest).eraseIdx before.length = before ++ rest := by
  rw [List.eraseIdx_append_of_length_le (Nat.le_refl _), Nat.sub_self]
  rfl

/-- **A match** moves, and the scan goes on at the same index. -/
theorem Scanned.take {nh curNh : Host} {before rest : List Host} {s t : Scan}
    (hvalid : s.heap.memory.Valid s.currentHosts)
    (hread : s.heap.memory.read s.currentHosts = before ++ curNh :: rest)
    (haddr : nh.address = curNh.address)
    (h : Scanned nh before rest (s.take nh curNh before.length) t) :
    Scanned nh before (curNh :: rest) s t := by
  have hlt : before.length < s.currentHosts.len := by
    rw [← Memory.length_read hvalid, hread, List.length_append, List.length_cons]
    omega
  refine ⟨h.valid, ?_, ?_, ?_, ?_, ?_, ?_, ?_⟩
  · rw [h.left, List.filter_cons_of_neg (by simpa using haddr)]
  · rw [h.final, List.filter_cons_of_pos (by simpa using haddr)]
    exact List.append_assoc _ _ _
  · rw [h.found, List.any_cons, decide_eq_true haddr]
    change (true || _) = (_ || (true || _))
    rw [Bool.true_or, Bool.or_true]
  · intro x
    rw [h.weight x, Scan.weight_take, Scan.weight_take]
    -- the weight of `nh` is read before and after the match, and is the same
    have hnh : (if nh = curNh then s.heap.weight nh else s.heap.weight nh) = s.heap.weight nh :=
      ite_self _
    grind
  · rw [h.array]
    change (s.heap.memory.cut s.currentHosts before.length).2.array = _
    rw [Memory.cut_snd hvalid hlt]
  · intro w hw
    exact h.validFrame w (Memory.valid_cut hvalid hlt hw)
  · intro w hw
    have harray : (s.take nh curNh before.length).currentHosts.array = s.currentHosts.array := by
      change (s.heap.memory.cut s.currentHosts before.length).2.array = _
      rw [Memory.cut_snd hvalid hlt]
    rw [h.readFrame w (harray ▸ hw)]
    exact Memory.read_cut_of_ne hvalid hlt hw

/-- **Any other host** stays, and the scan goes on behind it. -/
theorem Scanned.skip {nh curNh : Host} {before rest : List Host} {s t : Scan}
    (haddr : nh.address ≠ curNh.address) (h : Scanned nh (before ++ [curNh]) rest s t) :
    Scanned nh before (curNh :: rest) s t := by
  refine ⟨h.valid, ?_, ?_, ?_, ?_, h.array, h.validFrame, h.readFrame⟩
  · grind
  · rw [h.final, List.filter_cons_of_neg (by simpa using haddr)]
  · rw [h.found, List.any_cons, decide_eq_false haddr, Bool.false_or]
  · grind

/-- **The inner loop.**  By induction on the elements still to scan; a cut and
a step to the next index both leave one element less. -/
theorem Scan.loop_scanned (nh : Host) (rest : List Host) : ∀ (before : List Host) (s : Scan),
    s.heap.memory.Valid s.currentHosts →
    s.heap.memory.read s.currentHosts = before ++ rest →
    Scanned nh before rest s (Scan.loop nh before.length s) := by
  induction rest with
  | nil =>
    intro before s hvalid hread
    have hlen : s.currentHosts.len = before.length := by
      rw [← Memory.length_read hvalid, hread, List.append_nil]
    unfold Scan.loop
    rw [if_neg (by omega)]
    refine ⟨hvalid, hread, ?_, ?_, ?_, rfl, fun _ h => h, fun _ _ => rfl⟩
    · exact (List.append_nil _).symm
    · exact (Bool.or_false _).symm
    · intro h
      rw [if_neg (fun hmem => List.not_mem_nil hmem.1)]
  | cons curNh rest ih =>
    intro before s hvalid hread
    have hlt : before.length < s.currentHosts.len := by
      rw [← Memory.length_read hvalid, hread, List.length_append, List.length_cons]
      omega
    have hget : (s.heap.memory.read s.currentHosts)[before.length]? = some curNh := by
      rw [hread, List.getElem?_append_right (Nat.le_refl _), Nat.sub_self]
      rfl
    unfold Scan.loop
    rw [if_pos hlt]
    simp only [hget]
    by_cases haddr : nh.address = curNh.address
    · rw [if_pos haddr]
      apply Scanned.take hvalid hread haddr
      apply ih
      · exact Memory.valid_cut_self hvalid hlt
      · change (s.heap.memory.cut s.currentHosts before.length).1.read
          (s.heap.memory.cut s.currentHosts before.length).2 = _
        rw [Memory.read_cut hvalid hlt, hread, eraseIdx_length_append]
    · grind [Scanned.skip, List.append_assoc, List.length_append, List.length_singleton]

/-! ## §3. The outer loop. -/

namespace Rounds

/-- The variables with the current hosts as a list. -/
def merge (r : Rounds) : Merge :=
  ⟨r.hostAddrs, r.finalHosts, r.hostsAdded, r.heap.memory.read r.currentHosts⟩

variable {r : Rounds}

theorem visit_seen {nh : Host} (hseen : nh.address ∈ r.hostAddrs) : r.visit nh = r := by
  unfold visit
  rw [if_pos hseen]

theorem scanned_visit (hvalid : r.heap.memory.Valid r.currentHosts) (nh : Host) :
    Scanned nh [] (r.heap.memory.read r.currentHosts)
      ⟨r.heap, r.finalHosts, r.currentHosts, false⟩
      (Scan.loop nh 0 ⟨r.heap, r.finalHosts, r.currentHosts, false⟩) :=
  Scan.loop_scanned nh _ [] _ hvalid rfl

/-- What a round does outside its own slice: nothing. -/
structure Framed (r t : Rounds) : Prop where
  valid : t.heap.memory.Valid t.currentHosts
  array : t.currentHosts.array = r.currentHosts.array
  validFrame : ∀ w, r.heap.memory.Valid w → t.heap.memory.Valid w
  readFrame : ∀ w, w.array ≠ r.currentHosts.array → t.heap.memory.read w = r.heap.memory.read w

theorem Framed.refl (hvalid : r.heap.memory.Valid r.currentHosts) : Framed r r :=
  ⟨hvalid, rfl, fun _ h => h, fun _ _ => rfl⟩

theorem Framed.trans {s t : Rounds} (h : Framed r s) (h' : Framed s t) : Framed r t where
  valid := h'.valid
  array := h'.array.trans h.array
  validFrame := fun w hw => h'.validFrame w (h.validFrame w hw)
  readFrame := fun w hw => (h'.readFrame w (h.array ▸ hw)).trans (h.readFrame w hw)

theorem framed_visit (hvalid : r.heap.memory.Valid r.currentHosts) (nh : Host) :
    Framed r (r.visit nh) := by
  by_cases hseen : nh.address ∈ r.hostAddrs
  · rw [visit_seen hseen]
    exact .refl hvalid
  · have hscan := scanned_visit hvalid nh
    unfold visit
    rw [if_neg hseen]
    exact ⟨hscan.valid, hscan.array, hscan.validFrame, hscan.readFrame⟩

theorem any_address_eq (hosts : List Host) (nh : Host) : (hosts.any fun c => nh.address = c.address)
      = !decide ((hosts.filter fun c => nh.address = c.address) = []) := by
  rw [Bool.eq_iff_iff, List.any_eq_true, Bool.not_eq_true', decide_eq_false_iff_not,
    List.filter_eq_nil_iff]
  push Not
  rfl

/-- **One round** is a round of the list-level loop. -/
theorem visit_merge (hvalid : r.heap.memory.Valid r.currentHosts) (nh : Host) :
    (r.visit nh).merge = r.merge.visit nh := by
  by_cases hseen : nh.address ∈ r.hostAddrs
  · rw [visit_seen hseen]
    unfold Merge.visit
    exact (if_pos hseen).symm
  · have hscan := scanned_visit hvalid nh
    have hfound := hscan.found
    rw [any_address_eq] at hfound
    change (Scan.loop nh 0 _).found = (false || !decide _) at hfound
    rw [Bool.false_or] at hfound
    unfold visit Merge.visit merge
    grind

theorem framed_foldl (newHosts : List Host) : ∀ {r : Rounds},
    r.heap.memory.Valid r.currentHosts → Framed r (newHosts.foldl visit r) := by
  induction newHosts with
  | nil => exact fun hvalid => .refl hvalid
  | cons nh newHosts ih =>
    intro r hvalid
    have hvisit := framed_visit hvalid nh
    exact hvisit.trans (ih hvisit.valid)

/-- **The whole loop** is the list-level one. -/
theorem foldl_merge (newHosts : List Host) : ∀ {r : Rounds},
    r.heap.memory.Valid r.currentHosts →
      (newHosts.foldl visit r).merge = newHosts.foldl Merge.visit r.merge := by
  induction newHosts with
  | nil => exact fun _ => rfl
  | cons nh newHosts ih =>
    intro r hvalid
    rw [List.foldl_cons, List.foldl_cons, ih (framed_visit hvalid nh).valid,
      visit_merge hvalid nh]

end Rounds

variable {newHosts cur visited : List Host} {currentHosts : Slice} {weight : Host → UInt32}

/-- **The loops compute what the list-level model says.** -/
theorem HostHeap.updateDynamicHostList_eq {heap : HostHeap}
    (hvalid : heap.memory.Valid currentHosts) : (heap.updateDynamicHostList newHosts currentHosts).2
      = Upstream.updateDynamicHostList newHosts (heap.memory.read currentHosts) := by
  have hmerge : (heap.rounds newHosts currentHosts).merge = _ :=
    Rounds.foldl_merge newHosts (r := ⟨heap, [], [], [], currentHosts⟩) hvalid
  have hframed : Rounds.Framed _ (heap.rounds newHosts currentHosts) :=
    Rounds.framed_foldl newHosts (r := ⟨heap, [], [], [], currentHosts⟩) hvalid
  have hremoved : (if 0 < (heap.rounds newHosts currentHosts).currentHosts.len
      then (heap.rounds newHosts currentHosts).heap.memory.read
        (heap.rounds newHosts currentHosts).currentHosts else [])
      = (heap.rounds newHosts currentHosts).merge.currentHosts := by
    by_cases hlen : 0 < (heap.rounds newHosts currentHosts).currentHosts.len
    · exact if_pos hlen
    · rw [if_neg hlen]
      exact (Memory.read_of_len_eq_zero _ (Nat.eq_zero_of_not_pos hlen)).symm
  unfold HostHeap.updateDynamicHostList Upstream.updateDynamicHostList
  simp only [hremoved]
  change HostUpdate.mk (decide (0 < (heap.rounds newHosts currentHosts).merge.hostsAdded.length)
      || decide (0 < (heap.rounds newHosts currentHosts).merge.currentHosts.length))
    (heap.rounds newHosts currentHosts).merge.finalHosts
    (heap.rounds newHosts currentHosts).merge.hostsAdded
    (heap.rounds newHosts currentHosts).merge.currentHosts = _
  rw [hmerge]
  rfl

/-! ## §4. Weights. -/

/-- A current host has the weight of the first new host with its address. -/
@[local grind]
def Weighed (weight : Host → UInt32) (cur visited : List Host) (r : Rounds) : Prop :=
  ∀ h, r.heap.weight h
    = if h ∈ cur then ((visited.find? (·.address = h.address)).map weight).getD (weight h)
      else weight h

theorem Weighed.visit {r : Rounds}
    (h : Weighed weight cur visited r)
    (hm : r.merge = visited.foldl Merge.visit ⟨[], [], [], cur⟩)
    (hvalid : r.heap.memory.Valid r.currentHosts) (nh : Host) :
    Weighed weight cur (visited ++ [nh]) (r.visit nh) := by
  have haddrs : nh.address ∈ r.hostAddrs ↔ ∃ n ∈ visited, n.address = nh.address := by
    rw [show r.hostAddrs = _ from congrArg Merge.hostAddrs hm, mem_hostAddrs]
  by_cases hseen : nh.address ∈ r.hostAddrs
  · -- some visited host has this address already
    intro x
    rw [Rounds.visit_seen hseen, h x, List.find?_append]
    by_cases hx : nh.address = x.address
    · obtain ⟨n, hn, haddr⟩ := haddrs.mp hseen
      grind [List.find?_isSome, Option.isSome_iff_exists]
    · grind
  · have hnone : visited.find? (·.address = nh.address) = none := by
      rw [List.find?_eq_none]
      intro n hn haddr
      exact hseen (haddrs.mpr ⟨n, hn, of_decide_eq_true haddr⟩)
    have hnh : r.heap.weight nh = weight nh := by
      rw [h nh, hnone]
      exact ite_self _
    have hmem : ∀ x, (x ∈ r.heap.memory.read r.currentHosts ∧ nh.address = x.address)
        ↔ x ∈ cur ∧ nh.address = x.address := by
      intro x
      have hread : r.heap.memory.read r.currentHosts = cur.filter (isNew visited) :=
        (congrArg Merge.currentHosts hm).trans (by rw [foldl_visit])
      rw [hread, List.mem_filter, isNew_eq_true]
      grind
    intro x
    have hscan := (Rounds.scanned_visit hvalid nh).weight x
    unfold Rounds.visit
    rw [if_neg hseen]
    change (Scan.loop nh 0 _).heap.weight x = _
    rw [hscan, List.find?_append]
    simp only [hmem, hnh]
    by_cases hx : nh.address = x.address <;> grind

theorem HostHeap.weighed {heap : HostHeap} (hvalid : heap.memory.Valid currentHosts)
    (newHosts : List Host) : Weighed heap.weight (heap.memory.read currentHosts) newHosts
      (heap.rounds newHosts currentHosts) := by
  induction newHosts using List.reverseRecOn with
  | nil => exact fun h => (ite_self _).symm
  | append_singleton visited nh ih =>
    have hmerge := Rounds.foldl_merge visited (r := ⟨heap, [], [], [], currentHosts⟩) hvalid
    have hframed := Rounds.framed_foldl visited (r := ⟨heap, [], [], [], currentHosts⟩) hvalid
    unfold HostHeap.rounds
    rw [List.foldl_append]
    exact ih.visit hmerge hframed.valid nh

/-! ## §5. Order. -/

/-- The object that stands for `nh`: the current host with its address, if
there is one. -/
def represent (cur : List Host) (nh : Host) : Host :=
  (cur.find? (·.address = nh.address)).getD nh

theorem Distinct.filter_address (h : Distinct cur) (a : GoString) :
    (cur.filter fun c => a = c.address) = (cur.find? (·.address = a)).toList := by
  induction cur with
  | nil => rfl
  | cons c cur ih =>
    obtain ⟨hfirst, hrest⟩ := List.pairwise_cons.mp h
    by_cases haddr : a = c.address
    · rw [List.filter_cons_of_pos (by simpa using haddr),
        List.find?_cons_of_pos (by simpa using haddr.symm)]
      have hnone : (cur.filter fun c => a = c.address) = [] := by
        rw [filter_address_eq_nil]
        intro x hx
        exact haddr ▸ Ne.symm (hfirst x hx)
      rw [hnone]
      rfl
    · grind

theorem Distinct.listedFor (h : Distinct cur) (nh : Host) :
    Upstream.listedFor cur nh = [represent cur nh] := by
  unfold Upstream.listedFor represent
  rw [h.filter_address]
  cases hfind : cur.find? (·.address = nh.address) with
  | none =>
    have hnew : isNew cur nh = true :=
      isNew_eq_true.mpr fun c hc haddr =>
        List.find?_eq_none.mp hfind c hc (decide_eq_true haddr)
    rw [if_pos hnew]
    rfl
  | some c =>
    have haddr : c.address = nh.address := by simpa using List.find?_some hfind
    have hold : ¬ isNew cur nh = true := fun hnew =>
      isNew_eq_true.mp hnew c (List.mem_of_find?_eq_some hfind) haddr
    rw [if_neg hold]
    rfl

/-! ## §6. Reconciliation. -/

/-- What reconciling the current hosts with the new ones is: the result `u`,
and the weights before and after. -/
structure Reconciled (newHosts cur : List Host) (u : HostUpdate)
    (before after : Host → UInt32) : Prop where
  finalHosts : u.finalHosts = (firstHosts newHosts).map (represent cur)
  hostsAdded : u.hostsAdded = (firstHosts newHosts).filter (isNew cur)
  hostsRemoved : u.hostsRemoved = cur.filter (isNew newHosts)
  changed : u.changed = true ↔ u.hostsAdded ≠ [] ∨ u.hostsRemoved ≠ []
  newWeight : ∀ nh ∈ firstHosts newHosts, after (represent cur nh) = before nh
  sameWeight : ∀ h, h ∉ cur ∨ isNew newHosts h = true → after h = before h

theorem changed_eq_true_iff (newHosts cur : List Host) :
    (updateDynamicHostList newHosts cur).changed = true
      ↔ (updateDynamicHostList newHosts cur).hostsAdded ≠ []
        ∨ (updateDynamicHostList newHosts cur).hostsRemoved ≠ [] := by
  rw [changed_eq, Bool.or_eq_true, decide_eq_true_eq, decide_eq_true_eq,
    List.length_pos_iff, List.length_pos_iff]

/-- **A call of `updateDynamicHostList`.** -/
theorem HostHeap.reconciled {heap : HostHeap} (hvalid : heap.memory.Valid currentHosts)
    (hdistinct : Distinct (heap.memory.read currentHosts)) :
    Reconciled newHosts (heap.memory.read currentHosts)
      (heap.updateDynamicHostList newHosts currentHosts).2 heap.weight
      (heap.updateDynamicHostList newHosts currentHosts).1.weight := by
  have hweighed := HostHeap.weighed hvalid newHosts
  have hlisted : Upstream.listedFor (heap.memory.read currentHosts)
      = fun nh => [represent (heap.memory.read currentHosts) nh] := funext hdistinct.listedFor
  rw [HostHeap.updateDynamicHostList_eq hvalid]
  refine ⟨?_, hostsAdded_eq _ _, hostsRemoved_eq _ _, changed_eq_true_iff _ _, ?_, ?_⟩
  · rw [finalHosts_eq, hlisted]
    exact List.map_eq_flatMap.symm
  · intro nh hnh
    have hfirst := mem_firstHosts.mp hnh
    refine (hweighed _).trans ?_
    unfold represent
    cases hfind : (heap.memory.read currentHosts).find? (·.address = nh.address) with
    | none => grind
    | some c => grind
  · intro h hkeep
    refine (hweighed h).trans ?_
    rcases hkeep with hcur | hnew
    · exact if_neg hcur
    · grind [List.find?_eq_none, isNew_eq_true]

/-! ## §7. Whole runs of `UpdateHosts`. -/

/-- A cluster, with the weights of the host objects. -/
structure WeighedCluster where
  cluster : SimpleInMemCluster
  weight : Host → UInt32

namespace WeighedCluster

/-- The copy that `UpdateHosts` hands over, and the heap it is in. -/
def heap (c : WeighedCluster) : HostHeap :=
  ⟨(c.cluster.memory.alloc c.cluster.hostList).1, c.weight⟩

def curHosts (c : WeighedCluster) : Slice := (c.cluster.memory.alloc c.cluster.hostList).2

/-- `UpdateHosts`.  The weights are written even if the list is not. -/
def updateHosts (c : WeighedCluster) (newHosts : List Host) : WeighedCluster × Told :=
  let r := c.heap.updateDynamicHostList newHosts c.curHosts
  if r.2.changed then
    let finalHosts := r.1.memory.alloc r.2.finalHosts
    let notice : Notice := ⟨r.2.hostsAdded, r.2.hostsRemoved⟩
    (⟨{ c.cluster with
        memory := finalHosts.1
        hosts := finalHosts.2
        hostSet := ⟨finalHosts.2, finalHosts.2, []⟩ }, r.1.weight⟩,
      ⟨[notice], if c.cluster.healthChecker then [notice] else []⟩)
  else (⟨{ c.cluster with memory := r.1.memory }, r.1.weight⟩, Told.nothing)

variable (c : WeighedCluster)

theorem valid_curHosts : c.heap.memory.Valid c.curHosts :=
  Memory.valid_alloc_self _ _

theorem read_curHosts : c.heap.memory.read c.curHosts = c.cluster.hostList :=
  Memory.read_alloc_self _ _

theorem read_frame (newHosts : List Host) {w : Slice} (hw : c.cluster.memory.Valid w) :
    (c.heap.updateDynamicHostList newHosts c.curHosts).1.memory.Valid w
      ∧ (c.heap.updateDynamicHostList newHosts c.curHosts).1.memory.read w
        = c.cluster.memory.read w := by
  have hframed : Rounds.Framed _ (c.heap.rounds newHosts c.curHosts) :=
    Rounds.framed_foldl newHosts (r := ⟨c.heap, [], [], [], c.curHosts⟩) c.valid_curHosts
  refine ⟨hframed.validFrame w (Memory.valid_alloc hw _), ?_⟩
  by_cases hlen : 0 < w.len
  · exact (hframed.readFrame w (Memory.array_alloc_ne hw hlen _)).trans (Memory.read_alloc hw _)
  · rw [Memory.read_of_len_eq_zero _ (Nat.eq_zero_of_not_pos hlen),
      Memory.read_of_len_eq_zero _ (Nat.eq_zero_of_not_pos hlen)]

/-- The two models of `UpdateHosts` list the same hosts and tell the same. -/
structure Alike (c : WeighedCluster) (c' : SimpleInMemCluster) : Prop where
  hostList : c.cluster.hostList = c'.hostList
  allHosts : c.cluster.allHosts = c'.allHosts
  healthyHosts : c.cluster.healthyHosts = c'.healthyHosts
  wf : c.cluster.Wf

/-- **One call of `UpdateHosts`.** -/
theorem updateHosts_alike {c : WeighedCluster} (hwf : c.cluster.Wf) (newHosts : List Host) :
    Alike (c.updateHosts newHosts).1 (c.cluster.updateHosts newHosts).1
      ∧ (c.updateHosts newHosts).2 = (c.cluster.updateHosts newHosts).2 := by
  have hu : (c.heap.updateDynamicHostList newHosts c.curHosts).2
      = Upstream.updateDynamicHostList newHosts c.cluster.hostList := by
    rw [HostHeap.updateDynamicHostList_eq c.valid_curHosts, read_curHosts]
  have hsame : c.cluster.hostSet.hosts = c.cluster.hosts := hwf.sameList
  obtain ⟨hvalid, hread⟩ := c.read_frame newHosts hwf.valid
  obtain ⟨hvalidHealthy, hreadHealthy⟩ := c.read_frame newHosts hwf.healthyValid
  unfold updateHosts
  simp only [hu]
  cases hch : (Upstream.updateDynamicHostList newHosts c.cluster.hostList).changed with
  | false =>
    rw [SimpleInMemCluster.updateHosts_unchanged hch]
    refine ⟨⟨hread, ?_, hreadHealthy, ⟨hsame, hvalid, hvalidHealthy, hwf.noLocality⟩⟩, rfl⟩
    change Memory.read _ c.cluster.hostSet.hosts = Memory.read _ c.cluster.hostSet.hosts
    rw [hsame]
    exact hread
  | true =>
    obtain ⟨hlist, hall, hhealthy, -⟩ := SimpleInMemCluster.updateHosts_changed hch
    rw [SimpleInMemCluster.told_updateHosts hch rfl]
    refine ⟨⟨?_, ?_, ?_, ⟨rfl, ?_, ?_, rfl⟩⟩, rfl⟩
    · rw [hlist]
      exact Memory.read_alloc_self _ _
    · rw [hall]
      exact Memory.read_alloc_self _ _
    · rw [hhealthy]
      exact Memory.read_alloc_self _ _
    · exact Memory.valid_alloc_self _ _
    · exact Memory.valid_alloc_self _ _

theorem healthChecker_updateHosts (newHosts : List Host) :
    (c.updateHosts newHosts).1.cluster.healthChecker = c.cluster.healthChecker := by
  cases hch : (c.heap.updateDynamicHostList newHosts c.curHosts).2.changed with
  | false => simp only [updateHosts, hch, Bool.false_eq_true, if_false]
  | true => simp only [updateHosts, hch, if_true]

/-- One call after the other; what the listeners are told is collected. -/
def updates (c : WeighedCluster) : List (List Host) → WeighedCluster × Told
  | [] => (c, Told.nothing)
  | newHosts :: calls =>
    let first := c.updateHosts newHosts
    let rest := updates first.1 calls
    (rest.1, ⟨first.2.callbacks ++ rest.2.callbacks,
      first.2.healthChecker ++ rest.2.healthChecker⟩)

theorem healthChecker_updates (calls : List (List Host)) : ∀ (c : WeighedCluster),
    (c.updates calls).1.cluster.healthChecker = c.cluster.healthChecker := by
  induction calls with
  | nil => exact fun _ => rfl
  | cons newHosts calls ih =>
    intro c
    exact (ih (c.updateHosts newHosts).1).trans (c.healthChecker_updateHosts newHosts)

end WeighedCluster

/-- The set of addresses of some hosts. -/
def addresses (hosts : List Host) : Finset GoString := (hosts.map Host.address).toFinset

theorem mem_addresses {hosts : List Host} {a : GoString} :
    a ∈ addresses hosts ↔ ∃ h ∈ hosts, h.address = a := by
  unfold addresses
  rw [List.mem_toFinset, List.mem_map]

/-- The addresses that a listener knows of once it has followed a notice. -/
def Notice.replay (known : Finset GoString) (notice : Notice) : Finset GoString :=
  (known \ addresses notice.hostsRemoved) ∪ addresses notice.hostsAdded

/-- **One notice** takes the old addresses to the new ones. -/
theorem replay_updateDynamicHostList (newHosts cur : List Host) :
    Notice.replay (addresses cur) ⟨(updateDynamicHostList newHosts cur).hostsAdded,
        (updateDynamicHostList newHosts cur).hostsRemoved⟩
      = addresses (updateDynamicHostList newHosts cur).finalHosts := by
  have hdelta := delta_updateDynamicHostList newHosts cur
  unfold Notice.replay
  ext a
  rw [Finset.mem_union, Finset.mem_sdiff, mem_addresses, mem_addresses, mem_addresses,
    mem_addresses]
  constructor
  · rintro (⟨⟨c, hc, haddr⟩, hkept⟩ | ⟨h, hh, haddr⟩)
    · exact ⟨c, (hdelta.mem_final c).mpr (.inr ⟨hc, fun hgone => hkept ⟨c, hgone, haddr⟩⟩), haddr⟩
    · exact ⟨h, (hdelta.mem_final h).mpr (.inl hh), haddr⟩
  · rintro ⟨h, hh, rfl⟩
    rcases (hdelta.mem_final h).mp hh with hadded | ⟨hcur, -⟩
    · exact .inr ⟨h, hadded, rfl⟩
    · refine .inl ⟨⟨h, hcur, rfl⟩, ?_⟩
      rintro ⟨r, hr, haddr⟩
      exact hdelta.removed_gone r hr h hh haddr.symm

theorem replay_updateHosts (c : SimpleInMemCluster) (newHosts : List Host) :
    (c.updateHosts newHosts).2.callbacks.foldl Notice.replay (addresses c.hostList)
        = addresses (c.updateHosts newHosts).1.hostList
      ∧ (c.updateHosts newHosts).2.healthChecker
        = (if c.healthChecker then (c.updateHosts newHosts).2.callbacks else [])
      ∧ (Distinct c.hostList → Distinct (c.updateHosts newHosts).1.hostList) := by
  cases hch : (updateDynamicHostList newHosts c.hostList).changed with
  | false =>
    rw [SimpleInMemCluster.updateHosts_unchanged hch]
    exact ⟨rfl, (ite_self _).symm, fun h => h⟩
  | true =>
    rw [SimpleInMemCluster.told_updateHosts hch rfl,
      (SimpleInMemCluster.updateHosts_changed hch).1]
    exact ⟨replay_updateDynamicHostList newHosts c.hostList, rfl,
      (delta_updateDynamicHostList newHosts c.hostList).finalDistinct⟩

/-- What a run of `UpdateHosts` has kept. -/
@[local grind cases]
structure Followed (known : Finset GoString) (r : WeighedCluster × Told) : Prop where
  distinct : Distinct r.1.cluster.hostList
  replayed : r.2.callbacks.foldl Notice.replay known = addresses r.1.cluster.hostList
  healthChecker : r.2.healthChecker = if r.1.cluster.healthChecker then r.2.callbacks else []

/-- **Any sequence of calls**, from any cluster whose hosts have distinct addresses. -/
theorem WeighedCluster.followed_updates (calls : List (List Host)) : ∀ {c : WeighedCluster},
    c.cluster.Wf → Distinct c.cluster.hostList →
      Followed (addresses c.cluster.hostList) (c.updates calls) := by
  induction calls with
  | nil =>
    intro c _ hdistinct
    exact ⟨hdistinct, rfl, (ite_self _).symm⟩
  | cons newHosts calls ih =>
    intro c hwf hdistinct
    obtain ⟨halike, htold⟩ := updateHosts_alike hwf newHosts
    obtain ⟨hreplay, hchecker, hkeep⟩ := replay_updateHosts c.cluster newHosts
    have hrest := ih halike.wf (halike.hostList ▸ hkeep hdistinct)
    refine ⟨hrest.distinct, ?_, ?_⟩
    · change ((c.updateHosts newHosts).2.callbacks ++ _).foldl _ _ = _
      rw [List.foldl_append, htold, hreplay, ← halike.hostList]
      exact hrest.replayed
    · change (c.updateHosts newHosts).2.healthChecker
          ++ ((c.updateHosts newHosts).1.updates calls).2.healthChecker
        = if ((c.updateHosts newHosts).1.updates calls).1.cluster.healthChecker
          then (c.updateHosts newHosts).2.callbacks
            ++ ((c.updateHosts newHosts).1.updates calls).2.callbacks else []
      grind [healthChecker_updates, healthChecker_updateHosts]

/-- **Host-list reconciliation is a correct set difference**, for one call on
any current hosts with distinct addresses, and over any sequence of
`UpdateHosts` calls on a new cluster. -/
theorem reconciliation_exact (heap : HostHeap) (newHosts : List Host) (currentHosts : Slice)
    (hvalid : heap.memory.Valid currentHosts)
    (hdistinct : Distinct (heap.memory.read currentHosts)) (grow : Nat → Nat)
    (healthChecker : Bool) (weight : Host → UInt32) (calls : List (List Host)) :
    Reconciled newHosts (heap.memory.read currentHosts)
        (heap.updateDynamicHostList newHosts currentHosts).2 heap.weight
        (heap.updateDynamicHostList newHosts currentHosts).1.weight
      ∧ Followed ∅ (WeighedCluster.updates ⟨newSimpleInMemCluster grow healthChecker, weight⟩
          calls) := by
  refine ⟨HostHeap.reconciled hvalid hdistinct, ?_⟩
  exact WeighedCluster.followed_updates calls
    (c := ⟨newSimpleInMemCluster grow healthChecker, weight⟩)
    (SimpleInMemCluster.wf_new grow healthChecker) distinct_nil

/-- Two current hosts; the new list has one of them, twice, with other weights,
and a host that is new. -/
theorem reconciliation_exact_at :
    let host : Nat → String → Host := fun object address => ⟨object, str address, [], ∅⟩
    let heap : HostHeap := ⟨⟨[⟨[host 0 "a", host 1 "b"], 2, by decide⟩], id⟩,
      fun h => if h.object = 2 then 30 else 10⟩
    let newHosts : List Host := [host 2 "b", host 3 "c", host 4 "b"]
    Reconciled newHosts (heap.memory.read ⟨some 0, 0, 2⟩)
        (heap.updateDynamicHostList newHosts ⟨some 0, 0, 2⟩).2 heap.weight
        (heap.updateDynamicHostList newHosts ⟨some 0, 0, 2⟩).1.weight
      ∧ Followed ∅ (WeighedCluster.updates ⟨newSimpleInMemCluster id true, fun _ => 1⟩
          [[host 0 "a", host 1 "b"], [host 2 "b"]]) := by
  intro host heap newHosts
  refine reconciliation_exact heap newHosts ⟨some 0, 0, 2⟩ ?_ ?_ id true (fun _ => 1) _
  · exact Nat.le_refl 2
  · change Distinct [host 0 "a", host 1 "b"]
    unfold Distinct
    decide

/-- **The last list wins**; given again, it changes nothing and is not
announced. -/
theorem updateHosts_settles (c : SimpleInMemCluster) (newHosts : List Host) :
    SameAddresses newHosts (c.updateHosts newHosts).1.hostList
      ∧ (c.updateHosts newHosts).1.updateHosts newHosts
        = ((c.updateHosts newHosts).1, Told.nothing) := by
  have hsame : SameAddresses newHosts (c.updateHosts newHosts).1.hostList := by
    cases hch : (updateDynamicHostList newHosts c.hostList).changed with
    | false =>
      rw [SimpleInMemCluster.updateHosts_unchanged hch]
      exact changed_eq_false_iff.mp hch
    | true =>
      rw [(SimpleInMemCluster.updateHosts_changed hch).1]
      exact ⟨fun n hn => exists_address_finalHosts.mpr ⟨n, hn, rfl⟩,
        fun h hh => exists_address_finalHosts.mp ⟨h, hh, rfl⟩⟩
  exact ⟨hsame, SimpleInMemCluster.updateHosts_unchanged (changed_eq_false_iff.mpr hsame)⟩

end Mosn.Upstream
