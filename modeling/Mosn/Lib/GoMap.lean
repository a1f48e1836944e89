/-
  Mosn.Lib.GoMap
  **UNORDERED MAPS WITH A RANGE LOOP.**

  A map is Mathlib's `Finmap`: extensional, with `lookup`, `insert` and
  `erase`.  What a language with hash maps adds is the RANGE LOOP, whose
  order is not determined by the map.  Here an order is an explicit
  argument: a `Listing m` is one way of running through the entries of `m`,
  and a `RangeOrder` picks a listing of every map.

    • `lookup_insertAll_of_mem` — what a list of assignments leaves behind,
    • `lookup_foldl_insert` — the same where all keys get one value,
    • `lookup_deleteAll`   — what a list of deletions leaves behind,
    • `insertAll_listing`  — copying a map entry by entry is the union,
      whatever the order,
    • `find?_key`          — searching a key in a range loop is a lookup,
    • `lookup_convert`     — a loop that converts each value,
    • `length_le_len`      — counting keys from below.
-/
import Mathlib.Data.Finmap

namespace Mosn.Lib

/-- An unordered map. -/
abbrev GoMap (κ ν : Type) : Type := Finmap (fun _ : κ => ν)

namespace GoMap

variable {κ ν : Type} [DecidableEq κ]

/-! ## §1. One assignment, one deletion. -/

variable (m : GoMap κ ν)

theorem lookup_insert_ite (k k' : κ) (v : ν) :
    (m.insert k v).lookup k' = if k' = k then some v else m.lookup k' := by
  by_cases h : k' = k
  · subst h
    rw [if_pos rfl, Finmap.lookup_insert]
  · rw [if_neg h, Finmap.lookup_insert_of_ne _ h]

theorem lookup_erase_ite (k k' : κ) :
    (m.erase k).lookup k' = if k' = k then none else m.lookup k' := by
  by_cases h : k' = k
  · subst h
    rw [if_pos rfl, Finmap.lookup_erase]
  · rw [if_neg h, Finmap.lookup_erase_ne h]

theorem lookup_union_orElse (n : GoMap κ ν) (k : κ) :
    (m ∪ n).lookup k = (m.lookup k).orElse (fun _ => n.lookup k) := by
  by_cases h : k ∈ m
  · rw [Finmap.lookup_union_left h]
    obtain ⟨v, hv⟩ := Finmap.mem_iff.mp h
    rw [hv]
    rfl
  · rw [Finmap.lookup_union_right h, Finmap.lookup_eq_none.mpr h]
    rfl

/-- The number of entries. -/
def len (m : GoMap κ ν) : Nat := m.keys.card

theorem length_le_len (ks : List κ) (hks : ks.Nodup) (h : ∀ k ∈ ks, k ∈ m) : ks.length ≤ m.len := by
  rw [← List.toFinset_card_of_nodup hks]
  apply Finset.card_le_card
  intro k hk
  exact Finmap.mem_keys.mpr (h k (List.mem_toFinset.mp hk))

variable (m : GoMap κ ν)

omit [DecidableEq κ] in
theorem len_eq_zero_iff : m.len = 0 ↔ ∀ k, k ∉ m := by
  unfold len
  rw [Finset.card_eq_zero, Finset.eq_empty_iff_forall_notMem]
  constructor
  · intro h k hk
    exact h k (Finmap.mem_keys.mpr hk)
  · intro h k hk
    exact h k (Finmap.mem_keys.mp hk)

/-! ## §2. Lists of assignments and deletions. -/

/-- Assign the listed entries one after the other (later ones win). -/
def insertAll (m : GoMap κ ν) (l : List (κ × ν)) : GoMap κ ν :=
  l.foldl (fun m e => m.insert e.1 e.2) m

/-- Delete the listed keys one after the other. -/
def deleteAll (m : GoMap κ ν) (ks : List κ) : GoMap κ ν :=
  ks.foldl (fun m k => m.erase k) m

theorem insertAll_cons (e : κ × ν) (l : List (κ × ν)) :
    insertAll m (e :: l) = insertAll (m.insert e.1 e.2) l := rfl

theorem lookup_deleteAll (ks : List κ) (k : κ) : ∀ m : GoMap κ ν,
    (deleteAll m ks).lookup k = if k ∈ ks then none else m.lookup k := by
  induction ks with
  | nil => intro m; simp [deleteAll]
  | cons a ks ih =>
    intro m
    show (deleteAll (m.erase a) ks).lookup k = _
    rw [ih, lookup_erase_ite]
    by_cases hk : k ∈ ks
    · rw [if_pos hk, if_pos (List.mem_cons_of_mem _ hk)]
    · by_cases ha : k = a <;> simp [hk, ha]

theorem deleteAll_eq_self_iff (ks : List κ) : deleteAll m ks = m ↔ ∀ k ∈ ks, k ∉ m := by
  constructor
  · intro h k hk hmem
    obtain ⟨v, hv⟩ := Finmap.mem_iff.mp hmem
    rw [← h, lookup_deleteAll, if_pos hk] at hv
    cases hv
  · intro h
    apply Finmap.ext_lookup
    intro k
    rw [lookup_deleteAll]
    split
    next hk => exact (Finmap.lookup_eq_none.mpr (h k hk)).symm
    next => rfl

variable {m} in
theorem erase_of_lookup_none {k : κ} (h : m.lookup k = none) : m.erase k = m := by
  refine (deleteAll_eq_self_iff m [k]).mpr fun k' hk' => ?_
  rw [List.mem_singleton.mp hk']
  exact Finmap.lookup_eq_none.mp h

theorem lookup_insertAll_of_notMem (k : κ) : ∀ (l : List (κ × ν)) (m : GoMap κ ν),
    k ∉ l.map Prod.fst → (insertAll m l).lookup k = m.lookup k
  | [], _, _ => rfl
  | e :: l, m, hk => by
      rw [List.map_cons, List.mem_cons, not_or] at hk
      rw [insertAll_cons, lookup_insertAll_of_notMem k l _ hk.2,
        Finmap.lookup_insert_of_ne _ hk.1]

theorem lookup_insertAll_of_mem (k : κ) (v : ν) : ∀ (l : List (κ × ν)) (m : GoMap κ ν),
    (l.map Prod.fst).Nodup → (k, v) ∈ l → (insertAll m l).lookup k = some v
  | e :: l, m, hnd, hmem => by
      rw [List.map_cons, List.nodup_cons] at hnd
      rw [insertAll_cons]
      rcases List.mem_cons.mp hmem with h | h
      · subst h
        rw [lookup_insertAll_of_notMem k l _ hnd.1, Finmap.lookup_insert]
      · exact lookup_insertAll_of_mem k v l _ hnd.2 h

theorem lookup_foldl_insert (k : κ) (v : ν) (ks : List κ) :
    ∀ m : GoMap κ ν, (ks.foldl (fun m k => m.insert k v) m).lookup k
      = if k ∈ ks then some v else m.lookup k := by
  induction ks with
  | nil =>
    intro m
    rw [if_neg List.not_mem_nil]
    rfl
  | cons k' ks ih =>
    intro m
    rw [List.foldl_cons, ih, lookup_insert_ite, ← ite_or]
    apply if_congr _ rfl rfl
    rw [List.mem_cons, or_comm]

/-! ## §3. Range loops. -/

/-- One way of running through the entries of `m`: every entry once. -/
structure Listing (m : GoMap κ ν) where
  entries : List (κ × ν)
  nodup : (entries.map Prod.fst).Nodup
  mem_iff : ∀ k v, (k, v) ∈ entries ↔ m.lookup k = some v

/-- An iteration order: one listing for every map. -/
abbrev RangeOrder (κ ν : Type) [DecidableEq κ] : Type :=
  (m : GoMap κ ν) → Listing m

theorem Listing.entries_empty (l : Listing (∅ : GoMap κ ν)) : l.entries = [] := by
  apply List.eq_nil_iff_forall_not_mem.mpr
  rintro ⟨k, v⟩ hmem
  rw [l.mem_iff, Finmap.lookup_empty] at hmem
  cases hmem

variable {m : GoMap κ ν}

theorem Listing.mem_keys (l : Listing m) (k : κ) : k ∈ l.entries.map Prod.fst ↔ k ∈ m := by
  rw [Finmap.mem_iff, List.mem_map]
  constructor
  · rintro ⟨⟨a, v⟩, hmem, rfl⟩
    exact ⟨v, (l.mem_iff a v).mp hmem⟩
  · rintro ⟨v, hv⟩
    exact ⟨(k, v), (l.mem_iff k v).mpr hv, rfl⟩

theorem Listing.find?_key (l : Listing m) (k : κ) :
    (l.entries.find? fun e => e.1 = k).map Prod.snd = m.lookup k := by
  cases hfind : l.entries.find? fun e => e.1 = k with
  | none =>
    symm
    apply Finmap.lookup_eq_none.mpr
    intro hmem
    obtain ⟨e, he, hk⟩ := List.mem_map.mp ((l.mem_keys k).mpr hmem)
    have hne := List.find?_eq_none.mp hfind e he
    simp [hk] at hne
  | some e =>
    have hk : e.1 = k := by simpa using List.find?_some hfind
    subst hk
    exact ((l.mem_iff e.1 e.2).mp (List.mem_of_find?_eq_some hfind)).symm

/-- **Copying a map entry by entry is the union**, in every order. -/
theorem insertAll_listing (m n : GoMap κ ν) (l : Listing m) : insertAll n l.entries = m ∪ n := by
  apply Finmap.ext_lookup
  intro k
  by_cases hk : k ∈ m
  · obtain ⟨v, hv⟩ := Finmap.mem_iff.mp hk
    rw [Finmap.lookup_union_left hk, hv]
    exact lookup_insertAll_of_mem k v _ _ l.nodup ((l.mem_iff k v).mpr hv)
  · rw [Finmap.lookup_union_right hk]
    exact lookup_insertAll_of_notMem k _ _ (fun h => hk ((l.mem_keys k).mp h))

/-- **A loop that converts each value**, in every order. -/
theorem Listing.lookup_convert {μ : Type} (l : Listing m) (f : ν → μ) (k : κ) :
    (insertAll ∅ (l.entries.map fun e => (e.1, f e.2))).lookup k = (m.lookup k).map f := by
  have hkeys : (l.entries.map fun e => (e.1, f e.2)).map Prod.fst = l.entries.map Prod.fst := by
    rw [List.map_map]
    rfl
  cases hv : m.lookup k with
  | none =>
    rw [lookup_insertAll_of_notMem, Finmap.lookup_empty, Option.map_none]
    rw [hkeys, l.mem_keys]
    exact Finmap.lookup_eq_none.mp hv
  | some v =>
    apply lookup_insertAll_of_mem k (f v) _ _ (hkeys ▸ l.nodup)
    exact List.mem_map.mpr ⟨(k, v), (l.mem_iff k v).mpr hv, rfl⟩

theorem Listing.perm (l l' : Listing m) : l.entries.Perm l'.entries := by
  apply (List.perm_ext_iff_of_nodup (l.nodup.of_map _) (l'.nodup.of_map _)).mpr
  intro e
  exact (l.mem_iff e.1 e.2).trans (l'.mem_iff e.1 e.2).symm

theorem deleteAll_union (m : GoMap κ ν) (l : List (κ × ν)) (ks : List κ)
    (hl : ∀ e ∈ l, e.1 ∈ ks) (hm : ∀ k ∈ ks, k ∉ m) : deleteAll (m ∪ insertAll ∅ l) ks = m := by
  apply Finmap.ext_lookup
  intro k
  rw [lookup_deleteAll]
  split
  next hk => exact (Finmap.lookup_eq_none.mpr (hm k hk)).symm
  next hk =>
      have hnone : (insertAll (∅ : GoMap κ ν) l).lookup k = none := by
        rw [lookup_insertAll_of_notMem k l ∅]
        · exact Finmap.lookup_empty k
        · intro hmem
          obtain ⟨e, he, rfl⟩ := List.mem_map.mp hmem
          exact hk (hl e he)
      rw [lookup_union_orElse, hnone]
      cases m.lookup k <;> rfl

/-- A list of entries with distinct keys is a listing of the map it builds. -/
def listingOf (l : List (κ × ν)) (h : (l.map Prod.fst).Nodup) :
    Listing (insertAll (∅ : GoMap κ ν) l) where
  entries := l
  nodup := h
  mem_iff := by
    intro k v
    constructor
    · exact lookup_insertAll_of_mem k v l ∅ h
    · intro hv
      by_cases hk : k ∈ l.map Prod.fst
      · obtain ⟨⟨a, w⟩, hmem, rfl⟩ := List.mem_map.mp hk
        have hw := lookup_insertAll_of_mem a w l ∅ h hmem
        rw [hw, Option.some.injEq] at hv
        rwa [← hv]
      · rw [lookup_insertAll_of_notMem k l ∅ hk] at hv
        simp at hv

/-- Every map can be run through in some order. -/
noncomputable def someOrder : RangeOrder κ ν := fun m =>
  { entries := m.entries.toList.map (fun e => (e.1, e.2))
    nodup := by
      have h : (m.entries.toList.map Sigma.fst).Nodup := by
        have := m.nodupKeys
        rw [← Multiset.coe_toList m.entries, Multiset.coe_nodupKeys] at this
        exact this
      rw [List.map_map]
      exact h
    mem_iff := by
      intro k v
      rw [show m.lookup k = some v ↔ (⟨k, v⟩ : Σ _ : κ, ν) ∈ m.entries
            from Finmap.lookup_eq_some_iff, List.mem_map]
      constructor
      · rintro ⟨⟨a, b⟩, hmem, heq⟩
        simp only [Prod.mk.injEq] at heq
        obtain ⟨rfl, rfl⟩ := heq
        exact Multiset.mem_toList.mp hmem
      · intro h
        exact ⟨⟨k, v⟩, Multiset.mem_toList.mpr h, rfl⟩ }

end GoMap

end Mosn.Lib
