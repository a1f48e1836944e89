/-
  Mosn.Lib.Trie
  **TRIES: ENTRIES AT THE END OF PATHS.**

  A node may hold an entry and has a child for each key in use.  The nodes
  on the way to an entry need not hold one: `create` makes the nodes of a
  path and leaves them empty, `put` fills an existing node.

      find (create p t) p    is a node, whatever `t` is
      entryAt (create p t)   is what it was, on every path
      entryAt (put p x t)    is changed at `p` and nowhere else
-/
import Mathlib.Data.List.Basic

namespace Mosn.Lib

/-- A trie with keys `κ` and entries `ε`. -/
inductive Trie (κ ε : Type) where
  | node (entry : Option ε) (children : κ → Option (Trie κ ε))

namespace Trie

variable {κ ε : Type}

/-- A node without an entry and without children. -/
def empty : Trie κ ε := node none fun _ => none

/-- The entry of a node. -/
def entry : Trie κ ε → Option ε
  | node e _ => e

/-- The node that a path leads to. -/
def find : Trie κ ε → List κ → Option (Trie κ ε)
  | t, [] => some t
  | node _ c, k :: p => (c k).bind (find · p)

/-- The entry that a path leads to. -/
def entryAt (t : Trie κ ε) (p : List κ) : Option ε := (t.find p).bind entry

variable [DecidableEq κ]

/-- Make the nodes of a path that are not there yet. -/
def create : List κ → Trie κ ε → Trie κ ε
  | [], t => t
  | k :: p, node e c =>
    node e fun k' => if k' = k then some (create p ((c k).getD empty)) else c k'

/-- Give the node at the end of a path a new entry. -/
def put : List κ → ε → Trie κ ε → Trie κ ε
  | [], x, node _ c => node (some x) c
  | k :: p, x, node e c => node e fun k' => if k' = k then (c k).map (put p x) else c k'

/-! ## §1. What a path leads to. -/

omit [DecidableEq κ] in
theorem entryAt_cons (e : Option ε) (c : κ → Option (Trie κ ε)) (k : κ) (p : List κ) :
    (node e c).entryAt (k :: p) = (c k).bind (entryAt · p) := by
  unfold entryAt
  simp only [find]
  cases c k with
  | none => rfl
  | some t => rfl

omit [DecidableEq κ] in
theorem entryAt_empty (p : List κ) : (empty : Trie κ ε).entryAt p = none := by
  cases p with
  | nil => rfl
  | cons k p => rw [empty, entryAt_cons]; rfl

omit [DecidableEq κ] in
theorem find_of_entryAt {t : Trie κ ε} {p : List κ} {x : ε} (h : t.entryAt p = some x) :
    ∃ n, t.find p = some n ∧ n.entry = some x :=
  Option.bind_eq_some_iff.mp h

omit [DecidableEq κ] in
theorem entryAt_of_find {t n : Trie κ ε} {p : List κ} (h : t.find p = some n) :
    t.entryAt p = n.entry := by
  unfold entryAt
  rw [h]
  rfl

/-! ## §2. Making nodes. -/

variable (p q : List κ)

/-- **New nodes are empty**: every path leads to the entry it led to. -/
theorem entryAt_create (t : Trie κ ε) : (create p t).entryAt q = t.entryAt q := by
  -- on the path that is made; the trie below it and the path looked up vary
  induction p generalizing t q with
  | nil => rfl
  | cons k p ih =>
    obtain ⟨e, c⟩ := t
    cases q with
    | nil => rfl
    | cons k' q =>
      simp only [create]
      rw [entryAt_cons, entryAt_cons]
      by_cases hk : k' = k
      · subst hk
        rw [if_pos rfl]
        change (create p ((c k').getD empty)).entryAt q = _
        rw [ih]
        cases c k' with
        | none => exact entryAt_empty q
        | some t => rfl
      · rw [if_neg hk]

theorem find_create (t : Trie κ ε) : ∃ n, (create p t).find p = some n := by
  induction p generalizing t with
  | nil => exact ⟨t, rfl⟩
  | cons k p ih =>
    obtain ⟨e, c⟩ := t
    obtain ⟨n, hn⟩ := ih ((c k).getD empty)
    refine ⟨n, ?_⟩
    simp only [create, find, if_true]
    exact hn

/-! ## §3. Filling a node. -/

/-- **Putting an entry** at the end of an existing path changes what this path
leads to, and no other. -/
theorem entryAt_put (x : ε) {t n : Trie κ ε} (h : t.find p = some n) :
    (put p x t).entryAt q = if q = p then some x else t.entryAt q := by
  induction p generalizing t q with
  | nil =>
    obtain ⟨e, c⟩ := t
    cases q with
    | nil => rfl
    | cons k' q =>
      rw [if_neg (List.cons_ne_nil k' q), entryAt_cons]
      simp only [put]
      rw [entryAt_cons]
  | cons k p ih =>
    obtain ⟨e, c⟩ := t
    simp only [find] at h
    obtain ⟨child, hchild, hfind⟩ := Option.bind_eq_some_iff.mp h
    cases q with
    | nil => rfl
    | cons k' q =>
      simp only [put]
      rw [entryAt_cons, entryAt_cons]
      by_cases hk : k' = k
      · subst hk
        rw [if_pos rfl, hchild]
        change (put p x child).entryAt q = if _ then _ else child.entryAt q
        rw [ih q hfind]
        simp only [List.cons.injEq, true_and]
      · rw [if_neg hk, if_neg (fun heq => hk (List.cons.inj heq).1)]

theorem entryAt_put_create (x : ε) (t : Trie κ ε) :
    (put p x (create p t)).entryAt q = if q = p then some x else t.entryAt q := by
  obtain ⟨n, hn⟩ := find_create p t
  rw [entryAt_put p q x hn, entryAt_create]

end Trie

end Mosn.Lib
