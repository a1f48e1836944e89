/-
  Mosn.Lib.Table
  **LISTS AS TABLES.**

  Entries are numbered in the order in which they were added; they change one
  at a time and are never taken away.

    • `getElem?_added`, `getElem?_kept` — what is found after one more entry,
    • `getElem?_modified`, `modify_split` — and after one has changed,
    • `sum_map_modify`, `sum_map_set`, `countP_modify_add` — what a change of one
      entry does to a sum over all of them, and to a count.
-/
import Mathlib.Algebra.Ring.Nat

namespace Mosn.Lib

variable {α : Type}

variable {l : List α} {x y : α} {i j : Nat} {f : α → α} {p : α → Bool}

theorem getElem?_added (h : (l ++ [x])[i]? = some y) : l[i]? = some y ∨ (i = l.length ∧ y = x) := by
  rcases Nat.lt_or_ge i l.length with hlt | hge
  · rw [List.getElem?_append_left hlt] at h
    exact Or.inl h
  · rw [List.getElem?_append_right hge] at h
    obtain ⟨hzero, hx⟩ := List.getElem?_eq_some_iff.mp h
    rw [List.length_singleton] at hzero
    exact Or.inr ⟨by omega, hx.symm.trans (List.getElem_singleton _)⟩

theorem getElem?_kept (h : l[i]? = some y) : (l ++ [x])[i]? = some y := by
  obtain ⟨hlt, -⟩ := List.getElem?_eq_some_iff.mp h
  rw [List.getElem?_append_left hlt]
  exact h

/-- Every key has one place. -/
def KeyIndex {κ : Type} (key : α → κ) (l : List α) : Prop :=
  ∀ (i j : Nat) (x y : α), l[i]? = some x → l[j]? = some y → key x = key y → i = j

theorem KeyIndex.append {κ : Type} {key : α → κ} (h : KeyIndex key l)
    (hnew : ∀ (i : Nat) (y : α), l[i]? = some y → key y ≠ key x) : KeyIndex key (l ++ [x]) := by
  intro i j y z hy hz hkey
  rcases getElem?_added hy with hold | ⟨hi, rfl⟩
  · rcases getElem?_added hz with hold' | ⟨-, rfl⟩
    · exact h i j y z hold hold' hkey
    · exact absurd hkey (hnew i y hold)
  · rcases getElem?_added hz with hold' | ⟨hj, -⟩
    · exact absurd hkey.symm (hnew j z hold')
    · rw [hi, hj]

theorem sum_map_modify (g : α → Nat) (f : α → α) (hx : l[i]? = some x) :
    ((l.modify i f).map g).sum + g x = (l.map g).sum + g (f x) := by
  induction l generalizing i with
  | nil => cases hx
  | cons y l ih =>
    cases i with
    | zero =>
      cases hx
      simp only [List.modify_zero_cons, List.map_cons, List.sum_cons]
      omega
    | succ i =>
      have hi := ih hx
      simp only [List.modify_succ_cons, List.map_cons, List.sum_cons]
      omega

theorem sum_map_set (g : α → Nat) (y : α) (hx : l[i]? = some x) :
    ((l.set i y).map g).sum + g x = (l.map g).sum + g y := by
  have hset : l.set i y = l.modify i fun _ => y := by
    apply List.ext_getElem?
    intro j
    rw [List.getElem?_set', List.getElem?_modify]
    by_cases hij : i = j
    · simp only [hij, if_true]
      rfl
    · simp [hij]
  rw [hset]
  exact sum_map_modify g (fun _ => y) hx

theorem getElem?_modify_ite (l : List α) (i j : Nat) (f : α → α) :
    (l.modify i f)[j]? = if i = j then l[j]?.map f else l[j]? := by
  rw [List.getElem?_modify]
  split
  · rfl
  · exact Option.map_id'

theorem getElem?_modify_of (h : l[j]? = some x) (i : Nat) (f : α → α) :
    (l.modify i f)[j]? = some (if i = j then f x else x) := by
  rw [List.getElem?_modify, h]
  rfl

theorem getElem?_modified
    (h : (l.modify i f)[j]? = some y) : ∃ x, l[j]? = some x ∧ y = if i = j then f x else x := by
  rw [List.getElem?_modify] at h
  obtain ⟨x, hx, hy⟩ := Option.map_eq_some_iff.mp h
  exact ⟨x, hx, hy.symm⟩

theorem modify_split (hx : l[i]? = some x) :
    ∃ before after, l = before ++ x :: after ∧ before.length = i
      ∧ ∀ f, l.modify i f = before ++ f x :: after := by
  obtain ⟨hlt, rfl⟩ := List.getElem?_eq_some_iff.mp hx
  refine ⟨l.take i, l.drop (i + 1), ?_, List.length_take_of_le (Nat.le_of_lt hlt), fun f => ?_⟩
  · rw [List.getElem_cons_drop, List.take_append_drop]
  · rw [List.modify_eq_take_cons_drop hlt]

theorem map_filter_modify {β : Type} {g : α → β}
    (hx : l[i]? = some x) (hp : p (f x) = p x) (hg : g (f x) = g x) :
    ((l.modify i f).filter p).map g = (l.filter p).map g := by
  obtain ⟨before, after, hl, -, hmodify⟩ := modify_split hx
  rw [hmodify f, hl, List.filter_append, List.filter_append, List.filter_cons, List.filter_cons, hp]
  cases p x with
  | false => rfl
  | true => simp [hg]

theorem countP_modify_add (p : α → Bool) (f : α → α) (hx : l[i]? = some x) :
    (l.modify i f).countP p + (if p x then 1 else 0) = l.countP p + (if p (f x) then 1 else 0) := by
  induction l generalizing i with
  | nil => cases hx
  | cons y l ih =>
    cases i with
    | zero =>
      cases hx
      simp only [List.modify_zero_cons, List.countP_cons]
      omega
    | succ i =>
      have hi := ih hx
      simp only [List.modify_succ_cons, List.countP_cons]
      omega

end Mosn.Lib
