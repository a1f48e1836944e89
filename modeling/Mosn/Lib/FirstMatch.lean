/-
  Mosn.Lib.FirstMatch
  **THE FIRST MATCH IN A LIST.**

  A search from the front is a specification by POSITION.  Two facts turn it
  into one by CONTENT:

    • `findIdx?_eq_findIdx?_iff` — two tests select the same element exactly if
      they agree up to and including the first match,
    • `findSome?_eq_some_iff_of_descending` — in a list that is sorted from the
      greatest down, the first match is the greatest one,
    • `preferred_iff` — taking the first element that passes ANY of several
      tests respects the order of the tests exactly if no element in front of
      the first one with the best test passes another.
-/
import Mathlib.Order.Defs.PartialOrder
import Mathlib.Data.List.Basic

namespace Mosn.Lib

theorem findIdx?_cons_eq_iff {α : Type} (p q : α → Bool) (a : α) (l : List α) :
    (a :: l).findIdx? p = (a :: l).findIdx? q ↔
      p a = q a ∧ (p a = false → l.findIdx? p = l.findIdx? q) := by
  have hsucc : Function.Injective fun i : Nat => i + 1 := by
    intro i j h
    exact Nat.succ.inj h
  have hzero : ∀ o : Option Nat, o.map (fun i => i + 1) ≠ some 0 := by
    intro o h
    obtain ⟨i, _, hi⟩ := Option.map_eq_some_iff.mp h
    omega
  rw [List.findIdx?_cons, List.findIdx?_cons]
  cases p a <;> cases q a
  · simpa using (Option.map_injective hsucc).eq_iff
  · simp
  · constructor
    · intro h
      exact absurd h.symm (hzero _)
    · intro h
      cases h.1
  · simp

theorem findIdx?_eq_findIdx?_iff {α : Type} (p q : α → Bool) (l : List α) :
    l.findIdx? p = l.findIdx? q ↔
      ∀ earlier x later, l = earlier ++ x :: later → (∀ y ∈ earlier, p y = false) → p x = q x := by
  induction l with
  | nil => simp
  | cons a l ih =>
    rw [findIdx?_cons_eq_iff]
    constructor
    · intro ⟨hhead, hrest⟩ earlier x later hl hearlier
      cases earlier with
      | nil =>
        obtain ⟨rfl, rfl⟩ := List.cons.inj hl
        exact hhead
      | cons b earlier =>
        -- neither predicate holds of the head, so the searches go on together
        obtain ⟨rfl, htail⟩ := List.cons.inj hl
        apply ih.mp (hrest (hearlier a List.mem_cons_self)) earlier x later htail
        intro y hy
        exact hearlier y (List.mem_cons_of_mem _ hy)
    · intro h
      refine ⟨h [] a l rfl (by simp), ?_⟩
      intro hpa
      apply ih.mpr
      intro earlier x later hl hearlier
      apply h (a :: earlier) x later (by rw [hl]; rfl)
      intro y hy
      rcases List.mem_cons.mp hy with rfl | hy
      · exact hpa
      · exact hearlier y hy

theorem findSome?_eq_some_iff_of_descending {α β : Type} [Preorder α] (f : α → Option β)
    {l : List α} (hl : l.Pairwise fun a b => b < a) {b : β} :
    l.findSome? f = some b ↔ ∃ n ∈ l, f n = some b ∧ ∀ m ∈ l, (f m).isSome → m ≤ n := by
  rw [List.findSome?_eq_some_iff]
  constructor
  · intro ⟨above, n, below, hsplit, hn, habove⟩
    subst hsplit
    refine ⟨n, by simp, hn, ?_⟩
    intro m hm hsome
    rcases List.mem_append.mp hm with hm | hm
    · rw [habove m hm] at hsome
      cases hsome
    · rcases List.mem_cons.mp hm with rfl | hm
      · exact le_refl m
      · exact le_of_lt ((List.pairwise_cons.mp (List.pairwise_append.mp hl).2.1).1 m hm)
  · intro ⟨n, hmem, hn, hgreatest⟩
    obtain ⟨above, below, rfl⟩ := List.append_of_mem hmem
    refine ⟨above, n, below, rfl, hn, ?_⟩
    intro m hm
    apply Option.not_isSome_iff_eq_none.mp
    intro hsome
    have hle : m ≤ n := hgreatest m (List.mem_append_left _ hm) hsome
    have hlt : n < m := (List.pairwise_append.mp hl).2.2 m hm n List.mem_cons_self
    exact lt_irrefl n (lt_of_lt_of_le hlt hle)

/-! ## Tests in an order of preference. -/

section Tiers

variable {α : Type}

/-- `a` passes the first of the tests that any element of `all` passes; if no
element passes any, it is the first one. -/
def Preferred (all : List α) : List (α → Bool) → α → Prop
  | [], a => all.head? = some a
  | tier :: tiers, a => if all.any tier then tier a = true else Preferred all tiers a

instance decidablePreferred [DecidableEq α] (all : List α) :
    (tiers : List (α → Bool)) → (a : α) → Decidable (Preferred all tiers a)
  | [], a => inferInstanceAs (Decidable (all.head? = some a))
  | tier :: tiers, a =>
    have := decidablePreferred all tiers a
    inferInstanceAs (Decidable (if all.any tier then tier a = true else Preferred all tiers a))

/-- No element with a hit stands in front of the first one that passes the best
test; if no element passes any, there is no hit, or the first one has it. -/
def Unobscured (hit : α → Bool) (all : List α) : List (α → Bool) → Prop
  | [] => ∀ first ∈ all.head?, hit first = false → ∀ y ∈ all, hit y = false
  | tier :: tiers =>
    if all.any tier then
      ∀ earlier x later, all = earlier ++ x :: later → tier x = true →
        (∀ y ∈ earlier, tier y = false) → ∀ y ∈ earlier, hit y = false
    else Unobscured hit all tiers

variable {hit : α → Bool} {all : List α} {a : α}

theorem head?_eq_some_iff_of_choice (ha : (all.find? hit).or all.head? = some a) :
    all.head? = some a ↔ ∀ first ∈ all.head?, hit first = false → ∀ y ∈ all, hit y = false := by
  constructor
  · intro hhead first hfirst hmiss
    rw [hhead] at hfirst
    cases hfirst
    cases hfind : all.find? hit with
    | none =>
      intro y hy
      exact Bool.eq_false_iff.mpr (List.find?_eq_none.mp hfind y hy)
    | some b =>
      rw [hfind] at ha
      cases ha
      rw [List.find?_some hfind] at hmiss
      cases hmiss
  · intro hall
    cases all with
    | nil => cases ha
    | cons first rest =>
      by_cases hfirst : hit first = true
      · rw [List.find?_cons_of_pos hfirst] at ha
        exact ha
      · have hnone : (first :: rest).find? hit = none := by
          rw [List.find?_eq_none]
          intro y hy
          exact Bool.eq_false_iff.mp (hall first rfl (Bool.eq_false_iff.mpr hfirst) y hy)
        rwa [hnone] at ha

theorem tier_iff_of_choice {tier : α → Bool} (htier : ∀ x, tier x = true → hit x = true)
    (hany : all.any tier = true) (ha : (all.find? hit).or all.head? = some a) :
    tier a = true ↔ ∀ earlier x later, all = earlier ++ x :: later → tier x = true →
      (∀ y ∈ earlier, tier y = false) → ∀ y ∈ earlier, hit y = false := by
  constructor
  · rintro hta earlier x later rfl htx hearlier y hy
    by_contra hhit
    -- then the choice is made in front of `x`, where the test fails
    have hsome : (earlier.find? hit).isSome = true := by
      rw [List.find?_isSome]
      exact ⟨y, hy, Bool.of_not_eq_false hhit⟩
    obtain ⟨b, hb⟩ := Option.isSome_iff_exists.mp hsome
    rw [List.find?_append, hb] at ha
    cases ha
    rw [hearlier a (List.mem_of_find?_eq_some hb)] at hta
    cases hta
  · intro hall
    obtain ⟨z, hz, htz⟩ := List.any_eq_true.mp hany
    have hsome : (all.find? tier).isSome = true := by
      rw [List.find?_isSome]
      exact ⟨z, hz, htz⟩
    obtain ⟨x, hx⟩ := Option.isSome_iff_exists.mp hsome
    obtain ⟨htx, earlier, later, rfl, hearlier⟩ := List.find?_eq_some_iff_append.mp hx
    have hmiss := hall earlier x later rfl htx fun y hy => by simpa using hearlier y hy
    have hnone : earlier.find? hit = none := by
      rw [List.find?_eq_none]
      intro y hy
      exact Bool.eq_false_iff.mp (hmiss y hy)
    rw [List.find?_append, hnone, List.find?_cons_of_pos (htier x htx)] at ha
    cases ha
    exact htx

/-- **The first hit against the order of the tests.** -/
theorem preferred_iff (tiers : List (α → Bool))
    (htiers : ∀ tier ∈ tiers, ∀ x, tier x = true → hit x = true)
    (ha : (all.find? hit).or all.head? = some a) :
    Preferred all tiers a ↔ Unobscured hit all tiers := by
  induction tiers with
  | nil => exact head?_eq_some_iff_of_choice ha
  | cons tier tiers ih =>
    unfold Preferred Unobscured
    by_cases hany : all.any tier = true
    · rw [if_pos hany, if_pos hany]
      exact tier_iff_of_choice (htiers tier List.mem_cons_self) hany ha
    · rw [if_neg hany, if_neg hany]
      exact ih fun t ht => htiers t (List.mem_cons_of_mem tier ht)

end Tiers

end Mosn.Lib
