/-
  Mosn.Lib.Slice
  **SLICES: WINDOWS OVER SHARED BACKING ARRAYS.**

  A slice is a window (offset and length) on an array in a memory.  Two
  windows on one array see each other's writes, and `append` writes IN PLACE
  whenever the array has room.  So `append(s[:i], s[i+1:]...)`, the usual way
  to cut element `i` out of a list, moves the elements of `s` itself:

      s                    a b c d      before
      the result           a c d        cut at 1
      s, read afterwards   a c d d      the same cells, one more of them

    • `read_cut`       — the result lacks element `i`,
    • `read_cut_self`  — the old window lacks it too, and ends with its last
      element TWICE,
    • `read_cut_prefix` — the same for a longer window that begins there,
    • `read_cut_of_ne` — a window on another array sees nothing of it,
    • `valid_cut`      — no window leaves its array.
-/
import Mathlib.Data.List.Basic

namespace Mosn.Lib

/-- An array: the cells written so far, and how many it has room for. -/
structure Backing (α : Type) where
  cells : List α
  cap : Nat
  fits : cells.length ≤ cap

/-- Write `xs` from cell `pos` on. -/
def Backing.write {α : Type} (b : Backing α) (pos : Nat) (xs : List α)
    (h : pos + xs.length ≤ b.cap) : Backing α where
  cells := b.cells.take pos ++ xs ++ b.cells.drop (pos + xs.length)
  cap := b.cap
  fits := by
    have hfits := b.fits
    simp only [List.length_append, List.length_take, List.length_drop]
    omega

/-- The arrays allocated so far.  `grow n` is the room that the run time gives
to an array for `n` elements, when that is more than `n`. -/
structure Memory (α : Type) where
  arrays : List (Backing α)
  grow : Nat → Nat

/-- A window on an array; the nil slice has none. -/
structure Slice where
  array : Option Nat
  off : Nat
  len : Nat
  deriving DecidableEq, Repr

namespace Slice

/-- The nil slice. -/
def empty : Slice := ⟨none, 0, 0⟩

/-- `s[lo:hi]`. -/
def sub (s : Slice) (lo hi : Nat) : Slice := { s with off := s.off + lo, len := hi - lo }

end Slice

namespace Memory

variable {α : Type}

/-- The array under a slice. -/
def backing (m : Memory α) (s : Slice) : Option (Backing α) := s.array.bind (m.arrays[·]?)

/-- The cells of the array under a slice. -/
def cells (m : Memory α) (s : Slice) : List α := (m.backing s).elim [] Backing.cells

/-- The elements of a slice. -/
def read (m : Memory α) (s : Slice) : List α := ((m.cells s).drop s.off).take s.len

/-- A slice that stays within its array. -/
def Valid (m : Memory α) (s : Slice) : Prop := s.off + s.len ≤ (m.cells s).length

/-- A new array with the elements `xs`, and the slice of all of them. -/
def alloc (m : Memory α) (xs : List α) : Memory α × Slice :=
  ({ m with arrays := m.arrays ++ [⟨xs, max xs.length (m.grow xs.length), Nat.le_max_left _ _⟩] },
    ⟨some m.arrays.length, 0, xs.length⟩)

/-- `append(s, xs...)`: in place if the array has room, else in a new array. -/
def append (m : Memory α) (s : Slice) (xs : List α) : Memory α × Slice :=
  match s.array, m.backing s with
  | some a, some b =>
    if h : s.off + s.len + xs.length ≤ b.cap then
      ({ m with arrays := m.arrays.set a (b.write (s.off + s.len) xs h) },
        { s with len := s.len + xs.length })
    else m.alloc (m.read s ++ xs)
  | _, _ => m.alloc (m.read s ++ xs)

/-- `append(s[:i], s[i+1:]...)`. -/
def cut (m : Memory α) (s : Slice) (i : Nat) : Memory α × Slice :=
  m.append (s.sub 0 i) (m.read (s.sub (i + 1) s.len))

/-! ## §1. Reading. -/

theorem valid_empty (m : Memory α) : m.Valid Slice.empty := Nat.le_refl 0

variable {m : Memory α} {s t : Slice} {a i : Nat} {b : Backing α}

theorem length_read (h : m.Valid s) : (m.read s).length = s.len := by
  unfold Valid at h
  unfold read
  simp only [List.length_take, List.length_drop]
  omega

theorem exists_backing (h : m.Valid s) (hlen : 0 < s.len) :
    ∃ a b, s.array = some a ∧ m.arrays[a]? = some b ∧ s.off + s.len ≤ b.cells.length := by
  unfold Valid cells at h
  cases hb : m.backing s with
  | none =>
    rw [hb] at h
    change s.off + s.len ≤ 0 at h
    omega
  | some b =>
    rw [hb] at h
    obtain ⟨a, ha, hab⟩ := Option.bind_eq_some_iff.mp hb
    exact ⟨a, b, ha, hab, h⟩

theorem cells_of_backing
    (ha : s.array = some a) (hb : m.arrays[a]? = some b) : m.cells s = b.cells := by
  unfold cells backing
  rw [ha]
  change (m.arrays[a]?).elim [] Backing.cells = b.cells
  rw [hb]
  rfl

theorem cells_set (ha : a < m.arrays.length) (b : Backing α) (t : Slice) :
    ({ m with arrays := m.arrays.set a b } : Memory α).cells t
      = if t.array = some a then b.cells else m.cells t := by
  unfold cells backing
  obtain ⟨_ | a', off, len⟩ := t
  · rw [if_neg nofun]
    rfl
  · change ((m.arrays.set a b)[a']?).elim [] Backing.cells
      = if some a' = some a then b.cells else (m.arrays[a']?).elim [] Backing.cells
    by_cases hsame : a' = a
    · subst hsame
      rw [if_pos rfl, List.getElem?_set_self ha]
      rfl
    · rw [if_neg (fun h => hsame (Option.some.inj h)), List.getElem?_set_ne (Ne.symm hsame)]

/-! ## §2. New arrays. -/

theorem read_alloc_self (m : Memory α) (xs : List α) : (m.alloc xs).1.read (m.alloc xs).2 = xs := by
  have hb : (m.alloc xs).1.arrays[m.arrays.length]?
      = some ⟨xs, max xs.length (m.grow xs.length), Nat.le_max_left _ _⟩ := by
    change (m.arrays ++ _)[m.arrays.length]? = _
    rw [List.getElem?_append_right (Nat.le_refl _), Nat.sub_self]
    rfl
  unfold read
  rw [cells_of_backing (s := (m.alloc xs).2) rfl hb]
  change (xs.drop 0).take xs.length = xs
  rw [List.drop_zero, List.take_length]

theorem valid_alloc_self (m : Memory α) (xs : List α) : (m.alloc xs).1.Valid (m.alloc xs).2 := by
  have hread := read_alloc_self m xs
  unfold read at hread
  have hlen := congrArg List.length hread
  rw [List.length_take, List.length_drop] at hlen
  change 0 + xs.length ≤ _
  change min xs.length (_ - 0) = xs.length at hlen
  omega

theorem array_alloc_ne (h : m.Valid t) (hlen : 0 < t.len) (xs : List α) :
    t.array ≠ (m.alloc xs).2.array := by
  obtain ⟨a, b, ha, hb, -⟩ := exists_backing h hlen
  have hlt : a < m.arrays.length := (List.getElem?_eq_some_iff.mp hb).1
  rw [ha]
  intro hsame
  cases hsame
  exact Nat.lt_irrefl _ hlt

theorem cells_alloc (h : m.Valid t) (hlen : 0 < t.len) (xs : List α) :
    (m.alloc xs).1.cells t = m.cells t := by
  obtain ⟨a, b, ha, hb, -⟩ := exists_backing h hlen
  have hb' : (m.alloc xs).1.arrays[a]? = some b := by
    change (m.arrays ++ _)[a]? = some b
    rw [List.getElem?_append_left (List.getElem?_eq_some_iff.mp hb).1, hb]
  rw [cells_of_backing ha hb', cells_of_backing ha hb]

theorem valid_alloc (h : m.Valid t) (xs : List α) : (m.alloc xs).1.Valid t := by
  by_cases hlen : 0 < t.len
  · unfold Valid
    rw [cells_alloc h hlen]
    exact h
  · -- an empty window may lie on an array that is not there
    unfold Valid cells at h ⊢
    cases hb : m.backing t with
    | none =>
      rw [hb] at h
      change t.off + t.len ≤ 0 at h
      omega
    | some b =>
      obtain ⟨a, ha, hab⟩ := Option.bind_eq_some_iff.mp hb
      have hnew : (m.alloc xs).1.backing t = some b := by
        unfold backing
        rw [ha]
        change (m.arrays ++ _)[a]? = some b
        rw [List.getElem?_append_left (List.getElem?_eq_some_iff.mp hab).1, hab]
      rw [hnew]
      rwa [hb] at h

theorem read_of_len_eq_zero (m : Memory α) (hlen : t.len = 0) : m.read t = [] := by
  unfold read
  rw [hlen, List.take_zero]

theorem read_alloc (h : m.Valid t) (xs : List α) : (m.alloc xs).1.read t = m.read t := by
  by_cases hlen : 0 < t.len
  · unfold read
    rw [cells_alloc h hlen]
  · rw [read_of_len_eq_zero _ (Nat.eq_zero_of_not_pos hlen),
      read_of_len_eq_zero _ (Nat.eq_zero_of_not_pos hlen)]

/-! ## §3. Cutting one element out. -/

/-- The memory and the slice that a cut leaves: the elements behind the cut
are written one cell further to the front. -/
theorem cut_eq (hi : i < s.len)
    (ha : s.array = some a) (hb : m.arrays[a]? = some b) (hin : s.off + s.len ≤ b.cells.length) :
    ∃ b' : Backing α, m.cut s i = ({ m with arrays := m.arrays.set a b' },
        { s with len := s.len - 1 })
      ∧ b'.cells = b.cells.take (s.off + i)
          ++ (b.cells.drop (s.off + (i + 1))).take (s.len - (i + 1))
          ++ b.cells.drop (s.off + (s.len - 1)) := by
  have hrest : m.read (s.sub (i + 1) s.len)
      = (b.cells.drop (s.off + (i + 1))).take (s.len - (i + 1)) := by
    unfold read
    rw [cells_of_backing (s := s.sub (i + 1) s.len) ha hb]
    rfl
  have hlen : (m.read (s.sub (i + 1) s.len)).length = s.len - (i + 1) := by
    rw [hrest, List.length_take, List.length_drop]
    omega
  have hroom : s.off + 0 + (i - 0) + (m.read (s.sub (i + 1) s.len)).length ≤ b.cap := by
    have hfits := b.fits
    omega
  refine ⟨b.write (s.off + 0 + (i - 0)) _ hroom, ?_, ?_⟩
  · unfold cut append
    have hback : m.backing (s.sub 0 i) = some b := by
      unfold backing
      change s.array.bind _ = some b
      rw [ha]
      exact hb
    have harr : (s.sub 0 i).array = some a := ha
    rw [hback, harr]
    change (if h : s.off + 0 + (i - 0) + (m.read (s.sub (i + 1) s.len)).length ≤ b.cap then _
      else _) = _
    rw [dif_pos hroom]
    refine Prod.ext rfl ?_
    change Slice.mk (some a) (s.off + 0) (i - 0 + (m.read (s.sub (i + 1) s.len)).length)
      = Slice.mk s.array s.off (s.len - 1)
    rw [hlen, ha]
    congr 1
    omega
  · change b.cells.take (s.off + 0 + (i - 0)) ++ m.read (s.sub (i + 1) s.len)
      ++ b.cells.drop (s.off + 0 + (i - 0) + (m.read (s.sub (i + 1) s.len)).length) = _
    rw [hlen, hrest]
    congr 2
    omega

theorem cut_snd (h : m.Valid s) (hi : i < s.len) : (m.cut s i).2 = { s with len := s.len - 1 } := by
  obtain ⟨a, b, ha, hb, hin⟩ := exists_backing h (Nat.lt_of_le_of_lt (Nat.zero_le i) hi)
  obtain ⟨b', hcut, -⟩ := cut_eq hi ha hb hin
  rw [hcut]

theorem cells_cut (h : m.Valid s) (hi : i < s.len) (t : Slice) :
    (m.cut s i).1.cells t
      = if t.array = s.array then (m.cells s).take (s.off + i)
          ++ ((m.cells s).drop (s.off + (i + 1))).take (s.len - (i + 1))
          ++ (m.cells s).drop (s.off + (s.len - 1))
        else m.cells t := by
  obtain ⟨a, b, ha, hb, hin⟩ := exists_backing h (Nat.lt_of_le_of_lt (Nat.zero_le i) hi)
  obtain ⟨b', hcut, hcells⟩ := cut_eq hi ha hb hin
  rw [hcut, cells_set (List.getElem?_eq_some_iff.mp hb).1, hcells, ha, cells_of_backing ha hb]

theorem getElem?_cells_cut (h : m.Valid s) (hi : i < s.len) (ht : t.array = s.array) (k : Nat) :
    ((m.cut s i).1.cells t)[s.off + k]?
      = if i ≤ k ∧ k < s.len - 1 then (m.cells s)[s.off + (k + 1)]?
        else (m.cells s)[s.off + k]? := by
  rw [cells_cut h hi, if_pos ht]
  unfold Valid at h
  have htake : ((m.cells s).take (s.off + i)).length = s.off + i := by
    rw [List.length_take]
    omega
  have hmove : (((m.cells s).drop (s.off + (i + 1))).take (s.len - (i + 1))).length
      = s.len - (i + 1) := by
    rw [List.length_take, List.length_drop]
    omega
  by_cases hbefore : k < i
  · rw [if_neg (by omega), List.append_assoc, List.getElem?_append_left (by omega),
      List.getElem?_take_of_lt (by omega)]
  · by_cases hend : k < s.len - 1
    · rw [if_pos (by omega), List.getElem?_append_left (by rw [List.length_append]; omega),
        List.getElem?_append_right (by omega), List.getElem?_take_of_lt (by omega),
        List.getElem?_drop]
      congr 1
      omega
    · rw [if_neg (by omega), List.getElem?_append_right (by rw [List.length_append]; omega),
        List.length_append, List.getElem?_drop]
      congr 1
      omega

theorem getElem?_read (m : Memory α) (s : Slice) (k : Nat) :
    (m.read s)[k]? = if k < s.len then (m.cells s)[s.off + k]? else none := by
  unfold read
  rw [List.getElem?_take, List.getElem?_drop]

/-- **A longer window after a cut**: behind what is left of the cut window
come its last element again and the elements behind it. -/
theorem read_cut_prefix {n : Nat} (h : m.Valid s) (hi : i < s.len) (hn : s.len ≤ n) :
    (m.cut s i).1.read { s with len := n }
      = (m.read s).eraseIdx i ++ (m.read { s with len := n }).drop (s.len - 1) := by
  have hlen : (m.read s).length = s.len := length_read h
  have herase : ((m.read s).eraseIdx i).length = s.len - 1 := by
    rw [List.length_eraseIdx_of_lt (by omega), hlen]
  apply List.ext_getElem?
  intro k
  rw [getElem?_read]
  change (if k < n then ((m.cut s i).1.cells { s with len := n })[s.off + k]? else none) = _
  rw [getElem?_cells_cut (t := { s with len := n }) h hi rfl]
  by_cases hend : k < s.len - 1
  · rw [List.getElem?_append_left (by omega), List.getElem?_eraseIdx, getElem?_read,
      getElem?_read, if_pos (show k < n by omega), if_pos (show k + 1 < s.len by omega)]
    by_cases hbefore : k < i
    · rw [if_neg (show ¬ (i ≤ k ∧ k < s.len - 1) by omega), if_pos hbefore,
        if_pos (show k < s.len by omega)]
    · rw [if_pos (show i ≤ k ∧ k < s.len - 1 by omega), if_neg hbefore]
  · rw [List.getElem?_append_right (by omega), herase, List.getElem?_drop,
      show s.len - 1 + (k - (s.len - 1)) = k by omega, getElem?_read,
      if_neg (show ¬ (i ≤ k ∧ k < s.len - 1) by omega)]
    rfl

/-- **The old window after a cut** has the same elements, the last one twice. -/
theorem read_cut_self (h : m.Valid s) (hi : i < s.len) :
    (m.cut s i).1.read s = (m.read s).eraseIdx i ++ (m.read s).drop (s.len - 1) :=
  read_cut_prefix h hi (Nat.le_refl s.len)

/-- **The result of a cut** lacks the element that was cut out. -/
theorem read_cut (h : m.Valid s) (hi : i < s.len) :
    (m.cut s i).1.read (m.cut s i).2 = (m.read s).eraseIdx i := by
  have hlen : (m.read s).length = s.len := length_read h
  have hfront := congrArg (List.take (s.len - 1)) (read_cut_self h hi)
  rw [List.take_left' (by rw [List.length_eraseIdx_of_lt (by omega), hlen])] at hfront
  rw [cut_snd h hi, ← hfront]
  unfold read
  rw [List.take_take, Nat.min_eq_left (Nat.sub_le _ _)]
  rfl

theorem mem_eraseIdx_of_mem_drop {l : List α} (hi : i < l.length - 1) {x : α}
    (hx : x ∈ l.drop (l.length - 1)) : x ∈ l.eraseIdx i := by
  obtain ⟨k, hk⟩ := List.mem_iff_getElem?.mp hx
  rw [List.getElem?_drop] at hk
  rw [List.mem_eraseIdx_iff_getElem?]
  exact ⟨_, by omega, hk⟩

theorem valid_cut (h : m.Valid s) (hi : i < s.len) (ht : m.Valid t) : (m.cut s i).1.Valid t := by
  unfold Valid at h ht ⊢
  rw [cells_cut h hi]
  by_cases hsame : t.array = s.array
  · have hcells : m.cells t = m.cells s := by
      unfold cells backing
      rw [hsame]
    rw [hcells] at ht
    rw [if_pos hsame]
    simp only [List.length_append, List.length_take, List.length_drop]
    omega
  · rwa [if_neg hsame]

theorem len_cut_lt (hi : i < s.len) : (m.cut s i).2.len < s.len := by
  have hread : ∀ t : Slice, (m.read t).length ≤ t.len := fun t => List.length_take_le _ _
  have hfront : (m.read (s.sub 0 i)).length ≤ i := hread _
  have hback : (m.read (s.sub (i + 1) s.len)).length ≤ s.len - (i + 1) := hread _
  have halloc : ∀ xs : List α, (m.alloc xs).2.len = xs.length := fun _ => rfl
  unfold cut append
  split
  · split
    · change i + _ < s.len
      omega
    · rw [halloc, List.length_append]
      omega
  · rw [halloc, List.length_append]
    omega

/-- **A window on another array** reads what it read before the cut. -/
theorem read_cut_of_ne (h : m.Valid s) (hi : i < s.len)
    (ht : t.array ≠ s.array) : (m.cut s i).1.read t = m.read t := by
  unfold read
  rw [cells_cut h hi, if_neg ht]

theorem valid_cut_self (h : m.Valid s) (hi : i < s.len) : (m.cut s i).1.Valid (m.cut s i).2 := by
  have hself := valid_cut h hi h
  rw [cut_snd h hi]
  unfold Valid at hself ⊢
  change s.off + (s.len - 1) ≤ ((m.cut s i).1.cells s).length
  omega

end Memory

end Mosn.Lib
